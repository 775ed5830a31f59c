import NrfExamples.Uart.AdapterRuns

namespace NrfExamples
namespace Uart

/-!
# Invariants of reception

Most of what the adapter does while it transmits, and the passing of time, has
nothing to do with the receive half.  `LeavesReception` says so for a section,
and `ReceptionInvariant` needs one proof for all of these sections together.
-/

variable {App : Type}

def ApiCall.isTransmit : ApiCall -> Bool
  | .tx _ _ _ | .txAbort => true
  | _ => false

/-- Entries of the log, other than events, that are about transmission. -/
def Obs.isTransmit : Obs -> Bool
  | .called call | .returned call _ _ => call.isTransmit
  | .pushed _ _ => true
  | .assertFailed what => !what.isReceive
  | _ => false

/-- Events that are not about receive buffers. -/
def UartEvent.isAside : UartEvent -> Bool
  | .txDone _ _ | .txAborted _ _ | .rxStopped _ => true
  | _ => false

/-- Each entry of a log, together with what came before it. -/
def EachEntry (holds : Obs -> List Obs -> Prop) : List Obs -> Prop
  | [] => True
  | obs :: log => holds obs log ∧ EachEntry holds log

theorem EachEntry.head {holds : Obs -> List Obs -> Prop} {log : List Obs} {newest : Obs}
    (each : EachEntry holds log) (here : log.head? = some newest) : holds newest log.tail := by
  cases log with
  | nil => cases here
  | cons obs earlier =>
      cases here
      exact each.1

theorem EachEntry.mono {holds weaker : Obs -> List Obs -> Prop} {log : List Obs}
    (each : EachEntry holds log)
    (implies : forall obs earlier, holds obs earlier -> weaker obs earlier) :
    EachEntry weaker log := by
  induction log with
  | nil => trivial
  | cons obs earlier inductionHypothesis =>
      exact ⟨implies obs earlier each.1, inductionHypothesis each.2⟩

/-- The receive half is as before, except for its timer. -/
structure LeavesReception (world later : World App) : Prop where
  rx : exists timer, later.adapter.rx = { world.adapter.rx with timeoutTimer := timer }
  memory : later.memory = world.memory
  log : exists added, (forall obs, obs ∈ added -> obs.isTransmit = true) ∧
    later.log = added ++ world.log

namespace LeavesReception

variable {world later last : World App}

theorem of_eq (rx : later.adapter.rx = world.adapter.rx) (memory : later.memory = world.memory)
    (log : later.log = world.log) : LeavesReception world later :=
  ⟨⟨_, rx⟩, memory, [], by simp, log⟩

theorem trans (first : LeavesReception world later) (second : LeavesReception later last) :
    LeavesReception world last := by
  rcases first.rx with ⟨timer, firstRx⟩
  rcases second.rx with ⟨other, secondRx⟩
  rcases first.log with ⟨added, transmit, firstLog⟩
  rcases second.log with ⟨more, also, secondLog⟩
  refine ⟨⟨other, by rw [secondRx, firstRx]⟩, second.memory.trans first.memory, more ++ added, ?_, ?_⟩
  · intro obs member
    rcases List.mem_append.mp member with new | old
    · exact also obs new
    · exact transmit obs old
  · rw [secondLog, firstLog, List.append_assoc]

theorem observe (world : World App) {obs : Obs} (transmit : obs.isTransmit = true) :
    LeavesReception world (world.observe obs) :=
  ⟨⟨_, rfl⟩, rfl, [obs], by simp [transmit], rfl⟩

theorem assertNoMsg (world : World App) {what : Assertion} (transmit : what.isReceive = false)
    (holds : Bool) : LeavesReception world (world.assertNoMsg what holds) := by
  cases holds with
  | true => exact of_eq rfl rfl rfl
  | false => exact observe world (by simp [Obs.isTransmit, transmit])

/-- What does not look at the entries about transmission reads the same log. -/
theorem read {A : Type} (same : LeavesReception world later) (read : List Obs -> A)
    (ignores : forall obs log, obs.isTransmit = true -> read (obs :: log) = read log) :
    read later.log = read world.log := by
  rcases same.log with ⟨added, transmit, log⟩
  rw [log]
  clear log
  induction added with
  | nil => rfl
  | cons obs added inductionHypothesis =>
      rw [List.cons_append, ignores _ _ (transmit obs List.mem_cons_self)]
      exact inductionHypothesis fun other member => transmit other (List.mem_cons_of_mem _ member)

/-- Entries about transmission do not break a rule that ignores them. -/
theorem eachEntry {holds : Obs -> List Obs -> Prop} (same : LeavesReception world later)
    (ignores : forall obs log, obs.isTransmit = true -> holds obs log) :
    EachEntry holds later.log = EachEntry holds world.log := by
  refine same.read (EachEntry holds) fun obs log transmit => propext ?_
  exact and_iff_right (ignores obs log transmit)

/-! ### The sections of transmission -/

theorem tx (world : World App) (buf : Pointer) (len : Nat) (timeout : Int) :
    LeavesReception world
      (world.directCall (.tx buf len timeout) (World.tx buf len timeout)) := by
  rcases world.directCall_tx_cases buf len timeout with ⟨ret, _, same⟩ | ⟨_, _, same⟩
  · rw [same]
    exact (observe world rfl).trans (observe _ rfl)
  · rw [same]
    exact ⟨⟨_, rfl⟩, rfl, [.returned _ 0 _, .called _], by simp [Obs.isTransmit, ApiCall.isTransmit],
      rfl⟩

theorem txAbort (world : World App) : LeavesReception world world.txAbort.2 := by
  cases buf : world.adapter.tx.buf with
  | none =>
      rw [World.txAbort_of_idle buf]
      exact of_eq rfl rfl rfl
  | some address =>
      rw [World.txAbort_of_busy (by simp [buf])]
      exact of_eq rfl rfl rfl

theorem onTxReady (world : World App) (ret : Int) :
    LeavesReception world
      ((world.assertNoMsg .txCurrBufSet world.adapter.tx.currBuf.isSome).onTxReady ret) := by
  have checked : LeavesReception world
      (world.assertNoMsg .txCurrBufSet world.adapter.tx.currBuf.isSome) := assertNoMsg world rfl _
  apply checked.trans
  unfold World.onTxReady
  split
  · exact of_eq rfl rfl rfl
  · exact (observe _ rfl).trans (of_eq rfl rfl rfl)

theorem onTxComplete (world : World App) : LeavesReception world world.onTxComplete.2 := by
  by_cases finished : world.adapter.tx.sizeLeft = 0
  · cases buf : world.adapter.tx.buf with
    | none =>
        rw [World.onTxComplete_of_idle finished buf]
        exact of_eq rfl rfl rfl
    | some address =>
        have checked : LeavesReception world world.completeChecks :=
          (assertNoMsg world rfl _).trans (assertNoMsg _ rfl _)
        rw [World.onTxComplete_of_busy finished (by simp [buf])]
        exact checked.trans (of_eq rfl rfl rfl)
  · rw [World.onTxComplete_of_unfinished finished]
    exact of_eq rfl rfl rfl

end LeavesReception

/-- An invariant of reception, with one field for each section that is not
covered by `LeavesReception`. -/
structure ReceptionInvariant (policy : Policy App) (Ctx : Type) where
  Inv : Ctx -> World App -> Prop
  idle : Ctx
  inLoop : Ctx
  inCallback : Ctx -> Ctx
  inDisable : Ctx -> Ctx
  flushed : Ctx -> Ctx
  left : forall ctx world later, Inv ctx world -> LeavesReception world later -> Inv ctx later
  aside : forall ctx world evt, Inv ctx world -> evt.isAside = true ->
    Inv (inCallback ctx) (world.observe (.event evt))
  leave : forall ctx world evt, Inv (inCallback ctx) world -> policy.leave world evt ->
    Inv ctx (world.observe .callbackReturned)
  rxEnable : forall ctx world buf len timeout, Callable idle inCallback ctx -> Inv ctx world ->
    policy.call world (.rxEnable buf len timeout) ->
    Inv ctx (world.directCall (.rxEnable buf len timeout) (World.rxEnable buf len timeout))
  rxBufRsp : forall ctx world buf len, Callable idle inCallback ctx -> Inv ctx world ->
    policy.call world (.rxBufRsp buf len) ->
    Inv ctx (world.directCall (.rxBufRsp buf len) (World.rxBufRsp buf len))
  rxDisableBegin : forall ctx world, Inv ctx world -> policy.call world .rxDisable ->
    Inv (inDisable ctx) ((world.observe (.called .rxDisable)).rxDisable .adapter)
  rxDisableSwitch : forall ctx world, Inv (inDisable ctx) world -> world.adapter.rx.buf.isSome ->
    Inv (inCallback (inDisable ctx)) ((world.switchRxBuffer .adapter).2.observe
      (.event (.rxBufReleased world.adapter.rx.buf)))
  rxDisabled : forall ctx world, Inv (inDisable ctx) world -> world.adapter.rx.buf = none ->
    Inv (inCallback ctx) (world.observe (.event .rxDisabled))
  rxDisableReturned : forall ctx world ret time, Inv ctx world ->
    Inv ctx (world.observe (.returned .rxDisable ret time))
  notified : forall ctx world, Inv ctx world -> world.unnotified = true ->
    Inv (inCallback (flushed ctx)) ((world.notifyChecks.setRx
      { world.adapter.rx with lastNotifyBuf := world.adapter.rx.currBuf }).observe
        (.event (.rxRdy world.adapter.rx.buf
          (world.adapter.rx.lastNotifyBuf.diff world.adapter.rx.buf)
          (world.adapter.rx.currBuf.diff world.adapter.rx.lastNotifyBuf))))
  notifiedNone : forall ctx world, Inv ctx world -> world.unnotified = false ->
    Inv (flushed ctx) world.notifyChecks
  unflushed : forall ctx world, Inv (flushed ctx) world -> Inv ctx world
  onRxReadyBegin : forall world, Inv idle world -> world.adapter.rx.enabled = true ->
    Inv inLoop (world.observe (.rxLoop true))
  switched : forall world, Inv (flushed inLoop) world -> world.adapter.rx.buf.isSome ->
    Inv (inCallback (flushed inLoop)) ((world.switchRxBuffer .adapter).2.observe
      (.event (.rxBufReleased world.adapter.rx.buf)))
  switchedNone : forall world, Inv (flushed inLoop) world -> world.adapter.rx.buf = none ->
    Inv (flushed inLoop) (world.switchRxBuffer .adapter).2
  requested : forall world, Inv (flushed inLoop) world ->
    Inv (inCallback (flushed inLoop)) (world.observe (.event .rxBufRequest))
  stored : forall world bytes, Inv inLoop world -> world.adapter.rx.sizeLeft ≠ 0 ->
    bytes.length ≤ world.adapter.rx.sizeLeft -> Inv inLoop (world.onRxReadyStore bytes)
  dropped : forall world bytes, Inv inLoop world -> world.adapter.rx.sizeLeft = 0 ->
    Inv inLoop (world.observe (.dropped bytes))
  onRxReadyEnd : forall world, Inv inLoop world -> Inv idle (world.observe (.rxLoop false))
  Always : World App -> Prop := fun _ => True
  always : forall ctx world, Inv ctx world -> Always world := by intros; trivial
  called : forall world call, Always world -> Always (world.observe (.called call)) := by
    intros; trivial
  checked : forall world holds, Always world -> Always (world.assertNoMsg .txCurrBufSet holds) := by
    intros; trivial
  forget : forall world obs, obs.isReport = true -> Always (world.observe obs) ->
    Always world := by intros; trivial

namespace ReceptionInvariant

variable {policy : Policy App} {Ctx : Type}

/-- The sections of transmission and the passing of time keep it as well. -/
def toCallback (rule : ReceptionInvariant policy Ctx) : CallbackInvariant policy Ctx where
  Inv := rule.Inv
  idle := rule.idle
  inLoop := rule.inLoop
  inCallback := rule.inCallback
  inDisable := rule.inDisable
  flushed := rule.flushed
  tx := fun ctx world buf len timeout holds _ =>
    rule.left ctx world _ holds (.tx world buf len timeout)
  rxEnable := rule.rxEnable
  rxBufRsp := rule.rxBufRsp
  txAbortCalled := fun ctx world holds _ => rule.left ctx world _ holds (.observe world rfl)
  txAbortNone := fun ctx world holds _ => rule.left ctx world _ holds (.txAbort world)
  txAborted := fun ctx world evt holds made => by
    have aborted := rule.left ctx world _ holds (.txAbort world)
    apply rule.aside ctx _ evt aborted
    cases buf : world.adapter.tx.buf with
    | none =>
        rw [World.txAbort_of_idle buf] at made
        cases made
    | some address =>
        rw [World.txAbort_of_busy (by simp [buf])] at made
        cases made
        rfl
  returned := fun ctx world call ret time holds which => by
    rcases which with rfl | rfl
    · exact rule.left ctx world _ holds (.observe world rfl)
    · exact rule.rxDisableReturned ctx world ret time holds
  leave := rule.leave
  rxDisableBegin := rule.rxDisableBegin
  rxDisableSwitch := rule.rxDisableSwitch
  rxDisabled := rule.rxDisabled
  notified := fun ctx world evt holds made => by
    have pending := World.notifyRxBuffer_evt made
    rw [World.notifyRxBuffer_of_unnotified pending] at made ⊢
    cases made
    exact rule.notified ctx world holds pending
  notifiedNone := fun ctx world holds made => by
    have nothing := World.notifyRxBuffer_none made
    rw [World.notifyRxBuffer_of_notified nothing]
    exact rule.notifiedNone ctx world holds nothing
  unflushed := rule.unflushed
  onRxReadyBegin := fun world holds enabled => by
    rcases world.onRxReadyBegin_eq with ⟨timer, same⟩
    rw [same]
    refine rule.onRxReadyBegin _ ?_ enabled
    exact rule.left _ world _ holds ⟨⟨timer, rfl⟩, rfl, [], by simp, rfl⟩
  switched := rule.switched
  switchedNone := rule.switchedNone
  requested := rule.requested
  stored := rule.stored
  dropped := rule.dropped
  onRxReadyEnd := rule.onRxReadyEnd
  txReady := fun world ret holds _ _ => rule.left _ world _ holds (.onTxReady world ret)
  txCompleted := fun world evt holds made => by
    have completed := rule.left _ world _ holds (.onTxComplete world)
    apply rule.aside _ _ evt completed
    by_cases finished : world.adapter.tx.sizeLeft = 0
    · cases buf : world.adapter.tx.buf with
      | none =>
          rw [World.onTxComplete_of_idle finished buf] at made
          cases made
      | some address =>
          rw [World.onTxComplete_of_busy finished (by simp [buf])] at made
          cases made
          rfl
    · rw [World.onTxComplete_of_unfinished finished] at made
      cases made
  txCompletedNone := fun world holds _ => rule.left _ world _ holds (.onTxComplete world)
  stopped := fun world reason holds => rule.aside _ world (.rxStopped reason) holds rfl
  targetData := fun world _ holds => rule.left _ world _ holds (.of_eq rfl rfl rfl)
  foreignEvent := fun world _ holds => rule.left _ world _ holds (.of_eq rfl rfl rfl)
  txTimer := fun world holds _ => rule.left _ world _ holds (.of_eq rfl rfl rfl)
  rxTimer := fun world holds _ =>
    rule.left _ world _ holds ⟨⟨none, rfl⟩, rfl, [], by simp, rfl⟩
  elapsed := fun world _ holds => rule.left _ world _ holds (.of_eq rfl rfl rfl)
  Always := rule.Always
  always := rule.always
  called := rule.called
  checked := rule.checked
  forget := rule.forget

end ReceptionInvariant

end Uart
end NrfExamples
