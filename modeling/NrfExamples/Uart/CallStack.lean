import NrfExamples.Uart.ReceptionRuns

namespace NrfExamples
namespace Uart

/-!
# What is running, read from the log

Calls and events enclose one another, so the log determines which functions of
the adapter are waiting for the client at any moment.  A condition on the
client can then say where it is about to return to.
-/

variable {App : Type}

/-- A function that has not finished: the loop of `on_rx_ready`, `rx_disable`
before its last event, or a callback of the client. -/
inductive Frame
  | rxLoop
  | rxDisable
  | callback
  deriving DecidableEq, Repr

/-- What is running, innermost first. -/
def stack : List Obs -> List Frame
  | [] => []
  | .called .rxDisable :: log => .rxDisable :: stack log
  | .event .rxDisabled :: log => .callback :: (stack log).tail
  | .event _ :: log => .callback :: stack log
  | .callbackReturned :: log => (stack log).tail
  | .rxLoop true :: log => .rxLoop :: stack log
  | .rxLoop false :: log => (stack log).tail
  | _ :: log => stack log

/-- What the client would return to. -/
def caller (world : World App) : Option Frame :=
  (stack world.log).tail.head?

theorem LeavesReception.stack {world later : World App} (same : LeavesReception world later) :
    stack later.log = stack world.log := by
  apply same.read Uart.stack
  intro obs log transmit
  cases obs with
  | event evt => cases transmit
  | callbackReturned => cases transmit
  | rxLoop running => cases transmit
  | called call =>
      cases call with
      | rxDisable => cases transmit
      | _ => rfl
  | _ => rfl

/-- Outside the adapter and in a callback, `rx_disable` is not what runs. -/
theorem not_rxDisable_of_outside {log : List Obs}
    (outside : stack log = [] ∨ (stack log).head? = some .callback) :
    (stack log).head? ≠ some .rxDisable := by
  rcases outside with none | callback
  · rw [none]
    exact fun impossible => nomatch impossible
  · rw [callback]
    decide

theorem stack_aside {evt : UartEvent} (aside : evt.isAside = true) (log : List Obs) :
    stack (.event evt :: log) = .callback :: stack log := by
  cases evt with
  | rxDisabled => cases aside
  | _ => rfl

/-- An invariant of reception that may depend on what is running. -/
structure FramedInvariant (policy : Policy App) where
  Inv : World App -> Prop
  left : forall world later, Inv world -> LeavesReception world later -> Inv later
  aside : forall world evt, Inv world -> evt.isAside = true -> Inv (world.observe (.event evt))
  leave : forall world evt, Inv world -> policy.leave world evt ->
    (stack world.log).head? = some .callback -> Inv (world.observe .callbackReturned)
  rxEnable : forall world buf len timeout, Inv world ->
    policy.call world (.rxEnable buf len timeout) ->
    stack world.log = [] ∨ (stack world.log).head? = some .callback ->
    Inv (world.directCall (.rxEnable buf len timeout) (World.rxEnable buf len timeout))
  rxBufRsp : forall world buf len, Inv world -> policy.call world (.rxBufRsp buf len) ->
    stack world.log = [] ∨ (stack world.log).head? = some .callback ->
    Inv (world.directCall (.rxBufRsp buf len) (World.rxBufRsp buf len))
  rxDisableBegin : forall world, Inv world -> policy.call world .rxDisable ->
    Inv ((world.observe (.called .rxDisable)).rxDisable .adapter)
  rxDisableSwitch : forall world, Inv world -> (stack world.log).head? = some .rxDisable ->
    world.adapter.rx.buf.isSome ->
    Inv ((world.switchRxBuffer .adapter).2.observe
      (.event (.rxBufReleased world.adapter.rx.buf)))
  rxDisabled : forall world, Inv world -> (stack world.log).head? = some .rxDisable ->
    world.adapter.rx.buf = none -> Inv (world.observe (.event .rxDisabled))
  rxDisableReturned : forall world ret time, Inv world ->
    Inv (world.observe (.returned .rxDisable ret time))
  notified : forall world, Inv world -> world.unnotified = true ->
    Inv ((world.setRx
      { world.adapter.rx with lastNotifyBuf := world.adapter.rx.currBuf }).observe
        (.event (.rxRdy world.adapter.rx.buf
          (world.adapter.rx.lastNotifyBuf.diff world.adapter.rx.buf)
          (world.adapter.rx.currBuf.diff world.adapter.rx.lastNotifyBuf))))
  checked : forall world what holds, Inv world -> Inv (world.assertNoMsg what holds)
  onRxReadyBegin : forall world, Inv world -> stack world.log = [] ->
    world.adapter.rx.enabled = true -> Inv (world.observe (.rxLoop true))
  switched : forall world, Inv world -> stack world.log = [.rxLoop] ->
    world.adapter.rx.buf.isSome ->
    Inv ((world.switchRxBuffer .adapter).2.observe
      (.event (.rxBufReleased world.adapter.rx.buf)))
  switchedNone : forall world, Inv world -> stack world.log = [.rxLoop] ->
    world.adapter.rx.buf = none -> Inv (world.switchRxBuffer .adapter).2
  requested : forall world, Inv world -> stack world.log = [.rxLoop] ->
    Inv (world.observe (.event .rxBufRequest))
  stored : forall world bytes, Inv world -> stack world.log = [.rxLoop] ->
    world.adapter.rx.sizeLeft ≠ 0 -> bytes.length ≤ world.adapter.rx.sizeLeft ->
    Inv (world.onRxReadyStore bytes)
  dropped : forall world bytes, Inv world -> stack world.log = [.rxLoop] ->
    world.adapter.rx.sizeLeft = 0 -> Inv (world.observe (.dropped bytes))
  onRxReadyEnd : forall world, Inv world -> stack world.log = [.rxLoop] ->
    Inv (world.observe (.rxLoop false))
  Always : World App -> Prop
  always : forall world, Inv world -> Always world
  called : forall world call, Always world -> Always (world.observe (.called call))
  alwaysChecked : forall world holds, Always world ->
    Always (world.assertNoMsg .txCurrBufSet holds)
  forget : forall world obs, obs.isReport = true -> Always (world.observe obs) -> Always world

namespace FramedInvariant

variable {policy : Policy App} (rule : FramedInvariant policy) {world : World App}

theorem notifyChecks (holds : rule.Inv world) : rule.Inv world.notifyChecks := by
  unfold World.notifyChecks
  split
  · exact rule.checked _ _ _ (rule.checked _ _ _ holds)
  · exact holds

/-- Only calls from outside and from callbacks reach the interface. -/
theorem head_of_callable {ctx : List Frame} (same : stack world.log = ctx)
    (callable : Callable [] (fun outer => Frame.callback :: outer) ctx) :
    stack world.log = [] ∨ (stack world.log).head? = some .callback := by
  rw [same]
  rcases callable with rfl | ⟨outer, rfl⟩
  · exact .inl rfl
  · exact .inr rfl

/-- The context is what the log says is running. -/
def toReception : ReceptionInvariant policy (List Frame) where
  Inv := fun ctx world => stack world.log = ctx ∧ rule.Inv world
  idle := []
  inLoop := [.rxLoop]
  inCallback := fun ctx => .callback :: ctx
  inDisable := fun ctx => .rxDisable :: ctx
  flushed := id
  left := fun _ world later holds same =>
    ⟨same.stack.trans holds.1, rule.left world later holds.2 same⟩
  aside := fun _ world evt holds aside =>
    ⟨(stack_aside aside world.log).trans (congrArg _ holds.1), rule.aside world evt holds.2 aside⟩
  leave := fun _ world evt holds allowed =>
    ⟨congrArg List.tail holds.1, rule.leave world evt holds.2 allowed (by rw [holds.1]; rfl)⟩
  rxEnable := fun _ world buf len timeout callable holds allowed =>
    ⟨holds.1, rule.rxEnable world buf len timeout holds.2 allowed
      (head_of_callable holds.1 callable)⟩
  rxBufRsp := fun _ world buf len callable holds allowed => by
    refine ⟨?_, rule.rxBufRsp world buf len holds.2 allowed (head_of_callable holds.1 callable)⟩
    rcases world.directCall_rxBufRsp_cases buf len with ⟨_, same⟩ | ⟨_, same⟩
    · rw [same]
      exact holds.1
    · rw [same]
      exact (World.read_assertNoMsg _ _ _ stack fun _ _ => rfl).trans holds.1
  rxDisableBegin := fun _ world holds allowed =>
    ⟨congrArg _ holds.1, rule.rxDisableBegin world holds.2 allowed⟩
  rxDisableSwitch := fun _ world holds present =>
    ⟨congrArg _ holds.1, rule.rxDisableSwitch world holds.2 (by rw [holds.1]; rfl) present⟩
  rxDisabled := fun _ world holds none =>
    ⟨congrArg (fun frames : List Frame => Frame.callback :: List.tail frames) holds.1,
      rule.rxDisabled world holds.2 (by rw [holds.1]; rfl) none⟩
  rxDisableReturned := fun _ world ret time holds =>
    ⟨holds.1, rule.rxDisableReturned world ret time holds.2⟩
  notified := fun _ world holds pending => by
    have log : stack world.notifyChecks.log = stack world.log :=
      World.read_notifyChecks stack fun _ _ => rfl
    have checked := rule.notified world.notifyChecks (rule.notifyChecks holds.2)
      (by simpa [World.unnotified] using pending)
    rw [World.notifyChecks_adapter] at checked
    exact ⟨congrArg _ (log.trans holds.1), checked⟩
  notifiedNone := fun _ world holds _ => by
    have log : stack world.notifyChecks.log = stack world.log :=
      World.read_notifyChecks stack fun _ _ => rfl
    exact ⟨log.trans holds.1, rule.notifyChecks holds.2⟩
  unflushed := fun _ _ holds => holds
  onRxReadyBegin := fun world holds enabled =>
    ⟨congrArg _ holds.1, rule.onRxReadyBegin world holds.2 holds.1 enabled⟩
  switched := fun world holds present =>
    ⟨congrArg _ holds.1, rule.switched world holds.2 holds.1 present⟩
  switchedNone := fun world holds none => ⟨holds.1, rule.switchedNone world holds.2 holds.1 none⟩
  requested := fun world holds => ⟨congrArg _ holds.1, rule.requested world holds.2 holds.1⟩
  stored := fun world bytes holds room fits => by
    refine ⟨?_, rule.stored world bytes holds.2 holds.1 room fits⟩
    rw [World.onRxReadyStore_of_fits fits]
    simpa [stack] using holds.1
  dropped := fun world bytes holds full =>
    ⟨holds.1, rule.dropped world bytes holds.2 holds.1 full⟩
  onRxReadyEnd := fun world holds =>
    ⟨congrArg List.tail holds.1, rule.onRxReadyEnd world holds.2 holds.1⟩
  Always := rule.Always
  always := fun _ world holds => rule.always world holds.2
  called := rule.called
  checked := rule.alwaysChecked
  forget := rule.forget

end FramedInvariant

end Uart
end NrfExamples
