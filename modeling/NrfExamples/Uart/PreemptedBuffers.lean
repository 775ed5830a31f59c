import NrfExamples.Uart.PreemptedBooks

namespace NrfExamples
namespace Uart
namespace Preempted

open Reentrant

/-!
# Buffers under preemption

The adapter takes a buffer over for transmission or reception, and gives it
back with an event.  Between the stretch under the lock that removes a buffer
and the event that reports it, the buffer is in nobody's place but in a local
variable of the function.  However calls, interrupts and timers preempt each
other there, no buffer gets lost and none is given back twice.
-/

variable {App : Type}

inductive Half
  | transmit
  | receive
  deriving DecidableEq, Repr

/-- A buffer, and what the adapter has it for. -/
structure Ticket where
  half : Half
  address : Address
  deriving DecidableEq, Repr

namespace Ticket

variable (ticket : Ticket)

/-- Whether the pointer is to this buffer, as a number. -/
def names (half : Half) (pointer : Pointer) : Nat :=
  if half = ticket.half ∧ pointer = some ticket.address then 1 else 0

@[simp] theorem names_none (half : Half) : ticket.names half none = 0 := by
  simp [names]

theorem names_le (half : Half) (pointer : Pointer) : ticket.names half pointer ≤ 1 := by
  unfold names
  split <;> omega

/-- How many of the three places of the adapter hold the buffer. -/
def held (data : AdapterData) : Nat :=
  ticket.names .transmit data.tx.buf + ticket.names .receive data.rx.buf +
    ticket.names .receive data.rx.nextBuf

/-- A call that returns zero hands its buffer over, if there is anything to send. -/
def takenBy : Obs -> Nat
  | .returned (.tx buf len _) ret _ =>
      if ret = 0 ∧ len ≠ 0 then ticket.names .transmit buf else 0
  | .returned (.rxEnable buf _ _) ret _ => if ret = 0 then ticket.names .receive buf else 0
  | .returned (.rxBufRsp buf _) ret _ => if ret = 0 then ticket.names .receive buf else 0
  | _ => 0

/-- Three kinds of events give a buffer back. -/
def givenBy : UartEvent -> Nat
  | .txDone buf _ => ticket.names .transmit buf
  | .txAborted buf _ => ticket.names .transmit buf
  | .rxBufReleased buf => ticket.names .receive buf
  | _ => 0

def givenIn : Obs -> Nat
  | .event evt => ticket.givenBy evt
  | _ => 0

end Ticket

/-- A call of `rx_enable` that was refused.  It replaces the buffers all the same. -/
def isRefusal : Obs -> Bool
  | .returned (.rxEnable _ _ _) ret _ => ret ≠ 0
  | _ => false

/-- How often the buffer was taken over, is held, and was given back. -/
def accounts (ticket : Ticket) : Ledger (World App) where
  taken := fun world => (world.log.map ticket.takenBy).sum
  held := fun world => ticket.held world.adapter
  given := fun world => (world.log.map ticket.givenIn).sum
  spoiled := fun world => world.log.countP isRefusal

/-! ## Stretches -/

section Stretches

variable {ticket : Ticket} {world later : World App} {amount : Nat}

/-- Entries about no buffer. -/
def isNeutral (ticket : Ticket) (obs : Obs) : Prop :=
  ticket.takenBy obs = 0 ∧ ticket.givenIn obs = 0 ∧ isRefusal obs = false

/-- Only such entries have been added to the log. -/
def Adds (ticket : Ticket) (world later : World App) : Prop :=
  exists added, (forall obs, obs ∈ added -> isNeutral ticket obs) ∧ later.log = added ++ world.log

theorem Adds.of_eq (log : later.log = world.log) : Adds ticket world later :=
  ⟨[], by simp, log⟩

theorem Adds.trans {last : World App} (first : Adds ticket world later)
    (second : Adds ticket later last) : Adds ticket world last := by
  rcases first with ⟨added, neutral, log⟩
  rcases second with ⟨more, also, longer⟩
  refine ⟨more ++ added, ?_, by rw [longer, log, List.append_assoc]⟩
  intro obs member
  rcases List.mem_append.mp member with new | old
  · exact also obs new
  · exact neutral obs old

theorem Adds.observe {obs : Obs} (neutral : isNeutral ticket obs) :
    Adds ticket world (world.observe obs) :=
  ⟨[obs], by simpa using neutral, rfl⟩

theorem Adds.assertNoMsg (world : World App) (what : Assertion) (check : Bool) :
    Adds ticket world (world.assertNoMsg what check) := by
  cases check with
  | true => exact .of_eq rfl
  | false => exact .observe ⟨rfl, rfl, rfl⟩

/-- A stretch that moves no buffer. -/
theorem moves_nothing (held : ticket.held later.adapter = ticket.held world.adapter)
    (adds : Adds ticket world later) : (accounts ticket).Moves world later amount amount := by
  rcases adds with ⟨added, neutral, log⟩
  right
  have sums : (added.map ticket.takenBy).sum = 0 ∧ (added.map ticket.givenIn).sum = 0 ∧
      added.countP isRefusal = 0 := by
    clear log
    induction added with
    | nil => exact ⟨rfl, rfl, rfl⟩
    | cons obs added inductionHypothesis =>
        rcases neutral obs List.mem_cons_self with ⟨taken, given, refusal⟩
        rcases inductionHypothesis fun other member =>
          neutral other (List.mem_cons_of_mem _ member) with ⟨allTaken, allGiven, refusals⟩
        simp [taken, given, refusal, allTaken, allGiven, refusals]
  simp only [accounts, log, List.countP_append, List.map_append, List.sum_append, held, sums.1,
    sums.2.1, sums.2.2]
  omega

/-- An event gives back what the call has in hand. -/
theorem moves_event (evt : UartEvent) :
    (accounts ticket).Moves world (world.observe (.event evt)) (ticket.givenBy evt) 0 := by
  right
  simp only [accounts, World.observe_log, List.map_cons, List.sum_cons, World.observe_adapter,
    List.countP_cons, isRefusal, Ticket.givenIn, Ticket.takenBy]
  simp only [Bool.false_eq_true, if_false]
  omega

theorem Ticket.releases_eq (ticket : Ticket) (buf : Pointer) :
    releases ticket.givenBy buf = ticket.names .receive buf := by
  cases buf with
  | none => exact (ticket.names_none .receive).symm
  | some address => rfl

theorem moves_switch : (accounts ticket).Moves world (world.switchRxBuffer .adapter).2 0
    (ticket.names .receive (world.switchRxBuffer .adapter).1) := by
  right
  refine ⟨rfl, ?_⟩
  simp only [accounts, World.switchRxBuffer, Ticket.held, World.setDevData_adapter_adapter,
    World.setDevData_adapter_log, World.accessDevData_adapter, Ticket.names_none]
  omega

theorem Ticket.givenBy_le (ticket : Ticket) (evt : UartEvent) : ticket.givenBy evt ≤ 1 := by
  cases evt with
  | txDone | txAborted | rxBufReleased => exact ticket.names_le _ _
  | _ => exact Nat.zero_le 1

theorem moves_txAbort : (accounts ticket).Moves world world.txAbortLocked.2 0
    (delivered ticket.givenBy world.txAbortLocked.1) := by
  unfold World.txAbortLocked
  by_cases busy : world.adapter.tx.buf.isSome
  · simp only [busy, if_true]
    right
    refine ⟨rfl, ?_⟩
    simp only [accounts, Option.elim_some, Ticket.givenBy, Ticket.held,
      World.setTx_tx, World.setTx_rx, World.setTx_log, Ticket.names_none]
    omega
  · simp only [busy]
    exact moves_nothing rfl (.of_eq rfl)

theorem Adds.notifyChecks (world : World App) : Adds ticket world world.notifyChecks := by
  unfold World.notifyChecks
  split
  · exact (Adds.assertNoMsg world _ _).trans (.assertNoMsg _ _ _)
  · exact .of_eq rfl

theorem Adds.completeChecks (world : World App) : Adds ticket world world.completeChecks :=
  (Adds.assertNoMsg world _ _).trans (.assertNoMsg _ _ _)

/-- A notification reports bytes, and gives no buffer back. -/
theorem moves_notify : (accounts ticket).Moves world world.notifyRxBuffer.2 0
    (delivered ticket.givenBy world.notifyRxBuffer.1) := by
  cases pending : world.unnotified with
  | false =>
      rw [World.notifyRxBuffer_of_notified pending]
      exact moves_nothing (by simp) (.notifyChecks world)
  | true =>
      rw [World.notifyRxBuffer_of_unnotified pending]
      exact moves_nothing (by simp [Ticket.held]) (.notifyChecks world)

theorem moves_txComplete : (accounts ticket).Moves world world.onTxCompleteLocked.2 0
    (delivered ticket.givenBy world.onTxCompleteLocked.1) := by
  unfold World.onTxCompleteLocked
  by_cases busy : world.adapter.tx.buf.isSome
  · simp only [busy, if_true]
    have checked : (accounts ticket).Moves world world.completeChecks 0 0 :=
      moves_nothing (by simp [World.completeChecks]) (.completeChecks world)
    rcases checked with more | ⟨same, counts⟩
    · exact .inl more
    right
    refine ⟨same, ?_⟩
    simp only [accounts, Option.elim_some, Ticket.givenBy, Ticket.held,
      World.setTx_tx, World.setTx_rx, World.setTx_log, Ticket.names_none, World.completeChecks,
      World.assertNoMsg_adapter] at counts ⊢
    omega
  · simp only [busy]
    exact moves_nothing rfl (.of_eq rfl)

theorem moves_onTxReady (room : Int) :
    (accounts ticket).Moves world (world.onTxReadyLocked room) amount amount := by
  unfold World.onTxReadyLocked
  by_cases finished : world.adapter.tx.sizeLeft = 0
  · simp only [finished, ne_eq, not_true_eq_false, if_false]
    exact moves_nothing rfl (.of_eq rfl)
  simp only [finished, ne_eq, not_false_eq_true, if_true]
  unfold World.onTxReady
  split
  · exact moves_nothing (by simp) (.assertNoMsg world _ _)
  · refine moves_nothing (by simp [Ticket.held]) ?_
    refine (Adds.assertNoMsg world .txCurrBufSet world.adapter.tx.currBuf.isSome).trans ?_
    exact ⟨[.pushed _ _], by simp [isNeutral, Ticket.takenBy, Ticket.givenIn, isRefusal], rfl⟩

theorem moves_onRxReady (received : Except Int (List UInt8)) :
    (accounts ticket).Moves world (world.onRxReadyLocked received).2 amount amount := by
  unfold World.onRxReadyLocked
  by_cases full : world.adapter.rx.sizeLeft = 0
  · simp only [full, if_true]
    exact moves_nothing rfl (.of_eq rfl)
  · simp only [full, if_false]
    rw [World.onRxReadyStore_of_fits (List.length_take_le _ _)]
    refine moves_nothing (by simp [Ticket.held]) ?_
    exact ⟨[.stored world.adapter.rx.currBuf ((readBytes received).take world.adapter.rx.sizeLeft)],
      by simp [isNeutral, Ticket.takenBy, Ticket.givenIn, isRefusal], by simp⟩

theorem Adds.dropped (ticket : Ticket) (bytes : List UInt8) (world : World App) : Adds ticket world
    (bytes.foldl (fun world byte => world.observe (.dropped [byte])) world) ∧
      (bytes.foldl (fun world byte => world.observe (.dropped [byte])) world).adapter =
        world.adapter := by
  induction bytes generalizing world with
  | nil => exact ⟨.of_eq rfl, rfl⟩
  | cons byte bytes inductionHypothesis =>
      rcases inductionHypothesis (world.observe (.dropped [byte])) with ⟨adds, same⟩
      exact ⟨(Adds.observe ⟨rfl, rfl, rfl⟩).trans adds, same⟩

theorem moves_onRxReadyAgain (received : Except Int (List UInt8)) :
    (accounts ticket).Moves world (world.onRxReadyAgainLocked received).2 0 0 := by
  have read : (accounts ticket).Moves world (world.onRxReadyLocked received).2 0 0 :=
    moves_onRxReady received
  unfold World.onRxReadyAgainLocked
  by_cases full : world.adapter.rx.sizeLeft = 0
  · have same : world.onRxReadyLocked received = (none, world) := if_pos full
    rw [same]
    have dropped := Adds.dropped ticket (readBytes received) world
    exact moves_nothing (congrArg ticket.held dropped.2) (dropped.1.trans (.observe ⟨rfl, rfl, rfl⟩))
  · have same : world.onRxReadyLocked received = (some _, _) := if_neg full
    rw [same] at read ⊢
    exact read

theorem moves_tx (buf : Pointer) (len : Nat) (timeout : Int) : (accounts ticket).Moves world
    (World.recorded (.tx buf len timeout) Prod.fst (World.txLocked buf len) world).2 0 0 := by
  unfold World.recorded World.txLocked
  by_cases empty : len = 0
  · simp only [empty, if_true]
    exact moves_nothing rfl ⟨[.returned _ _ _, .called _],
      by simp [isNeutral, Ticket.takenBy, Ticket.givenIn, isRefusal], rfl⟩
  by_cases busy : world.adapter.tx.buf.isSome
  · simp only [empty, if_false, World.observe_adapter, busy, if_true]
    refine moves_nothing rfl ⟨[.returned (.tx buf len timeout) (-EBUSY) world.now,
      .called (.tx buf len timeout)], ?_, rfl⟩
    have refused : -EBUSY ≠ 0 := by decide
    simp [isNeutral, Ticket.takenBy, Ticket.givenIn, isRefusal, refused]
  · simp only [empty, if_false, World.observe_adapter, busy]
    right
    have idle : world.adapter.tx.buf = none := by simpa using busy
    refine ⟨rfl, ?_⟩
    simp [accounts, Ticket.takenBy, Ticket.givenIn, Ticket.held, idle, empty]
    omega

/-- A call of `rx_enable` takes the buffer, or is refused. -/
theorem moves_rxEnable (buf : Pointer) (len : Nat) (timeout : Int) : (accounts ticket).Moves world
    (World.recorded (.rxEnable buf len timeout) id (World.rxEnableLocked buf len timeout)
      world).2 0 0 := by
  have refusal : isRefusal (.returned (.rxEnable buf len timeout) (-EBUSY) world.now) = true := rfl
  have counted : world.log.countP isRefusal <
      (.returned (.rxEnable buf len timeout) (-EBUSY) world.now ::
        .called (.rxEnable buf len timeout) :: world.log).countP isRefusal := by
    rw [List.countP_cons_of_pos refusal, List.countP_cons_of_neg Bool.false_ne_true]
    exact Nat.lt_succ_self _
  unfold World.recorded World.rxEnableLocked
  cases current : world.adapter.rx.buf with
  | some address =>
      left
      simpa [accounts, current] using counted
  | none =>
      cases prepared : world.adapter.rx.nextBuf with
      | some address =>
          left
          simpa [accounts, current, prepared] using counted
      | none =>
          right
          simp [accounts, isRefusal, Ticket.takenBy, Ticket.givenIn, Ticket.held, current, prepared]
          omega

theorem moves_rxBufRsp (buf : Pointer) (len : Nat) : (accounts ticket).Moves world
    (World.recorded (.rxBufRsp buf len) id (World.rxBufRsp buf len) world).2 0 0 := by
  change (accounts ticket).Moves world
    (world.directCall (.rxBufRsp buf len) (World.rxBufRsp buf len)) 0 0
  rcases world.directCall_rxBufRsp_cases buf len with ⟨_, same⟩ | ⟨free, same⟩
  · rw [same]
    refine moves_nothing rfl ⟨[.returned (.rxBufRsp buf len) (-EBUSY) world.now,
      .called (.rxBufRsp buf len)], ?_, rfl⟩
    have refused : -EBUSY ≠ 0 := by decide
    simp [isNeutral, Ticket.takenBy, Ticket.givenIn, isRefusal, refused]
  · rw [same]
    have checked : (accounts ticket).Moves world
        ((world.observe (.called (.rxBufRsp buf len))).assertNoMsg .rxNextBufLenZero
          (world.adapter.rx.nextBufLen = 0)) 0 0 :=
      moves_nothing (by simp) ((Adds.observe ⟨rfl, rfl, rfl⟩).trans (.assertNoMsg _ _ _))
    rcases checked with more | ⟨same, counts⟩
    · exact .inl (by simpa [accounts, isRefusal] using more)
    right
    simp only [accounts, Ticket.held, World.observe_log, World.setRx_log, List.countP_cons,
      isRefusal, List.map_cons, List.sum_cons, Ticket.takenBy, Ticket.givenIn, World.observe_adapter,
      World.setRx_rx, World.setRx_tx, World.assertNoMsg_adapter, free, Ticket.names_none] at same counts ⊢
    simp only [Bool.false_eq_true, if_false, if_true]
    omega

theorem moves_plain {run : World App -> World App} (plain : PlainStretch run) :
    (accounts ticket).Moves world (run world) amount amount := by
  cases plain with
  | observe obs mark =>
      refine moves_nothing rfl (.observe ?_)
      have isMark := mark world
      generalize obs world = entry at isMark
      cases entry with
      | called | callbackReturned => exact ⟨rfl, rfl, rfl⟩
      | returned call ret time =>
          cases call with
          | txAbort | rxDisable => exact ⟨rfl, rfl, rfl⟩
          | _ => cases isMark
      | _ => cases isMark
  | observeForeign evt => exact moves_nothing rfl (.of_eq rfl)
  | setTx timer enabled => exact moves_nothing rfl (.of_eq rfl)
  | setRx timer => exact moves_nothing rfl (.of_eq rfl)
  | irq change => exact moves_nothing rfl (.of_eq rfl)
  | rxDisable dev => cases dev <;> exact moves_nothing rfl (.of_eq rfl)
  | onTxReady room => exact moves_onTxReady room

end Stretches

/-- The book of one buffer. -/
def custody (App : Type) (calls : ApiCall -> Prop) (ticket : Ticket) : Book App calls where
  ledger := accounts ticket
  inv := fun _ => True
  amount := ticket.givenBy
  single := ticket.givenBy_le
  nothing := fun evt nothing => by
    cases evt with
    | txDone | txAborted | rxBufReleased => cases nothing
    | _ => rfl
  elapse := fun _ _ _ => ⟨trivial, ⟨rfl, rfl, rfl, rfl⟩⟩
  event := fun evt _ _ => ⟨trivial, moves_event evt⟩
  plain := fun plain _ _ => ⟨trivial, moves_plain plain⟩
  notifying := fun _ _ => ⟨trivial, moves_notify⟩
  switching := fun world _ => ⟨trivial, by
    rw [ticket.releases_eq]
    exact moves_switch⟩
  switchingTarget := fun _ _ => ⟨trivial, moves_nothing rfl (.of_eq rfl)⟩
  aborting := fun _ _ => ⟨trivial, moves_txAbort⟩
  completing := fun _ _ => ⟨trivial, moves_txComplete⟩
  receiving := fun received _ _ => ⟨trivial, moves_onRxReady received⟩
  receivingAgain := fun received _ _ => ⟨trivial, moves_onRxReadyAgain received⟩
  calling := fun call _ _ _ => by
    cases call with
    | tx buf len timeout => exact ⟨trivial, moves_tx buf len timeout⟩
    | rxEnable buf len timeout => exact ⟨trivial, moves_rxEnable buf len timeout⟩
    | rxBufRsp buf len => exact ⟨trivial, moves_rxBufRsp buf len⟩
    | txAbort | rxDisable => trivial

/-! ## Runs -/

/-- The balance of one buffer in a state, when so many calls are under way. -/
structure Conserved (ticket : Ticket) (world : World App) (underWay : Nat) : Prop where
  notTwice : ticket.held world.adapter + (world.log.map ticket.givenIn).sum ≤
    (world.log.map ticket.takenBy).sum
  notLost : (world.log.map ticket.takenBy).sum ≤
    ticket.held world.adapter + (world.log.map ticket.givenIn).sum + underWay

/-- As long as no `rx_enable` has been refused, every buffer that was taken over
is held by the adapter, is about to be given back by a call under way, or has
been given back, and only one of these, under any preemption.  Once nothing is
under way, what was taken is held or has been given back. -/
theorem buffers_conserved {calls : ApiCall -> Prop} {target : AdapterData}
    {memory : Nat -> Nat -> UInt8} {app : App} {current : Pool (interface App) Unit}
    (reached : (unobserved calls).Reachable ⟨World.initial target memory app, []⟩ current)
    (noRefusal : forall obs, obs ∈ current.state.log -> isRefusal obs = false) (ticket : Ticket) :
    Conserved ticket current.state (current.activities.countP Activity.underWay) := by
  have initially : (accounts ticket).taken (World.initial target memory app) =
      (accounts ticket).held (World.initial target memory app) +
        (accounts ticket).given (World.initial target memory app) := by
    simp [accounts, Ticket.held, World.initial, AdapterData.zeroed]
  have unspoiled : current.state.log.countP isRefusal = 0 := by
    rw [List.countP_eq_zero]
    intro obs member
    simp [noRefusal obs member]
  rcases ((custody App calls ticket).counts trivial initially reached).2 unspoiled with
    ⟨notTwice, notLost⟩
  exact ⟨notTwice, notLost⟩

/-- The buffer of the run above has been taken over and released once, and
nothing is under way. -/
theorem releasedRun_conserved :
    (releasedRun.state.log.map (Ticket.takenBy ⟨.receive, ⟨2, 0⟩⟩)).sum = 1 ∧
      (releasedRun.state.log.map (Ticket.givenIn ⟨.receive, ⟨2, 0⟩⟩)).sum = 1 ∧
      Conserved ⟨.receive, ⟨2, 0⟩⟩ releasedRun.state 0 := by
  rcases releasedRun_reachable () (fun _ _ _ => ()) (fun _ _ => rfl) with
    ⟨activities, reached, ended⟩
  have noRefusal : forall obs, obs ∈ releasedRun.state.log -> isRefusal obs = false := by
    decide +kernel
  refine ⟨by decide +kernel, by decide +kernel, ?_⟩
  rw [← ended]
  exact buffers_conserved reached noRefusal _

end Preempted
end Uart
end NrfExamples
