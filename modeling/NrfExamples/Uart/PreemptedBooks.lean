import NrfExamples.Reentrant.Custody
import NrfExamples.Uart.PreemptedData

namespace NrfExamples
namespace Uart
namespace Preempted

open Reentrant

/-!
# Keeping books under preemption

Several things pass through the hands of the adapter: buffers, and reports of
transfers.  What they have in common is where they can get lost: between the
stretch under the lock that makes an event and the stretch that records it, the
event is in a local variable of the function.  Here a book says what each stretch
moves, and it follows what is still to be delivered in any run.
-/

variable {App : Type}

/-- What is delivered by an event, if there is one. -/
abbrev delivered (amount : UartEvent -> Nat) (evt : Option UartEvent) : Nat :=
  evt.elim 0 amount

/-- What the release of a buffer delivers, if there is one. -/
abbrev releases (amount : UartEvent -> Nat) (buf : Pointer) : Nat :=
  buf.elim 0 fun _ => amount (.rxBufReleased buf)

/-- A ledger that every stretch of the adapter keeps, and what its events deliver. -/
structure Book (App : Type) (calls : ApiCall -> Prop) where
  ledger : Ledger (World App)
  inv : World App -> Prop
  amount : UartEvent -> Nat
  single : forall evt, amount evt ≤ 1
  nothing : forall evt, givesNothing evt = true -> amount evt = 0
  elapse : forall world ticks, inv world ->
    inv (world.elapse ticks) ∧ ledger.Untouched world (world.elapse ticks)
  event : forall evt world, inv world -> inv (world.observe (.event evt)) ∧
    ledger.Moves world (world.observe (.event evt)) (amount evt) 0
  plain : forall {run : World App -> World App}, PlainStretch run -> forall world, inv world ->
    inv (run world) ∧ ledger.Moves world (run world) 0 0
  notifying : forall world : World App, inv world -> inv world.notifyRxBuffer.2 ∧
    ledger.Moves world world.notifyRxBuffer.2 0 (delivered amount world.notifyRxBuffer.1)
  switching : forall world : World App, inv world -> inv (world.switchRxBuffer .adapter).2 ∧
    ledger.Moves world (world.switchRxBuffer .adapter).2 0
      (releases amount (world.switchRxBuffer .adapter).1)
  switchingTarget : forall world : World App, inv world -> inv (world.switchRxBuffer .target).2 ∧
    ledger.Moves world (world.switchRxBuffer .target).2 0 0
  aborting : forall world : World App, inv world -> inv world.txAbortLocked.2 ∧
    ledger.Moves world world.txAbortLocked.2 0 (delivered amount world.txAbortLocked.1)
  completing : forall world : World App, inv world -> inv world.onTxCompleteLocked.2 ∧
    ledger.Moves world world.onTxCompleteLocked.2 0 (delivered amount world.onTxCompleteLocked.1)
  receiving : forall received, forall world : World App, inv world ->
    inv (world.onRxReadyLocked received).2 ∧
      ledger.Moves world (world.onRxReadyLocked received).2 0 0
  receivingAgain : forall received, forall world : World App, inv world ->
    inv (world.onRxReadyAgainLocked received).2 ∧
      ledger.Moves world (world.onRxReadyAgainLocked received).2 0 0
  calling : forall call, calls call -> forall world : World App, inv world ->
    match call with
    | .tx buf len timeout =>
        let later :=
          (World.recorded (.tx buf len timeout) Prod.fst (World.txLocked buf len) world).2
        inv later ∧ ledger.Moves world later 0 0
    | .rxEnable buf len timeout =>
        let later := (World.recorded (.rxEnable buf len timeout) id
          (World.rxEnableLocked buf len timeout) world).2
        inv later ∧ ledger.Moves world later 0 0
    | .rxBufRsp buf len =>
        let later := (World.recorded (.rxBufRsp buf len) id (World.rxBufRsp buf len) world).2
        inv later ∧ ledger.Moves world later 0 0
    | .txAbort | .rxDisable => True

namespace Book

variable {calls : ApiCall -> Prop} (book : Book App calls)

/-- Calls that remember what they have in hand. -/
abbrev custodians : SideBySide (interface App) Hand :=
  sideBySide calls Hand.empty book.ledger.remember book.ledger.remember_same

/-- The program turns the first amount in hand into what is said of its value. -/
abbrev Carried {A : Type} (program : LockProg App A) (first : Nat) (second : A -> Nat) : Prop :=
  book.ledger.Carries book.custodians book.inv (callable calls) program first second

theorem delivered_le (evt : Option UartEvent) : delivered book.amount evt ≤ 1 := by
  cases evt with
  | none => exact Nat.zero_le 1
  | some made => exact book.single made

theorem releases_le (buf : Pointer) : releases book.amount buf ≤ 1 := by
  cases buf with
  | none => exact Nat.zero_le 1
  | some address => exact book.single _

theorem carried_nothing {A : Type} {run : World App -> A × World App}
    (moves : forall world, book.inv world -> book.inv (run world).2 ∧
      book.ledger.Moves world (run world).2 0 0) :
    book.Carried (perform run) 0 (fun _ => 0) :=
  Ledger.carries_perform rfl moves fun _ => Nat.zero_le 1

theorem carried_plain {run : World App -> World App} (plain : PlainStretch run) :
    book.Carried (modify run) 0 (fun _ => 0) :=
  Ledger.carries_modify rfl (book.plain plain) (Nat.zero_le 1)

/-- Whatever the client does in a callback, it begins with what the event has
not delivered, which is nothing. -/
theorem carried_userCallback (evt : UartEvent) :
    book.Carried (userCallback .adapter evt) (book.amount evt) (fun _ => 0) := by
  have observed : book.Carried (modify fun world : World App => world.observe (.event evt))
      (book.amount evt) (fun _ => 0) :=
    Ledger.carries_modify rfl (book.event evt) (Nat.zero_le 1)
  refine observed.andThen fun _ => ?_
  refine Ledger.Carries.andThen (Ledger.carries_invoke trivial) fun _ => ?_
  exact book.carried_plain (.observe _ fun _ => rfl)

theorem carried_deliver (evt : Option UartEvent) :
    book.Carried (deliver evt) (delivered book.amount evt) (fun _ => 0) := by
  cases evt with
  | none => exact fun _ _ has => has
  | some made => exact book.carried_userCallback made

theorem carried_event (dev : Device) (evt : UartEvent) (nothing : givesNothing evt = true) :
    book.Carried (userCallback dev evt) 0 (fun _ => 0) := by
  cases dev with
  | adapter =>
      have made := book.carried_userCallback evt
      rw [book.nothing evt nothing] at made
      exact made
  | target => exact book.carried_plain (.observeForeign evt)

theorem carried_notifyRxBuffer : book.Carried notifyRxBuffer 0 (fun _ => 0) := by
  have performed : book.Carried (perform World.notifyRxBuffer) 0 (delivered book.amount) :=
    Ledger.carries_perform rfl book.notifying book.delivered_le
  exact performed.andThen book.carried_deliver

/-- The buffer that was replaced is in hand until it has been released. -/
theorem carried_switchRxBuffer (dev : Device) (requestNew : Bool) :
    book.Carried (switchRxBuffer dev requestNew) 0 (fun _ => 0) := by
  have request : book.Carried (userCallback dev .rxBufRequest) 0 (fun _ => 0) :=
    book.carried_event dev .rxBufRequest rfl
  have nothing : book.Carried (pure ()) 0 (fun _ => 0) := fun _ _ has => has
  cases dev with
  | adapter =>
      have performed : book.Carried (perform (World.switchRxBuffer .adapter)) 0
          (releases book.amount) :=
        Ledger.carries_perform rfl book.switching book.releases_le
      refine performed.andThen fun oldBuf => ?_
      have released : forall rest : LockProg App Unit, book.Carried rest 0 (fun _ => 0) ->
          book.Carried (do
            if oldBuf.isSome then userCallback .adapter (.rxBufReleased oldBuf)
            rest) (releases book.amount oldBuf) (fun _ => 0) := by
        intro rest kept
        cases oldBuf with
        | none => exact kept
        | some address =>
            exact Ledger.Carries.andThen (book.carried_userCallback (.rxBufReleased (some address)))
              fun _ => kept
      cases requestNew with
      | true => exact released _ request
      | false => exact released _ nothing
  | target =>
      refine Ledger.Carries.andThen (book.carried_nothing book.switchingTarget) fun oldBuf => ?_
      have released : forall rest : LockProg App Unit, book.Carried rest 0 (fun _ => 0) ->
          book.Carried (do
            if oldBuf.isSome then userCallback .target (.rxBufReleased oldBuf)
            rest) 0 (fun _ => 0) := by
        intro rest kept
        split
        · exact Ledger.Carries.andThen (book.carried_plain (.observeForeign _)) fun _ => kept
        · exact kept
      cases requestNew with
      | true => exact released _ request
      | false => exact released _ nothing

theorem carried_txAbort : book.Carried txAbort 0 (fun _ => 0) := by
  have performed : book.Carried (perform World.txAbortLocked) 0 (delivered book.amount) :=
    Ledger.carries_perform rfl book.aborting book.delivered_le
  refine Ledger.Carries.andThen (book.carried_plain (.setTx _ _)) fun _ => ?_
  refine Ledger.Carries.andThen (book.carried_plain (.setTx _ _)) fun _ => ?_
  refine Ledger.Carries.andThen (book.carried_plain (.irq _)) fun _ => ?_
  refine performed.andThen fun evt => ?_
  exact Ledger.Carries.andThen (book.carried_deliver evt) fun _ => fun _ _ has => has

theorem carried_onTxComplete : book.Carried onTxComplete 0 (fun _ => 0) := by
  have performed : book.Carried (perform World.onTxCompleteLocked) 0 (delivered book.amount) :=
    Ledger.carries_perform rfl book.completing book.delivered_le
  refine Ledger.Carries.andThen (Ledger.carries_get _) fun sizeLeft => ?_
  split
  · refine Ledger.Carries.andThen (book.carried_plain (.setTx _ _)) fun _ => ?_
    refine Ledger.Carries.andThen (book.carried_plain (.irq _)) fun _ => ?_
    exact performed.andThen book.carried_deliver
  · exact fun _ _ has => has

/-- The parts of the adapter begin and end with empty hands. -/
def custody : Composed App calls where
  Holds := fun program => book.Carried program 0 (fun _ => 0)
  result := fun _ _ _ has => has
  andThen := Ledger.Carries.andThen
  reading := fun view => Ledger.carries_get view
  question := fun query => Ledger.carries_question (I := interface App) query
  asking := fun _ _ none some owner hand has _ answer allowed => by
    cases answer with
    | none => exact none owner hand has
    | some call => exact some call allowed owner hand has
  calling := fun called _ _ has => ⟨⟨called, has⟩, fun _ _ returned => returned⟩
  plain := book.carried_plain
  event := book.carried_event
  notifying := book.carried_notifyRxBuffer
  switching := book.carried_switchRxBuffer
  aborting := book.carried_txAbort
  completing := book.carried_onTxComplete
  receiving := fun received => book.carried_nothing (book.receiving received)
  receivingAgain := fun received => book.carried_nothing (book.receivingAgain received)
  tx := fun buf len timeout made => book.carried_nothing (book.calling (.tx buf len timeout) made)
  rxEnable := fun buf len timeout made =>
    book.carried_nothing (book.calling (.rxEnable buf len timeout) made)
  rxBufRsp := fun buf len made => book.carried_nothing (book.calling (.rxBufRsp buf len) made)

/-- In every run the invariant holds, and what was taken over is held, has been
delivered, or is in the hand of a call under way. -/
theorem counts {target : AdapterData} {memory : Nat -> Nat -> UInt8} {app : App}
    {current : Pool (interface App) Unit}
    (known : book.inv (World.initial target memory app))
    (initially : book.ledger.taken (World.initial target memory app) =
      book.ledger.held (World.initial target memory app) +
        book.ledger.given (World.initial target memory app))
    (reached : (unobserved calls).Reachable ⟨World.initial target memory app, []⟩ current) :
    book.inv current.state ∧ (book.ledger.spoiled current.state = 0 ->
      book.ledger.held current.state + book.ledger.given current.state ≤
        book.ledger.taken current.state ∧
      book.ledger.taken current.state ≤ book.ledger.held current.state +
        book.ledger.given current.state + current.activities.countP Activity.underWay) := by
  obtain ⟨others, decorated, same⟩ : exists others,
      book.custodians.Reachable ⟨World.initial target memory app, []⟩ ⟨current.state, others⟩ ∧
        SideBySide.SameCalls current.activities others :=
    SideBySide.exists_memories book.custodians (by rfl) (by rfl) reached
  have begins : forall proc (world later : World App), book.inv world ->
      starts calls proc world later ->
      callable calls proc ∧ book.inv later ∧ book.ledger.Untouched world later := by
    intro proc world later holds started
    rcases started with ⟨allowed, ticks, rfl⟩
    refine ⟨?_, book.elapse world ticks holds⟩
    cases proc with
    | apiCall call => exact allowed
    | _ => trivial
  have bodies : forall proc, callable calls proc -> book.Carried (body proc) 0 (fun _ => 0) :=
    fun _ called => book.custody.holds_body called
  have holds := Ledger.holds_of_reachable rfl begins bodies known initially decorated
  refine ⟨holds.inv.1, fun unspoiled => ?_⟩
  rw [← same.countP_underWay]
  exact Ledger.counts_of_holds holds unspoiled

end Book

end Preempted
end Uart
end NrfExamples
