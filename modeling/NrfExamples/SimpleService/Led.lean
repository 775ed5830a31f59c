import NrfExamples.SimpleService.Central

namespace NrfExamples
namespace SimpleService

open Reentrant Prog

/-!
# The LED of the peripheral and button 1 of the central

Two devices on one connection that stays up, with the handles assigned.  An
accepted write travels to `on_write` of the peripheral, and `on_sent` of the
client follows it; nothing is lost and the order is kept.

A change of the button that comes while a write is outstanding meets
`RX_WRITE_PENDING` and is not sent, then or later.  So the LED agrees with the
button as it was at the last change that was accepted.
-/

/-- The LED `CHRC_STATUS_LED` of the peripheral. -/
structure Peripheral where
  statusLed : Bool
  deriving DecidableEq, Repr

/-- `on_write` of the peripheral: the bytes are copied, and a zero put behind
them. -/
def Peripheral.onWrite (peripheral : Peripheral) (buf : List UInt8) : Nat × Peripheral :=
  let tempStr := buf ++ [0x00]
  if tempStr.head? = some 0x01 then (buf.length, { peripheral with statusLed := true })
  else if tempStr.head? = some 0x00 then (buf.length, { peripheral with statusLed := false })
  else (buf.length, peripheral)

/-- `button_state` when no other button is used. -/
def buttonState (pressed : Bool) : UInt32 :=
  if pressed then 1 else 0

/-- The byte that is written for a state of the button turns the LED to it. -/
theorem onWrite_buttonState (peripheral : Peripheral) (pressed : Bool) :
    (peripheral.onWrite [(buttonState pressed).toUInt8]).2.statusLed = pressed := by
  cases pressed <;> rfl

/-! ## The connection -/

/-- A change of button 1: its new state, whether a write was outstanding, and
what `bt_gatt_write` returned if it was called. -/
structure Change where
  pressed : Bool
  outstanding : Bool
  result : Option Int
  deriving DecidableEq, Repr

/-- The peripheral, the writes on their way to it, the number of those that have
arrived and are not completed, and the button with its changes, newest first. -/
structure LedLink where
  peripheral : Peripheral
  sending : List UInt8
  delivered : Nat
  pressed : Bool
  changes : List Change
  deriving DecidableEq, Repr

namespace LedLink

/-- The number of outstanding writes. -/
def outstanding (link : LedLink) : Nat :=
  link.sending.length + link.delivered

/-- The last change whose write was accepted. -/
def lastAccepted (link : LedLink) : Option Change :=
  link.changes.find? fun change => change.result = some 0

/-- Button 1 is pressed or released. -/
def change (link : LedLink) : LedLink :=
  { link with
    pressed := !link.pressed
    changes := ⟨!link.pressed, link.outstanding ≠ 0, none⟩ :: link.changes }

/-- `bt_gatt_write` returns for the newest change. -/
def recordResult (link : LedLink) (err : Int) : LedLink :=
  match link.changes with
  | [] => link
  | newest :: older => { link with changes := { newest with result := some err } :: older }

theorem recordResult_of_cons (link : LedLink) {newest : Change} {older : List Change}
    (changes : link.changes = newest :: older) (err : Int) :
    link.recordResult err =
      { link with changes := { newest with result := some err } :: older } := by
  unfold recordResult
  rw [changes]

def accept (link : LedLink) (data : UInt8) : LedLink :=
  { link with sending := link.sending ++ [data] }

/-- The oldest write on its way arrives. -/
def deliver (link : LedLink) : LedLink :=
  match link.sending with
  | [] => link
  | data :: later =>
      { link with
        peripheral := (link.peripheral.onWrite [data]).2
        sending := later
        delivered := link.delivered + 1 }

def complete (link : LedLink) : LedLink :=
  { link with delivered := link.delivered - 1 }

end LedLink

/-! ## Runs -/

inductive LedEvent
  | change
  | deliver
  | complete (err : UInt8)
  deriving DecidableEq, Repr

abbrev LedProg := CentralProg LedLink LedEvent

abbrev LedState := CentralState LedLink

/-- What the peripheral and the connection do. -/
def network : LedEvent -> LedProg Unit
  | .change => pure ()
  | .deliver => .mapRadio LedLink.deliver
  | .complete err => do
      .mapRadio LedLink.complete
      .invoke (.onSent err)

def ledEnvironment : LedProg Unit := do
  let event <- .ask .next
  if event = .change then
    .mapRadio LedLink.change
    let pressed <- .get fun central => central.radio.pressed
    buttonHandler (buttonState pressed) DK_BTN1_MSK
  else network event
  .invoke .environment

/-- Anything may arrive before `bt_gatt_write` returns. -/
def ledInterrupts : LedProg Unit := do
  let event <- .ask .during
  match event with
  | none => pure ()
  | some event => do
      network event
      .invoke .interrupts

def ledStack : Stack LedLink LedEvent where
  environment := ledEnvironment
  interrupts := ledInterrupts
  btGattSubscribe := fun _ _ => .ask .result
  btGattWrite := fun _ params => do
    let err <- .ask .result
    .mapRadio fun link => link.recordResult err
    if err = 0 then
      .mapRadio fun link => link.accept params.data
    .invoke .interrupts
    pure err
  btGattDmStart := fun _ => .ask .result
  btConnSetSecurity := fun _ => .ask .result

/-- A write arrives when one is on its way, and is completed when it has arrived. -/
def CanArrive (central : LedState) : LedEvent -> Prop
  | .change => False
  | .deliver => central.radio.sending ≠ []
  | .complete _ => central.radio.delivered ≠ 0

def ledSystem : System (clientInterface (Central LedLink) LedEvent) where
  body := centralBody ledStack
  permitted := fun query central answer =>
    match query with
    | .next => answer = .change ∨ CanArrive central answer
    | .result => True
    | .during => forall event, answer = some event -> CanArrive central event

abbrev LedConfig := Config (clientInterface (Central LedLink) LedEvent) Unit

/-- The handles are assigned, no write is outstanding, and the button has not
changed yet. -/
structure LedState.Start (central : LedState) : Prop where
  conn : central.service.conn ≠ none
  free : central.service.rxWritePending = false
  sending : central.radio.sending = []
  delivered : central.radio.delivered = 0
  changes : central.radio.changes = []

/-- The configurations of all runs. -/
def LedReached (current : LedConfig) : Prop :=
  exists start : LedState, start.Start ∧ ledSystem.Reachable ⟨start, ledEnvironment⟩ current

/-! ## What holds at each point -/

/-- The bit is set while a write is outstanding, of which there is at most one;
`held` says that it is set without one.  The write on its way carries the last
accepted state of the button, and when it has arrived the LED shows it. -/
structure LedInv (held : Bool) (central : LedState) : Prop where
  conn : central.service.conn ≠ none
  pending : central.service.rxWritePending = true <->
    held = true ∨ central.radio.outstanding ≠ 0
  single : central.radio.outstanding ≤ 1
  alone : held = true -> central.radio.outstanding = 0
  sending : forall data, data ∈ central.radio.sending -> exists last,
    central.radio.lastAccepted = some last ∧ data = (buttonState last.pressed).toUInt8
  arrived : central.radio.sending = [] -> forall last,
    central.radio.lastAccepted = some last -> central.radio.peripheral.statusLed = last.pressed

/-- `bt_gatt_write` was called for the changes that found no write outstanding. -/
def Settled (changes : List Change) : Prop :=
  forall change, change ∈ changes -> (change.outstanding = false <-> change.result ≠ none)

/-- The newest change is being handled, and `data` is the byte to write for it. -/
def Handling (data : UInt8) (central : LedState) : Prop :=
  exists pressed older,
    central.radio.changes = ⟨pressed, central.radio.outstanding ≠ 0, none⟩ :: older ∧
      Settled older ∧ data = (buttonState pressed).toUInt8

namespace LedInv

variable {central : LedState} {held : Bool}

theorem start (starts : central.Start) : LedInv false central := by
  have idle : central.radio.outstanding = 0 := by
    unfold LedLink.outstanding
    rw [starts.sending, starts.delivered]
    rfl
  have none : central.radio.lastAccepted = none := by
    unfold LedLink.lastAccepted
    rw [starts.changes]
    rfl
  refine ⟨starts.conn, ?_, ?_, nofun, ?_, ?_⟩
  · rw [starts.free, idle]
    simp
  · rw [idle]
    exact Nat.zero_le 1
  · rw [starts.sending]
    exact fun _ absent => absurd absent List.not_mem_nil
  · rw [none]
    exact fun _ _ impossible => nomatch impossible

/-- A change of the button is not accepted yet. -/
theorem change (holds : LedInv false central) (settled : Settled central.radio.changes) :
    LedInv false (central.mapRadio LedLink.change) ∧
      Handling (buttonState (central.mapRadio LedLink.change).radio.pressed).toUInt8
        (central.mapRadio LedLink.change) := by
  have same : (central.mapRadio LedLink.change).radio.lastAccepted =
      central.radio.lastAccepted := rfl
  refine ⟨⟨holds.conn, holds.pending, holds.single, holds.alone, ?_, ?_⟩, ?_⟩
  · rw [same]
    exact holds.sending
  · rw [same]
    exact holds.arrived
  · exact ⟨_, _, rfl, settled, rfl⟩

/-- A write that arrives sets the LED to what it carries. -/
theorem deliver (holds : LedInv held central) (waiting : central.radio.sending ≠ []) :
    LedInv held (central.mapRadio LedLink.deliver) ∧
      (central.mapRadio LedLink.deliver).radio.changes = central.radio.changes := by
  rcases List.exists_cons_of_ne_nil waiting with ⟨data, later, queue⟩
  have delivers : central.radio.deliver = { central.radio with
      peripheral := (central.radio.peripheral.onWrite [data]).2
      sending := later
      delivered := central.radio.delivered + 1 } := by
    unfold LedLink.deliver
    rw [queue]
  have single := holds.single
  unfold LedLink.outstanding at single
  rw [queue, List.length_cons] at single
  have none : later = [] := List.length_eq_zero_iff.mp (by omega)
  have same : (central.mapRadio LedLink.deliver).radio.outstanding =
      central.radio.outstanding := by
    change central.radio.deliver.outstanding = _
    rw [delivers]
    change later.length + (central.radio.delivered + 1) =
      central.radio.sending.length + central.radio.delivered
    rw [queue, List.length_cons]
    omega
  have changes : (central.mapRadio LedLink.deliver).radio.changes = central.radio.changes := by
    change central.radio.deliver.changes = _
    rw [delivers]
  have accepted : (central.mapRadio LedLink.deliver).radio.lastAccepted =
      central.radio.lastAccepted := congrArg (List.find? _) changes
  refine ⟨⟨holds.conn, ?_, ?_, ?_, ?_, ?_⟩, changes⟩
  · rw [same]
    exact holds.pending
  · rw [same]
    exact holds.single
  · rw [same]
    exact holds.alone
  · have empty : (central.mapRadio LedLink.deliver).radio.sending = [] := by
      change central.radio.deliver.sending = _
      rw [delivers]
      exact none
    rw [empty]
    exact fun _ absent => absurd absent List.not_mem_nil
  · intro _ last found
    rw [accepted] at found
    rcases holds.sending data (queue ▸ List.mem_cons_self) with ⟨other, sent, carries⟩
    cases found.symm.trans sent
    change central.radio.deliver.peripheral.statusLed = _
    rw [delivers, carries]
    exact onWrite_buttonState _ _

/-- The end of the only write. -/
theorem complete (holds : LedInv held central) (waiting : central.radio.delivered ≠ 0) :
    LedInv true (central.mapRadio LedLink.complete) := by
  have single := holds.single
  have busy : central.radio.outstanding ≠ 0 := by
    unfold LedLink.outstanding
    omega
  have idle : (central.mapRadio LedLink.complete).radio.outstanding = 0 := by
    change central.radio.sending.length + (central.radio.delivered - 1) = 0
    unfold LedLink.outstanding at single
    omega
  refine ⟨holds.conn, ⟨fun _ => .inl rfl, fun _ => holds.pending.mpr (.inr busy)⟩, ?_, fun _ => idle,
    holds.sending, holds.arrived⟩
  rw [idle]
  exact Nat.zero_le 1

/-- The lock is taken: the bit is set and no write is outstanding. -/
theorem take (holds : LedInv false central) (free : central.service.rxWritePending = false) :
    LedInv true (central.mapService fun service => service.testAndSetWritePending.2) := by
  by_cases idle : central.radio.outstanding = 0
  · exact ⟨holds.conn, ⟨fun _ => .inl rfl, fun _ => rfl⟩, holds.single, fun _ => idle,
      holds.sending, holds.arrived⟩
  · rw [holds.pending.mpr (.inr idle)] at free
    cases free

/-- Where the bit is set already, a write is outstanding. -/
theorem blocked (holds : LedInv false central) (pending : central.service.rxWritePending = true) :
    LedInv false (central.mapService fun service => service.testAndSetWritePending.2) ∧
      central.radio.outstanding ≠ 0 := by
  rcases holds.pending.mp pending with impossible | busy
  · cases impossible
  · exact ⟨⟨holds.conn, ⟨fun _ => .inr busy, fun _ => rfl⟩, holds.single, nofun, holds.sending,
      holds.arrived⟩, busy⟩

/-- The lock is given back. -/
theorem clear (holds : LedInv true central) :
    LedInv false (central.mapService BtSimpleService.clearWritePending) := by
  have idle := holds.alone rfl
  refine ⟨holds.conn, ⟨nofun, ?_⟩, holds.single, nofun, holds.sending, holds.arrived⟩
  rintro (impossible | busy)
  · cases impossible
  · exact absurd idle busy

/-- A change whose write is refused does not count. -/
theorem refuse (holds : LedInv true central) {newest : Change} {older : List Change}
    (changes : central.radio.changes = newest :: older) (unanswered : newest.result = none)
    {err : Int} (fails : err ≠ 0) :
    LedInv true (central.mapRadio fun link => link.recordResult err) := by
  have records := central.radio.recordResult_of_cons changes err
  have accepted : (central.radio.recordResult err).lastAccepted = central.radio.lastAccepted := by
    unfold LedLink.lastAccepted
    rw [records, changes]
    simp [unanswered, fails]
  have same : (central.radio.recordResult err).outstanding = central.radio.outstanding := by
    rw [records]
    rfl
  refine ⟨holds.conn, ?_, ?_, ?_, ?_, ?_⟩
  · change _ <-> _ ∨ (central.radio.recordResult err).outstanding ≠ 0
    rw [same]
    exact holds.pending
  · change (central.radio.recordResult err).outstanding ≤ 1
    rw [same]
    exact holds.single
  · change _ -> (central.radio.recordResult err).outstanding = 0
    rw [same]
    exact holds.alone
  · change forall data, data ∈ (central.radio.recordResult err).sending ->
      exists last, (central.radio.recordResult err).lastAccepted = some last ∧ _
    rw [accepted, records]
    exact holds.sending
  · change (central.radio.recordResult err).sending = [] -> forall last,
      (central.radio.recordResult err).lastAccepted = some last ->
        (central.radio.recordResult err).peripheral.statusLed = last.pressed
    rw [accepted, records]
    exact holds.arrived

/-- An accepted write is the only one on its way, and carries the newest state. -/
theorem accept (holds : LedInv true central) {newest : Change} {older : List Change}
    (changes : central.radio.changes = newest :: older) :
    LedInv false (central.mapRadio fun link =>
      (link.recordResult 0).accept (buttonState newest.pressed).toUInt8) := by
  have records := central.radio.recordResult_of_cons changes 0
  have idle := holds.alone rfl
  unfold LedLink.outstanding at idle
  have empty : central.radio.sending = [] := List.length_eq_zero_iff.mp (by omega)
  have later : (central.mapRadio fun link =>
      (link.recordResult 0).accept (buttonState newest.pressed).toUInt8).radio =
        { central.radio with
          sending := [(buttonState newest.pressed).toUInt8]
          changes := { newest with result := some 0 } :: older } := by
    change (central.radio.recordResult 0).accept _ = _
    rw [records]
    unfold LedLink.accept
    rw [empty]
    rfl
  have one : (central.mapRadio fun link =>
      (link.recordResult 0).accept (buttonState newest.pressed).toUInt8).radio.outstanding = 1 := by
    rw [later]
    change 1 + central.radio.delivered = 1
    omega
  refine ⟨holds.conn, ⟨fun _ => .inr ?_, fun _ => holds.pending.mpr (.inl rfl)⟩, ?_, nofun, ?_, ?_⟩
  · rw [one]
    exact Nat.one_ne_zero
  · exact Nat.le_of_eq one
  · rw [later]
    intro data member
    exact ⟨_, List.find?_cons_of_pos (decide_eq_true rfl), List.mem_singleton.mp member⟩
  · rw [later]
    exact fun impossible => absurd impossible (List.cons_ne_nil _ _)

end LedInv

/-- The newest change settles when its handling ends. -/
theorem Settled.cons {change : Change} {older : List Change} (settled : Settled older)
    (own : change.outstanding = false <-> change.result ≠ none) : Settled (change :: older) := by
  intro other member
  rcases List.mem_cons.mp member with rfl | old
  · exact own
  · exact settled other old

/-! ## Every procedure keeps it -/

/-- The ghost value says whether the lock is held without an outstanding write. -/
def ledContract : Contract (clientInterface (Central LedLink) LedEvent) where
  Ghost := fun _ => Bool
  always := fun _ => True
  asked := fun query central =>
    match query with
    | .next => LedInv false central ∧ Settled central.radio.changes
    | _ => True
  pre := fun proc held central =>
    match proc with
    | .environment => LedInv false central ∧ Settled central.radio.changes
    | .interrupts | .sent _ _ => LedInv held central ∧ Settled central.radio.changes
    | .setLed data => LedInv false central ∧ Handling data central
    | .btGattWrite _ params => LedInv true central ∧ Handling params.data central
    | .onSent _ => LedInv true central ∧ Settled central.radio.changes
    | _ => False
  post := fun proc held result central =>
    match proc with
    | .interrupts | .sent _ _ => LedInv held central ∧ Settled central.radio.changes
    | .setLed _ | .onSent _ => LedInv false central ∧ Settled central.radio.changes
    | .btGattWrite _ _ =>
        LedInv (decide ((result : Int) ≠ 0)) central ∧ Settled central.radio.changes
    | _ => True

/-- What a program needs under this contract. -/
abbrev LedSafe {A : Type} (program : LedProg A) (goal : A -> LedState -> Prop)
    (central : LedState) : Prop :=
  Prog.Safe ledSystem ledContract program goal central

section Procedures

variable {central : LedState} {held : Bool}

theorem safe_ledOnSent (holds : LedInv true central) (settled : Settled central.radio.changes)
    (err : UInt8) :
    LedSafe (onSent err)
      (fun _ later => LedInv false later ∧ Settled later.radio.changes) central := by
  unfold LedSafe onSent
  simp only [Prog.safe_monadBind, Prog.safe_ite, Prog.safe_pure, Prog.safe_modify,
    Prog.safe_get, Prog.invoke, Prog.safe_call, Prog.safe_ret]
  refine ⟨trivial, trivial, trivial, fun _ => ?_, fun _ => ⟨holds.clear, settled⟩⟩
  exact ⟨false, ⟨holds.clear, settled⟩, fun _ _ _ kept => kept⟩

/-- What the connection does keeps the invariant. -/
theorem safe_network (holds : LedInv held central) (settled : Settled central.radio.changes)
    {event : LedEvent} (arrives : CanArrive central event) :
    LedSafe (network event)
      (fun _ later => LedInv held later ∧ Settled later.radio.changes) central := by
  unfold LedSafe
  cases event with
  | change => exact arrives.elim
  | deliver =>
      rcases holds.deliver arrives with ⟨kept, same⟩
      refine ⟨trivial, kept, ?_⟩
      rw [same]
      exact settled
  | complete err =>
      simp only [network, Prog.safe_monadBind, Prog.safe_modify, Prog.invoke, Prog.safe_call,
        Prog.safe_ret]
      have notHeld : held = false := by
        cases held with
        | false => rfl
        | true =>
            have idle := holds.alone rfl
            unfold LedLink.outstanding at idle
            exact absurd (Nat.eq_zero_of_add_eq_zero_left idle) arrives
      refine ⟨trivial, false, ⟨holds.complete arrives, settled⟩, fun _ later _ kept => ?_⟩
      rw [notHeld]
      exact kept

theorem safe_ledInterrupts (holds : LedInv held central)
    (settled : Settled central.radio.changes) :
    LedSafe ledInterrupts
      (fun _ later => LedInv held later ∧ Settled later.radio.changes) central := by
  unfold LedSafe ledInterrupts
  simp only [Prog.safe_monadBind, Prog.question, Prog.safe_ask, Prog.safe_ret]
  refine ⟨trivial, fun event allowed => ?_⟩
  cases event with
  | none => exact ⟨holds, settled⟩
  | some event =>
      simp only [Prog.safe_monadBind, Prog.invoke]
      apply (safe_network holds settled (allowed event rfl)).mono
      intro _ later kept
      exact ⟨held, kept, fun _ _ _ promised => promised⟩

/-- `bt_gatt_write` answers the newest change, and more may arrive before it
returns. -/
theorem safe_ledWrite (holds : LedInv true central) {params : WriteParams}
    (handling : Handling params.data central) (conn : Option Conn) :
    LedSafe (ledStack.btGattWrite conn params) (fun err later =>
      LedInv (decide (err ≠ 0)) later ∧ Settled later.radio.changes) central := by
  unfold LedSafe ledStack
  simp only [Prog.safe_monadBind, Prog.question, Prog.safe_ask, Prog.safe_ret, Prog.safe_ite,
    Prog.safe_pure, Prog.safe_modify, Prog.invoke, Prog.safe_call]
  rcases handling with ⟨pressed, older, changes, settled, carries⟩
  have idle : decide (central.radio.outstanding ≠ 0) = false := by
    rw [holds.alone rfl]
    rfl
  rw [idle] at changes
  have answered (err : Int) : Settled (central.radio.recordResult err).changes := by
    rw [central.radio.recordResult_of_cons changes err]
    exact settled.cons ⟨fun _ => Option.some_ne_none err, fun _ => rfl⟩
  refine ⟨trivial, fun err _ => ⟨trivial, fun accepted => ?_, fun refused => ?_⟩⟩
  · rw [accepted, carries]
    exact ⟨trivial, false, ⟨holds.accept changes, answered 0⟩, fun _ _ _ kept => kept⟩
  · rw [decide_eq_true refused]
    exact ⟨true, ⟨holds.refuse changes rfl refused, answered err⟩, fun _ _ _ kept => kept⟩

theorem safe_ledSetLed (holds : LedInv false central) {data : UInt8}
    (handling : Handling data central) :
    LedSafe (btSimpleServiceSetLed data)
      (fun _ later => LedInv false later ∧ Settled later.radio.changes) central := by
  unfold LedSafe btSimpleServiceSetLed
  simp only [Prog.safe_monadBind, Prog.safe_perform, Prog.safe_ite, Prog.safe_pure,
    Prog.safe_modify, Prog.safe_get, Prog.invoke, Prog.safe_call, Prog.safe_ret]
  refine ⟨trivial, fun absent => absurd absent holds.conn, fun _ => ⟨trivial, fun pending => ?_,
    fun free => ?_⟩⟩
  · rcases holds.blocked pending with ⟨kept, busy⟩
    rcases handling with ⟨pressed, older, changes, settled, _⟩
    refine ⟨kept, ?_⟩
    change Settled central.radio.changes
    rw [changes, decide_eq_true busy]
    exact settled.cons ⟨fun impossible => absurd impossible.symm Bool.false_ne_true,
      fun impossible => absurd rfl impossible⟩
  · have taken := holds.take (Bool.eq_false_iff.mpr free)
    have ready : LedInv true ((central.mapService fun service =>
        service.testAndSetWritePending.2).mapService fun service => service.setWriteParams data) :=
      ⟨taken.conn, taken.pending, taken.single, taken.alone, taken.sending, taken.arrived⟩
    refine ⟨trivial, trivial, false, ⟨ready, handling⟩, fun (err : Int) later _ kept => ?_⟩
    change LedInv (decide (err ≠ 0)) later ∧ Settled later.radio.changes at kept
    refine ⟨fun failed => ⟨trivial, ?_⟩, fun succeeded => ?_⟩
    · rw [decide_eq_true failed] at kept
      exact ⟨kept.1.clear, kept.2⟩
    · rw [decide_eq_false succeeded] at kept
      exact kept

theorem safe_ledEnvironment (holds : LedInv false central)
    (settled : Settled central.radio.changes) :
    LedSafe ledEnvironment (fun _ _ => True) central := by
  unfold LedSafe ledEnvironment buttonHandler
  simp only [Prog.safe_monadBind, Prog.question, Prog.safe_ask, Prog.safe_ret, Prog.safe_ite,
    Prog.safe_pure, Prog.safe_modify, Prog.safe_get, Prog.invoke, Prog.safe_call]
  refine ⟨⟨holds, settled⟩, fun event allowed => ⟨fun changes => ?_, fun other => ?_⟩⟩
  · rcases holds.change settled with ⟨kept, handling⟩
    refine ⟨trivial, trivial, fun _ => ?_, fun impossible => absurd trivial impossible⟩
    exact ⟨false, ⟨kept, handling⟩, fun _ _ _ settled => ⟨false, settled, fun _ _ _ _ => trivial⟩⟩
  · have arrives := allowed.resolve_left other
    apply (safe_network holds settled arrives).mono
    intro _ later kept
    exact ⟨false, kept, fun _ _ _ _ => trivial⟩

end Procedures

theorem led_honours : ledSystem.Honours ledContract := by
  intro proc held central _ assumed
  cases proc with
  | environment => exact safe_ledEnvironment assumed.1 assumed.2
  | interrupts => exact safe_ledInterrupts assumed.1 assumed.2
  | setLed data => exact safe_ledSetLed assumed.1 assumed.2
  | onSent err => exact safe_ledOnSent assumed.1 assumed.2 err
  | sent err params => exact assumed
  | btGattWrite conn params => exact safe_ledWrite assumed.1 assumed.2 conn
  | _ => exact assumed.elim

/-- No callback is running: the environment chooses what comes next. -/
def BetweenEvents (current : LedConfig) : Prop :=
  exists next, current.prog = .ask .next next

/-- Once no write is outstanding, the LED shows the button as it was at the last
change that was accepted; and `bt_gatt_write` was called for exactly the changes
that found no write outstanding. -/
structure FollowsAccepted (current : LedConfig) : Prop where
  led : BetweenEvents current -> current.state.radio.outstanding = 0 -> forall last,
    current.state.radio.lastAccepted = some last ->
      current.state.radio.peripheral.statusLed = last.pressed
  sent : BetweenEvents current -> forall change, change ∈ current.state.radio.changes ->
    (change.outstanding = false <-> change.result ≠ none)

instance (central : LedState) (event : LedEvent) : Decidable (CanArrive central event) :=
  match event with
  | .change => .isFalse id
  | .deliver => inferInstanceAs (Decidable (_ ≠ []))
  | .complete _ => inferInstanceAs (Decidable (_ ≠ 0))

instance (query : ClientQuery) (central : LedState) (answer : ClientAnswer LedEvent query) :
    Decidable (ledSystem.permitted query central answer) :=
  match query, answer with
  | .next, answer => inferInstanceAs (Decidable (answer = .change ∨ CanArrive central answer))
  | .result, _ => .isTrue trivial
  | .during, none => .isTrue nofun
  | .during, some event =>
      decidable_of_iff (CanArrive central event)
        ⟨fun arrives _ same => Option.some.inj same ▸ arrives, fun all => all event rfl⟩

/-- The handles are assigned on connection object 7. -/
def ledStart : LedState where
  service := { BtSimpleService.zero with
    conn := some 7, handles := ⟨21, 18, 19⟩, initialized := true, cb := ⟨true, true, false⟩ }
  env := ⟨some 7, false, true, ⟨⟨false⟩, [], 0, false, []⟩⟩

def ledScripted (script : List (Sigma (ClientAnswer LedEvent))) : LedConfig :=
  ledSystem.play (I := clientInterface (Central LedLink) LedEvent) 100 script
    ⟨ledStart, ledEnvironment⟩

theorem ledScripted_reached (script : List (Sigma (ClientAnswer LedEvent))) :
    LedReached (ledScripted script) :=
  ⟨ledStart, ⟨nofun, rfl, rfl, rfl, rfl⟩, ledSystem.play_reachable 100 script _⟩

/-- Button 1 is pressed, and its write is accepted. -/
def pressing : List (Sigma (ClientAnswer LedEvent)) :=
  [⟨.next, .change⟩, ⟨.result, (0 : Int)⟩, ⟨.during, none⟩]

/-- The write arrives and is completed. -/
def arriving : List (Sigma (ClientAnswer LedEvent)) :=
  [⟨.next, .deliver⟩, ⟨.next, .complete 0⟩]

/-- Button 1 is released after the write for its press has been completed; the
write for its release arrives before `bt_gatt_write` returns. -/
def releasedRun : LedConfig :=
  ledScripted (pressing ++ arriving ++
    [⟨.next, .change⟩, ⟨.result, (0 : Int)⟩, ⟨.during, some .deliver⟩,
      ⟨.during, some (.complete 0)⟩, ⟨.during, none⟩])

/-- Button 1 is released while the write for its press is outstanding. -/
def overlappingRun : LedConfig :=
  ledScripted (pressing ++ [⟨.next, .change⟩] ++ arriving)

end SimpleService
end NrfExamples
