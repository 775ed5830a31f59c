import NrfExamples.Traces.Machine

namespace NrfExamples
namespace SimpleService
namespace Reconnecting

open Traces

/-!
# Whether the peripheral can be connected again

The connection and pairing callbacks of `main.c` of `peripheral_simple_service`.  There
is one connection object (`CONFIG_BT_MAX_CONN` is 1).  The stack holds a reference to it
while the link is up, `current_conn` and `auth_conn` hold one each, and it can be used
for the next link once all are given back.  A passkey that is asked for again on the same
link overwrites the reference in `auth_conn`.
-/

inductive Call
  | btConnRef
  | btConnUnref
  | btConnAuthPasskeyEntry (passkey : Nat)
  | btConnAuthPairingConfirm
  | btConnDisconnect
  deriving DecidableEq, Repr

/-- `FIXED_PASSWORD` -/
abbrev FIXED_PASSWORD : Nat := 123456

/-- Whether `current_conn` and `auth_conn` point to the connection object, and the
connection LED. -/
structure Callbacks where
  currentConn : Bool
  authConn : Bool
  conStatusLed : Bool
  deriving DecidableEq, Repr

inductive Event
  | connected (err : UInt8)
  | disconnected (reason : UInt8)
  | securityChanged (level : Nat) (err : UInt8)
  | authPasskeyEntry
  | authCancel
  | pairingConfirm
  | pairingComplete (bonded : Bool)
  | pairingFailed (reason : UInt8)
  deriving DecidableEq, Repr

/-! ## The callbacks -/

/-- `connected` -/
def connected (err : UInt8) (callbacks : Callbacks) : Callbacks × List Call :=
  if err ≠ 0 then (callbacks, [])
  else ({ callbacks with currentConn := true, conStatusLed := true }, [.btConnRef])

/-- `disconnected` -/
def disconnected (callbacks : Callbacks) : Callbacks × List Call :=
  let auth : List Call := if callbacks.authConn = true then [.btConnUnref] else []
  if callbacks.currentConn = true then (⟨false, false, false⟩, auth ++ [.btConnUnref])
  else ({ callbacks with authConn := false }, auth)

/-- `auth_passkey_entry` -/
def authPasskeyEntry (callbacks : Callbacks) : Callbacks × List Call :=
  ({ callbacks with authConn := true }, [.btConnRef, .btConnAuthPasskeyEntry FIXED_PASSWORD])

def handle (callbacks : Callbacks) : Event -> Callbacks × List Call
  | .connected err => connected err callbacks
  | .disconnected _ => disconnected callbacks
  | .authPasskeyEntry => authPasskeyEntry callbacks
  | .pairingConfirm => (callbacks, [.btConnAuthPairingConfirm])
  | .pairingFailed _ => (callbacks, [.btConnDisconnect])
  | .securityChanged _ _ | .authCancel | .pairingComplete _ => (callbacks, [])

/-! ## Runs with one connection object -/

/-- What a handler takes, less what it gives back. -/
def taken (calls : List Call) : Int :=
  calls.count .btConnRef - calls.count .btConnUnref

/-- The program, whether the link is up, and the references to the connection object. -/
structure Peripheral where
  callbacks : Callbacks
  up : Bool
  refs : Int
  deriving DecidableEq, Repr

/-- The reference of the stack: taken when the link is made, and given back after the
program has been told that it has ended. -/
def Event.takenByStack : Event -> Int
  | .connected err => if err = 0 then 1 else 0
  | .disconnected _ => -1
  | _ => 0

def Event.link (up : Bool) : Event -> Bool
  | .connected err => up || err == 0
  | .disconnected _ => false
  | _ => up

def step (peripheral : Peripheral) (event : Event) : Peripheral where
  callbacks := (handle peripheral.callbacks event).1
  up := event.link peripheral.up
  refs := peripheral.refs + event.takenByStack + taken (handle peripheral.callbacks event).2

/-- A link is made with a connection object to which nobody holds a reference. -/
def CanHappen (peripheral : Peripheral) : Event -> Prop
  | .connected err => peripheral.up = false ∧ (err = 0 -> peripheral.refs = 0)
  | _ => peripheral.up = true

instance (peripheral : Peripheral) (event : Event) : Decidable (CanHappen peripheral event) :=
  match event with
  | .connected _ => inferInstanceAs (Decidable (_ ∧ _))
  | .disconnected _ | .securityChanged _ _ | .authPasskeyEntry | .authCancel | .pairingConfirm
  | .pairingComplete _ | .pairingFailed _ => inferInstanceAs (Decidable (_ = true))

def peripheral : Machine Peripheral Event where
  start := ⟨⟨false, false, false⟩, false, 0⟩
  step := step
  possible := CanHappen

/-- The event is on the link that is up. -/
def Event.stays : Event -> Bool
  | .connected _ | .disconnected _ => false
  | _ => true

/-- A passkey has been asked for on the link that is up. -/
def Asked (events : List Event) : Prop :=
  Since (fun event => event.stays = true) (fun _ event => event = .authPasskeyEntry) events

/-- No link was asked for its passkey twice. -/
def AskedOnce (events : List Event) : Prop :=
  Always (fun before event => event = .authPasskeyEntry -> ¬ Asked before) events

/-! ## References without a pointer -/

/-- The references that neither the stack nor a pointer accounts for. -/
def Peripheral.unaccounted (peripheral : Peripheral) : Int :=
  peripheral.refs - peripheral.up.toNat - peripheral.callbacks.currentConn.toNat -
    peripheral.callbacks.authConn.toNat

/-- `current_conn` and the LED tell whether the link is up, and `auth_conn` whether a
passkey has been asked for on it.  A reference is lost each time it has been before. -/
structure Knows (events : List Event) (peripheral : Peripheral) : Prop where
  currentConn : peripheral.callbacks.currentConn = peripheral.up
  conStatusLed : peripheral.callbacks.conStatusLed = peripheral.up
  authConn : peripheral.callbacks.authConn = true <-> Asked events
  down : peripheral.callbacks.authConn = true -> peripheral.up = true
  accounted : 0 ≤ peripheral.unaccounted
  lost : peripheral.unaccounted = 0 <-> AskedOnce events

variable {events : List Event} {state : Peripheral} {event : Event}

theorem asked_concat : Asked (events ++ [event]) <->
    event = .authPasskeyEntry ∨ Asked events ∧ event.stays = true :=
  since_concat

theorem askedOnce_concat : AskedOnce (events ++ [event]) <->
    AskedOnce events ∧ (event = .authPasskeyEntry -> ¬ Asked events) :=
  always_concat

theorem askedOnce_append (event : Event) (noPasskey : event ≠ .authPasskeyEntry) :
    AskedOnce (events ++ [event]) <-> AskedOnce events := by
  rw [askedOnce_concat]
  exact and_iff_left fun same => absurd same noPasskey

/-- An event on the link that changes neither pointers nor references. -/
theorem Knows.pass (knows : Knows events state) (noPasskey : event ≠ .authPasskeyEntry)
    (stays : event.stays = true) : Knows (events ++ [event]) state := by
  refine { knows with authConn := ?_, lost := ?_ }
  · rw [asked_concat, or_iff_right noPasskey, and_iff_left stays]
    exact knows.authConn
  · rw [askedOnce_append event noPasskey]
    exact knows.lost

/-- An event that begins or ends a link leaves nothing asked. -/
theorem not_asked (event : Event) (noPasskey : event ≠ .authPasskeyEntry) (leaves : event.stays = false) :
    ¬ Asked (events ++ [event]) := by
  rw [asked_concat, or_iff_right noPasskey]
  exact fun both => nomatch leaves.symm.trans both.2

/-! ## What each callback does to the references -/

theorem step_connected_of_ne {err : UInt8} (failed : err ≠ 0) :
    step state (.connected err) = state := by
  have noLink : (err == 0) = false := beq_false_of_ne failed
  have handled : handle state.callbacks (.connected err) = (state.callbacks, []) := if_pos failed
  unfold step Event.takenByStack Event.link
  rw [handled]
  simp [taken, failed, noLink]

theorem step_connected :
    step state (.connected 0) =
      ⟨⟨true, state.callbacks.authConn, true⟩, true, state.refs + 2⟩ := by
  simp [step, handle, connected, Event.takenByStack, Event.link, taken]
  omega

theorem step_authPasskeyEntry :
    step state .authPasskeyEntry =
      ⟨{ state.callbacks with authConn := true }, state.up, state.refs + 1⟩ := by
  simp [step, handle, authPasskeyEntry, Event.takenByStack, Event.link, taken]

/-- Both pointers give their references back, then the stack does. -/
theorem step_disconnected (reason : UInt8) (pointer : state.callbacks.currentConn = true) :
    step state (.disconnected reason) = ⟨⟨false, false, false⟩, false,
      state.refs - 2 - state.callbacks.authConn.toNat⟩ := by
  unfold step handle disconnected Event.takenByStack Event.link taken
  rw [if_pos pointer]
  cases state.callbacks.authConn with
  | false => simp; omega
  | true => simp; omega

/-- The other callbacks take and give back nothing. -/
theorem step_aside (stays : event.stays = true) (noPasskey : event ≠ .authPasskeyEntry) :
    step state event = state := by
  match event, stays with
  | .authPasskeyEntry, _ => exact absurd rfl noPasskey
  | .securityChanged _ _, _ | .authCancel, _ | .pairingConfirm, _ | .pairingComplete _, _
  | .pairingFailed _, _ =>
      simp [step, handle, Event.takenByStack, Event.link, taken]

theorem Knows.connected (knows : Knows events state) (err : UInt8) (down : state.up = false) :
    Knows (events ++ [.connected err]) (step state (.connected err)) := by
  have unset : ¬ state.callbacks.authConn = true := fun isSet =>
    nomatch down.symm.trans (knows.down isSet)
  have notAsked : ¬ Asked (events ++ [.connected err]) := not_asked _ nofun rfl
  have askedOnce : AskedOnce (events ++ [.connected err]) <-> AskedOnce events :=
    askedOnce_append (.connected err) nofun
  by_cases succeeds : err = 0
  · subst succeeds
    have same : (step state (.connected 0)).unaccounted = state.unaccounted := by
      rw [step_connected]
      unfold Peripheral.unaccounted
      rw [knows.currentConn, down]
      change state.refs + 2 - 1 - 1 - (state.callbacks.authConn.toNat : Int) =
        state.refs - 0 - 0 - state.callbacks.authConn.toNat
      omega
    refine ⟨?_, ?_, ?_, ?_, same ▸ knows.accounted, ?_⟩
    · rw [step_connected]
    · rw [step_connected]
    · rw [step_connected]
      exact iff_of_false unset notAsked
    · rw [step_connected]
      exact fun _ => rfl
    · rw [same, askedOnce]
      exact knows.lost
  · rw [step_connected_of_ne succeeds]
    exact { knows with
      authConn := iff_of_false unset notAsked
      lost := knows.lost.trans askedOnce.symm }

theorem Knows.disconnected (knows : Knows events state) (reason : UInt8) (up : state.up = true) :
    Knows (events ++ [.disconnected reason]) (step state (.disconnected reason)) := by
  have pointer := knows.currentConn.trans up
  have same : (step state (.disconnected reason)).unaccounted = state.unaccounted := by
    rw [step_disconnected reason pointer]
    unfold Peripheral.unaccounted
    rw [pointer, up]
    change state.refs - 2 - _ - 0 - 0 - 0 = state.refs - 1 - 1 - _
    omega
  refine ⟨?_, ?_, ?_, ?_, same ▸ knows.accounted, ?_⟩
  · rw [step_disconnected reason pointer]
  · rw [step_disconnected reason pointer]
  · rw [step_disconnected reason pointer]
    exact iff_of_false nofun (not_asked (.disconnected reason) nofun rfl)
  · rw [step_disconnected reason pointer]
    exact nofun
  · rw [same, askedOnce_append (.disconnected reason) nofun]
    exact knows.lost

theorem Knows.asked (knows : Knows events state) (up : state.up = true) :
    Knows (events ++ [.authPasskeyEntry]) (step state .authPasskeyEntry) := by
  have more : (step state .authPasskeyEntry).unaccounted =
      state.unaccounted + state.callbacks.authConn.toNat := by
    rw [step_authPasskeyEntry]
    unfold Peripheral.unaccounted
    change state.refs + 1 - state.up.toNat - state.callbacks.currentConn.toNat - 1 = _
    omega
  have accounted := knows.accounted
  refine ⟨?_, ?_, ?_, ?_, ?_, ?_⟩
  · rw [step_authPasskeyEntry]
    exact knows.currentConn
  · rw [step_authPasskeyEntry]
    exact knows.conStatusLed
  · rw [step_authPasskeyEntry]
    exact iff_of_true rfl (asked_concat.mpr (.inl rfl))
  · rw [step_authPasskeyEntry]
    exact fun _ => up
  · rw [more]
    omega
  · rw [more, askedOnce_concat, ← knows.lost, ← knows.authConn]
    cases state.callbacks.authConn with
    | false =>
        change state.unaccounted + 0 = 0 <-> _
        simp
    | true =>
        change state.unaccounted + 1 = 0 <-> _
        simp
        omega

theorem knows_step (knows : Knows events state) (possible : CanHappen state event) :
    Knows (events ++ [event]) (step state event) := by
  by_cases asks : event = .authPasskeyEntry
  · subst asks
    exact knows.asked possible
  · cases stays : event.stays with
    | true =>
        rw [step_aside stays asks]
        exact knows.pass asks stays
    | false =>
        match event, stays, possible with
        | .connected err, _, ⟨down, _⟩ => exact knows.connected err down
        | .disconnected reason, _, up => exact knows.disconnected reason up

theorem knows_run (allowed : peripheral.Allowed events) : Knows events (peripheral.run events) := by
  induction events using List.reverseRecOn with
  | nil =>
      exact ⟨rfl, rfl, iff_of_false nofun not_since_nil, nofun, Int.le_refl 0,
        iff_of_true rfl always_nil⟩
  | append_singleton events event inductionHypothesis =>
      rcases Machine.each_concat.mp allowed with ⟨before, possible⟩
      rw [Machine.run_concat]
      exact knows_step (inductionHypothesis before) possible

/-- While a reference is lost, no link is made. -/
theorem stays_down (down : state.up = false) (lost : state.refs ≠ 0)
    (possible : CanHappen state event) : step state event = state := by
  match event, possible with
  | .connected err, ⟨_, free⟩ =>
      exact step_connected_of_ne fun succeeds => lost (free succeeds)
  | .disconnected _, up | .securityChanged _ _, up | .authPasskeyEntry, up | .authCancel, up
  | .pairingConfirm, up | .pairingComplete _, up | .pairingFailed _, up =>
      exact nomatch down.symm.trans up

/-- Without a link, the peripheral can be connected again exactly if no link so far was
asked for its passkey twice.  Otherwise no link is made ever after.  The connection LED
is lit exactly while the link is up. -/
theorem connectable_iff (allowed : peripheral.Allowed events)
    (down : (peripheral.run events).up = false) :
    (CanHappen (peripheral.run events) (.connected 0) <-> AskedOnce events) ∧
      (¬ AskedOnce events -> forall later, peripheral.Allowed (events ++ later) ->
        (peripheral.run (events ++ later)).up = false) ∧
      (peripheral.run events).callbacks.conStatusLed = false := by
  have knows := knows_run allowed
  have unset : (peripheral.run events).callbacks.authConn = false := by
    cases isSet : (peripheral.run events).callbacks.authConn with
    | false => rfl
    | true => exact nomatch down.symm.trans (knows.down isSet)
  have free : (peripheral.run events).refs = 0 <-> AskedOnce events := by
    rw [← knows.lost]
    unfold Peripheral.unaccounted
    rw [knows.currentConn, unset, down]
    change _ <-> (peripheral.run events).refs - 0 - 0 - 0 = 0
    rw [Int.sub_zero, Int.sub_zero, Int.sub_zero]
  refine ⟨?_, ?_, knows.conStatusLed.trans down⟩
  · rw [← free]
    exact ⟨fun possible => possible.2 rfl, fun none => ⟨down, fun _ => none⟩⟩
  · intro repeated later
    have lost : (peripheral.run events).refs ≠ 0 := fun none => repeated (free.mp none)
    suffices same : peripheral.Allowed (events ++ later) ->
        peripheral.run (events ++ later) = peripheral.run events by
      intro allowedLater
      rw [same allowedLater]
      exact down
    induction later using List.reverseRecOn with
    | nil => exact fun _ => by rw [List.append_nil]
    | append_singleton later event inductionHypothesis =>
        intro allowedLater
        rw [← List.append_assoc] at allowedLater ⊢
        rcases Machine.each_concat.mp allowedLater with ⟨before, possible⟩
        rw [Machine.run_concat]
        have same := inductionHypothesis before
        rw [same] at possible ⊢
        exact stays_down down lost possible

/-- A second pairing on the link asks for the passkey again. -/
def pairedTwice : List Event :=
  [.connected 0, .authPasskeyEntry, .pairingComplete true, .authPasskeyEntry, .disconnected 19]

theorem pairedTwice_allowed : peripheral.Allowed pairedTwice := by
  unfold Machine.Allowed peripheral
  decide

theorem pairedTwice_notConnectable :
    ¬ CanHappen (peripheral.run pairedTwice) (.connected 0) :=
  fun possible => absurd ((connectable_iff pairedTwice_allowed rfl).1.mp possible)
    (by unfold AskedOnce Asked; decide)

end Reconnecting
end SimpleService
end NrfExamples
