import NrfExamples.SimpleService.Central
import NrfExamples.Traces.Seeker

namespace NrfExamples
namespace SimpleService
namespace Scanning

open Traces

/-!
# The scanner of the central

The connection and scanner callbacks of `main.c` of `central_simple_service` with the
calls that the model of the client leaves out: references, the scanner and the
connection LED.  What `bt_conn_set_security` returns comes with the event.  The device
is in the central role only.
-/

inductive Call
  | btConnRef (conn : Conn)
  | btConnUnref (conn : Conn)
  | btScanStart
  | btScanStop
  | btConnSetSecurity (conn : Conn)
  | btGattDmStart (conn : Conn)
  | dkSetLed (isOn : Bool)
  deriving DecidableEq, Repr

/-- `default_conn` and `CON_STATUS_LED`. -/
structure Central where
  defaultConn : Option Conn
  conLed : Bool
  deriving DecidableEq, Repr

inductive Event
  | scanFilterMatch
  | scanConnecting (conn : Conn)
  | scanConnectingError
  | connected (conn : Conn) (connErr : UInt8) (securityErr : Int)
  | disconnected (conn : Conn) (reason : UInt8)
  | securityChanged (conn : Conn) (err : Nat)
  deriving DecidableEq, Repr

/-- `scan_connecting` -/
def scanConnecting (conn : Conn) (central : Central) : Central × List Call :=
  ({ central with defaultConn := some conn }, [.btConnRef conn])

/-- `gatt_discover` -/
def gattDiscover (conn : Conn) : List Call :=
  [.btGattDmStart conn]

/-- `connected` -/
def connected (conn : Conn) (connErr : UInt8) (securityErr : Int) (central : Central) :
    Central × List Call :=
  if connErr ≠ 0 then
    if central.defaultConn = some conn then
      ({ central with defaultConn := none }, [.btConnUnref conn, .btScanStart])
    else (central, [])
  else
    ({ central with conLed := true },
      .btConnSetSecurity conn :: (if securityErr ≠ 0 then gattDiscover conn else []) ++
        [.btScanStop, .dkSetLed true])

/-- `disconnected` -/
def disconnected (conn : Conn) (central : Central) : Central × List Call :=
  if central.defaultConn ≠ some conn then (central, [])
  else (⟨none, false⟩, [.btConnUnref conn, .btScanStart, .dkSetLed false])

/-- `security_changed` -/
def securityChanged (conn : Conn) (err : Nat) (central : Central) : Central × List Call :=
  (central, if err = 0 then gattDiscover conn else [])

/-- `scan_filter_match` and `scan_connecting_error` only write to the log. -/
def handle (central : Central) : Event -> Central × List Call
  | .scanFilterMatch | .scanConnectingError => (central, [])
  | .scanConnecting conn => scanConnecting conn central
  | .connected conn connErr securityErr => connected conn connErr securityErr central
  | .disconnected conn _ => disconnected conn central
  | .securityChanged conn err => securityChanged conn err central

def Call.request : Call -> Option (Request Conn)
  | .btConnRef conn => some (.ref conn)
  | .btConnUnref conn => some (.unref conn)
  | .btScanStart => some .scanStart
  | .btScanStop => some .scanStop
  | .btConnSetSecurity _ | .btGattDmStart _ | .dkSetLed _ => none

def Event.occurrence : Event -> Occurrence Conn
  | .scanConnecting conn => .found conn
  | .scanConnectingError => .notCreated
  | .connected conn connErr _ => if connErr = 0 then .established conn else .failed conn
  | .disconnected conn _ => .ended conn
  | .scanFilterMatch | .securityChanged _ _ => .aside

def requests (central : Central) (event : Event) : Central × List (Request Conn) :=
  ((handle central event).1, (handle central event).2.filterMap Call.request)

section Laws

variable {central : Central} {event : Event} {conn : Conn}

theorem requests_found (kind : event.occurrence = .found conn) :
    requests central event = ({ central with defaultConn := some conn }, [.ref conn]) := by
  cases event with
  | scanConnecting chosen =>
      cases kind
      rfl
  | connected made connErr securityErr =>
      unfold Event.occurrence at kind
      dsimp only at kind
      split at kind <;> cases kind
  | _ => cases kind

theorem requests_aside
    (kind : event.occurrence = .aside ∨ event.occurrence = .notCreated) :
    requests central event = (central, []) := by
  cases event with
  | scanFilterMatch => rfl
  | scanConnectingError => rfl
  | securityChanged conn err =>
      unfold requests handle securityChanged
      dsimp only
      split <;> rfl
  | connected made connErr securityErr =>
      unfold Event.occurrence at kind
      dsimp only at kind
      split at kind <;> rcases kind with kind | kind <;> cases kind
  | _ => rcases kind with kind | kind <;> cases kind

/-- A connection is up. -/
theorem requests_established (kind : event.occurrence = .established conn) :
    requests central event = ({ central with conLed := true }, [.scanStop]) := by
  cases event with
  | connected made connErr securityErr =>
      unfold Event.occurrence at kind
      dsimp only at kind
      split at kind
      · rename_i up
        unfold requests handle connected
        dsimp only
        rw [if_neg (not_not_intro up)]
        by_cases secure : securityErr ≠ 0
        · rw [if_pos secure]
          rfl
        · rw [if_neg secure]
          rfl
      · cases kind
  | _ => cases kind

/-- A connection is over. -/
theorem requests_over
    (gone : event.occurrence = .failed conn ∨ event.occurrence = .ended conn) :
    requests central event =
      if central.defaultConn = some conn then
        ({ defaultConn := none
           conLed := central.conLed && decide (event.occurrence = .failed conn) },
          [.unref conn, .scanStart])
      else (central, []) := by
  cases event with
  | connected made connErr securityErr =>
      unfold Event.occurrence at gone
      by_cases up : connErr = 0
      · simp [up] at gone
      · simp only [up, if_false, Occurrence.failed.injEq, reduceCtorEq, or_false] at gone
        subst gone
        unfold requests handle connected
        dsimp only
        rw [if_pos up]
        split
        · simp [Event.occurrence, up, Call.request]
        · rfl
  | disconnected gone reason =>
      simp only [Event.occurrence, reduceCtorEq, Occurrence.ended.injEq, false_or] at gone
      subst gone
      unfold requests handle disconnected
      dsimp only
      rw [ite_not]
      split
      · simp [Event.occurrence, Call.request]
      · rfl
  | _ => rcases gone with gone | gone <;> cases gone

end Laws

/-- The central looks for one peer. -/
def centralSeeker : Seeker Conn Central Event where
  start := ⟨none, false⟩
  peer := Central.defaultConn
  handle := requests
  occurrence := Event.occurrence
  peripheral := false
  startsAlone := rfl
  takes := by
    intro central event conn kind
    rw [requests_found kind]
    exact ⟨rfl, rfl⟩
  givesUp := by
    intro central event conn gone taken
    rw [requests_over gone, if_pos taken]
    exact ⟨rfl, rfl⟩
  ignores := by
    intro central event conn gone taken
    rw [requests_over gone, if_neg taken]
    exact ⟨rfl, rfl⟩
  welcomes := by
    intro central event conn kind
    rw [requests_established kind]
    exact ⟨rfl, .inr ⟨rfl, rfl⟩⟩
  keeps := by
    intro central event kind
    rw [requests_aside kind]
    exact ⟨rfl, rfl⟩

section Runs

variable {both : Central × Radio Conn} {event : Event × Bool} {events : List (Event × Bool)}

/-- The connection LED is lit exactly while `default_conn` is connected. -/
def Lit (both : Central × Radio Conn) : Prop :=
  both.1.conLed = true <-> exists conn, both.1.defaultConn = some conn ∧ conn ∈ both.2.links

theorem lit_step (tracks : Tracks both.1.defaultConn both.2) (lit : Lit both)
    (possible : centralSeeker.seeking.possible both event) :
    Lit (centralSeeker.seeking.step both event) := by
  change both.2.CanOccur false event.1.occurrence at possible
  change Lit ((requests both.1 event.1).1, (requests both.1 event.1).2.foldl
    (Radio.serve event.2) (both.2.occur event.1.occurrence))
  cases kind : event.1.occurrence with
  | found conn =>
      rw [kind] at possible
      rw [requests_found kind]
      have dark : both.1.conLed = false := by
        cases isOn : both.1.conLed with
        | false => rfl
        | true =>
            rcases lit.mp isOn with ⟨other, taken, _⟩
            rw [tracks.alone possible.1] at taken
            cases taken
      apply iff_of_false
      · change ¬ both.1.conLed = true
        rw [dark]
        exact Bool.false_ne_true
      · rintro ⟨other, same, up⟩
        cases same
        exact possible.2 up
  | notCreated =>
      rw [requests_aside (.inr kind)]
      exact lit
  | established conn =>
      rw [kind] at possible
      rw [requests_established kind]
      rcases possible.2 with impossible | creating
      · cases impossible
      · exact iff_of_true rfl ⟨conn, (tracks.creating conn creating).1, List.mem_cons_self⟩
  | failed conn =>
      rw [kind] at possible
      rcases possible.2 with impossible | creating
      · cases impossible
      · have taken := (tracks.creating conn creating).1
        rw [requests_over (.inl kind), if_pos taken]
        apply iff_of_false
        · intro isOn
          change (both.1.conLed && _) = true at isOn
          rcases lit.mp (Bool.and_eq_true_iff.mp isOn).1 with ⟨other, same, up⟩
          rw [taken] at same
          cases same
          exact possible.1 up
        · rintro ⟨other, none, _⟩
          cases none
  | ended conn =>
      rw [requests_over (.inr kind)]
      by_cases taken : both.1.defaultConn = some conn
      · rw [if_pos taken]
        apply iff_of_false
        · intro isOn
          change (both.1.conLed && decide (event.1.occurrence = .failed conn)) = true at isOn
          rw [kind, decide_eq_false nofun, Bool.and_false] at isOn
          cases isOn
        · rintro ⟨other, none, _⟩
          cases none
      · rw [if_neg taken]
        refine lit.trans (exists_congr fun other => and_congr_right fun same => ?_)
        change _ <-> other ∈ both.2.links.erase conn
        have differs : other ≠ conn := fun equal => taken (same.trans (congrArg some equal))
        exact (List.mem_erase_of_ne differs).symm
  | aside =>
      rw [requests_aside (.inl kind)]
      exact lit

theorem lit_run (allowed : centralSeeker.seeking.Allowed events) :
    Lit (centralSeeker.seeking.run events) := by
  refine (Machine.invariant (fun both => Tracks both.1.defaultConn both.2 ∧ Lit both)
    (fun _ _ => True) ⟨Tracks.initially, ?_⟩ ?_ allowed fun _ _ _ _ => trivial).2
  · apply iff_of_false nofun
    rintro ⟨conn, none, _⟩
    cases none
  · intro both event holds possible _
    exact ⟨Seeker.tracks_step holds.1 possible, lit_step holds.1 holds.2 possible⟩

/-- In every run there is one reference for `default_conn` and none for anything else,
`default_conn` is being connected or is connected, and the connection LED is lit exactly
while it is connected.  The central scans exactly while `default_conn` is NULL, until a
connection cannot be created or `bt_scan_start` fails; from then on it neither scans nor
has a peer. -/
theorem central_seeks (allowed : centralSeeker.seeking.Allowed events) :
    let central := (centralSeeker.seeking.run events).1
    let radio := (centralSeeker.seeking.run events).2
    (forall conn, radio.refs conn = if central.defaultConn = some conn then 1 else 0) ∧
      (forall conn, central.defaultConn = some conn ->
        radio.creating = some conn ∨ conn ∈ radio.links) ∧
      (central.conLed = true <->
        exists conn, central.defaultConn = some conn ∧ conn ∈ radio.links) ∧
      ¬ (radio.scanning = true ∧ central.defaultConn ≠ none) ∧
      ((radio.scanning = true ∨ central.defaultConn ≠ none) <->
        centralSeeker.seeking.Each (fun both event => ¬ centralSeeker.Loses both event) events) := by
  intro central radio
  have tracks : Tracks central.defaultConn radio := Seeker.tracks_run allowed
  refine ⟨tracks.refs, tracks.alive, lit_run allowed, fun both => both.2 (tracks.alone both.1), ?_⟩
  rw [← Seeker.alive_iff allowed, ← Option.isSome_iff_ne_none]
  rfl

/-- A first attempt fails, the second peer is connected. -/
def secondAttempt : List (Event × Bool) :=
  [(.scanFilterMatch, true), (.scanConnecting 1, true), (.connected 1 0x3e 0, true),
    (.scanConnecting 1, true), (.connected 1 0 0, true), (.securityChanged 1 0, true)]

theorem secondAttempt_allowed : centralSeeker.seeking.Allowed secondAttempt := by
  unfold Machine.Allowed
  decide +kernel

theorem secondAttempt_seeks :
    (centralSeeker.seeking.run secondAttempt).1 = ⟨some 1, true⟩ ∧
      forall conn, (centralSeeker.seeking.run secondAttempt).2.refs conn =
        if (centralSeeker.seeking.run secondAttempt).1.defaultConn = some conn then 1 else 0 :=
  ⟨by decide +kernel, (central_seeks secondAttempt_allowed).1⟩

end Runs

end Scanning
end SimpleService
end NrfExamples
