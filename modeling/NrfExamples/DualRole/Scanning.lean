import NrfExamples.DualRole.Relay
import NrfExamples.Traces.Seeker

namespace NrfExamples
namespace DualRole

open Traces

/-!
# The scanner of the relay

What `central_role.c` does with the scanner and with the reference for `default_conn`.
The device is a peripheral too, and the callbacks for the phone's connections are the
same.
-/

/-- `scan_connecting_error` only writes to the log. -/
inductive CentralEvent
  | callback (event : Event)
  | scanConnectingError
  deriving DecidableEq, Repr

def Call.request : Call -> Option (Request Conn)
  | .btConnRef conn => some (.ref conn)
  | .btConnUnref conn => some (.unref conn)
  | .btScanStart => some .scanStart
  | .btConnSetSecurity _ | .btGattDmStart _ | .btGattDmDataRelease | .gpioPinSet _
  | .btGattWrite _ _ => none

def CentralEvent.handle (relay : Relay) : CentralEvent -> Relay × List (Request Conn)
  | .callback event => ((DualRole.handle relay event).1,
      (DualRole.handle relay event).2.filterMap Call.request)
  | .scanConnectingError => (relay, [])

def CentralEvent.occurrence : CentralEvent -> Occurrence Conn
  | .callback (.scanConnecting conn) => .found conn
  | .callback (.connected conn connErr) => if connErr = 0 then .established conn else .failed conn
  | .callback (.disconnected conn _) => .ended conn
  | .callback (.discoveryCompleted _ _) | .callback (.discoveryServiceNotFound _)
  | .callback (.discoveryErrorFound _ _) | .callback (.ledStateWrite _ _) => .aside
  | .scanConnectingError => .notCreated

theorem request_ledStateWrite (value : UInt8) (relay : Relay) :
    (onLedStateWrite value relay).2.filterMap Call.request = [] := by
  unfold onLedStateWrite centralRoleWriteLed
  cases relay.defaultConn with
  | none => rfl
  | some conn =>
      dsimp only
      split <;> rfl

/-- A connection is over. -/
theorem handle_over {relay : Relay} {event : CentralEvent} {conn : Conn}
    (gone : event.occurrence = .failed conn ∨ event.occurrence = .ended conn) :
    event.handle relay =
      if relay.defaultConn = some conn then
        ({ relay with defaultConn := none }, [.unref conn, .scanStart])
      else (relay, []) := by
  rcases event with event | _
  · cases event with
    | connected made connErr =>
        unfold CentralEvent.occurrence at gone
        by_cases up : connErr = 0
        · simp [up] at gone
        · simp only [up, if_false, Occurrence.failed.injEq, reduceCtorEq, or_false] at gone
          subst gone
          unfold CentralEvent.handle handle connected
          dsimp only
          rw [if_pos up]
          split
          · rfl
          · rfl
    | disconnected gone reason =>
        simp only [CentralEvent.occurrence, reduceCtorEq, Occurrence.ended.injEq, false_or] at gone
        subst gone
        unfold CentralEvent.handle handle disconnected
        dsimp only
        rw [ite_not]
        split
        · rfl
        · rfl
    | _ => rcases gone with gone | gone <;> cases gone
  · rcases gone with gone | gone <;> cases gone

/-- `central_role.c` looks for one peer. -/
def relaySeeker : Seeker Conn Relay CentralEvent where
  start := start
  peer := Relay.defaultConn
  handle := CentralEvent.handle
  occurrence := CentralEvent.occurrence
  peripheral := true
  startsAlone := rfl
  takes := by
    intro relay event conn kind
    rcases event with event | _
    · cases event with
      | scanConnecting chosen =>
          cases kind
          exact ⟨rfl, rfl⟩
      | connected made connErr =>
          unfold CentralEvent.occurrence at kind
          dsimp only at kind
          split at kind <;> cases kind
      | _ => cases kind
    · cases kind
  givesUp := by
    intro relay event conn gone taken
    rw [handle_over gone, if_pos taken]
    exact ⟨rfl, rfl⟩
  ignores := by
    intro relay event conn gone taken
    rw [handle_over gone, if_neg taken]
    exact ⟨rfl, rfl⟩
  welcomes := by
    intro relay event conn kind
    rcases event with event | _
    · cases event with
      | connected made connErr =>
          unfold CentralEvent.occurrence at kind
          dsimp only at kind
          split at kind
          · rename_i up
            cases kind
            unfold CentralEvent.handle handle connected
            dsimp only
            rw [if_neg (not_not_intro up)]
            exact ⟨rfl, .inl rfl⟩
          · cases kind
      | _ => cases kind
    · cases kind
  keeps := by
    intro relay event kind
    rcases event with event | _
    · cases event with
      | connected made connErr =>
          unfold CentralEvent.occurrence at kind
          dsimp only at kind
          split at kind <;> rcases kind with kind | kind <;> cases kind
      | discoveryCompleted conn attr =>
          rcases attr with _ | _ | valueHandle <;> exact ⟨rfl, rfl⟩
      | discoveryServiceNotFound conn => exact ⟨rfl, rfl⟩
      | discoveryErrorFound conn err => exact ⟨rfl, rfl⟩
      | ledStateWrite phone value => exact ⟨rfl, request_ledStateWrite value relay⟩
      | _ => rcases kind with kind | kind <;> cases kind
    · exact ⟨rfl, rfl⟩

section Runs

variable {events : List (CentralEvent × Bool)}

/-- In every run there is one reference for `default_conn` and none for anything else,
and `default_conn` is being connected or is connected.  The relay scans exactly while
`default_conn` is NULL, until a connection cannot be created or `bt_scan_start` fails;
from then on it neither scans nor has a peer. -/
theorem relay_seeks (allowed : relaySeeker.seeking.Allowed events) :
    let relay := (relaySeeker.seeking.run events).1
    let radio := (relaySeeker.seeking.run events).2
    (forall conn, radio.refs conn = if relay.defaultConn = some conn then 1 else 0) ∧
      (forall conn, relay.defaultConn = some conn ->
        radio.creating = some conn ∨ conn ∈ radio.links) ∧
      ¬ (radio.scanning = true ∧ relay.defaultConn ≠ none) ∧
      ((radio.scanning = true ∨ relay.defaultConn ≠ none) <->
        relaySeeker.seeking.Each (fun both event => ¬ relaySeeker.Loses both event) events) := by
  intro relay radio
  have tracks : Tracks relay.defaultConn radio := Seeker.tracks_run allowed
  refine ⟨tracks.refs, tracks.alive, fun both => both.2 (tracks.alone both.1), ?_⟩
  rw [← Seeker.alive_iff allowed, ← Option.isSome_iff_ne_none]
  rfl

/-- A phone connects, the relay finds a peer, loses it, and cannot scan again. -/
def lostEvents : List (CentralEvent × Bool) :=
  [(.callback (.connected 1 0), true), (.callback (.scanConnecting 2), true),
    (.callback (.connected 2 0), true), (.callback (.disconnected 1 0x13), true),
    (.callback (.disconnected 2 0x08), false), (.callback (.connected 3 0), true)]

theorem lostEvents_allowed : relaySeeker.seeking.Allowed lostEvents := by
  unfold Machine.Allowed
  decide +kernel

theorem lostEvents_seeks :
    (relaySeeker.seeking.run lostEvents).2.links = [3] ∧
      ((relaySeeker.seeking.run lostEvents).2.scanning = true ∨
          (relaySeeker.seeking.run lostEvents).1.defaultConn ≠ none <->
        relaySeeker.seeking.Each (fun both event => ¬ relaySeeker.Loses both event) lostEvents) :=
  ⟨by decide +kernel, (relay_seeks lostEvents_allowed).2.2.2⟩

end Runs

end DualRole
end NrfExamples
