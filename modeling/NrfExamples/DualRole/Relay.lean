import Mathlib.Data.List.Induction
import NrfExamples.Traces.Past

namespace NrfExamples
namespace DualRole

open Traces

/-!
# The relay of LED writes

`peripheral_and_central` passes what a phone writes to its LED service on to a
peer that the scanner found: `central_role.c` with the write handler of
`led_service.c`.  The module keeps the connection that the scanner made last and
the handle that was discovered last, and discovers on every connection.  Results
that are only logged, the passkey callbacks and the scanner's filter are left
out.
-/

abbrev Conn := Nat
abbrev Handle := UInt16

/-- `struct bt_gatt_write_params` without its callback. -/
structure WriteParams where
  handle : Handle
  offset : UInt16
  data : UInt8
  length : UInt16
  deriving DecidableEq, Repr

inductive Call
  | btConnRef (conn : Conn)
  | btConnUnref (conn : Conn)
  | btScanStart
  | btConnSetSecurity (conn : Conn)
  | btGattDmStart (conn : Conn)
  | btGattDmDataRelease
  | gpioPinSet (value : UInt8)
  | btGattWrite (conn : Conn) (params : WriteParams)
  deriving DecidableEq, Repr

/-- `default_conn`, `remote_led_char_handle` and `led_value`. -/
structure Relay where
  defaultConn : Option Conn
  remoteLedCharHandle : Handle
  ledValue : UInt8
  deriving DecidableEq, Repr

/-- A discovery that completes has found the LED characteristic or not, and then
its declaration can be read or not. -/
inductive Event
  | scanConnecting (conn : Conn)
  | connected (conn : Conn) (connErr : UInt8)
  | disconnected (conn : Conn) (reason : UInt8)
  | discoveryCompleted (conn : Conn) (attr : Option (Option Handle))
  | discoveryServiceNotFound (conn : Conn)
  | discoveryErrorFound (conn : Conn) (err : Int)
  | ledStateWrite (phone : Conn) (value : UInt8)
  deriving DecidableEq, Repr

/-! ## The handlers, with the calls that they make -/

/-- `scan_connecting` -/
def scanConnecting (conn : Conn) (relay : Relay) : Relay × List Call :=
  ({ relay with defaultConn := some conn }, [.btConnRef conn])

/-- `connected` -/
def connected (conn : Conn) (connErr : UInt8) (relay : Relay) : Relay × List Call :=
  if connErr ≠ 0 then
    if relay.defaultConn = some conn then
      ({ relay with defaultConn := none }, [.btConnUnref conn, .btScanStart])
    else (relay, [])
  else (relay, [.btConnSetSecurity conn, .btGattDmStart conn])

/-- `disconnected` -/
def disconnected (conn : Conn) (relay : Relay) : Relay × List Call :=
  if relay.defaultConn ≠ some conn then (relay, [])
  else ({ relay with defaultConn := none }, [.btConnUnref conn, .btScanStart])

/-- `discovery_completed_cb` -/
def discoveryCompletedCb (attr : Option (Option Handle)) (relay : Relay) : Relay × List Call :=
  match attr with
  | none | some none => (relay, [.btGattDmDataRelease])
  | some (some valueHandle) =>
      ({ relay with remoteLedCharHandle := valueHandle }, [.btGattDmDataRelease])

/-- `central_role_write_led` -/
def centralRoleWriteLed (value : UInt8) (relay : Relay) : List Call :=
  match relay.defaultConn with
  | none => []
  | some conn =>
      if relay.remoteLedCharHandle = 0 then []
      else [.btGattWrite conn ⟨relay.remoteLedCharHandle, 0, value, 1⟩]

/-- `on_led_state_write` -/
def onLedStateWrite (value : UInt8) (relay : Relay) : Relay × List Call :=
  ({ relay with ledValue := value }, .gpioPinSet value :: centralRoleWriteLed value relay)

def handle (relay : Relay) : Event -> Relay × List Call
  | .scanConnecting conn => scanConnecting conn relay
  | .connected conn connErr => connected conn connErr relay
  | .disconnected conn _ => disconnected conn relay
  | .discoveryCompleted _ attr => discoveryCompletedCb attr relay
  | .discoveryServiceNotFound _ | .discoveryErrorFound _ _ => (relay, [])
  | .ledStateWrite _ value => onLedStateWrite value relay

def start : Relay :=
  ⟨none, 0, 0⟩

def run (events : List Event) : Relay :=
  events.foldl (fun relay event => (handle relay event).1) start

theorem run_concat (events : List Event) (event : Event) :
    run (events ++ [event]) = (handle (run events) event).1 := by
  unfold run
  rw [List.foldl_append, List.foldl_cons, List.foldl_nil]

/-! ## What the events say -/

/-- The connection ends. -/
def Event.ends (conn : Conn) : Event -> Bool
  | .disconnected ended _ => decide (ended = conn)
  | _ => false

/-- The connection is established or ends. -/
def Event.changes (conn : Conn) : Event -> Bool
  | .connected established connErr => decide (established = conn) && decide (connErr = 0)
  | .disconnected ended _ => decide (ended = conn)
  | _ => false

/-- The connection was not made by the scanner last, or it has failed or ended. -/
def Event.gives (conn : Conn) : Event -> Bool
  | .scanConnecting _ => true
  | .connected failed connErr => decide (failed = conn) && decide (connErr ≠ 0)
  | .disconnected ended _ => decide (ended = conn)
  | _ => false

/-- The value handle that a discovery found. -/
def Event.found : Event -> Option Handle
  | .discoveryCompleted _ (some valueHandle) => valueHandle
  | _ => none

/-- The connection has been established and has not ended since. -/
def Up (conn : Conn) (events : List Event) : Prop :=
  Since (fun event => event.ends conn = false) (fun _ event => event = .connected conn 0) events

/-- A discovery on the connection has found this handle since the connection was
established, and the connection has not ended. -/
def Discovered (conn : Conn) (handle : Handle) (events : List Event) : Prop :=
  Since (fun event => event.changes conn = false)
    (fun before event => event = .discoveryCompleted conn (some (some handle)) ∧ Up conn before)
    events

/-- The scanner chose the connection last, and it has not failed or ended. -/
def Chosen (conn : Conn) (events : List Event) : Prop :=
  Since (fun event => event.gives conn = false) (fun _ event => event = .scanConnecting conn)
    events

/-- The last handle that a discovery found, on any connection. -/
def LastFound (handle : Handle) (events : List Event) : Prop :=
  Since (fun event => event.found = none) (fun _ event => event.found = some handle) events

/-- What is written goes to a connection that is up, with a handle that was
discovered on it. -/
def RightPeer (before : List Event) (event : Event) : Prop :=
  forall conn params, .btGattWrite conn params ∈ (handle (run before) event).2 ->
    Up conn before ∧ Discovered conn params.handle before

/-- When the LED is written while the scanner has chosen a connection, the handle
found last, on whatever connection, has been found on the chosen one. -/
def Timely (before : List Event) (event : Event) : Prop :=
  forall phone value conn handle, event = .ledStateWrite phone value -> Chosen conn before ->
    LastFound handle before -> handle ≠ 0 -> Discovered conn handle before

theorem Discovered.up {conn : Conn} {handle : Handle} {events : List Event}
    (discovered : Discovered conn handle events) : Up conn events := by
  rcases discovered with ⟨before, event, after, rfl, ⟨rfl, up⟩, unchanged⟩
  apply Since.append up
  intro later member
  rcases List.mem_cons.mp member with rfl | new
  · rfl
  · have same := unchanged later new
    cases later with
    | disconnected ended reason => exact same
    | _ => rfl

/-! ## What the module keeps -/

/-- `default_conn` after one more event. -/
theorem defaultConn_handle (relay : Relay) (event : Event) (conn : Conn) :
    (handle relay event).1.defaultConn = some conn <->
      event = .scanConnecting conn ∨ (relay.defaultConn = some conn ∧ event.gives conn = false) := by
  cases event with
  | scanConnecting chosen => simp [handle, scanConnecting, Event.gives]
  | connected made connErr =>
      unfold handle connected Event.gives
      by_cases failed : connErr = 0
      · simp [failed]
      · by_cases same : relay.defaultConn = some made
        · simp [failed, same]
        · have other : relay.defaultConn = some conn -> made ≠ conn :=
            fun chosen isMade => same (isMade ▸ chosen)
          simpa [failed, same] using other
  | disconnected ended reason =>
      unfold handle disconnected Event.gives
      by_cases same : relay.defaultConn = some ended
      · simp [same]
      · have other : relay.defaultConn = some conn -> ended ≠ conn :=
          fun chosen isEnded => same (isEnded ▸ chosen)
        simpa [same] using other
  | discoveryCompleted on attr =>
      rcases attr with _ | _ | valueHandle <;> simp [handle, discoveryCompletedCb, Event.gives]
  | discoveryServiceNotFound on => simp [handle, Event.gives]
  | discoveryErrorFound on err => simp [handle, Event.gives]
  | ledStateWrite phone value => simp [handle, onLedStateWrite, Event.gives]

theorem chosen_concat {events : List Event} {event : Event} {conn : Conn} :
    Chosen conn (events ++ [event]) <->
      event = .scanConnecting conn ∨ (Chosen conn events ∧ event.gives conn = false) :=
  since_concat

/-- `default_conn` is the connection that the scanner has chosen. -/
theorem defaultConn_run (events : List Event) (conn : Conn) :
    (run events).defaultConn = some conn <-> Chosen conn events := by
  induction events using List.reverseRecOn with
  | nil =>
      constructor
      · intro chosen
        cases chosen
      · exact fun chosen => absurd chosen not_since_nil
  | append_singleton events event inductionHypothesis =>
      rw [run_concat, defaultConn_handle, inductionHypothesis, chosen_concat]

/-- `remote_led_char_handle` after one more event. -/
theorem remoteLedCharHandle_handle (relay : Relay) (event : Event) :
    (handle relay event).1.remoteLedCharHandle =
      event.found.getD relay.remoteLedCharHandle := by
  cases event with
  | scanConnecting chosen => rfl
  | connected made connErr =>
      unfold handle connected
      dsimp only
      split
      · split <;> rfl
      · rfl
  | disconnected ended reason =>
      unfold handle disconnected
      dsimp only
      split <;> rfl
  | discoveryCompleted on attr => rcases attr with _ | _ | valueHandle <;> rfl
  | discoveryServiceNotFound on => rfl
  | discoveryErrorFound on err => rfl
  | ledStateWrite phone value => rfl

theorem lastFound_concat {events : List Event} {event : Event} {valueHandle : Handle} :
    LastFound valueHandle (events ++ [event]) <->
      event.found = some valueHandle ∨ (LastFound valueHandle events ∧ event.found = none) :=
  since_concat

/-- `remote_led_char_handle` is the handle that was found last. -/
theorem remoteLedCharHandle_run (events : List Event) {valueHandle : Handle}
    (nonzero : valueHandle ≠ 0) :
    (run events).remoteLedCharHandle = valueHandle <-> LastFound valueHandle events := by
  induction events using List.reverseRecOn with
  | nil =>
      constructor
      · intro zero
        exact absurd zero.symm nonzero
      · exact fun found => absurd found not_since_nil
  | append_singleton events event inductionHypothesis =>
      rw [run_concat, remoteLedCharHandle_handle, lastFound_concat]
      cases event.found with
      | none => simp [inductionHypothesis]
      | some other => simp

/-- What `central_role_write_led` writes. -/
theorem mem_centralRoleWriteLed (value : UInt8) (relay : Relay) (conn : Conn)
    (params : WriteParams) :
    .btGattWrite conn params ∈ centralRoleWriteLed value relay <->
      relay.defaultConn = some conn ∧ relay.remoteLedCharHandle ≠ 0 ∧
        params = ⟨relay.remoteLedCharHandle, 0, value, 1⟩ := by
  unfold centralRoleWriteLed
  cases relay.defaultConn with
  | none => simp
  | some chosen =>
      dsimp only
      split
      · rename_i zero
        simp [zero]
      · rename_i nonzero
        simp [nonzero, eq_comm]

/-- Only a phone's write makes the module write. -/
theorem mem_handle (relay : Relay) (event : Event) (conn : Conn) (params : WriteParams) :
    .btGattWrite conn params ∈ (handle relay event).2 <->
      exists phone value, event = .ledStateWrite phone value ∧
        .btGattWrite conn params ∈ centralRoleWriteLed value relay := by
  cases event with
  | ledStateWrite phone value => simp [handle, onLedStateWrite]
  | scanConnecting chosen => simp [handle, scanConnecting]
  | connected made connErr =>
      unfold handle connected
      dsimp only
      split
      · split <;> simp
      · simp
  | disconnected ended reason =>
      unfold handle disconnected
      dsimp only
      split <;> simp
  | discoveryCompleted on attr =>
      rcases attr with _ | _ | valueHandle <;> simp [handle, discoveryCompletedCb]
  | discoveryServiceNotFound on => simp [handle]
  | discoveryErrorFound on err => simp [handle]

/-- One write. -/
theorem rightPeer_iff_timely (before : List Event) (event : Event) :
    RightPeer before event <-> Timely before event := by
  constructor
  · intro rightPeer phone value conn valueHandle write chosen found nonzero
    have handleIs := (remoteLedCharHandle_run before nonzero).mpr found
    have written : .btGattWrite conn ⟨valueHandle, 0, value, 1⟩ ∈ (handle (run before) event).2 := by
      rw [mem_handle]
      refine ⟨phone, value, write, (mem_centralRoleWriteLed _ _ _ _).mpr ⟨?_, ?_, ?_⟩⟩
      · exact (defaultConn_run before conn).mpr chosen
      · rw [handleIs]
        exact nonzero
      · rw [handleIs]
    exact (rightPeer conn _ written).2
  · intro timely conn params written
    rcases (mem_handle _ _ _ _).mp written with ⟨phone, value, write, written⟩
    rcases (mem_centralRoleWriteLed _ _ _ _).mp written with ⟨isDefault, nonzero, rfl⟩
    have discovered := timely phone value conn _ write ((defaultConn_run before conn).mp isDefault)
      ((remoteLedCharHandle_run before nonzero).mp rfl) nonzero
    exact ⟨discovered.up, discovered⟩

/-- In every run, all writes go to the right peer if and only if all writes of
phones are timely. -/
theorem rightPeers_iff_timely (events : List Event) :
    Always RightPeer events <-> Always Timely events := by
  constructor
  · intro rightPeers before event after split
    exact (rightPeer_iff_timely before event).mp (rightPeers before event after split)
  · intro timely before event after split
    exact (rightPeer_iff_timely before event).mpr (timely before event after split)

/-! ## A run -/

/-- What the Bluetooth stack can report: a connection is made by the scanner or
established while it is not up, and all else concerns one that is. -/
def CanHappen (before : List Event) : Event -> Prop
  | .scanConnecting conn | .connected conn _ => ¬ Up conn before
  | .disconnected conn _ | .discoveryCompleted conn _ | .discoveryServiceNotFound conn
  | .discoveryErrorFound conn _ | .ledStateWrite conn _ => Up conn before

instance (conn : Conn) (events : List Event) : Decidable (Up conn events) :=
  inferInstanceAs (Decidable (Since _ _ events))

instance (before : List Event) (event : Event) : Decidable (CanHappen before event) :=
  match event with
  | .scanConnecting _ | .connected _ _ => inferInstanceAs (Decidable (¬ _))
  | .disconnected _ _ | .discoveryCompleted _ _ | .discoveryServiceNotFound _
  | .discoveryErrorFound _ _ | .ledStateWrite _ _ => inferInstanceAs (Decidable (Up _ _))

/-- The peer is found and lost, and the phone writes while the scanner connects to
it again. -/
def reconnecting : List Event :=
  [.connected 9 0, .discoveryServiceNotFound 9, .scanConnecting 1, .connected 1 0,
    .discoveryCompleted 1 (some (some 18)), .disconnected 1 8, .scanConnecting 1]

/-- The write is issued on a connection that is not up. -/
theorem not_rightPeer_always :
    ¬ forall events, Always CanHappen events -> Always RightPeer events := by
  intro claim
  have possible : Always CanHappen (reconnecting ++ [.ledStateWrite 9 1]) := by decide +kernel
  have rightPeer := claim _ possible reconnecting (.ledStateWrite 9 1) [] rfl
  have down : ¬ Up 1 reconnecting := by decide +kernel
  exact down (rightPeer 1 ⟨18, 0, 1, 1⟩ (by decide +kernel)).1

end DualRole
end NrfExamples
