import Mathlib.Logic.Function.Basic
import NrfExamples.Traces.Machine

namespace NrfExamples
namespace CtsClient

open Traces

/-!
# When the client subscribes to the current time

`main.c` of `peripheral_cts_client`.  The service may be found before or after the link
is encrypted, and whichever comes second has to subscribe.  `has_cts` is cleared by
every new connection but stays set after a disconnection.  Results that are only
printed, and printing the time, are left out.
-/

abbrev Conn := Nat

/-- `bt_security_t` -/
abbrev Level := Nat

abbrev BT_SECURITY_L1 : Level := 1

abbrev BT_SECURITY_L2 : Level := 2

/-- `DK_BTN1_MSK` -/
abbrev KEY_READ_TIME : UInt32 := 1

inductive Call
  | btGattDmStart (conn : Conn)
  | btGattDmDataRelease
  | btConnSetSecurity (conn : Option Conn) (level : Level)
  | btCtsSubscribeCurrentTime (conn : Option Conn)
  | btCtsReadCurrentTime (conn : Option Conn)
  | btConnAuthPairingConfirm (conn : Conn)
  | btConnDisconnect (conn : Conn)
  deriving DecidableEq, Repr

/-- `has_cts`, the connection in `cts_c`, and the connection LED. -/
structure Client where
  hasCts : Bool
  ctsConn : Option Conn
  conLed : Bool
  deriving DecidableEq, Repr

/-- A new connection comes with the result of `bt_gatt_dm_start`, and a discovery that
completes with the result of `bt_cts_handles_assign` and the connection that it leaves
in `cts_c`. -/
inductive Event
  | connected (conn : Conn) (err : UInt8) (dmErr : Int)
  | disconnected (conn : Conn) (reason : UInt8)
  | discoverCompleted (err : Int) (assigned : Option Conn)
  | discoverServiceNotFound
  | discoverErrorFound (err : Int)
  | securityChanged (conn : Conn) (level : Level) (err : UInt8)
  | authCancel (conn : Conn)
  | pairingConfirm (conn : Conn)
  | pairingComplete (conn : Conn) (bonded : Bool)
  | pairingFailed (conn : Conn) (reason : UInt8)
  | buttonChanged (buttonState hasChanged : UInt32)
  deriving DecidableEq, Repr

/-! ## The callbacks -/

section Callbacks

variable (security : Option Conn -> Level)

/-- `enable_notifications`, where `security` is `bt_conn_get_security` -/
def enableNotifications (client : Client) : List Call :=
  if client.hasCts = true ∧ security client.ctsConn ≥ BT_SECURITY_L2 then
    [.btCtsSubscribeCurrentTime client.ctsConn]
  else []

/-- `discover_completed_cb` -/
def discoverCompletedCb (err : Int) (assigned : Option Conn) (client : Client) :
    Client × List Call :=
  if err ≠ 0 then ({ client with ctsConn := assigned }, [.btGattDmDataRelease])
  else if security assigned < BT_SECURITY_L2 then
    ({ client with ctsConn := assigned, hasCts := true },
      [.btConnSetSecurity assigned BT_SECURITY_L2, .btGattDmDataRelease])
  else
    ({ client with ctsConn := assigned, hasCts := true },
      enableNotifications security { client with ctsConn := assigned, hasCts := true } ++
        [.btGattDmDataRelease])

/-- `connected` -/
def connected (conn : Conn) (err : UInt8) (client : Client) : Client × List Call :=
  if err ≠ 0 then (client, [])
  else ({ client with conLed := true, hasCts := false }, [.btGattDmStart conn])

/-- `disconnected` -/
def disconnected (client : Client) : Client × List Call :=
  ({ client with conLed := false }, [])

/-- `security_changed` -/
def securityChanged (err : UInt8) (client : Client) : Client × List Call :=
  (client, if err = 0 then enableNotifications security client else [])

/-- `button_changed` -/
def buttonChanged (buttonState hasChanged : UInt32) (client : Client) : Client × List Call :=
  (client,
    if buttonState &&& hasChanged &&& KEY_READ_TIME ≠ 0 then [.btCtsReadCurrentTime client.ctsConn]
    else [])

def handle (client : Client) : Event -> Client × List Call
  | .connected conn err _ => connected conn err client
  | .disconnected _ _ => disconnected client
  | .discoverCompleted err assigned => discoverCompletedCb security err assigned client
  | .discoverServiceNotFound | .discoverErrorFound _ | .pairingComplete _ _ => (client, [])
  | .securityChanged _ _ err => securityChanged security err client
  | .authCancel conn | .pairingFailed conn _ => (client, [.btConnDisconnect conn])
  | .pairingConfirm conn => (client, [.btConnAuthPairingConfirm conn])
  | .buttonChanged buttonState hasChanged => buttonChanged buttonState hasChanged client

end Callbacks

/-! ## Runs with at most one link -/

/-- The program with what the stack knows: the link, the level of each connection, the
discovery that is under way, and the calls since the link was made. -/
structure Device where
  client : Client
  link : Option Conn
  level : Conn -> Level
  discovering : Option Conn
  calls : List Call

/-- `bt_conn_get_security` -/
def Device.security (device : Device) : Option Conn -> Level
  | none => 0
  | some conn => device.level conn

/-- What an event is to the stack, before the program is told.  A new link is not
encrypted. -/
def Device.meet (device : Device) : Event -> Device
  | .connected conn err dmErr =>
      if err ≠ 0 then device
      else
        { link := some conn
          level := Function.update device.level conn BT_SECURITY_L1
          discovering := if dmErr = 0 then some conn else none
          calls := []
          client := device.client }
  | .disconnected _ _ => { device with link := none }
  | .discoverCompleted _ _ | .discoverServiceNotFound | .discoverErrorFound _ =>
      { device with discovering := none }
  | .securityChanged conn level err =>
      if err ≠ 0 then device
      else { device with level := Function.update device.level conn level }
  | _ => device

def step (device : Device) (event : Event) : Device :=
  { device.meet event with
    client := (handle (device.meet event).security device.client event).1
    calls := (device.meet event).calls ++
      (handle (device.meet event).security device.client event).2 }

/-- There is at most one link, and its level is never lowered.  A connection may fail at
any time.  A discovery may end after the link has, but not after the next one is made. -/
def CanHappen (device : Device) : Event -> Prop
  | .connected _ err _ => err = 0 -> device.link = none
  | .disconnected conn _ | .authCancel conn | .pairingConfirm conn | .pairingComplete conn _
  | .pairingFailed conn _ => device.link = some conn
  | .discoverCompleted err assigned => device.discovering ≠ none ∧
      (err = 0 -> assigned = device.discovering)
  | .discoverServiceNotFound | .discoverErrorFound _ => device.discovering ≠ none
  | .securityChanged conn level err => device.link = some conn ∧
      (err = 0 -> device.level conn ≤ level)
  | .buttonChanged _ _ => True

instance (device : Device) (event : Event) : Decidable (CanHappen device event) :=
  match event with
  | .connected _ _ _ => inferInstanceAs (Decidable (_ -> _ = _))
  | .disconnected _ _ | .authCancel _ | .pairingConfirm _ | .pairingComplete _ _
  | .pairingFailed _ _ => inferInstanceAs (Decidable (_ = _))
  | .discoverCompleted _ _ | .securityChanged _ _ _ => inferInstanceAs (Decidable (_ ∧ _))
  | .discoverServiceNotFound | .discoverErrorFound _ => inferInstanceAs (Decidable (_ ≠ _))
  | .buttonChanged _ _ => .isTrue trivial

def device : Machine Device Event where
  start := ⟨⟨false, none, false⟩, none, fun _ => BT_SECURITY_L1, none, []⟩
  step := step
  possible := CanHappen

/-- A link is made. -/
def Event.connects : Event -> Bool
  | .connected _ err _ => err == 0
  | _ => false

/-- The handles have been assigned. -/
def Event.assigns : Event -> Bool
  | .discoverCompleted err _ => err == 0
  | _ => false

/-- The service has been found since the last link was made. -/
def Found (events : List Event) : Prop :=
  Since (fun event => event.connects = false) (fun _ event => event.assigns = true) events

/-- The connection that a call of the time client or for encryption is made for. -/
def Call.target : Call -> Option (Option Conn)
  | .btConnSetSecurity conn _ | .btCtsSubscribeCurrentTime conn => some conn
  | _ => none

/-! ## What is known while the link is up -/

/-- `has_cts` tells whether the service has been found on this link; the link has been
subscribed on if that and its level allow it; otherwise a higher level has been
requested once. -/
structure Knows (events : List Event) (device : Device) (conn : Conn) : Prop where
  hasCts : device.client.hasCts = true <-> Found events
  assigned : device.client.hasCts = true -> device.client.ctsConn = some conn
  discovering : forall other, device.discovering = some other ->
    other = conn ∧ device.client.hasCts = false
  subscribed : .btCtsSubscribeCurrentTime (some conn) ∈ device.calls <->
    device.client.hasCts = true ∧ BT_SECURITY_L2 ≤ device.level conn
  served : .btConnSetSecurity (some conn) BT_SECURITY_L2 ∈ device.calls ∨
      .btCtsSubscribeCurrentTime (some conn) ∈ device.calls <->
    device.client.hasCts = true
  requested : device.calls.count (.btConnSetSecurity (some conn) BT_SECURITY_L2) ≤
    if device.client.hasCts = true then 1 else 0
  targets : forall call target, call ∈ device.calls -> call.target = some target ->
    target = some conn
  conLed : device.client.conLed = true

variable {events : List Event} {state : Device} {conn : Conn} {event : Event}

theorem found_concat : Found (events ++ [event]) <->
    event.assigns = true ∨ Found events ∧ event.connects = false :=
  since_concat

/-- An event that is nothing to the discovery. -/
theorem found_append (noAssign : event.assigns = false) (noLink : event.connects = false) :
    Found (events ++ [event]) <-> Found events := by
  rw [found_concat, noAssign, noLink]
  simp

/-- An event that the program does nothing about. -/
theorem Knows.pass (knows : Knows events state conn) (noAssign : event.assigns = false)
    (noLink : event.connects = false) : Knows (events ++ [event]) state conn :=
  { knows with hasCts := knows.hasCts.trans (found_append noAssign noLink).symm }

/-- Calls that are not for the time client or for encryption change nothing. -/
theorem Knows.call (knows : Knows events state conn) (calls : List Call)
    (aside : forall call, call ∈ calls -> call.target = none) :
    Knows events { state with calls := state.calls ++ calls } conn := by
  have noSubscription : .btCtsSubscribeCurrentTime (some conn) ∉ calls :=
    fun member => nomatch aside _ member
  have noRequest : .btConnSetSecurity (some conn) BT_SECURITY_L2 ∉ calls :=
    fun member => nomatch aside _ member
  refine { knows with subscribed := ?_, served := ?_, requested := ?_, targets := ?_ }
  · rw [List.mem_append, or_iff_left noSubscription]
    exact knows.subscribed
  · rw [List.mem_append, List.mem_append, or_iff_left noSubscription, or_iff_left noRequest]
    exact knows.served
  · rw [List.count_append, List.count_eq_zero.mpr noRequest]
    exact knows.requested
  · intro call target member isTarget
    rcases List.mem_append.mp member with old | new
    · exact knows.targets call target old isTarget
    · exact nomatch (aside call new).symm.trans isTarget

/-- Calls with this target, apart from the release of the discovery data. -/
theorem targets_append {calls : List Call}
    (targets : forall call target, call ∈ calls -> call.target = some target -> target = some conn)
    (next : Call) (isTarget : next.target = some (some conn)) :
    forall call target, call ∈ calls ++ [next, .btGattDmDataRelease] ->
      call.target = some target -> target = some conn := by
  intro call target member given
  rcases List.mem_append.mp member with old | new
  · exact targets call target old given
  · rcases List.mem_cons.mp new with rfl | last
    · exact (Option.some.inj (isTarget.symm.trans given)).symm
    · rw [List.mem_singleton.mp last] at given
      cases given

/-! ## What each callback does -/

variable {security : Option Conn -> Level} {client : Client} {assigned : Option Conn} {err : Int}

theorem discoverCompletedCb_of_ne (failed : err ≠ 0) :
    discoverCompletedCb security err assigned client =
      ({ client with ctsConn := assigned }, [.btGattDmDataRelease]) :=
  if_pos failed

theorem discoverCompletedCb_of_low (assigned : Option Conn) (low : security assigned < BT_SECURITY_L2) :
    discoverCompletedCb security 0 assigned client =
      ({ client with ctsConn := assigned, hasCts := true },
        [.btConnSetSecurity assigned BT_SECURITY_L2, .btGattDmDataRelease]) := by
  unfold discoverCompletedCb
  rw [if_neg (not_not.mpr rfl), if_pos low]

theorem discoverCompletedCb_of_enough (assigned : Option Conn)
    (enough : BT_SECURITY_L2 ≤ security assigned) :
    discoverCompletedCb security 0 assigned client =
      ({ client with ctsConn := assigned, hasCts := true },
        [.btCtsSubscribeCurrentTime assigned, .btGattDmDataRelease]) := by
  unfold discoverCompletedCb enableNotifications
  rw [if_neg (not_not.mpr rfl), if_neg (Nat.not_lt.mpr enough), if_pos ⟨rfl, enough⟩]
  rfl

theorem step_of_handle (event : Event) {calls : List Call}
    (handled : handle (state.meet event).security state.client event = (client, calls)) :
    step state event =
      { state.meet event with client := client, calls := (state.meet event).calls ++ calls } := by
  unfold step
  rw [handled]

theorem step_of_failed {other : Conn} {level : Level} {err : UInt8} (failed : err ≠ 0) :
    step state (.securityChanged other level err) = { state with calls := state.calls ++ [] } := by
  have met : state.meet (.securityChanged other level err) = state := if_pos failed
  have handled : handle state.security state.client (.securityChanged other level err) =
      (state.client, []) := congrArg (Prod.mk state.client) (if_neg failed)
  unfold step
  rw [met, handled]

theorem step_of_notConnected {other : Conn} {err : UInt8} {dmErr : Int} (failed : err ≠ 0) :
    step state (.connected other err dmErr) = { state with calls := state.calls ++ [] } := by
  have met : state.meet (.connected other err dmErr) = state := if_pos failed
  have handled : handle state.security state.client (.connected other err dmErr) =
      (state.client, []) := if_pos failed
  unfold step
  rw [met, handled]

/-- A new link starts without the service. -/
theorem knows_connected (state : Device) (conn : Conn) (dmErr : Int) :
    Knows (events ++ [.connected conn 0 dmErr]) (step state (.connected conn 0 dmErr)) conn := by
  have start : step state (.connected conn 0 dmErr) =
      { client := { state.client with conLed := true, hasCts := false }
        link := some conn
        level := Function.update state.level conn BT_SECURITY_L1
        discovering := if dmErr = 0 then some conn else none
        calls := [.btGattDmStart conn] } := rfl
  rw [start]
  have notFound : ¬ Found (events ++ [.connected conn 0 dmErr]) := by
    rw [found_concat]
    rintro (assigns | ⟨_, noLink⟩)
    · cases assigns
    · cases noLink
  constructor
  · exact iff_of_false nofun notFound
  · exact nofun
  · intro other under
    rcases Option.ite_none_right_eq_some.mp under with ⟨_, ⟨⟩⟩
    exact ⟨rfl, rfl⟩
  · exact iff_of_false (by simp) nofun
  · exact iff_of_false (by simp) nofun
  · exact Nat.le_refl 0
  · intro call target member isTarget
    rw [List.mem_singleton.mp member] at isTarget
    cases isTarget
  · rfl

/-- The handles could not be assigned. -/
theorem Knows.notAssigned (knows : Knows events state conn) (failed : err ≠ 0)
    (under : state.discovering ≠ none) :
    Knows (events ++ [.discoverCompleted err assigned])
      (step state (.discoverCompleted err assigned)) conn := by
  rcases Option.ne_none_iff_exists'.mp under with ⟨other, discovers⟩
  have unset := (knows.discovering other discovers).2
  rw [step_of_handle (.discoverCompleted err assigned) (discoverCompletedCb_of_ne failed)]
  have forgets : Knows events
      { state with client := { state.client with ctsConn := assigned }, discovering := none }
      conn :=
    { knows with
      assigned := fun isSet => (nomatch unset.symm.trans isSet)
      discovering := nofun }
  have passed : Knows (events ++ [.discoverCompleted err assigned]) _ conn :=
    forgets.pass (beq_false_of_ne failed) rfl
  apply passed.call
  intro call member
  rw [List.mem_singleton.mp member]
  rfl

/-- The handles have been assigned: the link is subscribed on if it is encrypted, and
encrypted otherwise. -/
theorem Knows.found (knows : Knows events state conn) (under : state.discovering ≠ none)
    (same : assigned = state.discovering) :
    Knows (events ++ [.discoverCompleted 0 assigned])
      (step state (.discoverCompleted 0 assigned)) conn := by
  rcases Option.ne_none_iff_exists'.mp under with ⟨other, discovers⟩
  rcases knows.discovering other discovers with ⟨rfl, unset⟩
  rw [discovers] at same
  subst same
  have notSet : ¬ state.client.hasCts = true := by simp [unset]
  have noSubscription : .btCtsSubscribeCurrentTime (some other) ∉ state.calls := fun member =>
    notSet (knows.subscribed.mp member).1
  have noRequest : state.calls.count (.btConnSetSecurity (some other) BT_SECURITY_L2) = 0 := by
    have few := knows.requested
    rw [if_neg notSet] at few
    exact Nat.eq_zero_of_le_zero few
  have reached : Found (events ++ [.discoverCompleted 0 (some other)]) :=
    found_concat.mpr (.inl rfl)
  rcases Nat.lt_or_ge (state.level other) BT_SECURITY_L2 with low | enough
  · rw [step_of_handle (.discoverCompleted 0 (some other))
      (discoverCompletedCb_of_low (some other) low)]
    refine ⟨iff_of_true rfl reached, fun _ => rfl, nofun, ?_, ?_, ?_, ?_, knows.conLed⟩
    · apply iff_of_false
      · rintro member
        rcases List.mem_append.mp member with old | new
        · exact noSubscription old
        · exact absurd new (by simp)
      · exact fun both => Nat.not_le.mpr low both.2
    · exact iff_of_true (.inl (List.mem_append_right _ List.mem_cons_self)) rfl
    · change (state.calls ++ _).count _ ≤ 1
      rw [List.count_append, noRequest]
      simp
    · exact targets_append knows.targets (.btConnSetSecurity (some other) BT_SECURITY_L2) rfl
  · rw [step_of_handle (.discoverCompleted 0 (some other))
      (discoverCompletedCb_of_enough (some other) enough)]
    refine ⟨iff_of_true rfl reached, fun _ => rfl, nofun, ?_, ?_, ?_, ?_, knows.conLed⟩
    · exact iff_of_true (List.mem_append_right _ List.mem_cons_self) ⟨rfl, enough⟩
    · exact iff_of_true (.inr (List.mem_append_right _ List.mem_cons_self)) rfl
    · change (state.calls ++ _).count _ ≤ 1
      rw [List.count_append, noRequest]
      simp
    · exact targets_append knows.targets (.btCtsSubscribeCurrentTime (some other)) rfl

/-- The level of the link has risen. -/
theorem Knows.secured (knows : Knows events state conn) {level : Level}
    (rises : state.level conn ≤ level) :
    Knows (events ++ [.securityChanged conn level 0]) (step state (.securityChanged conn level 0))
      conn := by
  let risen : Device := { state with level := Function.update state.level conn level }
  have ends : step state (.securityChanged conn level 0) =
      { risen with calls := state.calls ++ enableNotifications risen.security state.client } := rfl
  have now : risen.level conn = level := Function.update_self _ _ _
  rw [ends]
  unfold enableNotifications
  split
  · rename_i enough
    have assigned := knows.assigned enough.1
    rw [assigned] at enough ⊢
    refine ⟨knows.hasCts.trans (found_append rfl rfl).symm, knows.assigned, knows.discovering,
      ?_, ?_, ?_, ?_, knows.conLed⟩
    · exact iff_of_true (List.mem_append_right _ List.mem_cons_self) enough
    · exact iff_of_true (.inr (List.mem_append_right _ List.mem_cons_self)) enough.1
    · change (state.calls ++ _).count _ ≤ _
      rw [List.count_append]
      exact knows.requested
    · intro call target member isTarget
      rcases List.mem_append.mp member with old | new
      · exact knows.targets call target old isTarget
      · rw [List.mem_singleton.mp new] at isTarget
        cases isTarget
        rfl
  · rename_i few
    have low : ¬ (state.client.hasCts = true ∧ BT_SECURITY_L2 ≤ risen.level conn) := by
      rintro ⟨isSet, enough⟩
      rw [knows.assigned isSet] at few
      exact few ⟨isSet, enough⟩
    have waits : Knows events risen conn := by
      refine { knows with subscribed := iff_of_false ?_ low }
      intro member
      rcases knows.subscribed.mp member with ⟨isSet, enough⟩
      exact low ⟨isSet, now ▸ Nat.le_trans enough rises⟩
    exact (waits.pass rfl rfl).call [] nofun

/-- What is known stays so with every event that leaves the link up. -/
theorem Knows.next (knows : Knows events state conn) (up : state.link = some conn)
    (possible : CanHappen state event) (stays : (step state event).link = some conn) :
    Knows (events ++ [event]) (step state event) conn := by
  match event, possible with
  | .connected other err dmErr, down =>
      by_cases succeeds : err = 0
      · exact nomatch up.symm.trans (down succeeds)
      · have passed : Knows (events ++ [.connected other err dmErr]) state conn :=
          knows.pass rfl (beq_false_of_ne succeeds)
        rw [step_of_notConnected succeeds]
        exact passed.call [] nofun
  | .disconnected _ _, _ => exact nomatch stays
  | .discoverCompleted err assigned, ⟨under, same⟩ =>
      by_cases succeeds : err = 0
      · subst succeeds
        exact knows.found under (same rfl)
      · exact knows.notAssigned succeeds under
  | .discoverServiceNotFound, _ | .discoverErrorFound _, _ =>
      have ended : Knows events { state with discovering := none } conn :=
        { knows with discovering := nofun }
      exact (ended.pass rfl rfl).call [] nofun
  | .securityChanged other level err, ⟨same, rises⟩ =>
      cases up.symm.trans same
      by_cases succeeds : err = 0
      · subst succeeds
        exact knows.secured (rises rfl)
      · rw [step_of_failed succeeds]
        exact (knows.pass rfl rfl).call [] nofun
  | .authCancel other, _ | .pairingFailed other _, _ | .pairingConfirm other, _ =>
      apply (knows.pass rfl rfl).call
      intro call member
      rw [List.mem_singleton.mp member]
      rfl
  | .pairingComplete _ _, _ => exact (knows.pass rfl rfl).call [] nofun
  | .buttonChanged buttonState hasChanged, _ =>
      apply (knows.pass rfl rfl).call
      intro call member
      rcases List.mem_ite_nil_right.mp member with ⟨_, new⟩
      rw [List.mem_singleton.mp new]
      rfl

/-! ## When the client subscribes -/

/-- A link that is up was up before, or has just been made. -/
theorem link_cases (up : (step state event).link = some conn) :
    state.link = some conn ∨ exists dmErr, event = .connected conn 0 dmErr := by
  cases event with
  | connected other err dmErr =>
      by_cases succeeds : err = 0
      · subst succeeds
        cases up
        exact .inr ⟨dmErr, rfl⟩
      · have met : state.meet (.connected other err dmErr) = state := if_pos succeeds
        change (state.meet _).link = some conn at up
        rw [met] at up
        exact .inl up
  | securityChanged other level err =>
      by_cases succeeds : err = 0
      · subst succeeds
        exact .inl up
      · rw [step_of_failed succeeds] at up
        exact .inl up
  | disconnected _ _ => cases up
  | _ => exact .inl up

/-- What is known, as long as there is a link. -/
theorem knows_run (allowed : device.Allowed events) (up : (device.run events).link = some conn) :
    Knows events (device.run events) conn := by
  induction events using List.reverseRecOn with
  | nil => cases up
  | append_singleton events event inductionHypothesis =>
      rcases Machine.each_concat.mp allowed with ⟨before, possible⟩
      rw [Machine.run_concat] at up ⊢
      rcases link_cases up with same | ⟨dmErr, rfl⟩
      · exact (inductionHypothesis before same).next same possible up
      · exact knows_connected _ conn dmErr

/-- Once the service has been found and the link is encrypted, in whichever order, the
client has subscribed on this link, and it never does so before both have happened.  A
link that is not encrypted when the service is found is requested to be, once.  The
calls are for this link, although `has_cts` and `cts_c` outlive their link. -/
theorem subscribed_iff (allowed : device.Allowed events)
    (up : (device.run events).link = some conn) :
    let reached := device.run events
    (.btCtsSubscribeCurrentTime (some conn) ∈ reached.calls <->
        Found events ∧ BT_SECURITY_L2 ≤ reached.level conn) ∧
      (.btConnSetSecurity (some conn) BT_SECURITY_L2 ∈ reached.calls ∨
          .btCtsSubscribeCurrentTime (some conn) ∈ reached.calls <-> Found events) ∧
      reached.calls.count (.btConnSetSecurity (some conn) BT_SECURITY_L2) ≤ 1 ∧
      (forall call target, call ∈ reached.calls -> call.target = some target ->
        target = some conn) ∧
      (Found events -> reached.client.ctsConn = some conn) ∧ reached.client.conLed = true := by
  intro reached
  have knows : Knows events reached conn := knows_run allowed up
  refine ⟨?_, ?_, ?_, knows.targets, fun found => knows.assigned (knows.hasCts.mpr found),
    knows.conLed⟩
  · rw [knows.subscribed, knows.hasCts]
  · rw [knows.served, knows.hasCts]
  · refine Nat.le_trans knows.requested ?_
    split
    · exact Nat.le_refl 1
    · exact Nat.zero_le 1

/-- The service is found first, then the link is encrypted. -/
def foundFirst : List Event :=
  [.connected 3 0 0, .discoverCompleted 0 (some 3), .securityChanged 3 BT_SECURITY_L2 0]

theorem foundFirst_allowed : device.Allowed foundFirst := by
  unfold Machine.Allowed device
  decide

theorem foundFirst_subscribed :
    .btCtsSubscribeCurrentTime (some 3) ∈ (device.run foundFirst).calls :=
  (subscribed_iff foundFirst_allowed rfl).1.mpr ⟨by unfold Found; decide, by decide⟩

end CtsClient
end NrfExamples
