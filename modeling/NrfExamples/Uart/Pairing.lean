import Mathlib.Data.List.Induction
import Mathlib.Tactic.Set
import NrfExamples.Traces.Past

namespace NrfExamples
namespace Uart
namespace Pairing

open Traces

/-!
# Connection references and passkey replies

The connection, pairing and button callbacks of `main.c` in the beacon build.
Two variables hold a reference each, and `auth_conn` also says whether a
passkey is to be confirmed.  A pairing that is announced again before it was
answered overwrites its reference, and accepting and rejecting in one event
replies twice; everything else keeps the references balanced.
-/

abbrev Conn := Nat

inductive AdvMode
  | nus
  | beacon
  deriving DecidableEq, Repr

/-- The calls of Bluetooth functions that the callbacks make. -/
inductive Call
  | ref (conn : Conn)
  | unref (conn : Option Conn)
  | passkeyConfirm (conn : Option Conn)
  | authCancel (conn : Option Conn)
  | advStop
  | advStart (mode : AdvMode) (err : Int)
  deriving DecidableEq, Repr

/-- The variables, the connection LED, and the calls made so far, oldest first. -/
structure Beacon where
  currentConn : Option Conn
  authConn : Option Conn
  conStatusLed : Bool
  calls : List Call
  deriving DecidableEq, Repr

def Beacon.initial : Beacon :=
  ⟨none, none, false, []⟩

def Beacon.call (beacon : Beacon) (call : Call) : Beacon :=
  { beacon with calls := beacon.calls ++ [call] }

abbrev KEY_PASSKEY_ACCEPT : UInt32 := 1
abbrev KEY_PASSKEY_REJECT : UInt32 := 2
abbrev KEY_NUS_MODE : UInt32 := 4
abbrev KEY_BEACON_MODE : UInt32 := 8

/-! ## The callbacks -/

/-- `connected` -/
def connected (conn : Conn) (err : UInt8) (beacon : Beacon) : Beacon :=
  if err ≠ 0 then beacon
  else { beacon.call (.ref conn) with currentConn := some conn, conStatusLed := true }

/-- Release the reference of `auth_conn`. -/
def releaseAuth (beacon : Beacon) : Beacon :=
  { beacon.call (.unref beacon.authConn) with authConn := none }

def releaseCurrent (beacon : Beacon) : Beacon :=
  { beacon.call (.unref beacon.currentConn) with currentConn := none, conStatusLed := false }

/-- `if (auth_conn)` of `disconnected` -/
def dropAuth (beacon : Beacon) : Beacon :=
  if beacon.authConn ≠ none then releaseAuth beacon else beacon

/-- `if (current_conn)` of `disconnected` -/
def dropCurrent (beacon : Beacon) : Beacon :=
  if beacon.currentConn ≠ none then releaseCurrent beacon else beacon

/-- `disconnected`; the connection and the reason are only logged. -/
def disconnected (beacon : Beacon) : Beacon :=
  dropCurrent (dropAuth beacon)

/-- `auth_passkey_confirm` -/
def authPasskeyConfirm (conn : Conn) (beacon : Beacon) : Beacon :=
  { beacon.call (.ref conn) with authConn := some conn }

/-- `auth_cancel` writes to the log only. -/
def authCancel (beacon : Beacon) : Beacon :=
  beacon

/-- `num_comp_reply` -/
def numCompReply (accept : Bool) (beacon : Beacon) : Beacon :=
  releaseAuth (beacon.call
    (if accept then .passkeyConfirm beacon.authConn else .authCancel beacon.authConn))

/-- Switch the advertising mode if its button is pressed; the first component
says whether the handler goes on. -/
def switchMode (pressed : Bool) (mode : AdvMode) (err : Int) (beacon : Beacon) : Bool × Beacon :=
  if pressed then (err == 0, (beacon.call .advStop).call (.advStart mode err))
  else (true, beacon)

/-- The replies of `button_changed`, once `auth_conn` has been tested. -/
def reply (buttons : UInt32) (beacon : Beacon) : Beacon :=
  let beacon := if buttons &&& KEY_PASSKEY_ACCEPT ≠ 0 then numCompReply true beacon else beacon
  if buttons &&& KEY_PASSKEY_REJECT ≠ 0 then numCompReply false beacon else beacon

/-- `button_changed`, with the results of `bt_le_adv_start` for the two modes. -/
def buttonChanged (buttonState hasChanged : UInt32) (nusErr beaconErr : Int) (beacon : Beacon) :
    Beacon :=
  let buttons := buttonState &&& hasChanged
  let nus := switchMode (buttons &&& KEY_NUS_MODE != 0) .nus nusErr beacon
  if nus.1 = false then nus.2
  else
    let both := switchMode (buttons &&& KEY_BEACON_MODE != 0) .beacon beaconErr nus.2
    if both.1 = false then both.2
    else if both.2.authConn = none then both.2
    else reply buttons both.2

/-! ## Runs with at most one link -/

inductive Event
  | connected (conn : Conn) (err : UInt8)
  | disconnected (conn : Conn)
  | authPasskeyConfirm (conn : Conn)
  | authCancel (conn : Conn)
  | buttonChanged (buttonState hasChanged : UInt32) (nusErr beaconErr : Int)
  deriving DecidableEq, Repr

def step (beacon : Beacon) : Event -> Beacon
  | .connected conn err => connected conn err beacon
  | .disconnected _ => disconnected beacon
  | .authPasskeyConfirm conn => authPasskeyConfirm conn beacon
  | .authCancel _ => authCancel beacon
  | .buttonChanged buttonState hasChanged nusErr beaconErr =>
      buttonChanged buttonState hasChanged nusErr beaconErr beacon

def run (events : List Event) : Beacon :=
  events.foldl step Beacon.initial

/-- What an event does to the link. -/
def relink (link : Option Conn) : Event -> Option Conn
  | .connected conn err => if err = 0 then some conn else link
  | .disconnected _ => none
  | _ => link

/-- The link after these events. -/
def linkAfter (events : List Event) : Option Conn :=
  events.foldl relink none

/-- What can happen with at most one link.  A connection may fail at any time. -/
def CanHappen (link : Option Conn) : Event -> Prop
  | .connected _ err => err = 0 -> link = none
  | .disconnected conn | .authPasskeyConfirm conn | .authCancel conn => link = some conn
  | .buttonChanged _ _ _ _ => True

def OneLink (events : List Event) : Prop :=
  Always (fun before event => CanHappen (linkAfter before) event) events

/-- `button_changed` gets as far as the passkey, and both replies are pressed. -/
def BothReplies (buttonState hasChanged : UInt32) (nusErr beaconErr : Int) : Prop :=
  (buttonState &&& hasChanged &&& KEY_NUS_MODE ≠ 0 -> nusErr = 0) ∧
    (buttonState &&& hasChanged &&& KEY_BEACON_MODE ≠ 0 -> beaconErr = 0) ∧
    buttonState &&& hasChanged &&& KEY_PASSKEY_ACCEPT ≠ 0 ∧
    buttonState &&& hasChanged &&& KEY_PASSKEY_REJECT ≠ 0

/-- While a passkey waits for its reply, no other passkey is announced and the
buttons do not reply both ways at once. -/
def Careful (beacon : Beacon) : Event -> Prop
  | .authPasskeyConfirm _ => beacon.authConn = none
  | .buttonChanged buttonState hasChanged nusErr beaconErr => beacon.authConn = none ∨
      ¬ BothReplies buttonState hasChanged nusErr beaconErr
  | _ => True

/-! ## What is counted -/

def Call.takes : Call -> Bool
  | .ref _ => true
  | _ => false

def Call.releases : Call -> Bool
  | .unref (some _) => true
  | _ => false

/-- The call is made with a NULL connection. -/
def Call.onNull : Call -> Bool
  | .unref none | .passkeyConfirm none | .authCancel none => true
  | _ => false

/-- The number of non-NULL pointers. -/
def Beacon.pointers (beacon : Beacon) : Nat :=
  (if beacon.currentConn = none then 0 else 1) + (if beacon.authConn = none then 0 else 1)

/-- The call does not release a reference that has been released before. -/
def ReleasesOnce (before : List Call) (call : Call) : Prop :=
  forall conn, call = .unref (some conn) ->
    before.count (.unref (some conn)) < before.count (.ref conn)

structure InOrder (beacon : Beacon) : Prop where
  balanced : beacon.calls.countP Call.takes =
    beacon.calls.countP Call.releases + beacon.pointers
  notNull : forall call, call ∈ beacon.calls -> call.onNull = false
  releasedOnce : Always ReleasesOnce beacon.calls

/-- References that no pointer accounts for, and calls on NULL. -/
def Beacon.faults (beacon : Beacon) : Int :=
  beacon.calls.countP Call.takes - beacon.calls.countP Call.releases - beacon.pointers +
    beacon.calls.countP Call.onNull

/-! ## What one operation costs -/

/-- How many of the two pointers hold this connection. -/
def Beacon.holding (beacon : Beacon) (conn : Conn) : Nat :=
  (if beacon.currentConn = some conn then 1 else 0) + (if beacon.authConn = some conn then 1 else 0)

/-- Every pointer has a reference of its own, and no reference has been released
twice.  This holds in every run. -/
structure Keeps (beacon : Beacon) : Prop where
  enough : beacon.calls.countP Call.releases + beacon.pointers ≤
    beacon.calls.countP Call.takes
  held : forall conn, beacon.calls.count (.unref (some conn)) + beacon.holding conn ≤
    beacon.calls.count (.ref conn)
  releasedOnce : Always ReleasesOnce beacon.calls

/-- The operation keeps what holds in every run and adds this many faults. -/
def Costs (before after : Beacon) (cost : Int) : Prop :=
  (Keeps before -> Keeps after) ∧ after.faults = before.faults + cost

theorem Costs.trans {first second third : Beacon} {cost more total : Int}
    (start : Costs first second cost) (rest : Costs second third more)
    (sum : cost + more = total) : Costs first third total := by
  constructor
  · exact fun keeps => rest.1 (start.1 keeps)
  · rw [rest.2, start.2, Int.add_assoc, sum]

theorem Costs.free (beacon : Beacon) : Costs beacon beacon 0 :=
  ⟨id, (Int.add_zero _).symm⟩

section Operations

variable {beacon : Beacon}

/-- A call that neither takes nor releases a reference. -/
theorem costs_call (beacon : Beacon) (call : Call) (notTakes : call.takes = false)
    (notUnref : forall conn, call ≠ .unref (some conn)) :
    Costs beacon (beacon.call call) (if call.onNull then 1 else 0) := by
  have notReleases : call.releases = false := by
    cases call with
    | unref conn =>
        cases conn with
        | none => rfl
        | some conn => exact absurd rfl (notUnref conn)
    | _ => rfl
  have notRef : forall conn, call ≠ .ref conn := by
    intro conn same
    rw [same] at notTakes
    cases notTakes
  constructor
  · intro keeps
    constructor
    · unfold Beacon.call Beacon.pointers
      simp only [List.countP_append, List.countP_singleton, notTakes, notReleases]
      exact keeps.enough
    · intro conn
      have unrefs : (beacon.call call).calls.count (.unref (some conn)) =
          beacon.calls.count (.unref (some conn)) := by
        simp [Beacon.call, List.count_append, notUnref]
      have refs : (beacon.call call).calls.count (.ref conn) = beacon.calls.count (.ref conn) := by
        simp [Beacon.call, List.count_append, notRef]
      rw [unrefs, refs]
      exact keeps.held conn
    · exact always_concat.mpr ⟨keeps.releasedOnce, fun conn same => absurd same (notUnref conn)⟩
  · unfold Beacon.faults Beacon.call Beacon.pointers
    simp only [List.countP_append, List.countP_singleton, notTakes, notReleases]
    cases call.onNull
    · simp
    · simp
      omega

/-- A reference taken for a connection, to be held by one more pointer. -/
theorem costs_ref (conn : Conn) {after : Beacon} (cost : Nat)
    (calls : after.calls = beacon.calls ++ [.ref conn])
    (pointers : after.pointers + cost = beacon.pointers + 1)
    (holding : forall other, after.holding other ≤
      beacon.holding other + if conn = other then 1 else 0) :
    Costs beacon after cost := by
  constructor
  · intro keeps
    constructor
    · have enough := keeps.enough
      rw [calls]
      simp only [List.countP_append, List.countP_singleton, Call.takes, Call.releases]
      simp
      omega
    · intro other
      have held := keeps.held other
      have more := holding other
      rw [calls, List.count_append, List.count_append, List.count_singleton, List.count_singleton]
      by_cases same : conn = other
      · subst same
        simp at more ⊢
        omega
      · simp [same] at more ⊢
        omega
    · rw [calls]
      exact always_concat.mpr ⟨keeps.releasedOnce, fun other same => nomatch same⟩
  · unfold Beacon.faults
    rw [calls]
    simp only [List.countP_append, List.countP_singleton, Call.takes, Call.releases, Call.onNull]
    simp
    omega

/-- A pointer that holds a reference releases it. -/
theorem costs_release (conn : Conn) {after : Beacon}
    (calls : after.calls = beacon.calls ++ [.unref (some conn)])
    (pointers : after.pointers + 1 = beacon.pointers)
    (holding : forall other, after.holding other + (if conn = other then 1 else 0) =
      beacon.holding other) :
    Costs beacon after 0 := by
  constructor
  · intro keeps
    constructor
    · have enough := keeps.enough
      rw [calls]
      simp only [List.countP_append, List.countP_singleton, Call.takes, Call.releases]
      simp
      omega
    · intro other
      have held := keeps.held other
      have less := holding other
      rw [calls, List.count_append, List.count_append, List.count_singleton, List.count_singleton]
      by_cases same : conn = other
      · subst same
        simp at less ⊢
        omega
      · simp [same] at less ⊢
        omega
    · rw [calls]
      refine always_concat.mpr ⟨keeps.releasedOnce, ?_⟩
      intro other same
      cases same
      have held := keeps.held conn
      have less := holding conn
      simp at less
      omega
  · unfold Beacon.faults
    rw [calls]
    simp only [List.countP_append, List.countP_singleton, Call.takes, Call.releases, Call.onNull]
    simp
    omega

end Operations

/-! ## What one event costs -/

section Events

variable {beacon : Beacon}

theorem costs_releaseAuth {conn : Conn} (held : beacon.authConn = some conn) :
    Costs beacon (releaseAuth beacon) 0 := by
  apply costs_release conn
  · unfold releaseAuth Beacon.call
    rw [held]
  · simp [releaseAuth, Beacon.pointers, Beacon.call, held]
  · intro other
    simp [releaseAuth, Beacon.holding, Beacon.call, held]

theorem costs_releaseAuth_null (isNull : beacon.authConn = none) :
    Costs beacon (releaseAuth beacon) 1 := by
  have same : releaseAuth beacon = beacon.call (.unref none) := by
    unfold releaseAuth
    rw [isNull, ← isNull]
    rfl
  rw [same]
  exact costs_call beacon (.unref none) rfl fun conn other => nomatch other

theorem costs_releaseCurrent {conn : Conn} (held : beacon.currentConn = some conn) :
    Costs beacon (releaseCurrent beacon) 0 := by
  apply costs_release conn
  · unfold releaseCurrent Beacon.call
    rw [held]
  · simp [releaseCurrent, Beacon.pointers, Beacon.call, held, Nat.add_comm]
  · intro other
    simp [releaseCurrent, Beacon.holding, Beacon.call, held]
    omega

theorem costs_connected {conn : Conn} {err : UInt8} (free : err = 0 -> beacon.currentConn = none) :
    Costs beacon (connected conn err beacon) 0 := by
  unfold connected
  split
  · exact Costs.free beacon
  · rename_i succeeds
    have free := free (not_not.mp succeeds)
    apply costs_ref conn 0
    · rfl
    · simp [Beacon.pointers, Beacon.call, free]
      omega
    · intro other
      simp [Beacon.holding, Beacon.call, free]
      omega

theorem costs_dropAuth : Costs beacon (dropAuth beacon) 0 := by
  unfold dropAuth
  split
  · rename_i waiting
    rcases Option.ne_none_iff_exists'.mp waiting with ⟨conn, held⟩
    exact costs_releaseAuth held
  · exact Costs.free beacon

theorem costs_dropCurrent : Costs beacon (dropCurrent beacon) 0 := by
  unfold dropCurrent
  split
  · rename_i connected
    rcases Option.ne_none_iff_exists'.mp connected with ⟨conn, held⟩
    exact costs_releaseCurrent held
  · exact Costs.free beacon

theorem costs_disconnected : Costs beacon (disconnected beacon) 0 :=
  costs_dropAuth.trans costs_dropCurrent rfl

theorem costs_authPasskeyConfirm {conn : Conn} :
    Costs beacon (authPasskeyConfirm conn beacon) (if beacon.authConn = none then 0 else 1) := by
  cases free : beacon.authConn with
  | none =>
      apply costs_ref conn 0
      · rfl
      · simp [authPasskeyConfirm, Beacon.pointers, Beacon.call, free]
      · intro other
        simp [authPasskeyConfirm, Beacon.holding, Beacon.call, free]
  | some old =>
      apply costs_ref conn 1
      · rfl
      · simp [authPasskeyConfirm, Beacon.pointers, Beacon.call, free]
      · intro other
        simp [authPasskeyConfirm, Beacon.holding, Beacon.call, free]

/-- Reply to a passkey that waits: the call, then the release. -/
theorem costs_numCompReply {conn : Conn} (accept : Bool) (held : beacon.authConn = some conn) :
    Costs beacon (numCompReply accept beacon) 0 := by
  unfold numCompReply
  rw [held]
  cases accept with
  | true =>
      have called := costs_call beacon (.passkeyConfirm (some conn)) rfl
        fun _ other => nomatch other
      exact called.trans (costs_releaseAuth held) rfl
  | false =>
      have called := costs_call beacon (.authCancel (some conn)) rfl
        fun _ other => nomatch other
      exact called.trans (costs_releaseAuth held) rfl

/-- Reply when no passkey waits: both calls are made on NULL. -/
theorem costs_numCompReply_null (accept : Bool) (isNull : beacon.authConn = none) :
    Costs beacon (numCompReply accept beacon) 2 := by
  unfold numCompReply
  rw [isNull]
  cases accept with
  | true =>
      have called := costs_call beacon (.passkeyConfirm none) rfl
        fun _ other => nomatch other
      exact called.trans (costs_releaseAuth_null isNull) rfl
  | false =>
      have called := costs_call beacon (.authCancel none) rfl
        fun _ other => nomatch other
      exact called.trans (costs_releaseAuth_null isNull) rfl

theorem costs_reply (buttons : UInt32) {conn : Conn} (held : beacon.authConn = some conn) :
    Costs beacon (reply buttons beacon)
      (if buttons &&& KEY_PASSKEY_ACCEPT ≠ 0 ∧ buttons &&& KEY_PASSKEY_REJECT ≠ 0 then 2 else 0) := by
  unfold reply
  by_cases accept : buttons &&& KEY_PASSKEY_ACCEPT ≠ 0 <;>
    by_cases reject : buttons &&& KEY_PASSKEY_REJECT ≠ 0
  · rw [if_pos accept, if_pos reject, if_pos ⟨accept, reject⟩]
    exact (costs_numCompReply true held).trans (costs_numCompReply_null false rfl) rfl
  · rw [if_pos accept, if_neg reject, if_neg fun both => reject both.2]
    exact costs_numCompReply true held
  · rw [if_neg accept, if_pos reject, if_neg fun both => accept both.1]
    exact costs_numCompReply false held
  · rw [if_neg accept, if_neg reject, if_neg fun both => accept both.1]
    exact Costs.free beacon

theorem costs_switchMode {pressed : Bool} {mode : AdvMode} {err : Int} :
    Costs beacon (switchMode pressed mode err beacon).2 0 := by
  unfold switchMode
  split
  · have stopped := costs_call beacon .advStop rfl fun _ other => nomatch other
    exact stopped.trans (costs_call _ (.advStart mode err) rfl fun _ other => nomatch other) rfl
  · exact Costs.free beacon

@[simp] theorem authConn_switchMode {pressed : Bool} {mode : AdvMode} {err : Int} :
    (switchMode pressed mode err beacon).2.authConn = beacon.authConn := by
  unfold switchMode
  split <;> rfl

@[simp] theorem currentConn_switchMode {pressed : Bool} {mode : AdvMode} {err : Int} :
    (switchMode pressed mode err beacon).2.currentConn = beacon.currentConn := by
  unfold switchMode
  split <;> rfl

/-- The handler goes on unless the button is pressed and advertising fails. -/
theorem goesOn_switchMode {buttons key : UInt32} {mode : AdvMode} {err : Int} :
    (switchMode (buttons &&& key != 0) mode err beacon).1 = true <->
      (buttons &&& key ≠ 0 -> err = 0) := by
  unfold switchMode
  by_cases pressed : buttons &&& key = 0
  · simp [pressed]
  · simp [pressed]

instance (buttonState hasChanged : UInt32) (nusErr beaconErr : Int) :
    Decidable (BothReplies buttonState hasChanged nusErr beaconErr) :=
  inferInstanceAs (Decidable (_ ∧ _))

theorem costs_buttonChanged {buttonState hasChanged : UInt32} {nusErr beaconErr : Int} :
    Costs beacon (buttonChanged buttonState hasChanged nusErr beaconErr beacon)
      (if beacon.authConn ≠ none ∧ BothReplies buttonState hasChanged nusErr beaconErr then 2
        else 0) := by
  unfold buttonChanged
  set buttons := buttonState &&& hasChanged with theButtons
  set nus := switchMode (buttons &&& KEY_NUS_MODE != 0) .nus nusErr beacon with theNus
  set both := switchMode (buttons &&& KEY_BEACON_MODE != 0) .beacon beaconErr nus.2 with theBoth
  have nusCosts : Costs beacon nus.2 0 := costs_switchMode
  have bothCosts : Costs beacon both.2 0 := nusCosts.trans costs_switchMode rfl
  have nusGoesOn : nus.1 = true <-> (buttons &&& KEY_NUS_MODE ≠ 0 -> nusErr = 0) :=
    goesOn_switchMode
  have bothGoesOn : both.1 = true <-> (buttons &&& KEY_BEACON_MODE ≠ 0 -> beaconErr = 0) :=
    goesOn_switchMode
  have sameAuth : both.2.authConn = beacon.authConn := by
    rw [theBoth, authConn_switchMode, theNus, authConn_switchMode]
  dsimp only
  by_cases nusStops : nus.1 = false
  · have notBoth : ¬ BothReplies buttonState hasChanged nusErr beaconErr := by
      intro replies
      rw [nusGoesOn.mpr replies.1] at nusStops
      cases nusStops
    rw [if_pos nusStops, if_neg fun either => notBoth either.2]
    exact nusCosts
  · rw [if_neg nusStops]
    by_cases bothStops : both.1 = false
    · have notBoth : ¬ BothReplies buttonState hasChanged nusErr beaconErr := by
        intro replies
        rw [bothGoesOn.mpr replies.2.1] at bothStops
        cases bothStops
      rw [if_pos bothStops, if_neg fun either => notBoth either.2]
      exact bothCosts
    · rw [if_neg bothStops]
      cases held : beacon.authConn with
      | none =>
          rw [if_pos (sameAuth.trans held), if_neg fun either => either.1 rfl]
          exact bothCosts
      | some conn =>
          rw [if_neg (by rw [sameAuth, held]; exact Option.some_ne_none conn)]
          have replies := bothCosts.trans (costs_reply buttons (sameAuth.trans held))
            (Int.zero_add _)
          have reached : BothReplies buttonState hasChanged nusErr beaconErr <->
              buttons &&& KEY_PASSKEY_ACCEPT ≠ 0 ∧ buttons &&& KEY_PASSKEY_REJECT ≠ 0 := by
            constructor
            · exact fun whole => whole.2.2
            · intro keys
              exact ⟨nusGoesOn.mp (Bool.not_eq_false _ |>.mp nusStops),
                bothGoesOn.mp (Bool.not_eq_false _ |>.mp bothStops), keys⟩
          simpa [reached] using replies

/-- Every event costs something exactly if it is not careful. -/
theorem costs_step {link : Option Conn} {event : Event} (current : beacon.currentConn = link)
    (possible : CanHappen link event) :
    exists cost, 0 ≤ cost ∧ Costs beacon (step beacon event) cost ∧
      (cost = 0 <-> Careful beacon event) := by
  cases event with
  | connected conn err =>
      exact ⟨0, Int.le_refl 0, costs_connected fun succeeds => current.trans (possible succeeds),
        iff_of_true rfl trivial⟩
  | disconnected conn =>
      exact ⟨0, Int.le_refl 0, costs_disconnected, iff_of_true rfl trivial⟩
  | authPasskeyConfirm conn =>
      refine ⟨_, ?_, costs_authPasskeyConfirm, ?_⟩
      · split <;> decide
      · unfold Careful
        by_cases free : beacon.authConn = none <;> simp [free]
  | authCancel conn =>
      exact ⟨0, Int.le_refl 0, Costs.free beacon, iff_of_true rfl trivial⟩
  | buttonChanged buttonState hasChanged nusErr beaconErr =>
      refine ⟨_, ?_, costs_buttonChanged, ?_⟩
      · split <;> decide
      · unfold Careful
        by_cases free : beacon.authConn = none <;>
          by_cases both : BothReplies buttonState hasChanged nusErr beaconErr <;> simp [free, both]

end Events

/-! ## Runs -/

theorem Keeps.faults_nonneg {beacon : Beacon} (keeps : Keeps beacon) : 0 ≤ beacon.faults := by
  have enough := keeps.enough
  unfold Beacon.faults
  omega

/-- A state is in order if it has no faults. -/
theorem Keeps.inOrder_iff {beacon : Beacon} (keeps : Keeps beacon) :
    InOrder beacon <-> beacon.faults = 0 := by
  have enough := keeps.enough
  have notNull : (forall call, call ∈ beacon.calls -> call.onNull = false) <->
      beacon.calls.countP Call.onNull = 0 := by
    rw [List.countP_eq_zero]
    simp only [Bool.not_eq_true]
  unfold Beacon.faults
  constructor
  · intro inOrder
    have balanced := inOrder.balanced
    have noNull := notNull.mp inOrder.notNull
    omega
  · intro faultless
    constructor
    · omega
    · apply notNull.mpr
      omega
    · exact keeps.releasedOnce

theorem run_concat (events : List Event) (event : Event) :
    run (events ++ [event]) = step (run events) event := by
  unfold run
  rw [List.foldl_append, List.foldl_cons, List.foldl_nil]

theorem linkAfter_concat (events : List Event) (event : Event) :
    linkAfter (events ++ [event]) = relink (linkAfter events) event := by
  unfold linkAfter
  rw [List.foldl_append, List.foldl_cons, List.foldl_nil]

@[simp] theorem currentConn_numCompReply (accept : Bool) (beacon : Beacon) :
    (numCompReply accept beacon).currentConn = beacon.currentConn :=
  rfl

theorem currentConn_buttonChanged (buttonState hasChanged : UInt32) (nusErr beaconErr : Int)
    (beacon : Beacon) :
    (buttonChanged buttonState hasChanged nusErr beaconErr beacon).currentConn =
      beacon.currentConn := by
  unfold buttonChanged reply
  dsimp only
  repeat' split
  all_goals simp only [currentConn_numCompReply, currentConn_switchMode]

/-- `current_conn` follows the link. -/
theorem currentConn_step {beacon : Beacon} {link : Option Conn} {event : Event}
    (current : beacon.currentConn = link) :
    (step beacon event).currentConn = relink link event := by
  cases event with
  | connected conn err =>
      unfold step connected relink
      by_cases failed : err = 0 <;> simp [failed, current]
  | disconnected conn =>
      unfold step disconnected dropCurrent relink
      dsimp only
      split
      · rfl
      · rename_i isNull
        exact not_not.mp isNull
  | authPasskeyConfirm conn => exact current
  | authCancel conn => exact current
  | buttonChanged buttonState hasChanged nusErr beaconErr =>
      exact (currentConn_buttonChanged _ _ _ _ _).trans current

/-- What holds of every run with one link; the run has no faults exactly if all
its events were careful. -/
structure Accounts (events : List Event) : Prop where
  current : (run events).currentConn = linkAfter events
  keeps : Keeps (run events)
  faultless : (run events).faults = 0 <->
    Always (fun before event => Careful (run before) event) events

theorem accounts_of_oneLink {events : List Event} (oneLink : OneLink events) :
    Accounts events := by
  induction events using List.reverseRecOn with
  | nil =>
      constructor
      · rfl
      · exact ⟨Nat.le_refl 0, fun _ => Nat.le_refl 0, always_nil⟩
      · exact iff_of_true rfl always_nil
  | append_singleton events event inductionHypothesis =>
      rcases always_concat.mp oneLink with ⟨before, possible⟩
      have accounts := inductionHypothesis before
      rcases costs_step accounts.current possible with ⟨cost, positive, costs, careful⟩
      have faults := costs.2
      rw [← run_concat] at faults
      constructor
      · rw [run_concat, linkAfter_concat]
        exact currentConn_step accounts.current
      · rw [run_concat]
        exact costs.1 accounts.keeps
      · rw [always_concat, ← accounts.faultless, ← careful, faults]
        have old := accounts.keeps.faults_nonneg
        omega

/-- With one link, every state of a run is in order exactly if each of its events
was careful in the state it met. -/
theorem inOrder_iff_careful {events : List Event} (oneLink : OneLink events) :
    (forall before, before <+: events -> InOrder (run before)) <->
      Always (fun before event => Careful (run before) event) events := by
  have each : forall before, before <+: events -> (InOrder (run before) <->
      Always (fun before event => Careful (run before) event) before) := by
    intro before isPrefix
    have accounts := accounts_of_oneLink (oneLink.of_prefix isPrefix)
    exact accounts.keeps.inOrder_iff.trans accounts.faultless
  constructor
  · intro inOrder
    exact (each events (List.prefix_refl events)).mp (inOrder events (List.prefix_refl events))
  · intro careful before isPrefix
    exact (each before isPrefix).mpr (careful.of_prefix isPrefix)

instance (link : Option Conn) (event : Event) : Decidable (CanHappen link event) :=
  match event with
  | .connected _ _ => inferInstanceAs (Decidable (_ -> _ = none))
  | .disconnected _ | .authPasskeyConfirm _ | .authCancel _ =>
      inferInstanceAs (Decidable (_ = some _))
  | .buttonChanged _ _ _ _ => .isTrue trivial

instance (beacon : Beacon) (event : Event) : Decidable (Careful beacon event) :=
  match event with
  | .authPasskeyConfirm _ => inferInstanceAs (Decidable (_ = none))
  | .buttonChanged _ _ _ _ => inferInstanceAs (Decidable (_ ∨ ¬ _))
  | .connected _ _ | .disconnected _ | .authCancel _ => .isTrue trivial

instance (events : List Event) : Decidable (OneLink events) :=
  inferInstanceAs (Decidable (Always _ events))

/-- A pairing is rejected, and a second one on the same link accepted. -/
def answeredPairings : List Event :=
  [.connected 7 0, .authPasskeyConfirm 7, .buttonChanged 2 2 0 0, .authPasskeyConfirm 7,
    .buttonChanged 1 1 0 0, .disconnected 7]

theorem answeredPairings_inOrder :
    OneLink answeredPairings ∧
      forall before, before <+: answeredPairings -> InOrder (run before) := by
  have oneLink : OneLink answeredPairings := by decide +kernel
  exact ⟨oneLink, (inOrder_iff_careful oneLink).mpr (by decide +kernel)⟩

/-- A pairing is cancelled, and announced again before the first was answered. -/
def repeatedPairing : List Event :=
  [.connected 7 0, .authPasskeyConfirm 7, .authCancel 7, .authPasskeyConfirm 7, .disconnected 7]

/-- The first reference of `auth_conn` is never released. -/
theorem not_inOrder_always :
    ¬ forall events, OneLink events -> forall before, before <+: events -> InOrder (run before) := by
  intro claim
  have inOrder := claim repeatedPairing (by decide +kernel) repeatedPairing (List.prefix_refl _)
  have balanced := inOrder.balanced
  revert balanced
  decide +kernel

end Pairing
end Uart
end NrfExamples
