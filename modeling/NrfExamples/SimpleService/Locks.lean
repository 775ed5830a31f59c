import NrfExamples.Reentrant.Sections
import NrfExamples.SimpleService.Client

namespace NrfExamples
namespace SimpleService
namespace Locks

open Reentrant Prog

/-!
# The two locks of the client

Calls of the client run side by side, a step of one after a step of another:
those of the application, from any thread and from inside the callbacks, and
`on_sent` and `on_received`, by which the stack completes what it has accepted.
So a callback of the application returns at once here, and the calls that it
makes begin like any others, also between two steps of the call that runs the
callback.

A bit is set by one call and cleared by the same call or by another.  It is set
just when some call or the stack has the right to clear it.
-/

/-- The writes and subscriptions that the stack has accepted and for which it has
not called `on_sent`, or `on_received` without data. -/
structure Requests where
  accepted : Nat
  active : Nat
  deriving DecidableEq, Repr

abbrev LockProg := ClientProg Requests Unit

abbrev LockState := Client Requests

def acceptWrite : LockProg Unit :=
  .mapEnv fun requests => { requests with accepted := requests.accepted + 1 }

def acceptSubscription : LockProg Unit :=
  .mapEnv fun requests => { requests with active := requests.active + 1 }

/-- The client, with callbacks that return at once, and a stack that accepts what
it likes. -/
def lockBody : (proc : ClientProc) -> LockProg (ClientResult proc)
  | .environment | .interrupts => pure ()
  | .clientInit present init => btSimpleServiceClientInit present init
  | .handlesAssign dm => btSimpleServiceHandlesAssign dm
  | .subscribeReceive => btSimpleServiceSubscribeReceive
  | .setLed data => btSimpleServiceSetLed data
  | .onReceived data => onReceived data
  | .onSent err => onSent err
  | .received _ => do
      let answer <- .ask .result
      pure (if answer = 0 then BT_GATT_ITER_STOP else BT_GATT_ITER_CONTINUE)
  | .sent _ _ => pure ()
  | .unsubscribed => pure ()
  | .btGattSubscribe _ _ => do
      let err <- .ask .result
      if err = 0 then
        acceptSubscription
        pure err
      else pure err
  | .btGattWrite _ _ => do
      let err <- .ask .result
      if err = 0 then
        acceptWrite
        pure err
      else pure err
  | .btGattDmStart _ => .ask .result
  | .btConnSetSecurity _ => .ask .result

def lockSystem : System (clientInterface Requests Unit) where
  body := lockBody
  permitted := fun _ _ _ => True

/-- The application may call the client at any time; the stack completes what it
has accepted, once. -/
def begins (proc : ClientProc) (state later : LockState) : Prop :=
  match proc with
  | .clientInit _ _ | .handlesAssign _ | .subscribeReceive | .setLed _ => later = state
  | .onSent _ => state.env.accepted ≠ 0 ∧
      later = state.mapEnv fun requests => { requests with accepted := requests.accepted - 1 }
  | .onReceived (some _) => state.env.active ≠ 0 ∧ later = state
  | .onReceived none => state.env.active ≠ 0 ∧
      later = state.mapEnv fun requests => { requests with active := requests.active - 1 }
  | _ => False

/-! ## What a call remembers -/

def level (isSet : Bool) : Int :=
  if isSet then 1 else 0

/-- By how much the steps of a call have changed the two bits and the numbers of
requests that the stack has accepted. -/
structure Own where
  pending : Int
  notif : Int
  accepted : Int
  active : Int
  deriving DecidableEq, Repr

def Own.remember (own : Own) (state later : LockState) : Own where
  pending := own.pending +
    (level later.service.rxWritePending - level state.service.rxWritePending)
  notif := own.notif + (level later.service.notifEnabled - level state.service.notifEnabled)
  accepted := own.accepted + (later.env.accepted - state.env.accepted)
  active := own.active + (later.env.active - state.env.active)

def locks : SideBySide (clientInterface Requests Unit) Own where
  sys := lockSystem
  begins := begins
  fresh := ⟨0, 0, 0, 0⟩
  remember := Own.remember
  remember_same := by
    intro own state
    unfold Own.remember
    simp

abbrev LockPool := Pool (clientInterface Requests Unit) Own

/-- The instance is not in use; it may have been initialized. -/
structure Unused (start : LockState) : Prop where
  pending : start.service.rxWritePending = false
  notif : start.service.notifEnabled = false
  requests : start.env = ⟨0, 0⟩

def LockReached (current : LockPool) : Prop :=
  exists start, Unused start ∧ locks.Reachable ⟨start, []⟩ current

/-! ## What a bit stands for -/

/-- A call of `bt_simple_service_set_led` that has set the bit, and whose write is
not accepted. -/
def isSubmitting : ClientProc × Own -> Bool
  | (.setLed _, own) => own.pending = 1 && own.accepted = 0
  | _ => false

/-- A call of `on_sent` that has not cleared the bit. -/
def isCompleting : ClientProc × Own -> Bool
  | (.onSent _, own) => own.pending = 0
  | _ => false

/-- A call of `bt_simple_service_subscribe_receive` that has set the bit, and whose
subscription is not accepted. -/
def isSubscribing : ClientProc × Own -> Bool
  | (.subscribeReceive, own) => own.notif = 1 && own.active = 0
  | _ => false

/-- A call of `on_received` without data that has not cleared the bit. -/
def isEnding : ClientProc × Own -> Bool
  | (.onReceived none, own) => own.notif = 0
  | _ => false

/-- What a memory contributes to the count for each bit. -/
def writeShare (memory : ClientProc × Own) : Nat :=
  (if isSubmitting memory = true then 1 else 0) + if isCompleting memory = true then 1 else 0

def notifShare (memory : ClientProc × Own) : Nat :=
  (if isSubscribing memory = true then 1 else 0) + if isEnding memory = true then 1 else 0

/-- A call of this kind that is still under way. -/
def isUnderWay (counts : ClientProc × Own -> Bool)
    (activity : Activity (clientInterface Requests Unit) Own) : Bool :=
  activity.underWay && counts (activity.proc, activity.memory)

/-- The writes that are accepted and not completed: `on_sent` is still to be called, or
it is running and has not cleared the bit. -/
def outstanding (current : LockPool) : Nat :=
  current.state.env.accepted + current.activities.countP (isUnderWay isCompleting)

/-- The subscriptions that are accepted and not ended. -/
def subscriptions (current : LockPool) : Nat :=
  current.state.env.active + current.activities.countP (isUnderWay isEnding)

/-! What the programs of the calls keep is about memories alone.  For it the calls that
have ended are counted too; in the end they contribute nothing. -/

def outstandingIn (state : LockState) (memories : List (ClientProc × Own)) : Nat :=
  state.env.accepted + memories.countP isCompleting

def subscriptionsIn (state : LockState) (memories : List (ClientProc × Own)) : Nat :=
  state.env.active + memories.countP isEnding

/-- Each bit is set for one call or request, and for one alone. -/
structure LockInv (state : LockState) (memories : List (ClientProc × Own)) : Prop where
  pending : ((memories.countP isSubmitting + outstandingIn state memories : Nat) : Int) =
    level state.service.rxWritePending
  notif : ((memories.countP isSubscribing + subscriptionsIn state memories : Nat) : Int) =
    level state.service.notifEnabled

/-- The call returns an error. -/
def Fails : (proc : ClientProc) -> ClientResult proc -> Prop
  | .clientInit _ _, err | .handlesAssign _, err | .subscribeReceive, err | .setLed _, err =>
      err ≠ 0
  | _, _ => False

/-- What is known of a call that has ended: an error has changed neither bit, and the
call has nothing more to do with either. -/
structure Ended (proc : ClientProc) (result : ClientResult proc) (own : Own) : Prop where
  failed : Fails proc result -> own.pending = 0 ∧ own.notif = 0
  write : writeShare (proc, own) = 0
  notif : notifShare (proc, own) = 0

def sharing : Sharing (clientInterface Requests Unit) Own where
  inv := LockInv
  does := fun state memories later => outstandingIn state memories ≠ 0 ->
    later.service.writeParams = state.service.writeParams
  does_nothing := fun _ _ _ => rfl
  ended := Ended
  pre := fun owner proc own =>
    match owner, proc with
    | .setLed _, .btGattWrite _ _ => own = ⟨1, 0, 0, 0⟩
    | .subscribeReceive, .btGattSubscribe _ _ => own = ⟨0, 1, 0, 0⟩
    | .onSent _, .sent _ _ | .onReceived _, .received _ | .onReceived _, .unsubscribed => True
    | _, _ => False
  post := fun owner proc own result later =>
    match owner, proc, result with
    | .setLed _, .btGattWrite _ _, (err : Int) =>
        later = if err = 0 then ⟨1, 0, 1, 0⟩ else ⟨1, 0, 0, 0⟩
    | .subscribeReceive, .btGattSubscribe _ _, (err : Int) =>
        later = if err = 0 then ⟨0, 1, 0, 1⟩ else ⟨0, 1, 0, 0⟩
    | _, _, _ => later = own

/-! ## Counting -/

section Counting

variable {first last : List (ClientProc × Own)} {before after : ClientProc × Own}
variable {submits completes : ClientProc × Own -> Bool} {requests laterRequests : Nat}
variable {isSet laterSet : Bool}

/-- A bit is one exactly if something is counted for it. -/
theorem level_iff {isSet : Bool} {counted : Nat} (counts : (counted : Int) = level isSet) :
    (isSet = true <-> counted ≠ 0) ∧ counted ≤ 1 := by
  unfold level at counts
  cases isSet with
  | true =>
      rw [if_pos rfl] at counts
      constructor
      · exact iff_of_true rfl (by omega)
      · omega
  | false =>
      rw [if_neg Bool.false_ne_true] at counts
      constructor
      · exact iff_of_false Bool.false_ne_true (by omega)
      · omega

theorem countP_middle (counts : ClientProc × Own -> Bool) (memory : ClientProc × Own) :
    (first ++ memory :: last).countP counts =
      (first ++ last).countP counts + if counts memory = true then 1 else 0 := by
  rw [List.countP_append, List.countP_append, List.countP_cons, Nat.add_assoc]

/-- The calls that submit or complete a request, and the requests that the stack has
accepted, make up the bit. -/
def Counts (submits completes : ClientProc × Own -> Bool) (requests : Nat) (isSet : Bool)
    (memories : List (ClientProc × Own)) : Prop :=
  ((memories.countP submits + (requests + memories.countP completes) : Nat) : Int) = level isSet

/-- What one memory contributes to the count. -/
def share (submits completes : ClientProc × Own -> Bool) (memory : ClientProc × Own) : Nat :=
  (if submits memory = true then 1 else 0) + if completes memory = true then 1 else 0

/-- A memory is replaced, and the balance is kept. -/
theorem Counts.replace (counts : Counts submits completes requests isSet (first ++ before :: last))
    (balance : share submits completes after + laterRequests - level laterSet =
      share submits completes before + requests - level isSet) :
    Counts submits completes laterRequests laterSet (first ++ after :: last) := by
  unfold Counts at *
  unfold share at balance
  rw [countP_middle, countP_middle] at *
  omega

/-- A new memory takes its share from the requests of the stack. -/
theorem Counts.add {memories : List (ClientProc × Own)}
    (counts : Counts submits completes requests isSet memories)
    (balance : share submits completes after + laterRequests = requests) :
    Counts submits completes laterRequests isSet (memories ++ [after]) := by
  unfold Counts at *
  unfold share at balance
  rw [List.countP_append, List.countP_append, List.countP_singleton, List.countP_singleton]
  omega

/-- A call that has a share finds the bit set. -/
theorem Counts.isSet_of_share
    (counts : Counts submits completes requests isSet (first ++ before :: last))
    (shares : share submits completes before ≠ 0) : isSet = true := by
  apply (level_iff counts).1.mpr
  unfold share at shares
  rw [countP_middle, countP_middle]
  omega

/-- Without a share a memory is of neither kind. -/
theorem nothing_of_share (nothing : share submits completes before = 0) :
    submits before = false ∧ completes before = false := by
  unfold share at nothing
  constructor
  · exact Bool.eq_false_iff.mpr fun submits => by
      rw [if_pos submits] at nothing
      omega
  · exact Bool.eq_false_iff.mpr fun completes => by
      rw [if_pos completes] at nothing
      omega

end Counting

/-! ## One step of one call -/

section Steps

variable {state later : LockState} {first last : List (ClientProc × Own)} {owner : ClientProc}
variable {own : Own}

theorem LockInv.counts {memories : List (ClientProc × Own)} (holds : LockInv state memories) :
    Counts isSubmitting isCompleting state.env.accepted state.service.rxWritePending memories ∧
      Counts isSubscribing isEnding state.env.active state.service.notifEnabled memories :=
  ⟨holds.pending, holds.notif⟩

/-- A step of one call keeps the invariant if it keeps the balance of each bit. -/
theorem LockInv.replace {before after : ClientProc × Own}
    (holds : LockInv state (first ++ before :: last))
    (pending : writeShare after + later.env.accepted - level later.service.rxWritePending =
      writeShare before + state.env.accepted - level state.service.rxWritePending)
    (notif : notifShare after + later.env.active - level later.service.notifEnabled =
      notifShare before + state.env.active - level state.service.notifEnabled) :
    LockInv later (first ++ after :: last) where
  pending := holds.counts.1.replace pending
  notif := holds.counts.2.replace notif

/-- A call that begins takes its share from the requests of the stack. -/
theorem LockInv.begin {memories : List (ClientProc × Own)} {memory : ClientProc × Own}
    (holds : LockInv state memories) (service : later.service = state.service)
    (pending : writeShare memory + later.env.accepted = state.env.accepted)
    (notif : notifShare memory + later.env.active = state.env.active) :
    LockInv later (memories ++ [memory]) where
  pending := service ▸ holds.counts.1.add pending
  notif := service ▸ holds.counts.2.add notif

/-- A call that has something to do with a bit finds it set. -/
theorem LockInv.pending_of_share {memory : ClientProc × Own}
    (holds : LockInv state (first ++ memory :: last)) (shares : writeShare memory ≠ 0) :
    state.service.rxWritePending = true :=
  holds.counts.1.isSet_of_share shares

theorem LockInv.notif_of_share {memory : ClientProc × Own}
    (holds : LockInv state (first ++ memory :: last)) (shares : notifShare memory ≠ 0) :
    state.service.notifEnabled = true :=
  holds.counts.2.isSet_of_share shares

/-- While a write is being submitted, none is outstanding. -/
theorem LockInv.outstanding_of_submitting {memory : ClientProc × Own}
    (holds : LockInv state (first ++ memory :: last)) (submits : isSubmitting memory = true) :
    outstandingIn state (first ++ memory :: last) = 0 := by
  have atMostOne := (level_iff holds.pending).2
  rw [countP_middle, if_pos submits] at atMostOne
  omega

/-- Neither the bits nor the requests nor the parameters of the write are
different. -/
structure Still (state later : LockState) : Prop where
  pending : later.service.rxWritePending = state.service.rxWritePending
  notif : later.service.notifEnabled = state.service.notifEnabled
  requests : later.env = state.env
  params : later.service.writeParams = state.service.writeParams

theorem Still.remember (still : Still state later) (own : Own) :
    own.remember state later = own := by
  unfold Own.remember
  rw [still.pending, still.notif, still.requests]
  simp

theorem LockInv.still {memories : List (ClientProc × Own)} (holds : LockInv state memories)
    (still : Still state later) : LockInv later memories := by
  rcases holds with ⟨pending, notif⟩
  constructor
  · unfold outstandingIn at *
    rw [still.pending, still.requests]
    exact pending
  · unfold subscriptionsIn at *
    rw [still.notif, still.requests]
    exact notif

end Steps

/-! ## The programs -/

/-- What a program of one call needs. -/
abbrev LockOwns {A : Type} (owner : ClientProc) (program : LockProg A) (goal : A -> Own -> Prop)
    (own : Own) : Prop :=
  program.Owns locks sharing owner goal own

section Programs

variable {owner : ClientProc} {own : Own} {A B : Type} {goal : B -> Own -> Prop}

/-- A section that leaves the locks alone. -/
theorem still_owns {run : LockState -> A × LockState} {rest : A -> LockProg B}
    (still : forall state, Still state (run state).2)
    (goesOn : forall state, LockOwns owner (rest (run state).1) goal own) :
    LockOwns owner (Prog.perform run >>= rest) goal own := by
  intro state first last holds
  have same : locks.remember own state (run state).2 = own := (still state).remember own
  rw [same]
  exact ⟨LockInv.still holds (still state), fun _ => (still state).params, goesOn state⟩

theorem still_of_clientInit (present : Bool) (init : Option BtSimpleServiceCb)
    (state : LockState) :
    Still state (state.onService fun service => service.clientInit present init).2 := by
  unfold Client.onService BtSimpleService.clientInit
  cases present with
  | false => exact ⟨rfl, rfl, rfl, rfl⟩
  | true =>
      cases init with
      | none => exact ⟨rfl, rfl, rfl, rfl⟩
      | some cb =>
          dsimp only
          split <;> exact ⟨rfl, rfl, rfl, rfl⟩

theorem still_of_handlesAssign (dm : GattDm) (state : LockState) :
    Still state (state.onService fun service => service.handlesAssign dm).2 := by
  unfold Client.onService
  dsimp only
  cases complete : dm.handles with
  | some handles =>
      rw [state.service.handlesAssign_of_complete complete]
      exact ⟨rfl, rfl, rfl, rfl⟩
  | none =>
      rcases (state.service.handlesAssign_of_incomplete complete).2 with ⟨handles, same⟩
      rw [same]
      exact ⟨rfl, rfl, rfl, rfl⟩

theorem owns_clientInit (present : Bool) (init : Option BtSimpleServiceCb) :
    LockOwns (.clientInit present init) (btSimpleServiceClientInit present init)
      (sharing.ended (.clientInit present init)) ⟨0, 0, 0, 0⟩ :=
  still_owns (still_of_clientInit present init) fun _ => ⟨fun _ => ⟨rfl, rfl⟩, rfl, rfl⟩

theorem owns_handlesAssign (dm : GattDm) :
    LockOwns (.handlesAssign dm) (btSimpleServiceHandlesAssign dm)
      (sharing.ended (.handlesAssign dm)) ⟨0, 0, 0, 0⟩ :=
  still_owns (still_of_handlesAssign dm) fun _ => ⟨fun _ => ⟨rfl, rfl⟩, rfl, rfl⟩

/-- One section, with the memory that it leaves. -/
theorem move_owns {run : LockState -> A × LockState} {rest : A -> LockProg B}
    (moves : forall state first last, LockInv state (first ++ (owner, own) :: last) ->
      exists next, own.remember state (run state).2 = next ∧
        LockInv (run state).2 (first ++ (owner, next) :: last) ∧
        (outstandingIn state (first ++ (owner, own) :: last) ≠ 0 ->
          (run state).2.service.writeParams = state.service.writeParams) ∧
        LockOwns owner (rest (run state).1) goal next) :
    LockOwns owner (Prog.perform run >>= rest) goal own := by
  intro state first last holds
  rcases moves state first last holds with ⟨next, same, kept, params, goesOn⟩
  have remembers : locks.remember own state (run state).2 = next := same
  rw [remembers]
  exact ⟨kept, params, goesOn⟩

/-- The bit is set by one call only. -/
theorem testAndSetWritePending_owns {data : UInt8} {rest : Bool -> LockProg B}
    (blocked : LockOwns (.setLed data) (rest true) goal ⟨0, 0, 0, 0⟩)
    (taken : LockOwns (.setLed data) (rest false) goal ⟨1, 0, 0, 0⟩) :
    LockOwns (.setLed data)
      (ClientProg.onService BtSimpleService.testAndSetWritePending >>= rest) goal ⟨0, 0, 0, 0⟩ := by
  apply move_owns
  intro state first last holds
  cases isSet : state.service.rxWritePending with
  | true =>
      have still : Still state (state.onService BtSimpleService.testAndSetWritePending).2 :=
        ⟨isSet.symm, rfl, rfl, rfl⟩
      refine ⟨⟨0, 0, 0, 0⟩, still.remember _, holds.still still, fun _ => rfl, ?_⟩
      change LockOwns _ (rest state.service.rxWritePending) _ _
      rw [isSet]
      exact blocked
  | false =>
      refine ⟨⟨1, 0, 0, 0⟩, ?_, ?_, fun _ => rfl, ?_⟩
      · simp [Own.remember, Client.onService, BtSimpleService.testAndSetWritePending, level, isSet]
      · apply holds.replace
        · rw [isSet]
          change ((1 : Nat) : Int) + state.env.accepted - 1 =
            ((0 : Nat) : Int) + state.env.accepted - 0
          omega
        · rfl
      · change LockOwns _ (rest state.service.rxWritePending) _ _
        rw [isSet]
        exact taken

/-- The same for the other bit. -/
theorem testAndSetNotifEnabled_owns {rest : Bool -> LockProg B}
    (blocked : LockOwns .subscribeReceive (rest true) goal ⟨0, 0, 0, 0⟩)
    (taken : LockOwns .subscribeReceive (rest false) goal ⟨0, 1, 0, 0⟩) :
    LockOwns .subscribeReceive
      (ClientProg.onService BtSimpleService.testAndSetNotifEnabled >>= rest) goal ⟨0, 0, 0, 0⟩ := by
  apply move_owns
  intro state first last holds
  cases isSet : state.service.notifEnabled with
  | true =>
      have still : Still state (state.onService BtSimpleService.testAndSetNotifEnabled).2 :=
        ⟨rfl, isSet.symm, rfl, rfl⟩
      refine ⟨⟨0, 0, 0, 0⟩, still.remember _, holds.still still, fun _ => rfl, ?_⟩
      change LockOwns _ (rest state.service.notifEnabled) _ _
      rw [isSet]
      exact blocked
  | false =>
      refine ⟨⟨0, 1, 0, 0⟩, ?_, ?_, fun _ => rfl, ?_⟩
      · simp [Own.remember, Client.onService, BtSimpleService.testAndSetNotifEnabled, level, isSet]
      · apply holds.replace
        · rfl
        · rw [isSet]
          change ((1 : Nat) : Int) + state.env.active - 1 =
            ((0 : Nat) : Int) + state.env.active - 0
          omega
      · change LockOwns _ (rest state.service.notifEnabled) _ _
        rw [isSet]
        exact taken

/-- The parameters are written while no write is outstanding. -/
theorem setWriteParams_owns {data : UInt8} {rest : Unit -> LockProg B}
    (goesOn : LockOwns (.setLed data) (rest ()) goal ⟨1, 0, 0, 0⟩) :
    LockOwns (.setLed data)
      (ClientProg.mapService (fun service => service.setWriteParams data) >>= rest) goal
      ⟨1, 0, 0, 0⟩ := by
  apply move_owns
  intro state first last holds
  refine ⟨⟨1, 0, 0, 0⟩, ?_, ?_, ?_, goesOn⟩
  · simp [Own.remember, Client.mapService, BtSimpleService.setWriteParams]
  · exact holds.replace rfl rfl
  · intro waits
    exact absurd (holds.outstanding_of_submitting rfl) waits

theorem remember_clearWritePending (own : Own) {state : LockState}
    (isSet : state.service.rxWritePending = true) :
    own.remember state (state.mapService BtSimpleService.clearWritePending) =
      { own with pending := own.pending - 1 } := by
  unfold Own.remember Client.mapService BtSimpleService.clearWritePending
  rw [isSet]
  simp only [level, Bool.false_eq_true, if_true, if_false, Int.sub_self, Int.add_zero, Int.zero_sub]
  rfl

theorem remember_clearNotifEnabled (own : Own) {state : LockState}
    (isSet : state.service.notifEnabled = true) :
    own.remember state (state.mapService BtSimpleService.clearNotifEnabled) =
      { own with notif := own.notif - 1 } := by
  unfold Own.remember Client.mapService BtSimpleService.clearNotifEnabled
  rw [isSet]
  simp only [level, Bool.false_eq_true, if_true, if_false, Int.sub_self, Int.add_zero, Int.zero_sub]
  rfl

/-- The bit is cleared by a call that has something to do with it. -/
theorem clearWritePending_owns {rest : Unit -> LockProg B}
    (before : writeShare (owner, own) = 1)
    (after : writeShare (owner, { own with pending := own.pending - 1 }) = 0)
    (notif : notifShare (owner, { own with pending := own.pending - 1 }) = notifShare (owner, own))
    (goesOn : LockOwns owner (rest ()) goal { own with pending := own.pending - 1 }) :
    LockOwns owner (ClientProg.mapService BtSimpleService.clearWritePending >>= rest) goal own := by
  apply move_owns
  intro state first last holds
  have isSet := holds.pending_of_share (before ▸ Nat.one_ne_zero)
  refine ⟨_, remember_clearWritePending own isSet, ?_, fun _ => rfl, goesOn⟩
  apply holds.replace
  · rw [before, after, isSet]
    change ((0 : Nat) : Int) + state.env.accepted - 0 = ((1 : Nat) : Int) + state.env.accepted - 1
    omega
  · rw [notif]
    rfl

theorem clearNotifEnabled_owns {rest : Unit -> LockProg B}
    (before : notifShare (owner, own) = 1)
    (after : notifShare (owner, { own with notif := own.notif - 1 }) = 0)
    (pending : writeShare (owner, { own with notif := own.notif - 1 }) = writeShare (owner, own))
    (goesOn : LockOwns owner (rest ()) goal { own with notif := own.notif - 1 }) :
    LockOwns owner (ClientProg.mapService BtSimpleService.clearNotifEnabled >>= rest) goal own := by
  apply move_owns
  intro state first last holds
  have isSet := holds.notif_of_share (before ▸ Nat.one_ne_zero)
  refine ⟨_, remember_clearNotifEnabled own isSet, ?_, fun _ => rfl, goesOn⟩
  apply holds.replace
  · rw [pending]
    rfl
  · rw [before, after, isSet]
    change ((0 : Nat) : Int) + state.env.active - 0 = ((1 : Nat) : Int) + state.env.active - 1
    omega

/-- An accepted write is outstanding, and no longer being submitted. -/
theorem acceptWrite_owns {data : UInt8} {rest : Unit -> LockProg B}
    (goesOn : LockOwns (.setLed data) (rest ()) goal ⟨1, 0, 1, 0⟩) :
    LockOwns (.setLed data) (acceptWrite >>= rest) goal ⟨1, 0, 0, 0⟩ := by
  apply move_owns
  intro state first last holds
  refine ⟨⟨1, 0, 1, 0⟩, ?_, ?_, fun _ => rfl, goesOn⟩
  · have one : ((state.env.accepted + 1 : Nat) : Int) - state.env.accepted = 1 := by omega
    simp only [Own.remember, Client.mapEnv, one, Int.sub_self, Int.add_zero, Int.zero_add]
  · apply holds.replace
    · change ((0 : Nat) : Int) + (state.env.accepted + 1 : Nat) -
        level state.service.rxWritePending =
          ((1 : Nat) : Int) + state.env.accepted - level state.service.rxWritePending
      omega
    · rfl

theorem acceptSubscription_owns {rest : Unit -> LockProg B}
    (goesOn : LockOwns .subscribeReceive (rest ()) goal ⟨0, 1, 0, 1⟩) :
    LockOwns .subscribeReceive (acceptSubscription >>= rest) goal ⟨0, 1, 0, 0⟩ := by
  apply move_owns
  intro state first last holds
  refine ⟨⟨0, 1, 0, 1⟩, ?_, ?_, fun _ => rfl, goesOn⟩
  · have one : ((state.env.active + 1 : Nat) : Int) - state.env.active = 1 := by omega
    simp only [Own.remember, Client.mapEnv, one, Int.sub_self, Int.add_zero, Int.zero_add]
  · apply holds.replace
    · rfl
    · change ((0 : Nat) : Int) + (state.env.active + 1 : Nat) -
        level state.service.notifEnabled =
          ((1 : Nat) : Int) + state.env.active - level state.service.notifEnabled
      omega

/-- The stack accepts the write or refuses it. -/
theorem owns_btGattWrite {data : UInt8} (conn : Option Conn) (params : WriteParams) :
    LockOwns (.setLed data) (lockBody (.btGattWrite conn params))
      (sharing.post (.setLed data) (.btGattWrite conn params) ⟨1, 0, 0, 0⟩) ⟨1, 0, 0, 0⟩ := by
  intro _ (err : Int) _
  change LockOwns _ (if err = 0 then (do acceptWrite; pure err) else pure err) _ _
  by_cases fails : err = 0
  · rw [if_pos fails]
    exact acceptWrite_owns (if_pos fails).symm
  · rw [if_neg fails]
    exact (if_neg fails).symm

theorem owns_btGattSubscribe (conn : Option Conn) (params : SubscribeParams) :
    LockOwns .subscribeReceive (lockBody (.btGattSubscribe conn params))
      (sharing.post .subscribeReceive (.btGattSubscribe conn params) ⟨0, 1, 0, 0⟩)
      ⟨0, 1, 0, 0⟩ := by
  intro _ (err : Int) _
  change LockOwns _ (if err = 0 then (do acceptSubscription; pure err) else pure err) _ _
  by_cases fails : err = 0
  · rw [if_pos fails]
    exact acceptSubscription_owns (if_pos fails).symm
  · rw [if_neg fails]
    exact (if_neg fails).symm

/-- `bt_simple_service_set_led` -/
theorem owns_setLed (data : UInt8) :
    LockOwns (.setLed data) (btSimpleServiceSetLed data) (sharing.ended (.setLed data))
      ⟨0, 0, 0, 0⟩ := by
  apply Prog.get_owns
  intro conn
  split
  · exact ⟨fun _ => ⟨rfl, rfl⟩, rfl, rfl⟩
  · apply testAndSetWritePending_owns
    · exact ⟨fun _ => ⟨rfl, rfl⟩, rfl, rfl⟩
    · apply setWriteParams_owns
      apply Prog.get_owns
      intro service
      apply Prog.invoke_owns rfl
      intro err later promised
      by_cases fails : (err : Int) = 0
      · have accepted : later = ⟨1, 0, 1, 0⟩ := promised.trans (if_pos fails)
        rw [accepted, if_neg (not_not_intro fails)]
        exact ⟨fun failed => absurd fails failed, rfl, rfl⟩
      · have refused : later = ⟨1, 0, 0, 0⟩ := promised.trans (if_neg fails)
        rw [refused, if_pos fails]
        apply clearWritePending_owns rfl rfl rfl
        exact ⟨fun _ => ⟨rfl, rfl⟩, rfl, rfl⟩

/-- `bt_simple_service_subscribe_receive` -/
theorem owns_subscribeReceive :
    LockOwns .subscribeReceive btSimpleServiceSubscribeReceive (sharing.ended .subscribeReceive)
      ⟨0, 0, 0, 0⟩ := by
  apply testAndSetNotifEnabled_owns
  · exact ⟨fun _ => ⟨rfl, rfl⟩, rfl, rfl⟩
  · apply still_owns (fun state => ⟨rfl, rfl, rfl, rfl⟩)
    intro _
    apply Prog.get_owns
    intro service
    apply Prog.invoke_owns rfl
    intro err later promised
    by_cases fails : (err : Int) = 0
    · have accepted : later = ⟨0, 1, 0, 1⟩ := promised.trans (if_pos fails)
      rw [accepted, if_neg (not_not_intro fails)]
      exact ⟨fun failed => absurd fails failed, rfl, rfl⟩
    · have refused : later = ⟨0, 1, 0, 0⟩ := promised.trans (if_neg fails)
      rw [refused, if_pos fails]
      apply clearNotifEnabled_owns rfl rfl rfl
      exact ⟨fun _ => ⟨rfl, rfl⟩, rfl, rfl⟩

/-- `on_sent` -/
theorem owns_onSent (err : UInt8) :
    LockOwns (.onSent err) (onSent err) (sharing.ended (.onSent err)) ⟨0, 0, 0, 0⟩ := by
  apply Prog.get_owns
  intro params
  apply clearWritePending_owns rfl rfl rfl
  apply Prog.get_owns
  intro cb
  split
  · exact ⟨trivial, fun _ later same => same ▸ ⟨fun failed => failed.elim, rfl, rfl⟩⟩
  · exact ⟨fun failed => failed.elim, rfl, rfl⟩

/-- `on_received` -/
theorem owns_onReceived (data : Option Payload) :
    LockOwns (.onReceived data) (onReceived data) (sharing.ended (.onReceived data))
      ⟨0, 0, 0, 0⟩ := by
  cases data with
  | none =>
      apply still_owns (fun state => ⟨rfl, rfl, rfl, rfl⟩)
      intro _
      apply clearNotifEnabled_owns rfl rfl rfl
      apply Prog.get_owns
      intro cb
      split
      · exact ⟨trivial, fun _ later same => same ▸ ⟨fun failed => failed.elim, rfl, rfl⟩⟩
      · exact ⟨fun failed => failed.elim, rfl, rfl⟩
  | some data =>
      apply Prog.get_owns
      intro cb
      split
      · exact ⟨trivial, fun _ later same => same ▸ ⟨fun failed => failed.elim, rfl, rfl⟩⟩
      · exact ⟨fun failed => failed.elim, rfl, rfl⟩

end Programs

theorem locks_honour : sharing.Honours locks := by
  intro owner proc own assumed
  cases proc with
  | btGattWrite conn params =>
      cases owner with
      | setLed data =>
          have submitting : own = ⟨1, 0, 0, 0⟩ := assumed
          subst submitting
          exact owns_btGattWrite conn params
      | _ => exact assumed.elim
  | btGattSubscribe conn params =>
      cases owner with
      | subscribeReceive =>
          have subscribing : own = ⟨0, 1, 0, 0⟩ := assumed
          subst subscribing
          exact owns_btGattSubscribe conn params
      | _ => exact assumed.elim
  | sent err params =>
      cases owner with
      | onSent _ => exact rfl
      | _ => exact assumed.elim
  | received data =>
      cases owner with
      | onReceived _ => exact fun _ _ _ => rfl
      | _ => exact assumed.elim
  | unsubscribed =>
      cases owner with
      | onReceived _ => exact rfl
      | _ => exact assumed.elim
  | _ => cases owner <;> exact assumed.elim

/-- A call that begins without a share. -/
theorem LockInv.beginCall {state : LockState} {memories : List (ClientProc × Own)}
    {memory : ClientProc × Own} (holds : LockInv state memories)
    (pending : writeShare memory = 0) (notif : notifShare memory = 0) :
    LockInv state (memories ++ [memory]) := by
  apply holds.begin rfl
  · rw [pending, Nat.zero_add]
  · rw [notif, Nat.zero_add]

/-- Calls of the application begin without a share, and a callback of the stack
with that of the request which it completes. -/
theorem locks_begin : sharing.Begins locks := by
  intro proc state later memories holds allowed
  cases proc with
  | clientInit present init =>
      have same : later = state := allowed
      subst same
      exact ⟨LockInv.beginCall holds rfl rfl, fun _ => rfl, owns_clientInit present init⟩
  | handlesAssign dm =>
      have same : later = state := allowed
      subst same
      exact ⟨LockInv.beginCall holds rfl rfl, fun _ => rfl, owns_handlesAssign dm⟩
  | subscribeReceive =>
      have same : later = state := allowed
      subst same
      exact ⟨LockInv.beginCall holds rfl rfl, fun _ => rfl, owns_subscribeReceive⟩
  | setLed data =>
      have same : later = state := allowed
      subst same
      exact ⟨LockInv.beginCall holds rfl rfl, fun _ => rfl, owns_setLed data⟩
  | onSent err =>
      rcases allowed with ⟨waiting, rfl⟩
      refine ⟨LockInv.begin holds rfl ?_ ?_, fun _ => rfl, owns_onSent err⟩
      · exact Nat.add_sub_cancel' (Nat.pos_of_ne_zero waiting)
      · exact Nat.zero_add _
  | onReceived data =>
      cases data with
      | some data =>
          rcases allowed with ⟨_, rfl⟩
          exact ⟨LockInv.beginCall holds rfl rfl, fun _ => rfl, owns_onReceived (some data)⟩
      | none =>
          rcases allowed with ⟨waiting, rfl⟩
          refine ⟨LockInv.begin holds rfl ?_ ?_, fun _ => rfl, owns_onReceived none⟩
          · exact Nat.zero_add _
          · exact Nat.add_sub_cancel' (Nat.pos_of_ne_zero waiting)
  | _ => exact allowed.elim

/-! ## Every run -/

/-- Each bit is set exactly while a call submits a request, or one is outstanding;
there is no second one; the parameters stay as they are while a write is
outstanding; and a call that returns an error has changed neither bit. -/
structure Locked (current : LockPool) : Prop where
  pending : current.state.service.rxWritePending = true <->
    (exists activity, activity ∈ current.activities ∧
      isUnderWay isSubmitting activity = true) ∨ outstanding current ≠ 0
  notif : current.state.service.notifEnabled = true <->
    (exists activity, activity ∈ current.activities ∧
      isUnderWay isSubscribing activity = true) ∨ subscriptions current ≠ 0
  oneWrite : outstanding current ≤ 1
  oneSubscription : subscriptions current ≤ 1
  writeParams : forall later, locks.Step current later -> outstanding current ≠ 0 ->
    later.state.service.writeParams = current.state.service.writeParams
  errors : forall proc own result, ⟨proc, own, .ret result⟩ ∈ current.activities ->
    Fails proc result -> own.pending = 0 ∧ own.notif = 0

theorem holds_of_reached {current : LockPool} (reached : LockReached current) :
    sharing.Holds locks current := by
  rcases reached with ⟨start, unused, reachable⟩
  apply Sharing.Holds.of_reachable locks_begin locks_honour ?_ reachable
  constructor
  · unfold outstandingIn
    rw [unused.pending, unused.requests]
    rfl
  · unfold subscriptionsIn
    rw [unused.notif, unused.requests]
    rfl

/-- The calls that have ended are not counted for either bit. -/
theorem counted_of_holds {current : LockPool} (holds : sharing.Holds locks current) :
    current.memories.countP isSubmitting =
        current.activities.countP (isUnderWay isSubmitting) ∧
      outstandingIn current.state current.memories = outstanding current ∧
      current.memories.countP isSubscribing =
        current.activities.countP (isUnderWay isSubscribing) ∧
      subscriptionsIn current.state current.memories = subscriptions current := by
  have ended : forall proc own (result : ClientResult proc),
      ⟨proc, own, .ret result⟩ ∈ current.activities -> Ended proc result own :=
    fun proc own result here => holds.ended here
  have write := fun proc own result here => nothing_of_share (ended proc own result here).write
  have notif := fun proc own result here => nothing_of_share (ended proc own result here).notif
  refine ⟨?_, ?_, ?_, ?_⟩
  · exact (current.countP_underWay _ fun proc own result here =>
      (write proc own result here).1).symm
  · exact congrArg (current.state.env.accepted + ·)
      (current.countP_underWay _ fun proc own result here => (write proc own result here).2).symm
  · exact (current.countP_underWay _ fun proc own result here =>
      (notif proc own result here).1).symm
  · exact congrArg (current.state.env.active + ·)
      (current.countP_underWay _ fun proc own result here => (notif proc own result here).2).symm

/-- In every run, however the calls are interleaved. -/
theorem locked_of_reached {current : LockPool} (reached : LockReached current) :
    Locked current := by
  have holds := holds_of_reached reached
  have pending := level_iff holds.inv.pending
  have notif := level_iff holds.inv.notif
  rcases counted_of_holds holds with ⟨submitting, accepted, subscribing, active⟩
  rw [submitting, accepted] at pending
  rw [subscribing, active] at notif
  refine ⟨?_, ?_, by omega, by omega, ?_, fun proc own result here => (holds.ended here).failed⟩
  · rw [pending.1, ← List.countP_pos_iff]
    omega
  · rw [notif.1, ← List.countP_pos_iff]
    omega
  · intro later step waits
    rw [← accepted] at waits
    exact (holds.step locks_begin locks_honour step).2 waits

/-! ## A write that is accepted -/

instance (query : ClientQuery) (state : LockState) (answer : ClientAnswer Unit query) :
    Decidable (lockSystem.permitted query state answer) :=
  .isTrue trivial

/-- The handles are assigned, and nothing has been requested. -/
def lockStart : LockState where
  service := { BtSimpleService.zero with
    conn := some 7, handles := ⟨21, 18, 19⟩, initialized := true }
  env := ⟨0, 0⟩

/-- The call that switches the LED on, at its return. -/
def switchedOn : Config (clientInterface Requests Unit) Int :=
  lockSystem.play (I := clientInterface Requests Unit) 20 [⟨.result, (0 : Int)⟩]
    ⟨lockStart, btSimpleServiceSetLed 1⟩

/-- The call has returned 0, and its write is outstanding. -/
theorem switchedOn_locked : exists current, LockReached current ∧
    (current.state.service.rxWritePending = true ∧ current.state.env.accepted = 1) ∧
    Locked current := by
  have plays : lockSystem.Reachable ⟨lockStart, btSimpleServiceSetLed 1⟩
      ⟨switchedOn.state, switchedOn.prog⟩ :=
    lockSystem.play_reachable (I := clientInterface Requests Unit) 20 _ _
  have runs := @SideBySide.reachable_alone _ _ locks (.setLed 1) _ _ _ _ plays [] [] locks.fresh
  rcases runs with ⟨_, runs⟩
  have begins : locks.begins (.setLed 1) lockStart lockStart := rfl
  have locked : LockReached _ := ⟨lockStart, ⟨rfl, rfl, rfl⟩, runs.head (.begin [] _ _ _ begins)⟩
  exact ⟨_, locked, ⟨rfl, rfl⟩, locked_of_reached locked⟩

end Locks
end SimpleService
end NrfExamples
