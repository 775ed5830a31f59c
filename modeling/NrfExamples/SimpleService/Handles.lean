import Mathlib.Logic.Function.Basic
import NrfExamples.SimpleService.Central

namespace NrfExamples
namespace SimpleService

open Reentrant Prog

/-!
# The handles that the client uses

The central in an arbitrary order of connections, security changes, discovery
results, disconnections, completions and buttons.  A connection object is used
again after a disconnection, so connections are numbered: a request is in order
if its connection is up and its handles were stored by a successful
`bt_simple_service_handles_assign` on the connection of that number.
-/

/-- A call of `bt_simple_service_handles_assign`: its connection, its result, and
the handles that it left. -/
structure AssignCall where
  conn : Conn
  number : Nat
  err : Int
  handles : Handles
  deriving DecidableEq, Repr

/-- The connections that are up, the discovery in progress, the requests that
have been accepted, and, newest first, the calls of the client.  `lost` and
`intact` say what has happened since the last successful assign: whether a
connection has been lost, and whether its connection has been up all the time
and no later assign has cleared the handles. -/
structure Links where
  up : Conn -> Option Nat
  count : Nat
  discovering : Option (Conn × Nat)
  writing : Bool
  subscribed : Bool
  assigns : List AssignCall
  ledResults : List (Bool × Int)
  lost : Bool
  intact : Bool

namespace Links

def initial : Links where
  up := fun _ => none
  count := 0
  discovering := none
  writing := false
  subscribed := false
  assigns := []
  ledResults := []
  lost := false
  intact := false

/-- A connection is established. -/
def connect (links : Links) (conn : Conn) : Links :=
  { links with up := Function.update links.up conn (some links.count), count := links.count + 1 }

def disconnect (links : Links) (conn : Conn) : Links :=
  { links with up := Function.update links.up conn none, lost := true, intact := false }

def startDiscovery (links : Links) (conn : Conn) : Links :=
  { links with discovering := (links.up conn).map fun number => (conn, number) }

def endDiscovery (links : Links) : Links :=
  { links with discovering := none }

/-- The discovery in progress is for a connection that is still up. -/
def StillUp (links : Links) : Prop :=
  exists conn number, links.discovering = some (conn, number) ∧ links.up conn = some number

instance (links : Links) : Decidable links.StillUp :=
  match found : links.discovering with
  | none => .isFalse fun ⟨_, _, other, _⟩ => nomatch found.symm.trans other
  | some (conn, number) =>
      if same : links.up conn = some number then .isTrue ⟨conn, number, found, same⟩
      else .isFalse fun ⟨_, _, other, isUp⟩ => by
        cases found.symm.trans other
        exact same isUp

/-- Record a call of `bt_simple_service_handles_assign`. -/
def recordAssign (links : Links) (dm : GattDm) (err : Int) (handles : Handles) : Links :=
  let number := (links.discovering.map Prod.snd).getD 0
  { links with
    assigns := ⟨dm.conn, number, err, handles⟩ :: links.assigns
    lost := links.lost && err ≠ 0
    intact := if err = 0 then decide links.StillUp else links.intact && dm.service ≠ .customService }

def recordSetLed (links : Links) (err : Int) : Links :=
  { links with ledResults := (links.lost, err) :: links.ledResults }

end Links

/-! ## Runs -/

inductive CentralEvent
  | scanConnecting (conn : Conn)
  | connected (conn : Conn) (err : UInt8)
  | disconnected (conn : Conn)
  | securityChanged (conn : Conn) (err : Nat)
  | discoveryCompleted (dm : GattDm)
  | discoveryFailed
  | button (state changed : UInt32)
  | sent (err : UInt8)
  | received (data : Option Payload)
  deriving DecidableEq, Repr

abbrev LinksProg := CentralProg Links CentralEvent

abbrev LinksState := CentralState Links

/-- One event and the callback for it. -/
def handleEvent : CentralEvent -> LinksProg Unit
  | .scanConnecting conn => scanConnecting conn
  | .connected conn err => do
      if err = 0 then
        .mapRadio fun links => links.connect conn
      connected conn err
  | .disconnected conn => do
      .mapRadio fun links => links.disconnect conn
      disconnected conn
  | .securityChanged conn err => securityChanged conn err
  | .discoveryCompleted dm => do
      discoveryCompletedCb dm
      .mapRadio Links.endDiscovery
  | .discoveryFailed => do
      discoveryFailedCb
      .mapRadio Links.endDiscovery
  | .button state changed => buttonHandler state changed
  | .sent err => do
      .mapRadio fun links => { links with writing := false }
      .invoke (.onSent err)
  | .received data => do
      if data = none then
        .mapRadio fun links => { links with subscribed := false }
      let _ <- .invoke (.onReceived data)
      pure ()

/-- `bt_simple_service_handles_assign`, recorded. -/
def Client.assign (central : LinksState) (dm : GattDm) : Int × LinksState :=
  let assigned := central.service.handlesAssign dm
  (assigned.1, ({ central with service := assigned.2 } : LinksState).mapRadio fun links =>
    links.recordAssign dm assigned.1 assigned.2.handles)

def linksEnvironment : LinksProg Unit := do
  let event <- .ask .next
  handleEvent event
  .invoke .environment

/-- Requests may be refused for any reason; only one discovery runs at a time. -/
def linksStack : Stack Links CentralEvent where
  environment := linksEnvironment
  interrupts := pure ()
  btGattSubscribe := fun _ _ => do
    let err <- .ask .result
    if err = 0 then
      .mapRadio fun links => { links with subscribed := true }
    pure err
  btGattWrite := fun _ _ => do
    let err <- .ask .result
    if err = 0 then
      .mapRadio fun links => { links with writing := true }
    pure err
  btGattDmStart := fun conn => do
    let discovering <- .get fun central => central.radio.discovering
    if discovering ≠ none then pure (-EALREADY)
    else do
      let err <- .ask .result
      if err = 0 then
        .mapRadio fun links => links.startDiscovery conn
      pure err
  btConnSetSecurity := fun _ => .ask .result

/-- The central, with the calls recorded that the property is about. -/
def linksBody : (proc : ClientProc) -> LinksProg (ClientResult proc)
  | .handlesAssign dm => .perform fun central => central.assign dm
  | .setLed data => do
      let err <- btSimpleServiceSetLed data
      .mapRadio fun links => links.recordSetLed err
      pure err
  | proc => centralBody linksStack proc

/-- What the stack may report in a state. -/
def CanHappen (central : LinksState) : CentralEvent -> Prop
  | .scanConnecting conn => central.radio.up conn = none
  | .connected conn _ => central.radio.up conn = none
  | .disconnected conn => central.radio.up conn ≠ none
  | .securityChanged conn _ => central.radio.up conn ≠ none
  | .discoveryCompleted dm => exists number, central.radio.discovering = some (dm.conn, number)
  | .discoveryFailed => central.radio.discovering ≠ none
  | .button _ _ => True
  | .sent _ => central.radio.writing = true
  | .received _ => central.radio.subscribed = true

/-- The events that the central handles well: a discovery that would subscribe
has found all of the service on a connection that is still up, and button 1 is
used before anything has been assigned, or while the last successful assign is
intact, or while a write is pending and no connection has been lost. -/
def Careful (central : LinksState) : CentralEvent -> Prop
  | .discoveryCompleted dm => central.service.notifEnabled = true ∨
      dm.handles ≠ none ∧ central.radio.StillUp
  | .button _ changed => changed = DK_BTN1_MSK -> central.service.conn = none ∨
      central.radio.intact = true ∨
      central.service.rxWritePending = true ∧ central.radio.lost = false
  | _ => True

def linksSystem (careful : Bool) : System (clientInterface (Central Links) CentralEvent) where
  body := linksBody
  permitted := fun query central answer =>
    match query with
    | .next => CanHappen central answer ∧ (careful = true -> Careful central answer)
    | .result => True
    | .during => True

abbrev LinksConfig := Config (clientInterface (Central Links) CentralEvent) Unit

def LinksState.initial : LinksState :=
  ⟨BtSimpleService.zero, ⟨none, false, false, Links.initial⟩⟩

/-- The configurations of all runs. -/
def LinksReached (careful : Bool) (current : LinksConfig) : Prop :=
  (linksSystem careful).Reachable ⟨LinksState.initial, centralMain⟩ current

/-! ## What holds at each point -/

/-- The connection is up, and a successful assign on it has stored the handles. -/
def Links.Found (links : Links) (conn : Option Conn) (uses : Handles -> Prop) : Prop :=
  exists call, call ∈ links.assigns ∧ call.err = 0 ∧ conn = some call.conn ∧
    links.up call.conn = some call.number ∧ uses call.handles

/-- As long as the last successful assign is intact, the instance holds its
connection and its handles. -/
structure HandlesInv (central : LinksState) : Prop where
  intact : central.radio.intact = true -> central.radio.lost = false ∧
    central.radio.Found central.service.conn fun handles => handles = central.service.handles
  afterLoss : forall err, (true, err) ∈ central.radio.ledResults -> err = -ENOTCONN

/-- The last assign has succeeded and is intact. -/
def Assigned (central : LinksState) : Prop :=
  central.radio.intact = true ∧ exists call, central.radio.assigns.head? = some call ∧ call.err = 0

/-- What `bt_simple_service_subscribe_receive` needs. -/
def MaySubscribe (central : LinksState) : Prop :=
  central.service.notifEnabled = true ∨ Assigned central

/-- What `bt_simple_service_set_led` needs. -/
def MaySetLed (central : LinksState) : Prop :=
  central.service.conn = none ∨ central.radio.intact = true ∨
    central.service.rxWritePending = true ∧ central.radio.lost = false

/-- A `bt_gatt_write` that is in order. -/
def WriteInOrder (conn : Option Conn) (params : WriteParams) (central : LinksState) : Prop :=
  central.radio.Found conn fun handles => handles.led = params.handle

/-- A `bt_gatt_subscribe` that is in order. -/
def SubscribeInOrder (conn : Option Conn) (params : SubscribeParams) (central : LinksState) :
    Prop :=
  (central.radio.Found conn fun handles =>
      handles.button = params.valueHandle ∧ handles.buttonCcc = params.cccHandle) ∧
    exists call, central.radio.assigns.head? = some call ∧ call.err = 0

namespace Links.Found

variable {links : Links} {conn : Option Conn} {uses weaker : Handles -> Prop}

theorem mono (found : links.Found conn uses)
    (implies : forall handles, uses handles -> weaker handles) : links.Found conn weaker := by
  rcases found with ⟨call, member, succeeded, same, isUp, used⟩
  exact ⟨call, member, succeeded, same, isUp, implies _ used⟩

/-- One more call changes nothing. -/
theorem recordAssign (found : links.Found conn uses) (dm : GattDm) (err : Int)
    (handles : Handles) : (links.recordAssign dm err handles).Found conn uses := by
  rcases found with ⟨call, member, rest⟩
  exact ⟨call, List.mem_cons_of_mem _ member, rest⟩

/-- A new connection on another object changes nothing. -/
theorem connect (found : links.Found conn uses) {other : Conn} (down : links.up other = none) :
    (links.connect other).Found conn uses := by
  rcases found with ⟨call, member, succeeded, same, isUp, used⟩
  have differs : call.conn ≠ other := by
    intro equal
    rw [equal, down] at isUp
    cases isUp
  refine ⟨call, member, succeeded, same, ?_, used⟩
  exact (Function.update_of_ne differs _ _).trans isUp

end Links.Found

namespace HandlesInv

variable {central : LinksState}

theorem initial : HandlesInv LinksState.initial :=
  ⟨nofun, nofun⟩

theorem connect (holds : HandlesInv central) {conn : Conn} (down : central.radio.up conn = none) :
    HandlesInv (central.mapRadio fun links => links.connect conn) := by
  refine ⟨fun intact => ?_, holds.afterLoss⟩
  rcases holds.intact intact with ⟨notLost, found⟩
  exact ⟨notLost, found.connect down⟩

/-- Losing a connection ends what was intact. -/
theorem disconnect (holds : HandlesInv central) (conn : Conn) :
    HandlesInv (central.mapRadio fun links => links.disconnect conn) :=
  ⟨nofun, holds.afterLoss⟩

/-- The result of `bt_simple_service_set_led` after a loss is `-ENOTCONN`. -/
theorem recordSetLed (holds : HandlesInv central) (err : Int)
    (refused : central.radio.lost = true -> err = -ENOTCONN) :
    HandlesInv (central.mapRadio fun links => links.recordSetLed err) := by
  refine ⟨holds.intact, fun other member => ?_⟩
  rcases List.mem_cons.mp member with new | old
  · rcases Prod.mk.inj new with ⟨lost, rfl⟩
    exact refused lost.symm
  · exact holds.afterLoss other old

theorem recordSetLed_of_notLost (holds : HandlesInv central) (notLost : central.radio.lost = false)
    (err : Int) : HandlesInv (central.mapRadio fun links => links.recordSetLed err) := by
  apply holds.recordSetLed
  intro lost
  exact absurd (notLost.symm.trans lost) Bool.false_ne_true

/-- A complete service is found on its connection. -/
theorem assign_of_complete (holds : HandlesInv central) {dm : GattDm} {handles : Handles}
    {number : Nat} (complete : dm.handles = some handles)
    (discovering : central.radio.discovering = some (dm.conn, number)) :
    HandlesInv (central.assign dm).2 ∧
      (central.radio.StillUp -> Assigned (central.assign dm).2) := by
  have recorded : (central.radio.discovering.map Prod.snd).getD 0 = number := by
    rw [discovering]
    rfl
  unfold Client.assign
  rw [central.service.handlesAssign_of_complete complete]
  refine ⟨⟨fun intact => ?_, holds.afterLoss⟩, fun stillUp => ?_⟩
  · rcases of_decide_eq_true intact with ⟨conn, other, found, isUp⟩
    cases found.symm.trans discovering
    refine ⟨Bool.and_false _, ⟨dm.conn, _, 0, handles⟩, List.mem_cons_self, rfl, rfl, ?_, rfl⟩
    exact isUp.trans (congrArg some recorded.symm)
  · exact ⟨decide_eq_true stillUp, _, rfl, rfl⟩

/-- After an assign that fails, the last successful one is intact only if the
handles were left alone. -/
theorem assign_of_incomplete (holds : HandlesInv central) {dm : GattDm}
    (incomplete : dm.handles = none) :
    HandlesInv (central.assign dm).2 ∧
      (central.assign dm).2.service.notifEnabled = central.service.notifEnabled := by
  rcases central.service.handlesAssign_of_incomplete incomplete with ⟨fails, handles, same⟩
  have kept : (central.service.handlesAssign dm).2.notifEnabled = central.service.notifEnabled := by
    rw [same]
  refine ⟨⟨fun intact => ?_, holds.afterLoss⟩, kept⟩
  change (if (central.service.handlesAssign dm).1 = 0 then decide central.radio.StillUp
    else central.radio.intact && dm.service ≠ .customService) = true at intact
  rw [if_neg fails, Bool.and_eq_true, decide_eq_true_eq] at intact
  rcases intact with ⟨intact, unsupported⟩
  rcases holds.intact intact with ⟨notLost, found⟩
  constructor
  · change (central.radio.lost && _) = false
    rw [notLost, Bool.false_and]
  · have alone : (central.service.handlesAssign dm).2 = central.service := by
      rw [central.service.handlesAssign_of_unsupported unsupported]
    change ((central.radio.recordAssign dm _ _).Found (central.service.handlesAssign dm).2.conn
      fun other => other = (central.service.handlesAssign dm).2.handles)
    rw [alone]
    exact found.recordAssign dm _ _

end HandlesInv

/-! ## Every procedure keeps it -/

/-- A request is in order when it is made, and an assign that may subscribe has
been successful. -/
def linksContract : Contract (clientInterface (Central Links) CentralEvent) where
  Ghost := fun _ => Unit
  always := HandlesInv
  asked := fun _ _ => True
  pre := fun proc _ central =>
    match proc with
    | .handlesAssign dm => CanHappen central (.discoveryCompleted dm) ∧
        Careful central (.discoveryCompleted dm)
    | .subscribeReceive => MaySubscribe central
    | .setLed _ => MaySetLed central
    | .btGattSubscribe conn params => SubscribeInOrder conn params central
    | .btGattWrite conn params => WriteInOrder conn params central ∧ central.radio.lost = false
    | _ => True
  post := fun proc _ _ central =>
    match proc with
    | .handlesAssign _ => MaySubscribe central
    | .btGattWrite _ _ => central.radio.lost = false
    | _ => True

/-- What a program needs under this contract. -/
abbrev LinksSafe {A : Type} (program : LinksProg A) (goal : A -> LinksState -> Prop)
    (central : LinksState) : Prop :=
  Prog.Safe (linksSystem true) linksContract program goal central

section Procedures

variable {central : LinksState} {A : Type}

/-- A subscription is made only where the last assign has succeeded. -/
theorem safe_subscribeReceive (holds : HandlesInv central) (ready : MaySubscribe central) :
    LinksSafe btSimpleServiceSubscribeReceive (fun _ _ => True) central := by
  unfold LinksSafe btSimpleServiceSubscribeReceive
  simp only [Prog.safe_monadBind, Prog.safe_perform, Prog.safe_ite, Prog.safe_pure,
    Prog.safe_modify, Prog.safe_get, Prog.invoke, Prog.safe_call, Prog.safe_ret]
  refine ⟨⟨holds.intact, holds.afterLoss⟩, fun _ => trivial, fun free => ?_⟩
  rcases ready with enabled | ⟨intact, succeeded⟩
  · exact absurd enabled free
  · rcases holds.intact intact with ⟨_, found⟩
    refine ⟨⟨holds.intact, holds.afterLoss⟩, ⟨holds.intact, holds.afterLoss⟩, (),
      ⟨found.mono ?_, succeeded⟩, fun _ later kept _ => ⟨fun _ => ?_, fun _ => trivial⟩⟩
    · rintro handles rfl
      exact ⟨rfl, rfl⟩
    · exact ⟨⟨kept.intact, kept.afterLoss⟩, trivial⟩

/-- A write is made only while the last successful assign is intact. -/
theorem safe_setLed (holds : HandlesInv central) (ready : MaySetLed central) (data : UInt8) :
    LinksSafe (linksBody (.setLed data)) (fun _ _ => True) central := by
  unfold LinksSafe linksBody btSimpleServiceSetLed
  simp only [Prog.safe_monadBind, Prog.safe_perform, Prog.safe_ite, Prog.safe_pure,
    Prog.safe_modify, Prog.safe_get, Prog.invoke, Prog.safe_call, Prog.safe_ret]
  refine ⟨holds, fun absent => ?_, fun present => ?_⟩
  · have recorded := holds.recordSetLed (-ENOTCONN) fun _ => rfl
    exact ⟨recorded, trivial⟩
  · have notLost : central.radio.lost = false := by
      rcases ready with absent | intact | ⟨_, notLost⟩
      · exact absurd absent present
      · exact (holds.intact intact).1
      · exact notLost
    refine ⟨⟨holds.intact, holds.afterLoss⟩, fun pending => ?_, fun free => ?_⟩
    · have marked : HandlesInv (central.mapService fun service =>
        { service with rxWritePending := true }) := ⟨holds.intact, holds.afterLoss⟩
      exact ⟨marked.recordSetLed_of_notLost notLost _, trivial⟩
    · have intact : central.radio.intact = true := by
        rcases ready with absent | intact | ⟨pending, _⟩
        · exact absurd absent present
        · exact intact
        · exact absurd pending free
      rcases holds.intact intact with ⟨_, found⟩
      refine ⟨⟨holds.intact, holds.afterLoss⟩, ⟨holds.intact, holds.afterLoss⟩, (),
        ⟨found.mono ?_, notLost⟩, fun err later kept stillNotLost => ⟨fun failed => ?_, fun _ => ?_⟩⟩
      · rintro handles rfl
        rfl
      · have cleared : HandlesInv (later.mapService BtSimpleService.clearWritePending) :=
          ⟨kept.intact, kept.afterLoss⟩
        exact ⟨cleared, cleared.recordSetLed_of_notLost stillNotLost err, trivial⟩
      · exact ⟨kept.recordSetLed_of_notLost stillNotLost err, trivial⟩

theorem safe_clientInit (holds : HandlesInv central) (present : Bool)
    (init : Option BtSimpleServiceCb) :
    LinksSafe (btSimpleServiceClientInit present init) (fun _ _ => True) central := by
  have same : (central.service.clientInit present init).2.conn = central.service.conn ∧
      (central.service.clientInit present init).2.handles = central.service.handles := by
    unfold BtSimpleService.clientInit
    split
    · split
      · exact ⟨rfl, rfl⟩
      · exact ⟨rfl, rfl⟩
    · exact ⟨rfl, rfl⟩
  refine ⟨⟨fun intact => ?_, holds.afterLoss⟩, trivial⟩
  change central.radio.lost = false ∧ central.radio.Found
    (central.service.clientInit present init).2.conn
    fun handles => handles = (central.service.clientInit present init).2.handles
  rw [same.1, same.2]
  exact holds.intact intact

theorem safe_onReceived (holds : HandlesInv central) (data : Option Payload) :
    LinksSafe (onReceived data) (fun _ _ => True) central := by
  unfold LinksSafe onReceived
  cases data with
  | none =>
      simp only [Prog.safe_monadBind, Prog.safe_ite, Prog.safe_pure, Prog.safe_modify,
        Prog.safe_get, Prog.invoke, Prog.safe_call, Prog.safe_ret]
      have ended : HandlesInv (central.mapService BtSimpleService.endNotifParams) :=
        ⟨holds.intact, holds.afterLoss⟩
      have cleared : HandlesInv ((central.mapService BtSimpleService.endNotifParams).mapService
          BtSimpleService.clearNotifEnabled) := ⟨holds.intact, holds.afterLoss⟩
      exact ⟨ended, cleared, cleared, fun _ => ⟨(), trivial, fun _ _ _ _ => trivial⟩,
        fun _ => trivial⟩
  | some data =>
      simp only [Prog.safe_monadBind, Prog.safe_ite, Prog.safe_pure, Prog.safe_get, Prog.invoke,
        Prog.safe_call, Prog.safe_ret]
      exact ⟨holds, fun _ => ⟨(), trivial, fun _ _ _ _ => trivial⟩, fun _ => trivial⟩

theorem safe_onSent (holds : HandlesInv central) (err : UInt8) :
    LinksSafe (onSent err) (fun _ _ => True) central := by
  unfold LinksSafe onSent
  simp only [Prog.safe_monadBind, Prog.safe_ite, Prog.safe_pure, Prog.safe_modify,
    Prog.safe_get, Prog.invoke, Prog.safe_call, Prog.safe_ret]
  have cleared : HandlesInv (central.mapService BtSimpleService.clearWritePending) :=
    ⟨holds.intact, holds.afterLoss⟩
  exact ⟨holds, cleared, cleared, fun _ => ⟨(), trivial, fun _ _ _ _ => trivial⟩,
    fun _ => trivial⟩

theorem safe_bleDataReceived (holds : HandlesInv central) (data : Payload) :
    LinksSafe (bleDataReceived data) (fun _ _ => True) central := by
  unfold LinksSafe bleDataReceived setStatusLed
  simp only [Prog.safe_monadBind, Prog.safe_ite, Prog.safe_pure, Prog.safe_modify]
  refine ⟨fun _ => ⟨⟨holds.intact, holds.afterLoss⟩, trivial⟩, fun _ => ⟨fun _ => ?_, ?_⟩⟩
  · exact ⟨⟨holds.intact, holds.afterLoss⟩, trivial⟩
  · exact fun _ => trivial

theorem safe_btGattSubscribe (holds : HandlesInv central) (conn : Option Conn)
    (params : SubscribeParams) :
    LinksSafe (linksStack.btGattSubscribe conn params) (fun _ _ => True) central := by
  unfold LinksSafe linksStack
  simp only [Prog.safe_monadBind, Prog.question, Prog.safe_ask, Prog.safe_ret, Prog.safe_ite,
    Prog.safe_pure, Prog.safe_modify]
  exact ⟨trivial, fun _ _ => ⟨fun _ => ⟨⟨holds.intact, holds.afterLoss⟩, trivial⟩,
    fun _ => trivial⟩⟩

theorem safe_btGattWrite (holds : HandlesInv central) (conn : Option Conn) (params : WriteParams)
    (notLost : central.radio.lost = false) :
    LinksSafe (linksStack.btGattWrite conn params) (fun _ later => later.radio.lost = false)
      central := by
  unfold LinksSafe linksStack
  simp only [Prog.safe_monadBind, Prog.question, Prog.safe_ask, Prog.safe_ret, Prog.safe_ite,
    Prog.safe_pure, Prog.safe_modify]
  exact ⟨trivial, fun _ _ => ⟨fun _ => ⟨⟨holds.intact, holds.afterLoss⟩, notLost⟩,
    fun _ => notLost⟩⟩

theorem safe_btGattDmStart (holds : HandlesInv central) (conn : Conn) :
    LinksSafe (linksStack.btGattDmStart conn) (fun _ _ => True) central := by
  unfold LinksSafe linksStack
  simp only [Prog.safe_monadBind, Prog.question, Prog.safe_ask, Prog.safe_ret, Prog.safe_ite,
    Prog.safe_pure, Prog.safe_modify, Prog.safe_get]
  refine ⟨holds, fun _ => trivial, fun _ => ⟨trivial, fun _ _ => ⟨fun _ => ?_, ?_⟩⟩⟩
  · exact ⟨⟨holds.intact, holds.afterLoss⟩, trivial⟩
  · exact fun _ => trivial

theorem safe_gattDiscover (conn : Conn) :
    LinksSafe (gattDiscover conn) (fun _ _ => True) central := by
  unfold LinksSafe gattDiscover
  simp only [Prog.safe_monadBind, Prog.safe_pure, Prog.invoke, Prog.safe_call, Prog.safe_ret]
  exact ⟨(), trivial, fun _ _ _ _ => trivial⟩

theorem safe_setDefaultConn (holds : HandlesInv central) (conn : Option Conn) :
    LinksSafe (setDefaultConn conn) (fun _ later => HandlesInv later) central := by
  have kept : HandlesInv (central.mapEnv fun env => { env with defaultConn := conn }) :=
    ⟨holds.intact, holds.afterLoss⟩
  exact ⟨kept, kept⟩

theorem safe_setConLed (holds : HandlesInv central) (isOn : Bool) :
    LinksSafe (setConLed isOn) (fun _ later => HandlesInv later) central := by
  have kept : HandlesInv (central.mapEnv fun env => { env with conLed := isOn }) :=
    ⟨holds.intact, holds.afterLoss⟩
  exact ⟨kept, kept⟩

theorem safe_connected (holds : HandlesInv central) (conn : Conn) (err : UInt8) :
    LinksSafe (connected conn err) (fun _ _ => True) central := by
  unfold LinksSafe connected
  simp only [Prog.safe_monadBind, Prog.safe_ite, Prog.safe_pure, Prog.safe_get, Prog.invoke,
    Prog.safe_call, Prog.safe_ret]
  refine ⟨fun _ => ⟨holds, fun _ => ?_, fun _ => trivial⟩, fun _ => ?_⟩
  · exact (safe_setDefaultConn holds none).mono fun _ _ _ => trivial
  · refine ⟨(), trivial, fun _ later kept _ => ⟨fun _ => ?_, fun _ => ?_⟩⟩
    · apply ((safe_gattDiscover conn).with_always kept).mono
      intro _ last known
      exact (safe_setConLed known.1 true).mono fun _ _ _ => trivial
    · exact (safe_setConLed kept true).mono fun _ _ _ => trivial

theorem safe_disconnected (holds : HandlesInv central) (conn : Conn) :
    LinksSafe (disconnected conn) (fun _ _ => True) central := by
  unfold LinksSafe disconnected
  simp only [Prog.safe_monadBind, Prog.safe_ite, Prog.safe_pure, Prog.safe_get]
  refine ⟨holds, fun _ => trivial, fun _ => ?_⟩
  apply (safe_setDefaultConn holds none).mono
  intro _ later kept
  exact (safe_setConLed kept false).mono fun _ _ _ => trivial

/-- The subscription follows the assign at once. -/
theorem safe_discoveryCompletedCb {dm : GattDm}
    (possible : CanHappen central (.discoveryCompleted dm))
    (careful : Careful central (.discoveryCompleted dm)) :
    LinksSafe (discoveryCompletedCb dm) (fun _ _ => True) central := by
  unfold LinksSafe discoveryCompletedCb
  simp only [Prog.safe_monadBind, Prog.safe_pure, Prog.invoke, Prog.safe_call, Prog.safe_ret]
  refine ⟨(), ⟨possible, careful⟩, fun _ later _ ready => ?_⟩
  exact ⟨(), ready, fun _ _ _ _ => trivial⟩

theorem safe_buttonHandler {state changed : UInt32}
    (careful : Careful central (.button state changed)) :
    LinksSafe (buttonHandler state changed) (fun _ _ => True) central := by
  unfold LinksSafe buttonHandler
  simp only [Prog.safe_monadBind, Prog.safe_ite, Prog.safe_pure, Prog.invoke, Prog.safe_call,
    Prog.safe_ret]
  exact ⟨fun button1 => ⟨(), careful button1, fun _ _ _ _ => trivial⟩, fun _ => trivial⟩

/-- One event, whatever it is. -/
theorem safe_handleEvent (holds : HandlesInv central) {event : CentralEvent}
    (possible : CanHappen central event) (careful : Careful central event) :
    LinksSafe (handleEvent event) (fun _ _ => True) central := by
  unfold LinksSafe
  cases event with
  | scanConnecting conn =>
      exact (safe_setDefaultConn holds (some conn)).mono fun _ _ _ => trivial
  | connected conn err =>
      simp only [handleEvent, Prog.safe_monadBind, Prog.safe_ite, Prog.safe_modify]
      refine ⟨fun _ => ?_, fun _ => safe_connected holds conn err⟩
      have kept := holds.connect possible
      exact ⟨kept, safe_connected kept conn err⟩
  | disconnected conn =>
      simp only [handleEvent, Prog.safe_monadBind, Prog.safe_modify]
      have kept := holds.disconnect conn
      exact ⟨kept, safe_disconnected kept conn⟩
  | securityChanged conn err =>
      simp only [handleEvent, securityChanged, Prog.safe_ite, Prog.safe_pure]
      exact ⟨fun _ => safe_gattDiscover conn, fun _ => trivial⟩
  | discoveryCompleted dm =>
      simp only [handleEvent, Prog.safe_monadBind]
      apply ((safe_discoveryCompletedCb possible careful).with_always holds).mono
      intro _ later known
      exact ⟨⟨known.1.intact, known.1.afterLoss⟩, trivial⟩
  | discoveryFailed =>
      simp only [handleEvent, discoveryFailedCb, Prog.safe_monadBind, Prog.safe_pure,
        Prog.safe_modify]
      exact ⟨⟨holds.intact, holds.afterLoss⟩, trivial⟩
  | button state changed => exact safe_buttonHandler careful
  | sent err =>
      simp only [handleEvent, Prog.safe_monadBind, Prog.safe_modify, Prog.invoke, Prog.safe_call,
        Prog.safe_ret]
      exact ⟨⟨holds.intact, holds.afterLoss⟩, (), trivial, fun _ _ _ _ => trivial⟩
  | received data =>
      simp only [handleEvent, Prog.safe_monadBind, Prog.safe_ite, Prog.safe_modify, Prog.safe_pure,
        Prog.invoke, Prog.safe_call, Prog.safe_ret]
      refine ⟨fun _ => ?_, fun _ => ⟨(), trivial, fun _ _ _ _ => trivial⟩⟩
      exact ⟨⟨holds.intact, holds.afterLoss⟩, (), trivial, fun _ _ _ _ => trivial⟩

theorem safe_linksEnvironment (holds : HandlesInv central) :
    LinksSafe linksEnvironment (fun _ _ => True) central := by
  unfold LinksSafe linksEnvironment
  simp only [Prog.safe_monadBind, Prog.question, Prog.safe_ask, Prog.safe_ret, Prog.invoke]
  refine ⟨trivial, fun event allowed => ?_⟩
  apply (safe_handleEvent holds allowed.1 (allowed.2 rfl)).mono
  intro _ _ _
  exact ⟨(), trivial, fun _ _ _ _ => trivial⟩

theorem safe_assign (holds : HandlesInv central) {dm : GattDm}
    (possible : CanHappen central (.discoveryCompleted dm))
    (careful : Careful central (.discoveryCompleted dm)) :
    LinksSafe (linksBody (.handlesAssign dm)) (fun _ => MaySubscribe) central := by
  rcases possible with ⟨number, discovering⟩
  change HandlesInv (central.assign dm).2 ∧ MaySubscribe (central.assign dm).2
  cases complete : dm.handles with
  | some handles =>
      rcases holds.assign_of_complete complete discovering with ⟨kept, assigned⟩
      refine ⟨kept, ?_⟩
      rcases careful with enabled | ⟨_, stillUp⟩
      · left
        unfold Client.assign
        rw [central.service.handlesAssign_of_complete complete]
        exact enabled
      · exact .inr (assigned stillUp)
  | none =>
      rcases holds.assign_of_incomplete complete with ⟨kept, same⟩
      refine ⟨kept, ?_⟩
      rcases careful with enabled | ⟨found, _⟩
      · exact .inl (same.trans enabled)
      · exact absurd complete found

end Procedures

theorem links_honours : (linksSystem true).Honours linksContract := by
  intro proc _ central holds assumed
  cases proc with
  | environment => exact safe_linksEnvironment holds
  | interrupts => trivial
  | clientInit present init => exact safe_clientInit holds present init
  | handlesAssign dm => exact safe_assign holds assumed.1 assumed.2
  | subscribeReceive => exact safe_subscribeReceive holds assumed
  | setLed data => exact safe_setLed holds assumed data
  | onReceived data => exact safe_onReceived holds data
  | onSent err => exact safe_onSent holds err
  | received data => exact safe_bleDataReceived holds data
  | sent err params => trivial
  | unsubscribed => trivial
  | btGattSubscribe conn params => exact safe_btGattSubscribe holds conn params
  | btGattWrite conn params => exact safe_btGattWrite holds conn params assumed.2
  | btGattDmStart conn => exact safe_btGattDmStart holds conn
  | btConnSetSecurity conn => exact ⟨trivial, fun _ _ => trivial⟩

theorem safe_centralMain : LinksSafe centralMain (fun _ _ => True) LinksState.initial := by
  unfold LinksSafe centralMain simpleServiceClientInit
  simp only [Prog.safe_monadBind, Prog.invoke, Prog.safe_call, Prog.safe_ret]
  exact ⟨(), trivial, fun _ _ _ _ => ⟨(), trivial, fun _ _ _ _ => trivial⟩⟩

/-- Every request is made on a connection that is up, with handles from a
successful assign on it; no subscription follows a failed assign; and from a
disconnection to the next successful assign the LED cannot be set. -/
structure UsesFoundHandles (current : LinksConfig) : Prop where
  write : forall conn params, pendingCall current = some (.btGattWrite conn params) ->
    WriteInOrder conn params current.state
  subscribe : forall conn params, pendingCall current = some (.btGattSubscribe conn params) ->
    SubscribeInOrder conn params current.state
  afterLoss : forall err, (true, err) ∈ current.state.radio.ledResults -> err = -ENOTCONN

/-- If every event is one that the central handles well, all requests are in
order. -/
theorem requests_inOrder {current : LinksConfig} (reached : LinksReached true current) :
    UsesFoundHandles current := by
  have holds := System.always_of_reachable reached links_honours HandlesInv.initial safe_centralMain
  refine ⟨fun conn params here => ?_, fun conn params here => ?_, holds.afterLoss⟩
  · rcases exists_of_pendingCall here with ⟨next, here⟩
    rcases System.pre_of_reachable reached links_honours HandlesInv.initial safe_centralMain here
      with ⟨_, inOrder⟩
    exact inOrder.1
  · rcases exists_of_pendingCall here with ⟨next, here⟩
    rcases System.pre_of_reachable reached links_honours HandlesInv.initial safe_centralMain here
      with ⟨_, inOrder⟩
    exact inOrder

/-! ## Two runs -/

instance (central : LinksState) (event : CentralEvent) : Decidable (CanHappen central event) :=
  match event with
  | .scanConnecting _ => inferInstanceAs (Decidable (_ = none))
  | .connected _ _ => inferInstanceAs (Decidable (_ = none))
  | .disconnected _ => inferInstanceAs (Decidable (_ ≠ none))
  | .securityChanged _ _ => inferInstanceAs (Decidable (_ ≠ none))
  | .discoveryCompleted dm =>
      decidable_of_iff (central.radio.discovering.map Prod.fst = some dm.conn) (by
        unfold CanHappen
        cases central.radio.discovering <;> simp [Prod.ext_iff])
  | .discoveryFailed => inferInstanceAs (Decidable (_ ≠ none))
  | .button _ _ => .isTrue trivial
  | .sent _ => inferInstanceAs (Decidable (_ = true))
  | .received _ => inferInstanceAs (Decidable (_ = true))

instance (central : LinksState) (event : CentralEvent) : Decidable (Careful central event) :=
  match event with
  | .discoveryCompleted _ => inferInstanceAs (Decidable (_ ∨ _))
  | .button _ _ => inferInstanceAs (Decidable (_ -> _))
  | .scanConnecting _ | .connected _ _ | .disconnected _ | .securityChanged _ _ |
    .discoveryFailed | .sent _ | .received _ => .isTrue trivial

instance (careful : Bool) (query : ClientQuery) (central : LinksState)
    (answer : ClientAnswer CentralEvent query) :
    Decidable ((linksSystem careful).permitted query central answer) :=
  match query with
  | .next => inferInstanceAs (Decidable (CanHappen central answer ∧ (_ -> Careful central answer)))
  | .result => .isTrue trivial
  | .during => .isTrue trivial

def linksScripted (careful : Bool) (fuel : Nat)
    (script : List (Sigma (ClientAnswer CentralEvent))) : LinksConfig :=
  (linksSystem careful).play (I := clientInterface (Central Links) CentralEvent) fuel script
    ⟨LinksState.initial, centralMain⟩

theorem linksScripted_reached (careful : Bool) (fuel : Nat)
    (script : List (Sigma (ClientAnswer CentralEvent))) :
    LinksReached careful (linksScripted careful fuel script) :=
  (linksSystem careful).play_reachable fuel script _

/-- The service of the peripheral, found on connection object 7. -/
def wholeService : GattDm where
  conn := 7
  service := .customService
  chrcs := [⟨.buttonChrc, [⟨.buttonChrc, 18⟩, ⟨.gattCcc, 19⟩]⟩, ⟨.customLed, [⟨.customLed, 21⟩]⟩]

/-- The central connects, secures the connection, discovers and subscribes. -/
def connecting : List (Sigma (ClientAnswer CentralEvent)) :=
  [⟨.next, .scanConnecting 7⟩, ⟨.next, .connected 7 0⟩, ⟨.result, (0 : Int)⟩,
    ⟨.next, .securityChanged 7 0⟩, ⟨.result, (0 : Int)⟩, ⟨.next, .discoveryCompleted wholeService⟩,
    ⟨.result, (0 : Int)⟩]

/-- Button 1 is pressed, and the LED is about to be written. -/
def pressedRun : LinksConfig :=
  linksScripted true 36 (connecting ++ [⟨.next, .button 1 1⟩])

theorem pressedRun_inOrder :
    pendingCall pressedRun = some (.btGattWrite (some 7) ⟨21, 1, 0, 1⟩) ∧
      UsesFoundHandles pressedRun :=
  ⟨by decide +kernel, requests_inOrder (linksScripted_reached true 36 _)⟩

/-- The connection is lost before button 1 is pressed. -/
def staleRun : LinksConfig :=
  linksScripted false 49 (connecting ++
    [⟨.next, .disconnected 7⟩, ⟨.next, .received none⟩, ⟨.next, .button 1 1⟩])

/-- Without the condition the client writes on a connection that is down, since
nothing clears `conn`. -/
theorem not_requests_inOrder :
    ¬ forall current : LinksConfig, LinksReached false current -> UsesFoundHandles current := by
  intro claim
  have inOrder := claim staleRun (linksScripted_reached false 49 _)
  have writing : pendingCall staleRun = some (.btGattWrite (some 7) ⟨21, 1, 0, 1⟩) := by
    decide +kernel
  rcases inOrder.write _ _ writing with ⟨call, _, _, same, isUp, _⟩
  have down : staleRun.state.radio.up 7 = none := by decide +kernel
  rw [← Option.some.inj same, down] at isUp
  cases isUp

end SimpleService
end NrfExamples
