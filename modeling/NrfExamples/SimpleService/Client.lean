import NrfExamples.Reentrant.Contract

namespace NrfExamples
namespace SimpleService

open Reentrant Prog

/-!
# The client of the simple service

`simple_service_client.c`.  An instance holds a connection, the handles that
were found on it, and three bits, two of which are locks: one for the write in
flight and one for the subscription.

The functions of the client are procedures, because the application may call
them from its callbacks, and so are the callbacks and the functions of the
Bluetooth stack.  What those do is left to the system in which the client
runs.  `Env` is the state of everything but the instance, and `Event` is what
the stack and the buttons report.
-/

abbrev EINVAL : Int := 22
abbrev EALREADY : Int := 120
abbrev ENOTCONN : Int := 128
abbrev ENOTSUP : Int := 134

/-! ## Discovery data -/

/-- A connection object of the stack, by its address. -/
abbrev Conn := Nat

/-- The UUIDs that the code names, and all others. -/
inductive Uuid
  | customService
  | customLed
  | buttonChrc
  | gattCcc
  | other (value : Nat)
  deriving DecidableEq, Repr

/-- The value or a descriptor of a characteristic. -/
structure Attr where
  uuid : Uuid
  handle : UInt16
  deriving DecidableEq, Repr

structure Chrc where
  uuid : Uuid
  descs : List Attr
  deriving DecidableEq, Repr

/-- `struct bt_gatt_dm`: the service that was found on a connection. -/
structure GattDm where
  conn : Conn
  service : Uuid
  chrcs : List Chrc
  deriving DecidableEq, Repr

/-- `struct bt_simple_service_client_handles` -/
structure Handles where
  led : UInt16
  button : UInt16
  buttonCcc : UInt16
  deriving DecidableEq, Repr

/-- The handles after `memset` with `0xFF`. -/
def Handles.cleared : Handles := ⟨0xFFFF, 0xFFFF, 0xFFFF⟩

/-- `bt_gatt_dm_desc_by_uuid` -/
def Chrc.descByUuid (chrc : Chrc) (uuid : Uuid) : Option Attr :=
  chrc.descs.find? fun desc => desc.uuid = uuid

namespace GattDm

/-- `bt_gatt_dm_char_by_uuid` -/
def charByUuid (dm : GattDm) (uuid : Uuid) : Option Chrc :=
  dm.chrcs.find? fun chrc => chrc.uuid = uuid

/-- The handles of the service, if none of its attributes is missing. -/
def handles (dm : GattDm) : Option Handles :=
  if dm.service = .customService then
    (dm.charByUuid .customLed).bind fun led =>
      (led.descByUuid .customLed).bind fun ledValue =>
        (dm.charByUuid .buttonChrc).bind fun button =>
          (button.descByUuid .buttonChrc).bind fun buttonValue =>
            (button.descByUuid .gattCcc).map fun ccc =>
              ⟨ledValue.handle, buttonValue.handle, ccc.handle⟩
  else none

end GattDm

/-! ## The instance -/

/-- The fields of `struct bt_gatt_subscribe_params` that the client sets, except
`notify`, which is always `on_received`. -/
structure SubscribeParams where
  value : UInt16
  valueHandle : UInt16
  cccHandle : UInt16
  isVolatile : Bool
  deriving DecidableEq, Repr

/-- The fields of `struct bt_gatt_write_params` that the client sets, except
`func`, which is always `on_sent`.  `data` is the byte that the pointer refers
to during the call of `bt_gatt_write`. -/
structure WriteParams where
  handle : UInt16
  length : Nat
  offset : Nat
  data : UInt8
  deriving DecidableEq, Repr

/-- Which of the callbacks of `struct bt_simple_service_cb` are not NULL. -/
structure BtSimpleServiceCb where
  received : Bool
  sent : Bool
  unsubscribed : Bool
  deriving DecidableEq, Repr

/-- `struct bt_simple_service`, with the bits of `state` as fields. -/
structure BtSimpleService where
  conn : Option Conn
  initialized : Bool
  notifEnabled : Bool
  rxWritePending : Bool
  handles : Handles
  buttonNotifParams : SubscribeParams
  writeParams : WriteParams
  cb : BtSimpleServiceCb
  deriving DecidableEq, Repr

abbrev BT_GATT_CCC_NOTIFY : UInt16 := 1

namespace BtSimpleService

/-- A static instance before it is used. -/
def zero : BtSimpleService where
  conn := none
  initialized := false
  notifEnabled := false
  rxWritePending := false
  handles := ⟨0, 0, 0⟩
  buttonNotifParams := ⟨0, 0, 0, false⟩
  writeParams := ⟨0, 0, 0, 0⟩
  cb := ⟨false, false, false⟩

/-- `bt_simple_service_client_init`; `present` says that the instance is not
NULL. -/
def clientInit (service : BtSimpleService) (present : Bool) (init : Option BtSimpleServiceCb) :
    Int × BtSimpleService :=
  match present, init with
  | true, some cb =>
      if service.initialized then (-EALREADY, service)
      else (0, { service with initialized := true, cb := cb })
  | _, _ => (-EINVAL, service)

/-- `bt_simple_service_handles_assign` -/
def handlesAssign (service : BtSimpleService) (dm : GattDm) : Int × BtSimpleService :=
  if dm.service ≠ .customService then (-ENOTSUP, service)
  else
    let service := { service with handles := Handles.cleared }
    match dm.charByUuid .customLed with
    | none => (-EINVAL, service)
    | some chrc =>
      match chrc.descByUuid .customLed with
      | none => (-EINVAL, service)
      | some desc =>
        let service :=
          { service with handles := { service.handles with led := desc.handle } }
        match dm.charByUuid .buttonChrc with
        | none => (-EINVAL, service)
        | some chrc =>
          match chrc.descByUuid .buttonChrc with
          | none => (-EINVAL, service)
          | some desc =>
            let service :=
              { service with handles := { service.handles with button := desc.handle } }
            match chrc.descByUuid .gattCcc with
            | none => (-EINVAL, service)
            | some desc =>
              let service :=
                { service with handles := { service.handles with buttonCcc := desc.handle } }
              (0, { service with conn := some dm.conn })

/-- Taking over the handles of a complete service. -/
theorem handlesAssign_of_complete (service : BtSimpleService) {dm : GattDm} {handles : Handles}
    (complete : dm.handles = some handles) :
    service.handlesAssign dm = (0, { service with conn := some dm.conn, handles := handles }) := by
  unfold GattDm.handles at complete
  unfold handlesAssign
  by_cases named : dm.service = .customService
  · rw [if_pos named] at complete
    rcases Option.bind_eq_some_iff.mp complete with ⟨led, foundLed, complete⟩
    rcases Option.bind_eq_some_iff.mp complete with ⟨ledValue, foundLedValue, complete⟩
    rcases Option.bind_eq_some_iff.mp complete with ⟨button, foundButton, complete⟩
    rcases Option.bind_eq_some_iff.mp complete with ⟨buttonValue, foundButtonValue, complete⟩
    rcases Option.map_eq_some_iff.mp complete with ⟨ccc, foundCcc, rfl⟩
    simp only [named, ne_eq, not_true, if_false, foundLed, foundLedValue, foundButton,
      foundButtonValue, foundCcc]
  · rw [if_neg named] at complete
    cases complete

/-- A service of another kind leaves the instance alone. -/
theorem handlesAssign_of_unsupported (service : BtSimpleService) {dm : GattDm}
    (unsupported : dm.service ≠ .customService) :
    service.handlesAssign dm = (-ENOTSUP, service) :=
  if_pos unsupported

/-- An incomplete service is an error, which leaves everything but the handles
alone. -/
theorem handlesAssign_of_incomplete (service : BtSimpleService) {dm : GattDm}
    (incomplete : dm.handles = none) :
    (service.handlesAssign dm).1 ≠ 0 ∧ exists handles,
      (service.handlesAssign dm).2 = { service with handles := handles } := by
  have invalid : -EINVAL ≠ 0 := by decide
  by_cases named : dm.service = .customService
  · unfold handlesAssign
    rw [if_neg (not_not_intro named)]
    dsimp only
    split
    · exact ⟨invalid, _, rfl⟩
    · rename_i led foundLed
      split
      · exact ⟨invalid, _, rfl⟩
      · rename_i ledValue foundLedValue
        split
        · exact ⟨invalid, _, rfl⟩
        · rename_i button foundButton
          split
          · exact ⟨invalid, _, rfl⟩
          · rename_i buttonValue foundButtonValue
            split
            · exact ⟨invalid, _, rfl⟩
            · rename_i ccc foundCcc
              simp [GattDm.handles, named, foundLed, foundLedValue, foundButton,
                foundButtonValue, foundCcc] at incomplete
  · have unsupported : -ENOTSUP ≠ 0 := by decide
    rw [handlesAssign_of_unsupported service named]
    exact ⟨unsupported, _, rfl⟩

/-- `atomic_test_and_set_bit` on `SIMPLE_SERVICE_C_BUTTOM_NOTIF_ENABLED` -/
def testAndSetNotifEnabled (service : BtSimpleService) : Bool × BtSimpleService :=
  (service.notifEnabled, { service with notifEnabled := true })

def clearNotifEnabled (service : BtSimpleService) : BtSimpleService :=
  { service with notifEnabled := false }

/-- `atomic_test_and_set_bit` on `SIMPLE_SERVICE_C_RX_WRITE_PENDING` -/
def testAndSetWritePending (service : BtSimpleService) : Bool × BtSimpleService :=
  (service.rxWritePending, { service with rxWritePending := true })

def clearWritePending (service : BtSimpleService) : BtSimpleService :=
  { service with rxWritePending := false }

/-- The parameters with which `bt_simple_service_subscribe_receive` subscribes. -/
def setNotifParams (service : BtSimpleService) : BtSimpleService :=
  { service with buttonNotifParams :=
      { value := BT_GATT_CCC_NOTIFY
        valueHandle := service.handles.button
        cccHandle := service.handles.buttonCcc
        isVolatile := true } }

/-- The parameters with which `bt_simple_service_set_led` writes. -/
def setWriteParams (service : BtSimpleService) (data : UInt8) : BtSimpleService :=
  { service with writeParams :=
      { handle := service.handles.led
        length := 1
        offset := 0
        data := data } }

/-- The end of a subscription: `params->value_handle = 0`. -/
def endNotifParams (service : BtSimpleService) : BtSimpleService :=
  { service with buttonNotifParams := { service.buttonNotifParams with valueHandle := 0 } }

end BtSimpleService

/-! ## Programs -/

/-- The instance and everything else. -/
structure Client (Env : Type) where
  service : BtSimpleService
  env : Env

/-- The byte that `data` points to, and the length that came with it. -/
structure Payload where
  byte : UInt8
  length : Nat
  deriving DecidableEq, Repr

/-- The next event, the result of a function of the stack, and an event that
comes while such a function is running. -/
inductive ClientQuery
  | next
  | result
  | during
  deriving DecidableEq, Repr

abbrev ClientAnswer (Event : Type) : ClientQuery -> Type
  | .next => Event
  | .result => Int
  | .during => Option Event

inductive ClientProc
  | environment
  | interrupts
  -- the client
  | clientInit (present : Bool) (init : Option BtSimpleServiceCb)
  | handlesAssign (dm : GattDm)
  | subscribeReceive
  | setLed (data : UInt8)
  | onReceived (data : Option Payload)
  | onSent (err : UInt8)
  -- the callbacks of the application
  | received (data : Payload)
  | sent (err : UInt8) (params : WriteParams)
  | unsubscribed
  -- the stack
  | btGattSubscribe (conn : Option Conn) (params : SubscribeParams)
  | btGattWrite (conn : Option Conn) (params : WriteParams)
  | btGattDmStart (conn : Conn)
  | btConnSetSecurity (conn : Conn)
  deriving DecidableEq, Repr

abbrev ClientResult : ClientProc -> Type
  | .environment | .interrupts | .onSent _ | .sent _ _ | .unsubscribed => Unit
  | .onReceived _ | .received _ => UInt8
  | .clientInit _ _ | .handlesAssign _ | .subscribeReceive | .setLed _ | .btGattSubscribe _ _ |
    .btGattWrite _ _ | .btGattDmStart _ | .btConnSetSecurity _ => Int

abbrev clientInterface (Env Event : Type) : Interface where
  State := Client Env
  Query := ClientQuery
  Answer := ClientAnswer Event
  Proc := ClientProc
  Result := ClientResult

abbrev ClientProg (Env Event : Type) := Prog (clientInterface Env Event)

section Functions

variable {Env Event : Type} {A : Type}

namespace Client

def mapService (client : Client Env) (change : BtSimpleService -> BtSimpleService) : Client Env :=
  { client with service := change client.service }

/-- A function of the instance alone, on the whole state. -/
def onService (run : BtSimpleService -> A × BtSimpleService) (client : Client Env) :
    A × Client Env :=
  ((run client.service).1, { client with service := (run client.service).2 })

def mapEnv (client : Client Env) (change : Env -> Env) : Client Env :=
  { client with env := change client.env }

end Client

namespace ClientProg

abbrev ask (query : ClientQuery) : ClientProg Env Event (ClientAnswer Event query) :=
  Prog.question (I := clientInterface Env Event) query

abbrev invoke (proc : ClientProc) : ClientProg Env Event (ClientResult proc) :=
  Prog.invoke (I := clientInterface Env Event) proc

abbrev onService (run : BtSimpleService -> A × BtSimpleService) : ClientProg Env Event A :=
  Prog.perform (Client.onService run)

abbrev mapService (change : BtSimpleService -> BtSimpleService) : ClientProg Env Event Unit :=
  Prog.modify fun client => client.mapService change

abbrev mapEnv (change : Env -> Env) : ClientProg Env Event Unit :=
  Prog.modify fun client => client.mapEnv change

abbrev get (view : Client Env -> A) : ClientProg Env Event A :=
  Prog.get view

end ClientProg

abbrev BT_GATT_ITER_STOP : UInt8 := 0
abbrev BT_GATT_ITER_CONTINUE : UInt8 := 1

/-- `bt_simple_service_client_init` -/
def btSimpleServiceClientInit (present : Bool) (init : Option BtSimpleServiceCb) :
    ClientProg Env Event Int :=
  .onService fun service => service.clientInit present init

/-- `bt_simple_service_handles_assign` -/
def btSimpleServiceHandlesAssign (dm : GattDm) : ClientProg Env Event Int :=
  .onService fun service => service.handlesAssign dm

/-- `on_received` -/
def onReceived (data : Option Payload) : ClientProg Env Event UInt8 :=
  match data with
  | none => do
      .mapService BtSimpleService.endNotifParams
      .mapService BtSimpleService.clearNotifEnabled
      let cb <- .get fun client => client.service.cb
      if cb.unsubscribed = true then
        .invoke .unsubscribed
      pure BT_GATT_ITER_STOP
  | some data => do
      let cb <- .get fun client => client.service.cb
      if cb.received = true then .invoke (.received data)
      else pure BT_GATT_ITER_CONTINUE

/-- `bt_simple_service_subscribe_receive` -/
def btSimpleServiceSubscribeReceive : ClientProg Env Event Int := do
  let already <- .onService BtSimpleService.testAndSetNotifEnabled
  if already = true then pure (-EALREADY)
  else do
    .mapService BtSimpleService.setNotifParams
    let service <- .get fun client => client.service
    let err <- .invoke (.btGattSubscribe service.conn service.buttonNotifParams)
    if err ≠ 0 then
      .mapService BtSimpleService.clearNotifEnabled
    pure err

/-- `on_sent` -/
def onSent (err : UInt8) : ClientProg Env Event Unit := do
  let params <- .get fun client => client.service.writeParams
  .mapService BtSimpleService.clearWritePending
  let cb <- .get fun client => client.service.cb
  if cb.sent = true then
    .invoke (.sent err params)

/-- `bt_simple_service_set_led` -/
def btSimpleServiceSetLed (data : UInt8) : ClientProg Env Event Int := do
  let conn <- .get fun client => client.service.conn
  if conn = none then pure (-ENOTCONN)
  else do
    let already <- .onService BtSimpleService.testAndSetWritePending
    if already = true then pure (-EALREADY)
    else do
      .mapService fun service => service.setWriteParams data
      let service <- .get fun client => client.service
      let err <- .invoke (.btGattWrite service.conn service.writeParams)
      if err ≠ 0 then
        .mapService BtSimpleService.clearWritePending
      pure err

end Functions

end SimpleService
end NrfExamples
