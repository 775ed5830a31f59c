import NrfExamples.SimpleService.Client

namespace NrfExamples
namespace SimpleService

open Reentrant Prog

/-!
# The central

The application in `main.c` of `central_simple_service`: the callbacks of the
scanning, connection and discovery modules, the callbacks of the client, and
the button handler.  `Radio` is what lies outside the device.  Log messages are
left out, and with them the results that are only logged.
-/

/-- The variables of `main.c` and the two LEDs. -/
structure Central (Radio : Type) where
  defaultConn : Option Conn
  /-- `CHRC_STATUS_LED` -/
  statusLed : Bool
  /-- `CON_STATUS_LED` -/
  conLed : Bool
  radio : Radio

abbrev CentralProg (Radio Event : Type) := ClientProg (Central Radio) Event

abbrev CentralState (Radio : Type) := Client (Central Radio)

section Functions

variable {Radio Event : Type} {A : Type}

def Client.radio (central : CentralState Radio) : Radio :=
  central.env.radio

def Client.mapRadio (central : CentralState Radio) (change : Radio -> Radio) :
    CentralState Radio :=
  central.mapEnv fun env => { env with radio := change env.radio }

abbrev CentralProg.mapRadio (change : Radio -> Radio) : CentralProg Radio Event Unit :=
  Prog.modify fun central => central.mapRadio change

/-- `dk_set_led` on `CHRC_STATUS_LED` -/
def setStatusLed (isOn : Bool) : CentralProg Radio Event Unit :=
  .mapEnv fun env => { env with statusLed := isOn }

/-- `dk_set_led` on `CON_STATUS_LED` -/
def setConLed (isOn : Bool) : CentralProg Radio Event Unit :=
  .mapEnv fun env => { env with conLed := isOn }

def setDefaultConn (conn : Option Conn) : CentralProg Radio Event Unit :=
  .mapEnv fun env => { env with defaultConn := conn }

/-! ## Discovery -/

/-- `discovery_completed_cb` -/
def discoveryCompletedCb (dm : GattDm) : CentralProg Radio Event Unit := do
  let _ <- .invoke (.handlesAssign dm)
  let _ <- .invoke .subscribeReceive
  pure ()

/-- `discovery_service_not_found_cb` and `discovery_error_found_cb` write to the
log only. -/
def discoveryFailedCb : CentralProg Radio Event Unit :=
  pure ()

/-- `gatt_discover` -/
def gattDiscover (conn : Conn) : CentralProg Radio Event Unit := do
  let _ <- .invoke (.btGattDmStart conn)
  pure ()

/-! ## Connections -/

/-- `connected` -/
def connected (conn : Conn) (connErr : UInt8) : CentralProg Radio Event Unit := do
  if connErr ≠ 0 then
    let defaultConn <- .get fun central => central.env.defaultConn
    if defaultConn = some conn then
      setDefaultConn none
  else
    let err <- .invoke (.btConnSetSecurity conn)
    if err ≠ 0 then
      gattDiscover conn
    setConLed true

/-- `disconnected` -/
def disconnected (conn : Conn) : CentralProg Radio Event Unit := do
  let defaultConn <- .get fun central => central.env.defaultConn
  if defaultConn ≠ some conn then pure ()
  else do
    setDefaultConn none
    setConLed false

/-- `security_changed` -/
def securityChanged (conn : Conn) (err : Nat) : CentralProg Radio Event Unit := do
  if err = 0 then
    gattDiscover conn

/-- `scan_connecting` -/
def scanConnecting (conn : Conn) : CentralProg Radio Event Unit :=
  setDefaultConn (some conn)

/-! ## The client and the buttons -/

/-- `ble_data_sent` writes to the log only. -/
def bleDataSent (_ : UInt8) (_ : WriteParams) : CentralProg Radio Event Unit :=
  pure ()

/-- `ble_data_received` -/
def bleDataReceived (data : Payload) : CentralProg Radio Event UInt8 := do
  if data.byte = 0x01 then
    setStatusLed true
  else if data.byte = 0x00 then
    setStatusLed false
  pure BT_GATT_ITER_CONTINUE

/-- `simple_service_client_init`; the `unsubscribed` callback stays NULL. -/
def simpleServiceClientInit : CentralProg Radio Event Int :=
  .invoke (.clientInit true (some ⟨true, true, false⟩))

abbrev DK_BTN1_MSK : UInt32 := 1

/-- `button_handler`; the cases of the other buttons are empty. -/
def buttonHandler (buttonState hasChanged : UInt32) : CentralProg Radio Event Unit := do
  if hasChanged = DK_BTN1_MSK then
    let _ <- .invoke (.setLed buttonState.toUInt8)
    pure ()

/-- What the device runs on: the order of events, and the functions of the
Bluetooth stack. -/
structure Stack (Radio Event : Type) where
  environment : CentralProg Radio Event Unit
  interrupts : CentralProg Radio Event Unit
  btGattSubscribe : Option Conn -> SubscribeParams -> CentralProg Radio Event Int
  btGattWrite : Option Conn -> WriteParams -> CentralProg Radio Event Int
  btGattDmStart : Conn -> CentralProg Radio Event Int
  btConnSetSecurity : Conn -> CentralProg Radio Event Int

/-- The client, the callbacks that the application gives it, and the stack. -/
def centralBody (stack : Stack Radio Event) :
    (proc : ClientProc) -> CentralProg Radio Event (ClientResult proc)
  | .environment => stack.environment
  | .interrupts => stack.interrupts
  | .clientInit present init => btSimpleServiceClientInit present init
  | .handlesAssign dm => btSimpleServiceHandlesAssign dm
  | .subscribeReceive => btSimpleServiceSubscribeReceive
  | .setLed data => btSimpleServiceSetLed data
  | .onReceived data => onReceived data
  | .onSent err => onSent err
  | .received data => bleDataReceived data
  | .sent err params => bleDataSent err params
  | .unsubscribed => pure ()
  | .btGattSubscribe conn params => stack.btGattSubscribe conn params
  | .btGattWrite conn params => stack.btGattWrite conn params
  | .btGattDmStart conn => stack.btGattDmStart conn
  | .btConnSetSecurity conn => stack.btConnSetSecurity conn

/-- `main` once Bluetooth is enabled. -/
def centralMain : CentralProg Radio Event Unit := do
  let _ <- simpleServiceClientInit
  .invoke .environment

end Functions

end SimpleService
end NrfExamples
