import NrfExamples.Reentrant.Interrupts

namespace NrfExamples
namespace GnssCoap

open Reentrant Prog

/-!
# The GNSS and CoAP client

`main.c` of `gnss_coap`: `main` with the functions that it calls, the handlers of
LTE, GNSS, time, button and timer events, and the two work items.  Events come
in between any two calls that `main` makes, and the work queue runs an item as
one such event.  The CoAP library is a parameter.  Left out are the log, the
UART power button, and what only they read.
-/

/-- The functions of the CoAP library on a buffer; `Packet` is `struct
coap_packet` without its pointer to the buffer. -/
structure CoapLib where
  Packet : Type
  offset : Packet -> Nat
  packetInit : (buffer : List UInt8) -> (token : List UInt8) -> (id : UInt16) ->
    Int × List UInt8 × Packet
  packetAppendOption : (buffer : List UInt8) -> Packet -> (code : Nat) -> (value : List UInt8) ->
    Int × List UInt8 × Packet
  packetAppendPayloadMarker : (buffer : List UInt8) -> Packet -> Int × List UInt8 × Packet
  packetAppendPayload : (buffer : List UInt8) -> Packet -> (payload : List UInt8) ->
    Int × List UInt8 × Packet
  packetParse : (received : List UInt8) -> Int × Packet
  headerGetToken : Packet -> (buffer : List UInt8) -> List UInt8

/-- A latitude or longitude: the bits of a `double`, which the program only copies
and prints. -/
abbrev Coordinate := UInt64

/-- The fields of `struct nrf_modem_gnss_pvt_data_frame` that are used. -/
structure Frame where
  latitude : Coordinate
  longitude : Coordinate
  flags : UInt8
  deriving DecidableEq, Repr

abbrev NRF_MODEM_GNSS_PVT_FLAG_FIX_VALID : UInt8 := 1

/-- What is chosen when the program is built. -/
structure Build where
  simulateFix : Bool
  raiEnable : Bool
  deriving DecidableEq, Repr

inductive LteState
  | on
  | offline
  | busy
  deriving DecidableEq, Repr

inductive WorkItem
  | newFix
  | coapPut
  deriving DecidableEq, Repr

/-- The functions outside the program that return an `int`.  `addrinfo` and `errno`
stand for reading the result list of `getaddrinfo` and `errno`. -/
inductive Call
  | gpioPinConfigure (button : Bool)
  | gpioPinInterruptConfigure (button : Bool)
  | gpioAddCallback (button : Bool)
  | dateTimeRegisterHandler
  | lteLcInit
  | lteLcPsmReq
  | lteLcRaiReq
  | lteLcConnectAsync
  | dateTimeUpdateAsync
  | getaddrinfo
  | addrinfo
  | freeaddrinfo
  | socket
  | connect (sock : Int)
  | close (sock : Int)
  | errno
  | lteLcFuncModeSet
  | gnssEventHandlerSet
  | gnssFixIntervalSet
  | gnssFixRetrySet
  | gnssStart
  | kTimerStart
  | setsockopt (sock : Int)
  | send (sock : Int)
  deriving DecidableEq, Repr

/-- `recv` also gives the bytes of the datagram, and `snprintf` the text of the
time and place that it printed. -/
inductive Outside
  | call (call : Call)
  | recv (sock : Int)
  | snprintf (frame : Frame)
  | coapNextId
  | sysRand32Get
  deriving DecidableEq, Repr

abbrev Reply : Outside -> Type
  | .call _ => Int
  | .recv _ => Int × List UInt8
  | .snprintf _ => Int × List UInt8
  | .coapNextId => UInt16
  | .sysRand32Get => UInt32

inductive Event
  | lte (status : Option Nat)
  | dateTime
  | button (first second : Bool)
  | gnssPvt (err : Int) (frame : Frame)
  | gnssOther
  | timer
  | work
  deriving DecidableEq, Repr

/-- What has happened; the bytes of a datagram or a request are recorded where it
is received, parsed, accepted, built and sent. -/
inductive Entry
  | called (call : Call)
  | returned (call : Call) (result : Int)
  | received (bytes : List UInt8)
  | parsed (bytes : List UInt8)
  | accepted (bytes : List UInt8)
  | building
  | built (bytes : List UInt8)
  | sent (sock : Int) (bytes : List UInt8)
  deriving DecidableEq, Repr

/-- The static variables, the semaphore, the work queue, and the history, oldest
entry first. -/
structure Client where
  sock : Int
  lteState : LteState
  nextToken : UInt16
  coapBuf : List UInt8
  coapPayload : List UInt8
  pvtData : Frame
  timeSem : Nat
  work : List WorkItem
  history : List Entry

abbrev APP_COAP_MAX_MSG_LEN : Nat := 1280
abbrev MESSAGE_SIZE : Nat := 242

/-- Static variables start at zero; `LTE_STATE_ON` is the first state. -/
def Client.initial : Client where
  sock := 0
  lteState := .on
  nextToken := 0
  coapBuf := List.replicate APP_COAP_MAX_MSG_LEN 0
  coapPayload := []
  pvtData := ⟨0, 0, 0⟩
  timeSem := 0
  work := []
  history := []

namespace Client

def record (client : Client) (entry : Entry) : Client :=
  { client with history := client.history ++ [entry] }

/-- `k_work_submit`: an item that waits is not queued again. -/
def kWorkSubmit (client : Client) (item : WorkItem) : Client :=
  if item ∈ client.work then client else { client with work := client.work ++ [item] }

/-- The bytes that `memcmp` reads of `next_token`. -/
def tokenBytes (client : Client) : List UInt8 :=
  [client.nextToken.toUInt8, (client.nextToken >>> 8).toUInt8]

end Client

/-! ## The thread -/

/-- Where events come in. -/
inductive Point
  | before (call : Call)
  | busy
  | timeSem
  | beforeRecv
  | beforeParse
  | beforeGetToken
  | beforeCompare
  | beforeGetPayload
  | finished
  deriving DecidableEq, Repr

inductive ClientProc
  | waitWhileBusy
  | receiveLoop
  deriving DecidableEq, Repr

abbrev mainThread : Thread where
  State := Client
  Point := Point
  Event := Event
  Call := Outside
  Reply := Reply
  Proc := ClientProc
  Result := fun _ => Unit

abbrev ClientProg := Prog mainThread.interface

def ClientProg.modify (change : Client -> Client) : ClientProg Unit :=
  Prog.modify (I := mainThread.interface) change

def ClientProg.get {A : Type} (view : Client -> A) : ClientProg A :=
  Prog.get (I := mainThread.interface) view

def record (entry : Entry) : ClientProg Unit :=
  .modify fun client => client.record entry

def interrupts (point : Point) : ClientProg Unit :=
  @Thread.interrupts mainThread point

def reply (function : Outside) : ClientProg (Reply function) :=
  @Thread.reply mainThread function

def invoke (proc : ClientProc) : ClientProg Unit :=
  @Thread.invoke mainThread proc

/-! ## The handlers -/

/-- `lte_handler`; `none` is an event other than a registration status. -/
def lteHandler (status : Option Nat) (client : Client) : Client :=
  match status with
  | none => client
  | some status =>
      if status ≠ 1 ∧ status ≠ 5 then
        if status = 0 then { client with lteState := .offline } else client
      else { client with lteState := .on }

/-- `date_time_evt_handler` -/
def dateTimeEvtHandler (client : Client) : Client :=
  { client with timeSem := min (client.timeSem + 1) 1 }

/-- 48.858370 and 2.294481, with a valid fix. -/
def simulatedFix : Frame :=
  ⟨0x40486ddf1172ef0b, 0x40025b18dac258d6, NRF_MODEM_GNSS_PVT_FLAG_FIX_VALID⟩

/-- `gnss_simulate_fix` -/
def gnssSimulateFix (client : Client) : Client :=
  { client with pvtData := simulatedFix }.kWorkSubmit .newFix

/-- `button_pressed`, with the level of the first button. -/
def buttonPressed (build : Build) (first : Bool) (client : Client) : Client :=
  if first = true ∧ client.lteState = .on then
    if build.simulateFix then gnssSimulateFix client else client.kWorkSubmit .coapPut
  else client

/-- `gnss_event_handler` on `NRF_MODEM_GNSS_EVT_PVT`, with what
`nrf_modem_gnss_read` returns and reads. -/
def gnssEventHandler (err : Int) (frame : Frame) (client : Client) : Client :=
  if err ≠ 0 then client
  else
    let client := { client with pvtData := frame }
    if frame.flags &&& NRF_MODEM_GNSS_PVT_FLAG_FIX_VALID ≠ 0 then client.kWorkSubmit .newFix
    else client

/-! ## The work items -/

/-- `new_fix_work_fn` -/
def newFixWorkFn : ClientProg Unit := do
  let frame <- .get Client.pvtData
  let printed <- reply (.snprintf frame)
  if printed.1 < 0 then
    .modify fun client => client.kWorkSubmit .coapPut
  else
    .modify fun client =>
      { client with coapPayload := printed.2.take (MESSAGE_SIZE - 1) }.kWorkSubmit .coapPut

/-- Let the library write to `coap_buf`, then check its result. -/
def encode {Packet : Type} (write : List UInt8 -> Int × List UInt8 × Packet)
    (rest : Packet -> ClientProg Unit) : ClientProg Unit := do
  let written <- Prog.perform (I := mainThread.interface) fun client =>
    (write client.coapBuf, { client with coapBuf := (write client.coapBuf).2.1 })
  if written.1 < 0 then pure () else rest written.2.2

/-- The last steps of `coap_put_work_fn`. -/
def sendRequest (build : Build) (length : Nat) : ClientProg Unit := do
  .modify fun client => client.record (.built (client.coapBuf.take length))
  let sock <- .get Client.sock
  let err <- if build.raiEnable then reply (.call (.setsockopt sock)) else pure 0
  if err < 0 then pure ()
  else do
    .modify fun client => client.record (.sent client.sock (client.coapBuf.take length))
    let _ <- reply (.call (.send sock))
    pure ()

abbrev COAP_OPTION_URI_PATH : Nat := 11
abbrev COAP_OPTION_CONTENT_FORMAT : Nat := 12
abbrev COAP_CONTENT_FORMAT_TEXT_PLAIN : UInt8 := 0

/-- `CONFIG_COAP_TX_RESOURCE` -/
def txResource : List UInt8 :=
  "large-update".toUTF8.toList

/-- `coap_put_work_fn` -/
def coapPutWorkFn (lib : CoapLib) (build : Build) : ClientProg Unit := do
  let sock <- .get Client.sock
  if sock < 0 then pure ()
  else do
    .modify fun client => { client with nextToken := client.nextToken + 1 }.record .building
    let id <- reply .coapNextId
    let token <- .get Client.tokenBytes
    encode (fun buffer => lib.packetInit buffer token id) fun request =>
      encode (fun buffer =>
        lib.packetAppendOption buffer request COAP_OPTION_URI_PATH txResource) fun request =>
      encode (fun buffer => lib.packetAppendOption buffer request COAP_OPTION_CONTENT_FORMAT
        [COAP_CONTENT_FORMAT_TEXT_PLAIN]) fun request =>
      encode (fun buffer => lib.packetAppendPayloadMarker buffer request) fun request => do
        let payload <- .get Client.coapPayload
        encode (fun buffer => lib.packetAppendPayload buffer request payload) fun request =>
          sendRequest build (lib.offset request)

/-- The work queue takes its oldest item and runs it. -/
def runWork (lib : CoapLib) (build : Build) : ClientProg Unit := do
  let work <- .get Client.work
  .modify fun client => { client with work := client.work.tail }
  match work with
  | [] => pure ()
  | .newFix :: _ => newFixWorkFn
  | .coapPut :: _ => coapPutWorkFn lib build

def handleEvent (lib : CoapLib) (build : Build) : Event -> ClientProg Unit
  | .lte status => .modify (lteHandler status)
  | .dateTime => .modify dateTimeEvtHandler
  | .button first _ => .modify (buttonPressed build first)
  | .gnssPvt err frame => .modify (gnssEventHandler err frame)
  | .gnssOther => pure ()
  | .timer => .modify gnssSimulateFix
  | .work => runWork lib build

/-- An event comes once its source has been set up; work once it is submitted. -/
def mayHappen (build : Build) (client : Client) : Event -> Prop
  | .lte _ => .called .lteLcConnectAsync ∈ client.history
  | .dateTime => .called .dateTimeRegisterHandler ∈ client.history
  | .button _ _ => .called (.gpioAddCallback false) ∈ client.history
  | .gnssPvt _ _ | .gnssOther =>
      build.simulateFix = false ∧ .called .gnssEventHandlerSet ∈ client.history
  | .timer => build.simulateFix = true ∧ .called .kTimerStart ∈ client.history
  | .work => client.work ≠ []

/-! ## The functions -/

/-- Call a function outside the program. -/
def call (function : Call) : ClientProg Int := do
  interrupts (.before function)
  record (.called function)
  let result <- reply (.call function)
  record (.returned function result)
  pure result

/-- Call the functions in order up to the first that fails. -/
def callAll : List Call -> ClientProg Int
  | [] => pure 0
  | function :: later => do
      let err <- call function
      if err ≠ 0 then pure err else callAll later

abbrev EIO : Int := 5
abbrev ENOENT : Int := 2

/-- `server_resolve` -/
def serverResolve : ClientProg Int := do
  let err <- call .getaddrinfo
  if err ≠ 0 then pure (- EIO)
  else do
    let result <- call .addrinfo
    if result = 0 then pure (-ENOENT)
    else do
      let _ <- call .freeaddrinfo
      pure 0

/-- `server_disconnect` -/
def serverDisconnect : ClientProg Unit := do
  let sock <- .get Client.sock
  let _ <- call (.close sock)
  pure ()

/-- `socket`, whose result is assigned to `sock` at once. -/
def openSocket : ClientProg Int := do
  interrupts (.before .socket)
  record (.called .socket)
  let sock <- reply (.call .socket)
  .modify fun client => { client with sock := sock }.record (.returned .socket sock)
  pure sock

/-- `server_connect` -/
def serverConnect : ClientProg Int := do
  let sock <- openSocket
  if sock < 0 then do
    let errno <- call .errno
    serverDisconnect
    pure (-errno)
  else do
    let err <- call (.connect sock)
    if err < 0 then do
      serverDisconnect
      pure err
    else do
      let random <- reply .sysRand32Get
      .modify fun client => { client with nextToken := random.toUInt16 }
      pure 0

/-- One turn of the loop of `button_init`.  An error of the configuration ends the
loop; the result of `gpio_add_callback` is not looked at. -/
def setUpButton (button : Bool) : ClientProg Int := do
  let err <- callAll [.gpioPinConfigure button, .gpioPinInterruptConfigure button]
  if err ≠ 0 then pure err
  else do
    let _ <- call (.gpioAddCallback button)
    pure 0

/-- `button_init`; an error is only logged. -/
def buttonInit : ClientProg Unit := do
  let err <- setUpButton false
  if err ≠ 0 then pure ()
  else do
    let _ <- setUpButton true
    pure ()

/-- `modem_init`; an error is only logged. -/
def modemInit : ClientProg Unit := do
  let _ <- call .dateTimeRegisterHandler
  let _ <- call .lteLcInit
  pure ()

/-- `"No Initial Fix"` -/
def noInitialFix : List UInt8 :=
  "No Initial Fix".toUTF8.toList

/-- `gnss_init_and_start` -/
def gnssInitAndStart : ClientProg Int := do
  .modify fun client => { client with coapPayload := noInitialFix }
  let err <- callAll [.lteLcFuncModeSet, .gnssEventHandlerSet, .gnssFixIntervalSet,
    .gnssFixRetrySet, .gnssStart]
  if err ≠ 0 then pure (-1) else pure 0

/-- Start GNSS, or the timer that simulates it. -/
def startFixes (build : Build) : ClientProg Int :=
  if build.simulateFix then do
    .modify gnssSimulateFix
    let _ <- call .kTimerStart
    pure 0
  else gnssInitAndStart

/-- `client_handle_response`; a message with a wrong token is only logged. -/
def clientHandleResponse (lib : CoapLib) (received : Nat) : ClientProg Int := do
  interrupts .beforeParse
  let parsed <- .get fun client => lib.packetParse (client.coapBuf.take received)
  .modify fun client => client.record (.parsed (client.coapBuf.take received))
  if parsed.1 < 0 then pure parsed.1
  else do
    interrupts .beforeGetToken
    let token <- .get fun client => lib.headerGetToken parsed.2 client.coapBuf
    interrupts .beforeCompare
    let nextToken <- .get Client.tokenBytes
    if token ≠ nextToken then pure 0
    else do
      interrupts .beforeGetPayload
      .modify fun client => client.record (.accepted (client.coapBuf.take received))
      pure 0

/-- The loop of `main` that waits for LTE. -/
def waitWhileBusy : ClientProg Unit := do
  interrupts .busy
  let lteState <- .get Client.lteState
  if lteState = .busy then invoke .waitWhileBusy else pure ()

/-- `k_sem_take` with a timeout: the semaphore is taken, or the time is up. -/
def takeTimeSem : ClientProg Unit := do
  interrupts .timeSem
  .modify fun client => { client with timeSem := client.timeSem - 1 }

/-- A datagram is copied to the start of `coap_buf`. -/
def Client.receive (client : Client) (bytes : List UInt8) : Client :=
  { client with coapBuf := bytes ++ client.coapBuf.drop bytes.length }.record (.received bytes)

/-- The receive loop of `main`, and what comes after it. -/
def receiveLoop (lib : CoapLib) : ClientProg Unit := do
  interrupts .beforeRecv
  let sock <- .get Client.sock
  let received <- reply (.recv sock)
  if received.1 < 0 then serverDisconnect
  else if received.1 = 0 then invoke .receiveLoop
  else do
    .modify fun client => client.receive received.2
    let err <- clientHandleResponse lib received.1.toNat
    if err < 0 then serverDisconnect else invoke .receiveLoop

/-- `main` from `server_resolve` on. -/
def runClient (build : Build) : ClientProg Unit := do
  let err <- serverResolve
  if err ≠ 0 then pure ()
  else do
    let err <- serverConnect
    if err ≠ 0 then pure ()
    else do
      let err <- startFixes build
      if err ≠ 0 then pure () else invoke .receiveLoop

/-- `main`; after it the device goes on handling events. -/
def main (build : Build) : ClientProg Unit := do
  buttonInit
  .modify fun client => { client with lteState := .busy }
  modemInit
  let _ <- call .lteLcPsmReq
  let _ <- call .lteLcRaiReq
  let _ <- call .lteLcConnectAsync
  invoke .waitWhileBusy
  let _ <- call .dateTimeUpdateAsync
  takeTimeSem
  runClient build
  interrupts .finished

/-- What `recv` may return: an error, or a datagram, cut to the buffer. -/
def MayReceive (received : Int × List UInt8) : Prop :=
  received.1 < 0 ∨ received.1 = received.2.length ∧ received.2.length ≤ APP_COAP_MAX_MSG_LEN

/-- `main` and the handlers, where events may come in as `allowed` says. -/
def setup (lib : CoapLib) (build : Build) (allowed : Point -> Client -> Event -> Prop) :
    mainThread.Setup where
  handle := handleEvent lib build
  body := fun proc =>
    match proc with
    | .waitWhileBusy => waitWhileBusy
    | .receiveLoop => receiveLoop lib
  mayHappen := fun point client event => mayHappen build client event ∧ allowed point client event
  mayGoOn := fun _ _ => True
  mayReply := fun function _ answer =>
    match function with
    | .recv _ => MayReceive answer
    | _ => True

abbrev ClientConfig := Config mainThread.interface Unit

/-- The configurations of all runs of `main`. -/
def ClientReached (lib : CoapLib) (build : Build) (allowed : Point -> Client -> Event -> Prop)
    (current : ClientConfig) : Prop :=
  (setup lib build allowed).system.Reachable ⟨Client.initial, main build⟩ current

end GnssCoap
end NrfExamples
