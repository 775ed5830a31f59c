import NrfExamples.Reentrant.Interrupts

namespace NrfExamples
namespace LteTracker

open Reentrant Prog

/-!
# The tracker

`main.c` of `lte_tests`: the tracking loop of `main`, the functions that it
calls, and the handlers of LTE and GNSS events, which run at any time and give
the two semaphores that the loop waits for.  The LEDs, the button, the token
and the contents of fixes and messages are left out: the calls that the program
makes do not depend on them.
-/

/-- `enum lte_lc_nw_reg_status` -/
inductive RegStatus
  | notRegistered
  | registeredHome
  | searching
  | registrationDenied
  | unknown
  | registeredRoaming
  | registeredEmergency
  | uiccFail
  deriving DecidableEq, Repr

inductive LteEvt
  | nwRegStatus (status : RegStatus)
  | psmUpdate
  | edrxUpdate
  | rrcUpdate
  | cellUpdate
  | other
  deriving DecidableEq, Repr

inductive GnssEvt
  | pvt
  | fix
  | periodicWakeup
  | blocked
  | sleepAfterFix
  | sleepAfterTimeout
  | other
  deriving DecidableEq, Repr

/-- An event for one of the handlers; `retval` is what `nrf_modem_gnss_read`
would return. -/
inductive Event
  | lte (evt : LteEvt)
  | gnss (evt : GnssEvt) (retval : Int)
  deriving DecidableEq, Repr

inductive FuncMode
  | normal
  | deactivateLte
  deriving DecidableEq, Repr

inductive Sem
  | gnssFixSem
  | lteConnected
  deriving DecidableEq, Repr

inductive SockOpt
  | tlsPeerVerify
  | tlsHostname
  | tlsSecTagList
  deriving DecidableEq, Repr

/-- The steps in which `client_post_send` builds its request. -/
inductive Encoding
  | packetInit
  | uriPath
  | contentFormat
  | uriQuery
  | payloadMarker
  | payload
  deriving DecidableEq, Repr

/-- The functions that are called outside the program.  `addrinfo` and `errno`
stand for reading the result list of `getaddrinfo` and `errno`. -/
inductive Call
  | dkLedsInit
  | dkButtonsInit
  | nrfModemLibInit
  | modemKeyMgmtWriteIdentity
  | modemKeyMgmtWritePsk
  | lteLcInit
  | lteLcConnectAsync
  | lteLcFuncModeSet (mode : FuncMode)
  | gnssTimingSourceSet
  | gnssUseCaseSet
  | gnssEventHandlerSet
  | gnssFixIntervalSet
  | gnssFixRetrySet
  | gnssStart
  | gnssPrioModeEnable
  | getaddrinfo
  | addrinfo
  | freeaddrinfo
  | socket
  | setsockopt (sock : Int) (option : SockOpt)
  | connect (sock : Int)
  | coapEncode (encoding : Encoding)
  | send (sock : Int)
  | recv (sock : Int)
  | coapPacketParse
  | close (sock : Int)
  | errno
  | lteLcPowerOff
  | nrfModemLibShutdown
  deriving DecidableEq, Repr

/-- What has happened, as far as the program and its handlers are concerned. -/
inductive Entry
  | event (event : Event)
  | called (call : Call)
  | returned (call : Call) (result : Int)
  | took (sem : Sem)
  deriving DecidableEq, Repr

/-- The static variables and semaphores, and the history, oldest entry first. -/
structure Tracker where
  sock : Int
  lteConnected : Nat
  gnssFixSem : Nat
  resolveAddressLock : Nat
  history : List Entry
  deriving DecidableEq, Repr

def Tracker.initial : Tracker :=
  ⟨0, 0, 0, 0, []⟩

namespace Tracker

def record (tracker : Tracker) (entry : Entry) : Tracker :=
  { tracker with history := tracker.history ++ [entry] }

def count (tracker : Tracker) : Sem -> Nat
  | .gnssFixSem => tracker.gnssFixSem
  | .lteConnected => tracker.lteConnected

def setCount (tracker : Tracker) (sem : Sem) (count : Nat) : Tracker :=
  match sem with
  | .gnssFixSem => { tracker with gnssFixSem := count }
  | .lteConnected => { tracker with lteConnected := count }

/-- `k_sem_give`; both semaphores are defined with limit 1. -/
def kSemGive (tracker : Tracker) (sem : Sem) : Tracker :=
  tracker.setCount sem (min (tracker.count sem + 1) 1)

end Tracker

/-- The event is a registration at home or roaming. -/
def LteEvt.registers : LteEvt -> Bool
  | .nwRegStatus .registeredHome | .nwRegStatus .registeredRoaming => true
  | _ => false

/-- `lte_handler` -/
def lteHandler (evt : LteEvt) (tracker : Tracker) : Tracker :=
  match evt with
  | .nwRegStatus status =>
      if status ≠ .registeredHome ∧ status ≠ .registeredRoaming then tracker
      else tracker.kSemGive .lteConnected
  | .psmUpdate | .edrxUpdate | .rrcUpdate | .cellUpdate | .other => tracker

/-- `gnss_event_handler` -/
def gnssEventHandler (evt : GnssEvt) (retval : Int) (tracker : Tracker) : Tracker :=
  match evt with
  | .sleepAfterFix => if retval = 0 then tracker.kSemGive .gnssFixSem else tracker
  | .pvt | .fix | .periodicWakeup | .blocked | .sleepAfterTimeout | .other => tracker

def handleEvent (event : Event) (tracker : Tracker) : Tracker :=
  match event with
  | .lte evt => lteHandler evt tracker
  | .gnss evt retval => gnssEventHandler evt retval tracker

/-! ## The thread -/

/-- The events come in before and during a call, and while `main` waits. -/
inductive Point
  | before (call : Call)
  | during (call : Call)
  | waiting (sem : Sem)
  deriving DecidableEq, Repr

inductive TrackerProc
  | kSemTake (sem : Sem)
  | serverResolve
  | serverConnect
  | trackingLoop
  deriving DecidableEq, Repr

abbrev TrackerResult : TrackerProc -> Type
  | .kSemTake _ => Unit
  | .serverResolve => Int
  | .serverConnect => Int
  | .trackingLoop => Unit

abbrev mainThread : Thread where
  State := Tracker
  Point := Point
  Event := Event
  Call := Call
  Reply := fun _ => Int
  Proc := TrackerProc
  Result := TrackerResult

abbrev TrackerProg := Prog mainThread.interface

def TrackerProg.modify (change : Tracker -> Tracker) : TrackerProg Unit :=
  Prog.modify (I := mainThread.interface) change

def TrackerProg.get {A : Type} (view : Tracker -> A) : TrackerProg A :=
  Prog.get (I := mainThread.interface) view

def record (entry : Entry) : TrackerProg Unit :=
  .modify fun tracker => tracker.record entry

/-- Call a function outside the program. -/
def call (function : Call) : TrackerProg Int := do
  Thread.interrupts (.before function)
  record (.called function)
  Thread.interrupts (.during function)
  let result <- Thread.reply function
  record (.returned function result)
  pure result

def invoke (proc : TrackerProc) : TrackerProg (TrackerResult proc) :=
  @Thread.invoke mainThread proc

/-- Call the functions in order up to the first that fails. -/
def callAll : List Call -> TrackerProg Int
  | [] => pure 0
  | function :: later => do
      let err <- call function
      if err ≠ 0 then pure err else callAll later

abbrev EIO : Int := 5
abbrev ENOENT : Int := 2

/-- `return -errno` -/
def failErrno : TrackerProg Int := do
  let errno <- call .errno
  pure (-errno)

/-! ## The functions -/

/-- What is chosen when the program is built. -/
structure Build where
  ncsBefore26 : Bool
  highAccuracyTiming : Bool
  lowAccuracy : Bool
  deriving DecidableEq, Repr

/-- `modem_configure` -/
def modemConfigure (build : Build) : TrackerProg Int :=
  callAll ([.nrfModemLibInit, .modemKeyMgmtWriteIdentity, .modemKeyMgmtWritePsk] ++
    (if build.ncsBefore26 then [.lteLcInit] else []) ++
    [.lteLcConnectAsync, .lteLcFuncModeSet .deactivateLte])

/-- `gnss_init_and_start` -/
def gnssInitAndStart (build : Build) : TrackerProg Int := do
  let err <- callAll ((if build.highAccuracyTiming then [.gnssTimingSourceSet] else []) ++
    (if build.lowAccuracy then [.gnssUseCaseSet] else []) ++
    [.gnssEventHandlerSet, .gnssFixIntervalSet, .gnssFixRetrySet, .gnssStart, .gnssPrioModeEnable])
  if err ≠ 0 then pure (-1) else pure 0

/-- `server_resolve` -/
def serverResolve : TrackerProg Int := do
  let err <- call .getaddrinfo
  if err ≠ 0 then pure (- EIO)
  else do
    let result <- call .addrinfo
    if result = 0 then pure (-ENOENT)
    else do
      let _ <- call .freeaddrinfo
      pure 0

/-- The `setsockopt` calls of `server_connect`, each followed by its check, and
what comes after them. -/
def setsockopts (sock : Int) (rest : TrackerProg Int) : List SockOpt -> TrackerProg Int
  | [] => rest
  | option :: later => do
      let err <- call (.setsockopt sock option)
      if err ≠ 0 then failErrno else setsockopts sock rest later

/-- `server_connect` -/
def serverConnect : TrackerProg Int := do
  let sock <- call .socket
  .modify fun tracker => { tracker with sock := sock }
  if sock < 0 then failErrno
  else setsockopts sock (do
    let err <- call (.connect sock)
    if err < 0 then failErrno else pure 0) [.tlsPeerVerify, .tlsHostname, .tlsSecTagList]

/-- The encoding steps of `client_post_send`, each followed by its check, and
what comes after them. -/
def encodeAll (rest : TrackerProg Int) : List Encoding -> TrackerProg Int
  | [] => rest
  | encoding :: later => do
      let err <- call (.coapEncode encoding)
      if err < 0 then pure err else encodeAll rest later

/-- `client_post_send` -/
def clientPostSend : TrackerProg Int :=
  encodeAll (do
    let sock <- .get Tracker.sock
    let err <- call (.send sock)
    if err < 0 then failErrno else pure 0)
    [.packetInit, .uriPath, .contentFormat, .uriQuery, .payloadMarker, .payload]

/-- `client_handle_get_response`; a reply with a wrong token is only logged. -/
def clientHandleGetResponse : TrackerProg Int := do
  let err <- call .coapPacketParse
  if err < 0 then pure err else pure 0

/-- `k_sem_take` with `K_FOREVER` -/
def kSemTake (sem : Sem) : TrackerProg Unit := do
  Thread.interrupts (.waiting sem)
  let count <- .get fun tracker => tracker.count sem
  if count = 0 then invoke (.kSemTake sem)
  else .modify fun tracker => (tracker.setCount sem (count - 1)).record (.took sem)

/-- What `main` does after the loop. -/
def shutDown : TrackerProg Unit := do
  let _ <- call .lteLcPowerOff
  let _ <- call .nrfModemLibShutdown
  pure ()

/-- The loop of `main` from `recv` to its end. -/
def receiveResponse : TrackerProg Unit := do
  let sock <- .get Tracker.sock
  let received <- call (.recv sock)
  if received < 0 then shutDown
  else if received = 0 then shutDown
  else do
    let err <- clientHandleGetResponse
    if err < 0 then shutDown
    else do
      let _ <- call (.close sock)
      let err <- call (.lteLcFuncModeSet .deactivateLte)
      if err ≠ 0 then shutDown else invoke .trackingLoop

/-- The loop of `main` from `server_connect` on. -/
def deliver : TrackerProg Unit := do
  let err <- invoke .serverConnect
  if err ≠ 0 then pure ()
  else do
    let err <- clientPostSend
    if err ≠ 0 then shutDown else receiveResponse

/-- One iteration of the loop of `main`. -/
def trackingLoop : TrackerProg Unit := do
  invoke (.kSemTake .gnssFixSem)
  let err <- call (.lteLcFuncModeSet .normal)
  if err ≠ 0 then shutDown
  else do
    invoke (.kSemTake .lteConnected)
    let lock <- .get Tracker.resolveAddressLock
    if lock = 0 then do
      let err <- invoke .serverResolve
      if err ≠ 0 then pure ()
      else do
        .modify fun tracker => { tracker with resolveAddressLock := 1 }
        deliver
    else deliver

/-- `main` -/
def main (build : Build) : TrackerProg Unit := do
  let _ <- call .dkLedsInit
  let err <- modemConfigure build
  if err ≠ 0 then pure ()
  else do
    let err <- call .dkButtonsInit
    if err ≠ 0 then pure ()
    else do
      let _ <- gnssInitAndStart build
      invoke .trackingLoop

def trackerBody : (proc : TrackerProc) -> TrackerProg (TrackerResult proc)
  | .kSemTake sem => kSemTake sem
  | .serverResolve => serverResolve
  | .serverConnect => serverConnect
  | .trackingLoop => trackingLoop

/-- A handler runs without interruption once it has been set. -/
def mayHappen (tracker : Tracker) : Event -> Prop
  | .lte _ => .called .lteLcConnectAsync ∈ tracker.history
  | .gnss _ _ => .called .gnssEventHandlerSet ∈ tracker.history

instance (tracker : Tracker) (event : Event) : Decidable (mayHappen tracker event) :=
  match event with
  | .lte _ => inferInstanceAs (Decidable (_ ∈ _))
  | .gnss _ _ => inferInstanceAs (Decidable (_ ∈ _))

end LteTracker
end NrfExamples
