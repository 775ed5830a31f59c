import NrfExamples.Reentrant.Contract
import NrfExamples.Uart.World

namespace NrfExamples
namespace Uart

open Reentrant

/-!
# The UART async adapter

`uart_async_adapter.c`, function by function.  What a function does between two
points where other code can run is one section, a function on `World`; the
programs below put the sections in order and show where the client is called.
Functions that never call the client are sections themselves.

Handlers and calls run to completion, except that a client callback may make
further calls of the interface before it returns.
-/

namespace World

variable {App : Type}

def irqTxEnable (world : World App) : World App :=
  { world with irq := { world.irq with tx := true } }

def irqTxDisable (world : World App) : World App :=
  { world with irq := { world.irq with tx := false } }

/-- The locked part of `notify_rx_buffer`, with the event to deliver. -/
def notifyRxBuffer (world : World App) : Option UartEvent × World App :=
  let rx := world.adapter.rx
  if rx.buf.isSome then
    let world := world.assertNoMsg .rxCurrBufAfterBuf (rx.currBuf.atOrAfter rx.buf)
    let world := world.assertNoMsg .rxCurrBufAfterNotify (rx.currBuf.atOrAfter rx.lastNotifyBuf)
    if rx.currBuf.after rx.lastNotifyBuf then
      (some (.rxRdy rx.buf (rx.lastNotifyBuf.diff rx.buf) (rx.currBuf.diff rx.lastNotifyBuf)),
        world.setRx { rx with lastNotifyBuf := rx.currBuf })
    else (none, world)
  else (none, world)

/-- The locked part of `switch_rx_buffer`, with the buffer that was replaced. -/
def switchRxBuffer (dev : Device) (world : World App) : Pointer × World App :=
  let data := world.accessDevData dev
  (data.rx.buf,
    world.setDevData
      { data with
        rx := { data.rx with
          buf := data.rx.nextBuf
          currBuf := data.rx.nextBuf
          lastNotifyBuf := data.rx.nextBuf
          sizeLeft := data.rx.nextBufLen
          nextBuf := none
          nextBufLen := 0 } } dev)

/-- `tx` -/
def tx (buf : Pointer) (len : Nat) (timeout : Int) (world : World App) : Int × World App :=
  if len = 0 then (0, world)
  else if world.adapter.tx.buf.isSome then (-EBUSY, world)
  else
    let world := world.setTx
      { world.adapter.tx with buf := buf, currBuf := buf, sizeLeft := len, enabled := true }
    let world := world.irqTxEnable
    if timeout ≠ sysForeverMs then
      (0, world.setTx { world.adapter.tx with timeoutTimer := world.kTimerStart timeout })
    else (0, world)

/-- `tx_abort` up to the callback. -/
def txAbort (world : World App) : Option UartEvent × World App :=
  let world := world.setTx { world.adapter.tx with enabled := false, timeoutTimer := none }
  let world := world.irqTxDisable
  let tx := world.adapter.tx
  if tx.buf.isSome then
    (some (.txAborted tx.buf (tx.currBuf.diff tx.buf)),
      world.setTx { tx with buf := none, currBuf := none, sizeLeft := 0 })
  else (none, world)

/-- `rx_enable` -/
def rxEnable (buf : Pointer) (len : Nat) (timeout : Int) (world : World App) :
    Int × World App :=
  let rx := world.adapter.rx
  let ret := if rx.nextBuf.isSome || rx.buf.isSome then -EBUSY else 0
  let world := world.setRx
    { rx with
      buf := none
      currBuf := none
      sizeLeft := 0
      nextBuf := buf
      nextBufLen := len
      timeout := timeout
      enabled := true }
  (ret, { world with irq := { world.irq with rx := true, err := true } })

/-- `rx_buf_rsp` -/
def rxBufRsp (buf : Pointer) (len : Nat) (world : World App) : Int × World App :=
  let rx := world.adapter.rx
  if rx.nextBuf.isSome then (-EBUSY, world)
  else
    let world := world.assertNoMsg .rxNextBufLenZero (rx.nextBufLen = 0)
    (0, world.setRx { rx with nextBuf := buf, nextBufLen := len })

/-- `rx_disable` up to its loop.  The interrupts of the target UART are reached
through the adapter's data only. -/
def rxDisable (dev : Device) (world : World App) : World App :=
  let data := world.accessDevData dev
  let world := world.setDevData { data with rx := { data.rx with enabled := false } } dev
  match dev with
  | .adapter => { world with irq := { world.irq with rx := false, err := false } }
  | .target => world

/-- What `on_tx_ready` does with the result of `uart_fifo_fill`. -/
def onTxReady (ret : Int) (world : World App) : World App :=
  if ret ≤ 0 then world
  else
    let tx := world.adapter.tx
    let world := world.observe (.pushed tx.currBuf (world.bytesAt tx.currBuf ret.toNat))
    world.setTx
      { tx with currBuf := tx.currBuf.advance ret.toNat, sizeLeft := tx.sizeLeft - ret.toNat }

/-- `on_tx_complete` up to the callback. -/
def onTxComplete (world : World App) : Option UartEvent × World App :=
  if world.adapter.tx.sizeLeft = 0 then
    let world := world.setTx { world.adapter.tx with enabled := false }
    let world := world.irqTxDisable
    let tx := world.adapter.tx
    if tx.buf.isSome then
      let world := world.assertNoMsg .txCurrBufSet tx.currBuf.isSome
      let world := world.assertNoMsg .txCurrBufAfterBuf (tx.currBuf.atOrAfter tx.buf)
      (some (.txDone tx.buf (tx.currBuf.diff tx.buf)),
        world.setTx { tx with buf := none, currBuf := none, sizeLeft := 0 })
    else (none, world)
  else (none, world)

/-- The receive timer is restarted when `on_rx_ready` begins.  The mark in the
log says that its loop is running. -/
def onRxReadyBegin (world : World App) : World App :=
  let rx := world.adapter.rx
  (if rx.timeout ≠ sysForeverMs then
      world.setRx { rx with timeoutTimer := world.kTimerStart rx.timeout }
    else world).observe (.rxLoop true)

/-- What `on_rx_ready` does with the bytes read into the current buffer. -/
def onRxReadyStore (bytes : List UInt8) (world : World App) : World App :=
  let rx := world.adapter.rx
  let world := world.observe (.stored rx.currBuf bytes)
  let world := world.storeBytes rx.currBuf bytes
  let world := world.assertNoMsg .rxSizeLeft (bytes.length ≤ rx.sizeLeft)
  world.setRx
    { rx with currBuf := rx.currBuf.advance bytes.length, sizeLeft := rx.sizeLeft - bytes.length }

/-- The one-shot transmit timer has expired. -/
def txTimerExpired (world : World App) : World App :=
  world.setTx { world.adapter.tx with timeoutTimer := none }

/-- The one-shot receive timer has expired. -/
def rxTimerExpired (world : World App) : World App :=
  world.setRx { world.adapter.rx with timeoutTimer := none }

def elapse (ticks : Nat) (world : World App) : World App :=
  { world with now := world.now + ticks }

/-- An event handed to whatever the target's private data holds as callback. -/
def observeForeign (evt : UartEvent) (world : World App) : World App :=
  { world with foreign := evt :: world.foreign }

/-! ### What an abort and a completion do -/

section Transmission

variable {world : World App}

/-- What is left of the transmit half once nothing is being sent. -/
def txIdle (world : World App) (timer : Option Nat) : World App :=
  { world with
    adapter := { world.adapter with
      tx := {
        buf := none
        currBuf := none
        sizeLeft := 0
        timeoutTimer := timer
        enabled := false } }
    irq := { world.irq with tx := false } }

theorem txAbort_of_busy (busy : world.adapter.tx.buf.isSome) :
    world.txAbort =
      (some (.txAborted world.adapter.tx.buf
        (world.adapter.tx.currBuf.diff world.adapter.tx.buf)), world.txIdle none) := by
  simp [txAbort, irqTxDisable, setTx, txIdle, busy]

theorem txAbort_of_idle (idle : world.adapter.tx.buf = none) :
    world.txAbort = (none,
      (world.setTx { world.adapter.tx with enabled := false, timeoutTimer := none }).irqTxDisable) := by
  simp [txAbort, irqTxDisable, setTx, idle]

/-- The two checks of `on_tx_complete`. -/
def completeChecks (world : World App) : World App :=
  (world.assertNoMsg .txCurrBufSet world.adapter.tx.currBuf.isSome).assertNoMsg
    .txCurrBufAfterBuf (world.adapter.tx.currBuf.atOrAfter world.adapter.tx.buf)

theorem onTxComplete_of_busy (finished : world.adapter.tx.sizeLeft = 0)
    (busy : world.adapter.tx.buf.isSome) :
    world.onTxComplete =
      (some (.txDone world.adapter.tx.buf
        (world.adapter.tx.currBuf.diff world.adapter.tx.buf)),
        world.completeChecks.txIdle world.adapter.tx.timeoutTimer) := by
  cases current : world.adapter.tx.currBuf.isSome <;>
    cases after : world.adapter.tx.currBuf.atOrAfter world.adapter.tx.buf <;>
    simp [onTxComplete, completeChecks, irqTxDisable, setTx, txIdle, assertNoMsg, observe,
      finished, busy, current, after]

theorem onTxComplete_of_idle (finished : world.adapter.tx.sizeLeft = 0)
    (idle : world.adapter.tx.buf = none) :
    world.onTxComplete =
      (none, (world.setTx { world.adapter.tx with enabled := false }).irqTxDisable) := by
  simp [onTxComplete, irqTxDisable, setTx, finished, idle]

theorem onTxComplete_of_unfinished (unfinished : world.adapter.tx.sizeLeft ≠ 0) :
    world.onTxComplete = (none, world) := by
  simp [onTxComplete, unfinished]

/-- Whatever the state was, nothing is being sent after an abort. -/
theorem txAbort_buf (world : World App) : world.txAbort.2.adapter.tx.buf = none := by
  cases buf : world.adapter.tx.buf with
  | none =>
      rw [txAbort_of_idle buf]
      exact buf
  | some address =>
      rw [txAbort_of_busy (by simp [buf])]
      rfl

@[simp] theorem onTxReady_rx (world : World App) (ret : Int) :
    (world.onTxReady ret).adapter.rx = world.adapter.rx := by
  unfold onTxReady
  split <;> rfl

/-- A completion that is not ignored leaves nothing to be sent. -/
theorem onTxComplete_cases (world : World App) :
    world.onTxComplete = (none, world) ∨ world.onTxComplete.2.adapter.tx.buf = none := by
  by_cases finished : world.adapter.tx.sizeLeft = 0
  · right
    cases buf : world.adapter.tx.buf <;> simp [onTxComplete, finished, irqTxDisable, buf]
  · exact .inl (onTxComplete_of_unfinished finished)

end Transmission

/-- `rx_enable` succeeds exactly when the adapter holds no buffer. -/
theorem rxEnable_eq_zero_iff (world : World App) (buf : Pointer) (len : Nat) (timeout : Int) :
    (world.rxEnable buf len timeout).1 = 0 <->
      world.adapter.rx.buf = none ∧ world.adapter.rx.nextBuf = none := by
  have busy : -EBUSY ≠ 0 := by decide
  cases current : world.adapter.rx.buf <;> cases prepared : world.adapter.rx.nextBuf <;>
    simp [rxEnable, current, prepared, busy]

theorem rxBufRsp_eq_zero_iff (world : World App) (buf : Pointer) (len : Nat) :
    (world.rxBufRsp buf len).1 = 0 <-> world.adapter.rx.nextBuf = none := by
  have busy : -EBUSY ≠ 0 := by decide
  cases prepared : world.adapter.rx.nextBuf <;> simp [rxBufRsp, prepared, busy]

/-- The beginning of `on_rx_ready` changes nothing but the timer. -/
theorem onRxReadyBegin_eq (world : World App) : exists timer, world.onRxReadyBegin =
    (world.setRx { world.adapter.rx with timeoutTimer := timer }).observe (.rxLoop true) := by
  by_cases forever : world.adapter.rx.timeout = sysForeverMs
  · refine ⟨world.adapter.rx.timeoutTimer, ?_⟩
    exact congrArg (fun later : World App => later.observe (.rxLoop true))
      (if_neg (not_not_intro forever))
  · exact ⟨world.kTimerStart world.adapter.rx.timeout, by simp [onRxReadyBegin, forever]⟩

/-- Bytes that fit are stored without a failed check. -/
theorem onRxReadyStore_of_fits {world : World App} {bytes : List UInt8}
    (fits : bytes.length ≤ world.adapter.rx.sizeLeft) :
    world.onRxReadyStore bytes =
      ((world.storeBytes world.adapter.rx.currBuf bytes).observe
        (.stored world.adapter.rx.currBuf bytes)).setRx
          { world.adapter.rx with
            currBuf := world.adapter.rx.currBuf.advance bytes.length
            sizeLeft := world.adapter.rx.sizeLeft - bytes.length } := by
  simp [onRxReadyStore, fits, storeBytes_observe]

/-! ### What a notification does -/

section Notification

variable {world : World App}

/-- The two checks of `notify_rx_buffer`, which are made only if there is a buffer. -/
def notifyChecks (world : World App) : World App :=
  if world.adapter.rx.buf.isSome then
    (world.assertNoMsg .rxCurrBufAfterBuf
      (world.adapter.rx.currBuf.atOrAfter world.adapter.rx.buf)).assertNoMsg .rxCurrBufAfterNotify
        (world.adapter.rx.currBuf.atOrAfter world.adapter.rx.lastNotifyBuf)
  else world

/-- Some bytes have been stored and not yet notified. -/
def unnotified (world : World App) : Bool :=
  world.adapter.rx.buf.isSome && world.adapter.rx.currBuf.after world.adapter.rx.lastNotifyBuf

theorem notifyRxBuffer_of_unnotified (pending : world.unnotified = true) :
    world.notifyRxBuffer =
      (some (.rxRdy world.adapter.rx.buf
          (world.adapter.rx.lastNotifyBuf.diff world.adapter.rx.buf)
          (world.adapter.rx.currBuf.diff world.adapter.rx.lastNotifyBuf)),
        world.notifyChecks.setRx
          { world.adapter.rx with lastNotifyBuf := world.adapter.rx.currBuf }) := by
  rcases Bool.and_eq_true_iff.mp pending with ⟨present, after⟩
  simp [notifyRxBuffer, notifyChecks, present, after]

theorem notifyRxBuffer_of_notified (nothing : world.unnotified = false) :
    world.notifyRxBuffer = (none, world.notifyChecks) := by
  by_cases present : world.adapter.rx.buf.isSome
  · have notAfter : world.adapter.rx.currBuf.after world.adapter.rx.lastNotifyBuf = false := by
      simpa [unnotified, present] using nothing
    simp [notifyRxBuffer, notifyChecks, present, notAfter]
  · simp [notifyRxBuffer, notifyChecks, present]

theorem notifyRxBuffer_evt {evt : UartEvent} (made : world.notifyRxBuffer.1 = some evt) :
    world.unnotified = true := by
  cases pending : world.unnotified with
  | true => rfl
  | false =>
      rw [notifyRxBuffer_of_notified pending] at made
      cases made

theorem notifyRxBuffer_none (made : world.notifyRxBuffer.1 = none) : world.unnotified = false := by
  cases pending : world.unnotified with
  | false => rfl
  | true =>
      rw [notifyRxBuffer_of_unnotified pending] at made
      cases made

theorem notifyChecks_of_none (none : world.adapter.rx.buf = none) : world.notifyChecks = world := by
  simp [notifyChecks, none]

/-- The checks succeed when both positions lie in the buffer, in their order. -/
theorem notifyChecks_of_advance {stored notified : Nat}
    (last : world.adapter.rx.lastNotifyBuf = world.adapter.rx.buf.advance notified)
    (curr : world.adapter.rx.currBuf = world.adapter.rx.buf.advance stored)
    (order : notified ≤ stored) : world.notifyChecks = world := by
  cases same : world.adapter.rx.buf with
  | none => exact notifyChecks_of_none same
  | some address =>
      rcases address with ⟨block, offset⟩
      unfold notifyChecks
      rw [last, curr, same]
      simp [order]

@[simp] theorem notifyChecks_adapter : world.notifyChecks.adapter = world.adapter := by
  unfold notifyChecks
  split <;> simp

@[simp] theorem notifyChecks_memory : world.notifyChecks.memory = world.memory := by
  unfold notifyChecks
  split <;> simp

@[simp] theorem notifyChecks_now : world.notifyChecks.now = world.now := by
  unfold notifyChecks
  split <;> simp

theorem read_notifyChecks {A : Type} (read : List Obs -> A)
    (ignores : forall what log, read (.assertFailed what :: log) = read log) :
    read world.notifyChecks.log = read world.log := by
  unfold notifyChecks
  split
  · rw [read_assertNoMsg _ _ _ read ignores, read_assertNoMsg _ _ _ read ignores]
  · rfl

end Notification

end World

/-! ## Questions, procedures, and programs -/

/-- The state tests of the interrupt handler on the target. -/
inductive Flag
  | irqUpdate
  | irqIsPending
  | irqTxReady
  | irqTxComplete
  | irqRxReady
  deriving DecidableEq, Repr

/-- What runs next when nothing is running. -/
inductive Handler
  | uartIrq
  | txTimeout
  | rxTimeout
  | client (call : ApiCall)
  | elapse (ticks : Nat)
  deriving DecidableEq, Repr

inductive Query
  | next
  | client (evt : UartEvent)
  | flag (flag : Flag)
  | errCheck
  | fifoFill (size : Nat)
  | fifoRead (size : Nat)
  | kMalloc
  deriving DecidableEq, Repr

/-- A read gives bytes or an error number, and an allocation a block or NULL.
Inside a callback the client either makes another call or returns. -/
abbrev Answer : Query -> Type
  | .next => Handler
  | .client _ => Option ApiCall
  | .flag _ => Bool
  | .errCheck => Int
  | .fifoFill _ => Int
  | .fifoRead _ => Except Int (List UInt8)
  | .kMalloc => Option Nat

/-- The places where a run can call back or go round a loop. -/
inductive Proc
  | environment
  | handler (handler : Handler)
  | userCallback (evt : UartEvent)
  | client (evt : UartEvent)
  | rxDisableLoop (dev : Device)
  | onRxReadyLoop (notifyNow : Bool)
  | dropLoop
  deriving DecidableEq, Repr

abbrev Result : Proc -> Type
  | .onRxReadyLoop _ => Bool
  | _ => Unit

abbrev adapterInterface (App : Type) : Interface where
  State := World App
  Query := Query
  Answer := Answer
  Proc := Proc
  Result := Result

abbrev AdapterProg (App : Type) := Prog (adapterInterface App)

variable {App : Type}

namespace AdapterProg

abbrev modify (run : World App -> World App) : AdapterProg App Unit := Prog.modify run
abbrev perform {A : Type} (run : World App -> A × World App) : AdapterProg App A := Prog.perform run
abbrev get {A : Type} (view : World App -> A) : AdapterProg App A := Prog.get view
abbrev ask (query : Query) : AdapterProg App (Answer query) :=
  Prog.question (I := adapterInterface App) query
abbrev invoke (proc : Proc) : AdapterProg App (Result proc) :=
  Prog.invoke (I := adapterInterface App) proc

end AdapterProg

open AdapterProg

/-- `user_callback` -/
def userCallback (dev : Device) (evt : UartEvent) : AdapterProg App Unit :=
  match dev with
  | .adapter => invoke (.userCallback evt)
  | .target => modify (World.observeForeign evt)

/-- Deliver the event of a section, if it has one. -/
def deliver (evt : Option UartEvent) : AdapterProg App Unit :=
  match evt with
  | some evt => userCallback .adapter evt
  | none => pure ()

/-- `notify_rx_buffer` -/
def notifyRxBuffer : AdapterProg App Unit := do
  let evt <- perform World.notifyRxBuffer
  deliver evt

/-- `notify_rx_buffer_release` -/
def notifyRxBufferRelease (dev : Device) (buf : Pointer) : AdapterProg App Unit :=
  userCallback dev (.rxBufReleased buf)

/-- `notify_rx_buffer_req` -/
def notifyRxBufferReq (dev : Device) : AdapterProg App Unit :=
  userCallback dev .rxBufRequest

/-- `switch_rx_buffer` -/
def switchRxBuffer (dev : Device) (requestNew : Bool) : AdapterProg App Unit := do
  let oldBuf <- perform (World.switchRxBuffer dev)
  if oldBuf.isSome then notifyRxBufferRelease dev oldBuf
  if requestNew then notifyRxBufferReq dev

/-- `tx_abort` -/
def txAbort : AdapterProg App Int := do
  let evt <- perform World.txAbort
  deliver evt
  pure (if evt.isSome then 0 else -EFAULT)

/-- The loop of `rx_disable`. -/
def rxDisableLoop (dev : Device) : AdapterProg App Unit := do
  let buf <- get fun world => (world.accessDevData dev).rx.buf
  if buf.isSome then
    switchRxBuffer dev false
    invoke (.rxDisableLoop dev)

/-- `rx_disable` -/
def rxDisable (dev : Device) : AdapterProg App Int := do
  modify (World.rxDisable dev)
  let _ <- invoke (.rxDisableLoop dev)
  userCallback dev .rxDisabled
  pure 0

/-- The functions of `uart_async_adapter_driver_api`. -/
def driverApi : ApiCall -> AdapterProg App Int
  | .tx buf len timeout => perform (World.tx buf len timeout)
  | .txAbort => txAbort
  | .rxEnable buf len timeout => perform (World.rxEnable buf len timeout)
  | .rxBufRsp buf len => perform (World.rxBufRsp buf len)
  | .rxDisable => rxDisable .adapter

/-- A call of the asynchronous interface by the client. -/
def apiCall (call : ApiCall) : AdapterProg App Int := do
  modify fun world => world.observe (.called call)
  let ret <- driverApi call
  modify fun world => world.observe (.returned call ret world.now)
  pure ret

/-- `on_tx_ready` -/
def onTxReady : AdapterProg App Unit := do
  let sizeLeft <- get fun world => world.adapter.tx.sizeLeft
  if sizeLeft ≠ 0 then
    modify fun world => world.assertNoMsg .txCurrBufSet world.adapter.tx.currBuf.isSome
    let ret <- ask (.fifoFill sizeLeft)
    modify (World.onTxReady ret)

/-- `on_tx_complete` -/
def onTxComplete : AdapterProg App Unit := do
  let evt <- perform World.onTxComplete
  deliver evt

/-- The bytes of a read; an error counts as none. -/
def readBytes : Except Int (List UInt8) -> List UInt8
  | .ok bytes => bytes
  | .error _ => []

/-- The inner loop of `on_rx_ready`, which throws away what nobody has room for. -/
def dropLoop : AdapterProg App Unit := do
  let ret <- ask (.fifoRead 1)
  modify fun world => world.observe (.dropped (readBytes ret))
  if readBytes ret ≠ [] then invoke .dropLoop

/-- One read of `on_rx_ready`, into the current buffer or to nowhere, and the
next turn of the loop.  The result is the final value of `notify_now`. -/
def onRxReadyRead (notifyNow : Bool) : AdapterProg App Bool := do
  let sizeLeft <- get fun world => world.adapter.rx.sizeLeft
  if sizeLeft = 0 then
    let _ <- invoke .dropLoop
    pure notifyNow
  else
    let ret <- ask (.fifoRead sizeLeft)
    modify (World.onRxReadyStore (readBytes ret))
    let timeout <- get fun world => world.adapter.rx.timeout
    let notifyNow := if timeout = 0 then true else notifyNow
    if readBytes ret ≠ [] then invoke (.onRxReadyLoop notifyNow) else pure notifyNow

/-- The loop of `on_rx_ready`.  The size that remains is read again after the
callbacks. -/
def onRxReadyLoop (notifyNow : Bool) : AdapterProg App Bool := do
  let sizeLeft <- get fun world => world.adapter.rx.sizeLeft
  if sizeLeft = 0 then
    notifyRxBuffer
    switchRxBuffer .adapter true
    onRxReadyRead false
  else
    onRxReadyRead notifyNow

/-- `on_rx_ready` -/
def onRxReady : AdapterProg App Unit := do
  modify World.onRxReadyBegin
  let notifyNow <- (invoke (.onRxReadyLoop false) : AdapterProg App Bool)
  modify fun world => world.observe (.rxLoop false)
  if notifyNow = true then notifyRxBuffer

/-- `on_error`, which disables reception on the target device. -/
def onError (rxErr : Int) : AdapterProg App Unit := do
  let _ <- rxDisable .target
  userCallback .adapter (.rxStopped rxErr)

/-- A state flag of the adapter and, only if it is set, a test on the target. -/
def enabledAnd (enabled : AdapterData -> Bool) (flag : Flag) : AdapterProg App Bool := do
  let set <- get fun world => enabled world.adapter
  if set = true then ask (.flag flag) else pure false

def whenReady (enabled : AdapterData -> Bool) (flag : Flag) (part : AdapterProg App Unit) :
    AdapterProg App Unit := do
  let ready <- enabledAnd enabled flag
  if ready = true then part

/-- The end of `uart_irq_handler`, after all the data has been received. -/
def checkErrors : AdapterProg App Unit := do
  let rxErr <- (ask .errCheck : AdapterProg App Int)
  let rxErr := if rxErr < 0 then 0 else rxErr
  let enabled <- get fun world => world.adapter.rx.enabled
  if enabled = true ∧ rxErr ≠ 0 then onError rxErr

def irqPending : AdapterProg App Bool := do
  let update <- (ask (.flag .irqUpdate) : AdapterProg App Bool)
  if update = true then ask (.flag .irqIsPending) else pure false

/-- `uart_irq_handler` -/
def uartIrqHandler : AdapterProg App Unit := do
  let pending <- irqPending
  if pending = true then
    whenReady (fun data => data.tx.enabled) .irqTxReady onTxReady
    whenReady (fun data => data.tx.enabled) .irqTxComplete onTxComplete
    whenReady (fun data => data.rx.enabled) .irqRxReady onRxReady
    checkErrors

/-- `tx_timeout` -/
def txTimeout : AdapterProg App Unit := do
  modify World.txTimerExpired
  let _ <- txAbort

/-- `rx_timeout` -/
def rxTimeout : AdapterProg App Unit := do
  modify World.rxTimerExpired
  notifyRxBuffer

def handle : Handler -> AdapterProg App Unit
  | .uartIrq => uartIrqHandler
  | .txTimeout => txTimeout
  | .rxTimeout => rxTimeout
  | .client call => do
      let _ <- apiCall call
  | .elapse ticks => modify (World.elapse ticks)

/-- Handlers run one after the other, in any order. -/
def environment : AdapterProg App Unit := do
  let next <- (ask .next : AdapterProg App Handler)
  let _ <- invoke (.handler next)
  invoke .environment

/-- A client whose callback makes any calls before it returns. -/
def anyClient (evt : UartEvent) : AdapterProg App Unit := do
  let call <- (ask (.client evt) : AdapterProg App (Option ApiCall))
  match call with
  | none => pure ()
  | some call =>
      let _ <- apiCall call
      invoke (.client evt)

/-- The body of each procedure, for a client that has or has not been set with
`callback_set`. -/
def body (client : Option (UartEvent -> AdapterProg App Unit)) :
    (proc : Proc) -> AdapterProg App (Result proc)
  | .environment => environment
  | .handler handler => handle handler
  | .userCallback evt =>
      match client with
      | none => pure ()
      | some callback => do
          modify fun world => world.observe (.event evt)
          callback evt
          modify fun world => world.observe .callbackReturned
  | .client evt => anyClient evt
  | .rxDisableLoop dev => rxDisableLoop dev
  | .onRxReadyLoop notifyNow => onRxReadyLoop notifyNow
  | .dropLoop => dropLoop

/-! ## The interrupt handler, part by part -/

section Parts

variable {sys : System (adapterInterface App)} {contract : Contract (adapterInterface App)}
variable {Inv : World App -> Prop}

/-- Under any contract, the interrupt handler keeps what its parts keep. -/
theorem safe_uartIrqHandler_of_parts
    (always : forall world, Inv world -> contract.always world)
    (flags : forall flag world, Inv world -> contract.asked (.flag flag) world)
    (errors : forall world, Inv world -> contract.asked .errCheck world)
    (txReady : forall world, Inv world -> onTxReady.Safe sys contract (fun _ => Inv) world)
    (txComplete : forall world, Inv world -> onTxComplete.Safe sys contract (fun _ => Inv) world)
    (rxReady : forall world, Inv world -> world.adapter.rx.enabled = true ->
      onRxReady.Safe sys contract (fun _ => Inv) world)
    (error : forall world (rxErr : Int), Inv world -> sys.permitted .errCheck world rxErr -> 0 < rxErr ->
      (onError rxErr).Safe sys contract (fun _ => Inv) world)
    {world : World App} (holds : Inv world) :
    uartIrqHandler.Safe sys contract (fun _ => Inv) world := by
  have ready : forall (enabled : AdapterData -> Bool) flag (part : AdapterProg App Unit) world,
      Inv world -> (enabled world.adapter = true -> part.Safe sys contract (fun _ => Inv) world) ->
      (whenReady enabled flag part).Safe sys contract (fun _ => Inv) world := by
    intro enabled flag part world holds safe
    unfold whenReady enabledAnd
    simp only [Prog.safe_monadBind, Prog.safe_get, Prog.safe_ite, Prog.safe_pure, Prog.safe_ret,
      Prog.safe_ask, Prog.question]
    refine ⟨always world holds,
      fun set => ⟨flags _ _ holds, fun _ _ => ⟨fun _ => safe set, fun _ => holds⟩⟩, ?_⟩
    exact fun _ => ⟨fun impossible => absurd impossible Bool.false_ne_true, fun _ => holds⟩
  have checked : forall world, Inv world ->
      checkErrors.Safe sys contract (fun _ => Inv) world := by
    intro world holds
    unfold checkErrors
    simp only [Prog.safe_monadBind, Prog.safe_get, Prog.safe_ite, Prog.safe_pure,
      Prog.safe_ret, Prog.safe_ask, Prog.question]
    refine ⟨errors _ holds, fun (rxErr : Int) allowed =>
      ⟨always world holds, fun raised => ?_, fun _ => holds⟩⟩
    by_cases negative : rxErr < 0
    · exact absurd (if_pos negative) raised.2
    · rw [if_neg negative] at raised ⊢
      have nonzero : rxErr ≠ 0 := raised.2
      exact error world rxErr holds allowed (by omega)
  have service : Prog.Safe sys contract (do
      whenReady (fun data => data.tx.enabled) .irqTxReady onTxReady
      whenReady (fun data => data.tx.enabled) .irqTxComplete onTxComplete
      whenReady (fun data => data.rx.enabled) .irqRxReady onRxReady
      checkErrors) (fun _ => Inv) world := by
    refine Prog.Safe.andThen (ready _ _ _ _ holds fun _ => txReady _ holds) ?_
    intro _ filled kept
    refine Prog.Safe.andThen (ready _ _ _ _ kept fun _ => txComplete _ kept) ?_
    intro _ completed kept
    refine Prog.Safe.andThen (ready _ _ _ _ kept fun set => rxReady _ kept set) ?_
    exact fun _ received kept => checked _ kept
  unfold uartIrqHandler irqPending
  simp only [Prog.safe_monadBind, Prog.safe_ite, Prog.safe_pure, Prog.safe_ret, Prog.safe_ask,
    Prog.question]
  simp only [Prog.safe_monadBind] at service
  refine ⟨flags _ _ holds, fun _ _ =>
    ⟨fun _ => ⟨flags _ _ holds, fun _ _ => ⟨fun _ => service, fun _ => holds⟩⟩, ?_⟩⟩
  exact fun _ => ⟨fun impossible => absurd impossible Bool.false_ne_true, fun _ => holds⟩

end Parts

end Uart
end NrfExamples
