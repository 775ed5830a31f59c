import NrfExamples.Reentrant.Sections
import NrfExamples.Uart.Composition
import NrfExamples.Uart.Representation

namespace NrfExamples
namespace Uart

open Reentrant

/-!
# The adapter under preemption

`uart_async_adapter.c` moves its buffers with a spin lock held, and gives the
lock back before it enables an interrupt, starts a timer or calls the client.
So far every function ran to its end undisturbed.  Here a function is what lies
between two places at which something else can run: a stretch under the lock,
or one access without it.  Calls of any number of clients, interrupts and
timers run side by side, in any order that respects the lock.

A call of the interface that takes or refuses a buffer is recorded, with its
result, when the lock is given back.
-/

variable {App : Type}

namespace World

/-- The part of `tx` under the lock; the second value is `tx_send`. -/
def txLocked (buf : Pointer) (len : Nat) (world : World App) : (Int × Bool) × World App :=
  if len = 0 then ((0, false), world)
  else if world.adapter.tx.buf.isSome then ((-EBUSY, false), world)
  else
    ((0, true), world.setTx
      { world.adapter.tx with buf := buf, currBuf := buf, sizeLeft := len, enabled := true })

/-- The part of `tx_abort` under the lock. -/
def txAbortLocked (world : World App) : Option UartEvent × World App :=
  let tx := world.adapter.tx
  if tx.buf.isSome then
    (some (.txAborted tx.buf (tx.currBuf.diff tx.buf)),
      world.setTx { tx with buf := none, currBuf := none, sizeLeft := 0 })
  else (none, world)

/-- The part of `rx_enable` under the lock. -/
def rxEnableLocked (buf : Pointer) (len : Nat) (timeout : Int) (world : World App) :
    Int × World App :=
  let rx := world.adapter.rx
  let ret := if rx.nextBuf.isSome || rx.buf.isSome then -EBUSY else 0
  (ret, world.setRx
    { rx with
      buf := none
      currBuf := none
      sizeLeft := 0
      nextBuf := buf
      nextBufLen := len
      timeout := timeout
      enabled := true })

/-- `on_tx_ready` holds the lock from its first line to its last.  The target
takes what it has room for, or answers with an error. -/
def onTxReadyLocked (room : Int) (world : World App) : World App :=
  let sizeLeft := world.adapter.tx.sizeLeft
  if sizeLeft ≠ 0 then
    (world.assertNoMsg .txCurrBufSet world.adapter.tx.currBuf.isSome).onTxReady (min room sizeLeft)
  else world

/-- The part of `on_tx_complete` under the lock. -/
def onTxCompleteLocked (world : World App) : Option UartEvent × World App :=
  let tx := world.adapter.tx
  if tx.buf.isSome then
    (some (.txDone tx.buf (tx.currBuf.diff tx.buf)),
      world.completeChecks.setTx { tx with buf := none, currBuf := none, sizeLeft := 0 })
  else (none, world)

/-- One stretch of the loop of `on_rx_ready` under the lock, for what the target
has received: whether anything was read, and whether to notify now.  Without
room nothing is read. -/
def onRxReadyLocked (received : Except Int (List UInt8)) (world : World App) :
    Option (Bool × Bool) × World App :=
  let rx := world.adapter.rx
  if rx.sizeLeft = 0 then (none, world)
  else
    let bytes := (readBytes received).take rx.sizeLeft
    (some (!bytes.isEmpty, rx.timeout = 0), world.onRxReadyStore bytes)

/-- The same after new room has been asked for.  If there is still none, what
was received is dropped byte by byte. -/
def onRxReadyAgainLocked (received : Except Int (List UInt8)) (world : World App) :
    Option (Bool × Bool) × World App :=
  match world.onRxReadyLocked received with
  | (none, world) =>
      (none, ((readBytes received).foldl (fun world byte => world.observe (.dropped [byte]))
        world).observe (.dropped []))
  | read => read

/-- A call is recorded together with its result. -/
def recorded {A : Type} (call : ApiCall) (ret : A -> Int) (run : World App -> A × World App)
    (world : World App) : A × World App :=
  let after := run (world.observe (.called call))
  (after.1, after.2.observe (.returned call (ret after.1) after.2.now))

/-! ### Undisturbed, the stretches are the sections of before -/

section Undisturbed

variable (world : World App)

theorem tx_eq (buf : Pointer) (len : Nat) (timeout : Int) :
    world.tx buf len timeout =
      let after := world.txLocked buf len
      (after.1.1,
        if after.1.2 then
          let started := after.2.irqTxEnable
          if timeout ≠ sysForeverMs then
            started.setTx { started.adapter.tx with timeoutTimer := started.kTimerStart timeout }
          else started
        else after.2) := by
  unfold tx txLocked
  by_cases empty : len = 0
  · simp [empty]
  by_cases busy : world.adapter.tx.buf.isSome
  · simp [empty, busy]
  · by_cases forever : timeout = sysForeverMs <;> simp [empty, busy, forever]

theorem txAbort_eq :
    world.txAbort = (((world.setTx { world.adapter.tx with enabled := false }).setTx
      { world.adapter.tx with enabled := false, timeoutTimer := none }).irqTxDisable).txAbortLocked :=
  rfl

theorem rxEnable_eq (buf : Pointer) (len : Nat) (timeout : Int) :
    world.rxEnable buf len timeout =
      let after := world.rxEnableLocked buf len timeout
      (after.1, { after.2 with irq := { after.2.irq with rx := true, err := true } }) := rfl

theorem onTxComplete_eq (finished : world.adapter.tx.sizeLeft = 0) :
    world.onTxComplete =
      (world.setTx { world.adapter.tx with enabled := false }).irqTxDisable.onTxCompleteLocked := by
  by_cases busy : world.adapter.tx.buf.isSome
  · simp [onTxComplete, onTxCompleteLocked, completeChecks, irqTxDisable, finished, busy]
  · simp [onTxComplete, onTxCompleteLocked, irqTxDisable, finished, busy]

end Undisturbed

end World

/-! ## Programs -/

namespace Preempted

inductive Query
  | client (evt : UartEvent)
  | flag (flag : Flag)
  | errCheck
  | fifoFill
  | fifoRead
  deriving DecidableEq, Repr

/-- The target says how much it has room for, and what it has received. -/
abbrev Answer : Query -> Type
  | .client _ => Option ApiCall
  | .flag _ => Bool
  | .errCheck => Int
  | .fifoFill => Int
  | .fifoRead => Except Int (List UInt8)

inductive Proc
  | apiCall (call : ApiCall)
  | uartIrqHandler
  | txTimeout
  | rxTimeout
  | client (evt : UartEvent)
  | rxDisableLoop (dev : Device)
  | onRxReadyLoop (notifyNow : Bool)
  deriving DecidableEq, Repr

abbrev Result : Proc -> Type
  | .onRxReadyLoop _ => Bool
  | _ => Unit

abbrev interface (App : Type) : Interface where
  State := World App
  Query := Query
  Answer := Answer
  Proc := Proc
  Result := Result

abbrev LockProg (App : Type) := Prog (interface App)

abbrev modify (run : World App -> World App) : LockProg App Unit := Prog.modify run
abbrev perform {A : Type} (run : World App -> A × World App) : LockProg App A := Prog.perform run
abbrev get {A : Type} (view : World App -> A) : LockProg App A := Prog.get view
abbrev ask (query : Query) : LockProg App (Answer query) :=
  Prog.question (I := interface App) query
abbrev invoke (proc : Proc) : LockProg App (Result proc) :=
  Prog.invoke (I := interface App) proc

/-- `user_callback` -/
def userCallback (dev : Device) (evt : UartEvent) : LockProg App Unit :=
  match dev with
  | .adapter => do
      modify fun world => world.observe (.event evt)
      let _ <- invoke (.client evt)
      modify fun world => world.observe .callbackReturned
  | .target => modify (World.observeForeign evt)

def deliver (evt : Option UartEvent) : LockProg App Unit :=
  match evt with
  | some evt => userCallback .adapter evt
  | none => pure ()

/-- `notify_rx_buffer` -/
def notifyRxBuffer : LockProg App Unit := do
  let evt <- perform World.notifyRxBuffer
  deliver evt

/-- `switch_rx_buffer` -/
def switchRxBuffer (dev : Device) (requestNew : Bool) : LockProg App Unit := do
  let oldBuf <- perform (World.switchRxBuffer dev)
  if oldBuf.isSome then userCallback dev (.rxBufReleased oldBuf)
  if requestNew then userCallback dev .rxBufRequest

/-- `tx` -/
def tx (buf : Pointer) (len : Nat) (timeout : Int) : LockProg App Unit := do
  let result <- perform (World.recorded (.tx buf len timeout) Prod.fst (World.txLocked buf len))
  if result.2 then
    modify World.irqTxEnable
    if timeout ≠ sysForeverMs then
      modify fun world =>
        world.setTx { world.adapter.tx with timeoutTimer := world.kTimerStart timeout }

/-- `tx_abort` -/
def txAbort : LockProg App Int := do
  modify fun world => world.setTx { world.adapter.tx with enabled := false }
  modify fun world => world.setTx { world.adapter.tx with timeoutTimer := none }
  modify World.irqTxDisable
  let evt <- perform World.txAbortLocked
  deliver evt
  pure (if evt.isSome then 0 else -EFAULT)

/-- `rx_enable` -/
def rxEnable (buf : Pointer) (len : Nat) (timeout : Int) : LockProg App Unit := do
  let _ <- perform
    (World.recorded (.rxEnable buf len timeout) id (World.rxEnableLocked buf len timeout))
  modify fun world => { world with irq := { world.irq with rx := true } }
  modify fun world => { world with irq := { world.irq with err := true } }

/-- `rx_buf_rsp` -/
def rxBufRsp (buf : Pointer) (len : Nat) : LockProg App Unit := do
  let _ <- perform (World.recorded (.rxBufRsp buf len) id (World.rxBufRsp buf len))

/-- The loop of `rx_disable`, whose test is made without the lock. -/
def rxDisableLoop (dev : Device) : LockProg App Unit := do
  let buf <- get fun world => (world.accessDevData dev).rx.buf
  if buf.isSome then
    switchRxBuffer dev false
    invoke (.rxDisableLoop dev)

/-- `rx_disable` -/
def rxDisable (dev : Device) : LockProg App Int := do
  modify fun world =>
    let data := world.accessDevData dev
    world.setDevData { data with rx := { data.rx with enabled := false } } dev
  if dev = .adapter then
    modify fun world => { world with irq := { world.irq with rx := false } }
    modify fun world => { world with irq := { world.irq with err := false } }
  let _ <- invoke (.rxDisableLoop dev)
  userCallback dev .rxDisabled
  pure 0

/-- A call that has no buffer to give is recorded where it begins and ends. -/
def logged (call : ApiCall) (program : LockProg App Int) : LockProg App Unit := do
  modify fun world => world.observe (.called call)
  let ret <- program
  modify fun world => world.observe (.returned call ret world.now)

/-- A call of the asynchronous interface. -/
def apiCall : ApiCall -> LockProg App Unit
  | .tx buf len timeout => tx buf len timeout
  | .txAbort => logged .txAbort txAbort
  | .rxEnable buf len timeout => rxEnable buf len timeout
  | .rxBufRsp buf len => rxBufRsp buf len
  | .rxDisable => logged .rxDisable (rxDisable .adapter)

/-- `on_tx_ready` -/
def onTxReady : LockProg App Unit := do
  let room <- (ask .fifoFill : LockProg App Int)
  modify (World.onTxReadyLocked room)

/-- `on_tx_complete`, which looks at the remaining size before it takes the lock. -/
def onTxComplete : LockProg App Unit := do
  let sizeLeft <- get fun world => world.adapter.tx.sizeLeft
  if sizeLeft = 0 then
    modify fun world => world.setTx { world.adapter.tx with enabled := false }
    modify World.irqTxDisable
    let evt <- perform World.onTxCompleteLocked
    deliver evt

/-- The end of a turn of the loop: what was read, and whether to notify now. -/
def onRxReadyTurn (notifyNow : Bool) (read : Bool × Bool) : LockProg App Bool :=
  if read.1 then invoke (.onRxReadyLoop (read.2 || notifyNow)) else pure (read.2 || notifyNow)

/-- The loop of `on_rx_ready` -/
def onRxReadyLoop (notifyNow : Bool) : LockProg App Bool := do
  let received <- (ask .fifoRead : LockProg App (Except Int (List UInt8)))
  let first <- perform (World.onRxReadyLocked received)
  match first with
  | some read => onRxReadyTurn notifyNow read
  | none =>
      notifyRxBuffer
      switchRxBuffer .adapter true
      let received <- (ask .fifoRead : LockProg App (Except Int (List UInt8)))
      let second <- perform (World.onRxReadyAgainLocked received)
      match second with
      | some read => onRxReadyTurn false read
      | none => pure false

/-- `on_rx_ready` -/
def onRxReady : LockProg App Unit := do
  let timeout <- get fun world => world.adapter.rx.timeout
  if timeout ≠ sysForeverMs then
    modify fun world =>
      world.setRx { world.adapter.rx with timeoutTimer := world.kTimerStart world.adapter.rx.timeout }
  let notifyNow <- (invoke (.onRxReadyLoop false) : LockProg App Bool)
  if notifyNow = true then notifyRxBuffer

/-- `on_error` -/
def onError (rxErr : Int) : LockProg App Unit := do
  let _ <- rxDisable .target
  userCallback .adapter (.rxStopped rxErr)

def whenReady (enabled : AdapterData -> Bool) (flag : Flag) (part : LockProg App Unit) :
    LockProg App Unit := do
  let set <- get fun world => enabled world.adapter
  if set = true then
    let ready <- (ask (.flag flag) : LockProg App Bool)
    if ready = true then part

/-- The end of `uart_irq_handler` -/
def checkErrors : LockProg App Unit := do
  let rxErr <- (ask .errCheck : LockProg App Int)
  let enabled <- get fun world => world.adapter.rx.enabled
  if enabled = true ∧ 0 < rxErr then onError rxErr

/-- `uart_irq_handler` -/
def uartIrqHandler : LockProg App Unit := do
  let update <- (ask (.flag .irqUpdate) : LockProg App Bool)
  if update = true then
    let pending <- (ask (.flag .irqIsPending) : LockProg App Bool)
    if pending = true then
      whenReady (fun data => data.tx.enabled) .irqTxReady onTxReady
      whenReady (fun data => data.tx.enabled) .irqTxComplete onTxComplete
      whenReady (fun data => data.rx.enabled) .irqRxReady onRxReady
      checkErrors

/-- `tx_timeout` -/
def txTimeout : LockProg App Unit := do
  modify World.txTimerExpired
  let _ <- txAbort

/-- `rx_timeout` -/
def rxTimeout : LockProg App Unit := do
  modify World.rxTimerExpired
  notifyRxBuffer

/-- In a callback the client makes any calls before it returns. -/
def client (evt : UartEvent) : LockProg App Unit := do
  let call <- (ask (.client evt) : LockProg App (Option ApiCall))
  match call with
  | none => pure ()
  | some call =>
      apiCall call
      invoke (.client evt)

def body : (proc : Proc) -> LockProg App (Result proc)
  | .apiCall call => apiCall call
  | .uartIrqHandler => uartIrqHandler
  | .txTimeout => txTimeout
  | .rxTimeout => rxTimeout
  | .client evt => client evt
  | .rxDisableLoop dev => rxDisableLoop dev
  | .onRxReadyLoop notifyNow => onRxReadyLoop notifyNow

/-- The environment of the calls, where the clients make no others than these. -/
def system (calls : ApiCall -> Prop) : System (interface App) where
  body := body
  permitted := fun query _ answer =>
    match query, answer with
    | .client _, some call => calls call
    | .fifoRead, .error err => err < 0
    | _, _ => True

instance (calls : ApiCall -> Prop) [DecidablePred calls] (query : Query) (world : World App)
    (answer : Answer query) : Decidable ((system calls).permitted query world answer) :=
  match query, answer with
  | .client _, some call => inferInstanceAs (Decidable (calls call))
  | .client _, none => .isTrue trivial
  | .fifoRead, .error err => inferInstanceAs (Decidable (err < 0))
  | .fifoRead, .ok _ => .isTrue trivial
  | .flag _, _ | .errCheck, _ | .fifoFill, _ => .isTrue trivial

/-- What begins from outside: a call by some client, an interrupt, a timer. -/
def startable (calls : ApiCall -> Prop) : Proc -> Prop
  | .apiCall call => calls call
  | .uartIrqHandler | .txTimeout | .rxTimeout => True
  | .client _ | .rxDisableLoop _ | .onRxReadyLoop _ => False

/-- Anything may begin at any time, and time passes. -/
def starts (calls : ApiCall -> Prop) (proc : Proc) (world later : World App) : Prop :=
  startable calls proc ∧ exists ticks, later = world.elapse ticks

/-- Calls, interrupts and timers side by side, with a memory for each of them. -/
def sideBySide {M : Type} (calls : ApiCall -> Prop) (fresh : M)
    (remember : M -> World App -> World App -> M)
    (same : forall memory world, remember memory world world = memory) :
    SideBySide (interface App) M where
  sys := system calls
  begins := starts calls
  fresh := fresh
  remember := remember
  remember_same := same

/-! ## How the functions are put together -/

/-- Procedures that are called, by whomever. -/
def callable (calls : ApiCall -> Prop) : Proc -> Prop
  | .apiCall call => calls call
  | _ => True

/-- Entries of the log that are about no buffer. -/
def isMark : Obs -> Bool
  | .called _ | .callbackReturned => true
  | .returned call _ _ => !call.isDirect
  | _ => false

/-- Stretches that move nothing between the client and the adapter. -/
inductive PlainStretch : (World App -> World App) -> Prop
  | observe (obs : World App -> Obs) (mark : forall world, isMark (obs world) = true) :
      PlainStretch fun world => world.observe (obs world)
  | observeForeign (evt : UartEvent) : PlainStretch (World.observeForeign evt)
  | setTx (timer : World App -> Option Nat) (enabled : World App -> Bool) :
      PlainStretch fun world => world.setTx
        { world.adapter.tx with timeoutTimer := timer world, enabled := enabled world }
  | setRx (timer : World App -> Option Nat) :
      PlainStretch fun world => world.setRx { world.adapter.rx with timeoutTimer := timer world }
  | irq (change : World App -> IrqEnables) :
      PlainStretch fun world => { world with irq := change world }
  | rxDisable (dev : Device) : PlainStretch fun world =>
      let data := world.accessDevData dev
      world.setDevData { data with rx := { data.rx with enabled := false } } dev
  | onTxReady (room : Int) : PlainStretch (World.onTxReadyLocked room)

/-- The events that give no buffer back. -/
def givesNothing : UartEvent -> Bool
  | .txDone _ _ | .txAborted _ _ | .rxBufReleased _ => false
  | _ => true

/-- A property of programs that holds of the parts of the adapter. -/
structure Composed (App : Type) (calls : ApiCall -> Prop) where
  Holds : {B : Type} -> LockProg App B -> Prop
  result : forall {B : Type} (value : B), Holds (.ret value)
  andThen : forall {B C : Type} {program : LockProg App B} {rest : B -> LockProg App C},
    Holds program -> (forall value, Holds (rest value)) -> Holds (program >>= rest)
  reading : forall {B : Type} (view : World App -> B), Holds (get view)
  question : forall query, Holds (ask query)
  asking : forall {B : Type} (evt : UartEvent) (rest : Option ApiCall -> LockProg App B),
    Holds (rest none) -> (forall call, calls call -> Holds (rest (some call))) ->
    Holds (ask (.client evt) >>= rest)
  calling : forall {proc : Proc}, callable calls proc -> Holds (invoke proc)
  plain : forall {run : World App -> World App}, PlainStretch run -> Holds (modify run)
  event : forall dev evt, givesNothing evt = true -> Holds (userCallback dev evt)
  notifying : Holds notifyRxBuffer
  switching : forall dev requestNew, Holds (switchRxBuffer dev requestNew)
  aborting : Holds txAbort
  completing : Holds onTxComplete
  receiving : forall received, Holds (perform (World.onRxReadyLocked received))
  receivingAgain : forall received, Holds (perform (World.onRxReadyAgainLocked received))
  tx : forall buf len timeout, calls (.tx buf len timeout) -> Holds
    (perform (World.recorded (.tx buf len timeout) Prod.fst (World.txLocked buf len)))
  rxEnable : forall buf len timeout, calls (.rxEnable buf len timeout) -> Holds
    (perform (World.recorded (.rxEnable buf len timeout) id (World.rxEnableLocked buf len timeout)))
  rxBufRsp : forall buf len, calls (.rxBufRsp buf len) -> Holds
    (perform (World.recorded (.rxBufRsp buf len) id (World.rxBufRsp buf len)))

namespace Composed

variable {calls : ApiCall -> Prop} (rule : Composed App calls)

theorem holds_rxDisableLoop (dev : Device) : rule.Holds (rxDisableLoop dev) := by
  refine rule.andThen (rule.reading _) fun buf => ?_
  split
  · exact rule.andThen (rule.switching dev false) fun _ => rule.calling trivial
  · exact rule.result _

theorem holds_rxDisable (dev : Device) : rule.Holds (rxDisable dev) := by
  have closing : rule.Holds (do
      let _ <- invoke (.rxDisableLoop dev)
      userCallback dev .rxDisabled
      pure 0 : LockProg App Int) :=
    rule.andThen (rule.calling trivial) fun _ =>
      rule.andThen (rule.event dev _ rfl) fun _ => rule.result _
  refine rule.andThen (rule.plain (.rxDisable dev)) fun _ => ?_
  split
  · refine rule.andThen (rule.plain (.irq _)) fun _ => ?_
    exact rule.andThen (rule.plain (.irq _)) fun _ => closing
  · exact closing

theorem holds_logged {call : ApiCall} (indirect : call.isDirect = false)
    {program : LockProg App Int} (holds : rule.Holds program) : rule.Holds (logged call program) := by
  refine rule.andThen (rule.plain (.observe _ fun _ => rfl)) fun _ => ?_
  refine rule.andThen holds fun ret => ?_
  exact rule.plain (.observe _ fun _ => by simp [isMark, indirect])

theorem holds_apiCall {call : ApiCall} (made : calls call) : rule.Holds (apiCall call) := by
  cases call with
  | tx buf len timeout =>
      refine rule.andThen (rule.tx buf len timeout made) fun result => ?_
      split
      · refine rule.andThen (rule.plain (.irq _)) fun _ => ?_
        split
        · exact rule.plain (.setTx _ _)
        · exact rule.result _
      · exact rule.result _
  | txAbort => exact rule.holds_logged rfl rule.aborting
  | rxEnable buf len timeout =>
      refine rule.andThen (rule.rxEnable buf len timeout made) fun _ => ?_
      exact rule.andThen (rule.plain (.irq _)) fun _ => rule.plain (.irq _)
  | rxBufRsp buf len => exact rule.andThen (rule.rxBufRsp buf len made) fun _ => rule.result _
  | rxDisable => exact rule.holds_logged rfl (rule.holds_rxDisable .adapter)

theorem holds_onTxReady : rule.Holds onTxReady :=
  rule.andThen (rule.question .fifoFill) fun room => rule.plain (.onTxReady room)

theorem holds_onRxReadyTurn (notifyNow : Bool) (read : Bool × Bool) :
    rule.Holds (onRxReadyTurn notifyNow read) := by
  unfold onRxReadyTurn
  split
  · exact rule.calling trivial
  · exact rule.result _

theorem holds_onRxReadyLoop (notifyNow : Bool) : rule.Holds (onRxReadyLoop notifyNow) := by
  refine rule.andThen (rule.question .fifoRead) fun received => ?_
  refine rule.andThen (rule.receiving received) fun first => ?_
  cases first with
  | some read => exact rule.holds_onRxReadyTurn notifyNow read
  | none =>
      refine rule.andThen rule.notifying fun _ => ?_
      refine rule.andThen (rule.switching .adapter true) fun _ => ?_
      refine rule.andThen (rule.question .fifoRead) fun again => ?_
      refine rule.andThen (rule.receivingAgain again) fun second => ?_
      cases second with
      | some read => exact rule.holds_onRxReadyTurn false read
      | none => exact rule.result _

theorem holds_onRxReady : rule.Holds onRxReady := by
  have loop : rule.Holds (do
      let notifyNow <- (invoke (.onRxReadyLoop false) : LockProg App Bool)
      if notifyNow = true then notifyRxBuffer : LockProg App Unit) := by
    refine rule.andThen (rule.calling trivial) fun notifyNow => ?_
    split
    · exact rule.notifying
    · exact rule.result _
  refine rule.andThen (rule.reading _) fun timeout => ?_
  split
  · exact rule.andThen (rule.plain (.setRx _)) fun _ => loop
  · exact loop

theorem holds_onError (rxErr : Int) : rule.Holds (onError rxErr) :=
  rule.andThen (rule.holds_rxDisable .target) fun _ => rule.event .adapter _ rfl

theorem holds_whenReady (enabled : AdapterData -> Bool) (flag : Flag) {part : LockProg App Unit}
    (holds : rule.Holds part) : rule.Holds (whenReady enabled flag part) := by
  refine rule.andThen (rule.reading _) fun set => ?_
  split
  · refine rule.andThen (rule.question (.flag flag)) fun ready => ?_
    split
    · exact holds
    · exact rule.result _
  · exact rule.result _

theorem holds_checkErrors : rule.Holds checkErrors := by
  refine rule.andThen (rule.question .errCheck) fun rxErr => ?_
  refine rule.andThen (rule.reading _) fun enabled => ?_
  split
  · exact rule.holds_onError rxErr
  · exact rule.result _

theorem holds_uartIrqHandler : rule.Holds uartIrqHandler := by
  refine rule.andThen (rule.question (.flag .irqUpdate)) fun update => ?_
  split
  · refine rule.andThen (rule.question (.flag .irqIsPending)) fun isPending => ?_
    split
    · refine rule.andThen (rule.holds_whenReady _ _ rule.holds_onTxReady) fun _ => ?_
      refine rule.andThen (rule.holds_whenReady _ _ rule.completing) fun _ => ?_
      refine rule.andThen (rule.holds_whenReady _ _ rule.holds_onRxReady) fun _ => ?_
      exact rule.holds_checkErrors
    · exact rule.result _
  · exact rule.result _

/-- The body of every procedure that is called has the property. -/
theorem holds_body {proc : Proc} (called : callable calls proc) : rule.Holds (body proc) := by
  cases proc with
  | apiCall call => exact rule.holds_apiCall called
  | uartIrqHandler => exact rule.holds_uartIrqHandler
  | txTimeout =>
      refine rule.andThen (rule.plain (.setTx _ _)) fun _ => ?_
      exact rule.andThen rule.aborting fun _ => rule.result _
  | rxTimeout => exact rule.andThen (rule.plain (.setRx _)) fun _ => rule.notifying
  | client evt =>
      refine rule.asking evt _ (rule.result _) fun call made => ?_
      exact rule.andThen (rule.holds_apiCall made) fun _ => rule.calling trivial
  | rxDisableLoop dev => exact rule.holds_rxDisableLoop dev
  | onRxReadyLoop notifyNow => exact rule.holds_onRxReadyLoop notifyNow

end Composed

end Preempted

end Uart
end NrfExamples
