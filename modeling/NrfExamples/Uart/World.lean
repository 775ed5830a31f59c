import Mathlib.Data.List.Basic

namespace NrfExamples
namespace Uart

/-!
# The data of the UART async adapter

`uart_async_adapter_data` with its transmit and receive halves, the events the
adapter gives its client, and the calls the client makes.  A buffer pointer is
a block and an offset into it, or NULL.  Sizes and positions are natural
numbers; timeouts are signed because `SYS_FOREVER_MS` is minus one.

The `log` is not in the source.  It records, newest first, what an observer at
the two interfaces of the adapter sees: calls and their results, events, and
bytes that pass between the adapter and its target.
-/

/-- An offset into a block of memory. -/
structure Address where
  block : Nat
  offset : Nat
  deriving DecidableEq, Repr

/-- A byte pointer of the source; `none` is NULL. -/
abbrev Pointer := Option Address

namespace Pointer

/-- `pointer + count` -/
def advance (pointer : Pointer) (count : Nat) : Pointer :=
  pointer.map fun address => { address with offset := address.offset + count }

/-- `high - low`, for two pointers into one buffer. -/
def diff : Pointer -> Pointer -> Nat
  | some high, some low => high.offset - low.offset
  | _, _ => 0

/-- `high >= low`; pointers into different blocks are not comparable. -/
def atOrAfter : Pointer -> Pointer -> Bool
  | some high, some low => high.block = low.block && low.offset ≤ high.offset
  | none, none => true
  | _, _ => false

/-- `high > low` -/
def after : Pointer -> Pointer -> Bool
  | some high, some low => high.block = low.block && low.offset < high.offset
  | _, _ => false

@[simp] theorem advance_none (count : Nat) : advance none count = none := rfl

@[simp] theorem advance_some (block offset count : Nat) :
    advance (some ⟨block, offset⟩) count = some ⟨block, offset + count⟩ := rfl

@[simp] theorem advance_advance (pointer : Pointer) (first second : Nat) :
    (pointer.advance first).advance second = pointer.advance (first + second) := by
  cases pointer <;> simp [advance, Nat.add_assoc]

@[simp] theorem advance_zero (pointer : Pointer) : pointer.advance 0 = pointer := by
  cases pointer <;> rfl

@[simp] theorem isSome_advance (pointer : Pointer) (count : Nat) :
    (pointer.advance count).isSome = pointer.isSome := by
  cases pointer <;> rfl

theorem advance_injective {pointer : Pointer} {first second : Nat} (present : pointer.isSome)
    (same : pointer.advance first = pointer.advance second) : first = second := by
  cases pointer with
  | none => exact absurd present Bool.false_ne_true
  | some address => simpa [advance] using same

/-- What has been added to a pointer is its distance from where it was. -/
@[simp] theorem diff_advance (pointer : Pointer) (first second : Nat) (present : pointer.isSome) :
    (pointer.advance first).diff (pointer.advance second) = first - second := by
  cases pointer with
  | none => exact absurd present Bool.false_ne_true
  | some address => simp [advance, diff, Nat.add_sub_add_left]

theorem diff_advance_self (pointer : Pointer) (count : Nat) (present : pointer.isSome) :
    (pointer.advance count).diff pointer = count := by
  simpa using diff_advance pointer count 0 present

@[simp] theorem diff_self (pointer : Pointer) : pointer.diff pointer = 0 := by
  cases pointer with
  | none => rfl
  | some address => exact Nat.sub_self _

@[simp] theorem diff_some (block offset other position : Nat) :
    diff (some ⟨block, offset⟩) (some ⟨other, position⟩) = offset - position := rfl

@[simp] theorem atOrAfter_some (block offset position : Nat) :
    atOrAfter (some ⟨block, offset⟩) (some ⟨block, position⟩) = decide (position ≤ offset) := by
  simp [atOrAfter]

@[simp] theorem after_some (block offset position : Nat) :
    after (some ⟨block, offset⟩) (some ⟨block, position⟩) = decide (position < offset) := by
  simp [after]

end Pointer

/-- `SYS_FOREVER_MS` -/
abbrev sysForeverMs : Int := -1

/-- Error numbers of the kernel; the source returns their negatives. -/
abbrev EFAULT : Int := 14
abbrev EBUSY : Int := 16

/-- The transmit half of `uart_async_adapter_data`.  A running timer is the
time at which it expires. -/
structure TxData where
  buf : Pointer
  currBuf : Pointer
  sizeLeft : Nat
  timeoutTimer : Option Nat
  enabled : Bool
  deriving DecidableEq, Repr

/-- The receive half of `uart_async_adapter_data`. -/
structure RxData where
  buf : Pointer
  currBuf : Pointer
  lastNotifyBuf : Pointer
  sizeLeft : Nat
  nextBuf : Pointer
  nextBufLen : Nat
  timeout : Int
  timeoutTimer : Option Nat
  enabled : Bool
  deriving DecidableEq, Repr

/-- `uart_async_adapter_data` -/
structure AdapterData where
  tx : TxData
  rx : RxData
  deriving DecidableEq, Repr

/-- Statically allocated data before anything has been written to it. -/
def AdapterData.zeroed : AdapterData where
  tx := { buf := none, currBuf := none, sizeLeft := 0, timeoutTimer := none, enabled := false }
  rx := { buf := none, currBuf := none, lastNotifyBuf := none, sizeLeft := 0, nextBuf := none,
          nextBufLen := 0, timeout := 0, timeoutTimer := none, enabled := false }

/-- The events of the asynchronous interface, with the data the adapter sets. -/
inductive UartEvent
  | txDone (buf : Pointer) (len : Nat)
  | txAborted (buf : Pointer) (len : Nat)
  | rxRdy (buf : Pointer) (offset len : Nat)
  | rxBufRequest
  | rxBufReleased (buf : Pointer)
  | rxDisabled
  | rxStopped (reason : Int)
  deriving DecidableEq, Repr

/-- The calls of the asynchronous interface. -/
inductive ApiCall
  | tx (buf : Pointer) (len : Nat) (timeout : Int)
  | txAbort
  | rxEnable (buf : Pointer) (len : Nat) (timeout : Int)
  | rxBufRsp (buf : Pointer) (len : Nat)
  | rxDisable
  deriving DecidableEq, Repr

/-- The `__ASSERT_NO_MSG` checks of the transmit and receive paths. -/
inductive Assertion
  | txCurrBufSet
  | txCurrBufAfterBuf
  | rxCurrBufAfterBuf
  | rxCurrBufAfterNotify
  | rxNextBufLenZero
  | rxSizeLeft
  deriving DecidableEq, Repr

/-- The checks that belong to reception. -/
def Assertion.isReceive : Assertion -> Bool
  | .txCurrBufSet | .txCurrBufAfterBuf => false
  | _ => true

/-- One entry of the log. -/
inductive Obs
  | called (call : ApiCall)
  | returned (call : ApiCall) (ret : Int) (time : Nat)
  | event (evt : UartEvent)
  | callbackReturned
  | pushed (src : Pointer) (bytes : List UInt8)
  | stored (dest : Pointer) (bytes : List UInt8)
  | dropped (bytes : List UInt8)
  | rxLoop (running : Bool)
  | assertFailed (what : Assertion)
  deriving DecidableEq, Repr

/-- Entries that report to the client what has happened. -/
def Obs.isReport : Obs -> Bool
  | .event _ | .returned _ _ _ => true
  | _ => false

/-- The two devices: the adapter, and the interrupt-driven UART below it. -/
inductive Device
  | adapter
  | target
  deriving DecidableEq, Repr

/-- Which interrupts of the target UART are enabled. -/
structure IrqEnables where
  tx : Bool
  rx : Bool
  err : Bool
  deriving DecidableEq, Repr

/-- Everything the adapter and its client share.  `target` is the private data
of the target driver, seen through the layout of `uart_async_adapter_data`
because that is how `on_error` gets to it; what happens to the callback stored
there is kept apart in `foreign`.  `app` is the client's own data. -/
structure World (App : Type) where
  adapter : AdapterData
  target : AdapterData
  irq : IrqEnables
  memory : Nat -> Nat -> UInt8
  now : Nat
  log : List Obs
  foreign : List UartEvent
  app : App

namespace World

variable {App : Type}

def observe (world : World App) (obs : Obs) : World App :=
  { world with log := obs :: world.log }

/-- `access_dev_data` -/
def accessDevData (world : World App) : Device -> AdapterData
  | .adapter => world.adapter
  | .target => world.target

def setDevData (world : World App) (data : AdapterData) : Device -> World App
  | .adapter => { world with adapter := data }
  | .target => { world with target := data }

def setTx (world : World App) (tx : TxData) : World App :=
  { world with adapter := { world.adapter with tx := tx } }

def setRx (world : World App) (rx : RxData) : World App :=
  { world with adapter := { world.adapter with rx := rx } }

/-- `__ASSERT_NO_MSG`: a check that fails is recorded, and the run goes on. -/
def assertNoMsg (world : World App) (what : Assertion) (holds : Bool) : World App :=
  if holds then world else world.observe (.assertFailed what)

/-- `k_timer_start` with a period of `K_NO_WAIT`: the time of expiry.
`SYS_TIMEOUT_MS` counts a negative duration as none. -/
def kTimerStart (world : World App) (timeout : Int) : Option Nat :=
  some (world.now + timeout.toNat)

/-- The bytes at a pointer. -/
def bytesAt (world : World App) (pointer : Pointer) (count : Nat) : List UInt8 :=
  match pointer with
  | none => []
  | some address => (List.range count).map fun i => world.memory address.block (address.offset + i)

/-- Copy bytes to a pointer.  A write through NULL goes nowhere. -/
def storeBytes (world : World App) (pointer : Pointer) (bytes : List UInt8) : World App :=
  match pointer with
  | none => world
  | some address =>
      { world with
        memory := fun block offset =>
          if block = address.block ∧ address.offset ≤ offset then
            bytes.getD (offset - address.offset) (world.memory block offset)
          else world.memory block offset }

section Stored

variable (world : World App) (pointer : Pointer) (bytes : List UInt8)

@[simp] theorem storeBytes_adapter : (world.storeBytes pointer bytes).adapter = world.adapter := by
  cases pointer <;> rfl

@[simp] theorem storeBytes_log : (world.storeBytes pointer bytes).log = world.log := by
  cases pointer <;> rfl

@[simp] theorem storeBytes_now : (world.storeBytes pointer bytes).now = world.now := by
  cases pointer <;> rfl

theorem storeBytes_observe (obs : Obs) :
    (world.observe obs).storeBytes pointer bytes = (world.storeBytes pointer bytes).observe obs := by
  cases pointer <;> rfl

end Stored

@[simp] theorem bytesAt_length (world : World App) (pointer : Pointer) (count : Nat)
    (present : pointer.isSome) : (world.bytesAt pointer count).length = count := by
  cases pointer with
  | none => exact absurd present Bool.false_ne_true
  | some address => simp [bytesAt]

@[simp] theorem bytesAt_zero (world : World App) (pointer : Pointer) :
    world.bytesAt pointer 0 = [] := by
  cases pointer <;> rfl

@[simp] theorem bytesAt_none (world : World App) (count : Nat) :
    world.bytesAt none count = [] := rfl

theorem bytesAt_add (world : World App) (pointer : Pointer) (first second : Nat) :
    world.bytesAt pointer (first + second) =
      world.bytesAt pointer first ++ world.bytesAt (pointer.advance first) second := by
  cases pointer with
  | none => rfl
  | some address =>
      simp only [bytesAt, Pointer.advance, Option.map_some, List.range_add, List.map_append,
        List.map_map]
      exact congrArg _ (List.map_congr_left fun i _ => by simp [Nat.add_assoc])

/-- A slice of what can be read from a pointer. -/
theorem bytesAt_slice (world : World App) (pointer : Pointer) (offset len rest : Nat)
    (present : pointer.isSome) :
    world.bytesAt (pointer.advance offset) len =
      ((world.bytesAt pointer (offset + (len + rest))).drop offset).take len := by
  have before := bytesAt_length world pointer offset present
  have within := bytesAt_length world (pointer.advance offset) len (by simpa using present)
  rw [bytesAt_add, bytesAt_add, List.drop_left' before, List.take_left' within]

/-- Bytes stored behind a stretch of memory extend what can be read from it. -/
theorem bytesAt_storeBytes (world : World App) (pointer : Pointer) (count : Nat)
    (bytes : List UInt8) :
    (world.storeBytes (pointer.advance count) bytes).bytesAt pointer (count + bytes.length) =
      world.bytesAt pointer count ++ if pointer.isSome then bytes else [] := by
  cases pointer with
  | none => rfl
  | some address =>
      rw [bytesAt_add]
      refine congrArg₂ _ ?_ ?_
      · apply List.map_congr_left
        intro i member
        have before : i < count := List.mem_range.mp member
        have outside : ¬address.offset + count ≤ address.offset + i := by omega
        simp [storeBytes, Pointer.advance, outside]
      · apply List.ext_getElem (by simp)
        intro i within _
        have inside : i < bytes.length := by simpa using within
        simp [bytesAt, storeBytes, Pointer.advance, inside]

/-- Bytes stored in one block do not change what can be read from another. -/
theorem bytesAt_storeBytes_of_ne (world : World App) {address other : Address}
    (differs : other.block ≠ address.block) (bytes : List UInt8) (count : Nat) :
    (world.storeBytes (some address) bytes).bytesAt (some other) count =
      world.bytesAt (some other) count := by
  apply List.map_congr_left
  intro i _
  simp [storeBytes, differs]

theorem bytesAt_congr {world later : World App} (memory : later.memory = world.memory)
    (pointer : Pointer) (count : Nat) :
    later.bytesAt pointer count = world.bytesAt pointer count := by
  simp [bytesAt, memory]

/-! ### What an entry in the log and a check leave alone -/

section Frame

variable (world : World App) (obs : Obs) (what : Assertion) (holds : Bool)

@[simp] theorem observe_adapter : (world.observe obs).adapter = world.adapter := rfl
@[simp] theorem observe_irq : (world.observe obs).irq = world.irq := rfl
@[simp] theorem observe_memory : (world.observe obs).memory = world.memory := rfl
@[simp] theorem observe_now : (world.observe obs).now = world.now := rfl
@[simp] theorem observe_log : (world.observe obs).log = obs :: world.log := rfl
@[simp] theorem observe_app : (world.observe obs).app = world.app := rfl

@[simp] theorem assertNoMsg_adapter : (world.assertNoMsg what holds).adapter = world.adapter := by
  cases holds <;> rfl

@[simp] theorem assertNoMsg_memory : (world.assertNoMsg what holds).memory = world.memory := by
  cases holds <;> rfl

@[simp] theorem assertNoMsg_now : (world.assertNoMsg what holds).now = world.now := by
  cases holds <;> rfl

@[simp] theorem assertNoMsg_irq : (world.assertNoMsg what holds).irq = world.irq := by
  cases holds <;> rfl

@[simp] theorem assertNoMsg_app : (world.assertNoMsg what holds).app = world.app := by
  cases holds <;> rfl

@[simp] theorem assertNoMsg_true : world.assertNoMsg what true = world := rfl

theorem assertNoMsg_log : (world.assertNoMsg what holds).log =
    if holds = true then world.log else .assertFailed what :: world.log := by
  cases holds <;> rfl

/-- Whatever is read from the log without looking at failed checks is the same
before and after a check. -/
theorem read_assertNoMsg {A : Type} (read : List Obs -> A)
    (ignores : forall what log, read (.assertFailed what :: log) = read log) :
    read (world.assertNoMsg what holds).log = read world.log := by
  cases holds with
  | true => rfl
  | false => exact ignores what world.log

end Frame

section Fields

variable (world : World App) (tx : TxData) (rx : RxData) (data : AdapterData)

@[simp] theorem setTx_tx : (world.setTx tx).adapter.tx = tx := rfl
@[simp] theorem setTx_rx : (world.setTx tx).adapter.rx = world.adapter.rx := rfl
@[simp] theorem setTx_log : (world.setTx tx).log = world.log := rfl
@[simp] theorem setTx_memory : (world.setTx tx).memory = world.memory := rfl
@[simp] theorem setTx_now : (world.setTx tx).now = world.now := rfl
@[simp] theorem setTx_app : (world.setTx tx).app = world.app := rfl
@[simp] theorem setRx_rx : (world.setRx rx).adapter.rx = rx := rfl
@[simp] theorem setRx_tx : (world.setRx rx).adapter.tx = world.adapter.tx := rfl
@[simp] theorem setRx_log : (world.setRx rx).log = world.log := rfl
@[simp] theorem setRx_memory : (world.setRx rx).memory = world.memory := rfl
@[simp] theorem setRx_now : (world.setRx rx).now = world.now := rfl
@[simp] theorem setRx_app : (world.setRx rx).app = world.app := rfl
@[simp] theorem setDevData_target_adapter :
    (world.setDevData data .target).adapter = world.adapter := rfl
@[simp] theorem setDevData_target_log : (world.setDevData data .target).log = world.log := rfl
@[simp] theorem setDevData_target_memory :
    (world.setDevData data .target).memory = world.memory := rfl
@[simp] theorem setDevData_target_now : (world.setDevData data .target).now = world.now := rfl
@[simp] theorem setDevData_adapter_adapter :
    (world.setDevData data .adapter).adapter = data := rfl
@[simp] theorem setDevData_adapter_log : (world.setDevData data .adapter).log = world.log := rfl
@[simp] theorem setDevData_adapter_memory :
    (world.setDevData data .adapter).memory = world.memory := rfl
@[simp] theorem accessDevData_adapter : world.accessDevData .adapter = world.adapter := rfl

end Fields

end World

end Uart
end NrfExamples
