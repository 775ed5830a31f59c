import Mathlib.Algebra.Group.Nat.Defs
import Mathlib.Data.List.Induction
import NrfExamples.Traces.Lines

namespace NrfExamples
namespace DualUart

open Traces

/-!
# The two receive handlers

`main.c` of `dual_uart_int`: each UART has an interrupt handler that collects a
line in a buffer of its own and puts it into a message queue of its own.  A
full queue drops the message without a trace, so the queues are left out and
what is offered to them is recorded.  The threads that print the messages do
not touch the buffers.
-/

abbrev MSG_SIZE : Nat := 32

/-- `char [MSG_SIZE]` -/
abbrev Message := Vector UInt8 MSG_SIZE

inductive Uart
  | uart0
  | uart1
  deriving DecidableEq, Repr

/-- The receive buffers and positions, and the messages that `k_msgq_put` was
called with, oldest first.  A position is always inside its buffer. -/
structure Receiver where
  rx0Buf : Message
  rx1Buf : Message
  rx0BufPos : Fin MSG_SIZE
  rx1BufPos : Fin MSG_SIZE
  uart0Msgq : List Message
  uart1Msgq : List Message

/-- Static variables start at zero. -/
def Receiver.zero : Receiver where
  rx0Buf := Vector.replicate MSG_SIZE 0
  rx1Buf := Vector.replicate MSG_SIZE 0
  rx0BufPos := 0
  rx1BufPos := 0
  uart0Msgq := []
  uart1Msgq := []

/-- `c == '\n' || c == '\r'` -/
def endsLine (c : UInt8) : Bool :=
  c == 10 || c == 13

/-- One iteration of the loop in `uart0_cb`, with the character that it reads. -/
def uart0Char (rx : Receiver) (c : UInt8) : Receiver :=
  if endsLine c = true ∧ 0 < rx.rx0BufPos.val then
    let terminated := rx.rx0Buf.set rx.rx0BufPos 0
    { rx with
      rx0Buf := terminated
      uart0Msgq := rx.uart0Msgq ++ [terminated]
      rx0BufPos := 0 }
  else if room : rx.rx0BufPos.val < MSG_SIZE - 1 then
    { rx with
      rx0Buf := rx.rx0Buf.set rx.rx0BufPos c
      rx0BufPos := ⟨rx.rx0BufPos.val + 1, Nat.add_lt_of_lt_sub room⟩ }
  else rx

/-- One iteration of the loop in `uart1_cb`.  The terminator goes to `rx0_buf`. -/
def uart1Char (rx : Receiver) (c : UInt8) : Receiver :=
  if endsLine c = true ∧ 0 < rx.rx1BufPos.val then
    { rx with
      rx0Buf := rx.rx0Buf.set rx.rx1BufPos 0
      uart1Msgq := rx.uart1Msgq ++ [rx.rx1Buf]
      rx1BufPos := 0 }
  else if room : rx.rx1BufPos.val < MSG_SIZE - 1 then
    { rx with
      rx1Buf := rx.rx1Buf.set rx.rx1BufPos c
      rx1BufPos := ⟨rx.rx1BufPos.val + 1, Nat.add_lt_of_lt_sub room⟩ }
  else rx

section Char

variable {rx : Receiver} {c : UInt8}

theorem uart0Char_of_end (ends : endsLine c = true ∧ 0 < rx.rx0BufPos.val) :
    uart0Char rx c = { rx with
      rx0Buf := rx.rx0Buf.set rx.rx0BufPos 0
      uart0Msgq := rx.uart0Msgq ++ [rx.rx0Buf.set rx.rx0BufPos 0]
      rx0BufPos := 0 } :=
  if_pos ends

theorem uart0Char_of_room (notEnd : ¬ (endsLine c = true ∧ 0 < rx.rx0BufPos.val))
    (room : rx.rx0BufPos.val < MSG_SIZE - 1) :
    uart0Char rx c = { rx with
      rx0Buf := rx.rx0Buf.set rx.rx0BufPos c
      rx0BufPos := ⟨rx.rx0BufPos.val + 1, Nat.add_lt_of_lt_sub room⟩ } :=
  (if_neg notEnd).trans (dif_pos room)

theorem uart0Char_of_full (notEnd : ¬ (endsLine c = true ∧ 0 < rx.rx0BufPos.val))
    (full : ¬ rx.rx0BufPos.val < MSG_SIZE - 1) : uart0Char rx c = rx :=
  (if_neg notEnd).trans (dif_neg full)

theorem uart1Char_of_end (ends : endsLine c = true ∧ 0 < rx.rx1BufPos.val) :
    uart1Char rx c = { rx with
      rx0Buf := rx.rx0Buf.set rx.rx1BufPos 0
      uart1Msgq := rx.uart1Msgq ++ [rx.rx1Buf]
      rx1BufPos := 0 } :=
  if_pos ends

theorem uart1Char_of_room (notEnd : ¬ (endsLine c = true ∧ 0 < rx.rx1BufPos.val))
    (room : rx.rx1BufPos.val < MSG_SIZE - 1) :
    uart1Char rx c = { rx with
      rx1Buf := rx.rx1Buf.set rx.rx1BufPos c
      rx1BufPos := ⟨rx.rx1BufPos.val + 1, Nat.add_lt_of_lt_sub room⟩ } :=
  (if_neg notEnd).trans (dif_pos room)

theorem uart1Char_of_full (notEnd : ¬ (endsLine c = true ∧ 0 < rx.rx1BufPos.val))
    (full : ¬ rx.rx1BufPos.val < MSG_SIZE - 1) : uart1Char rx c = rx :=
  (if_neg notEnd).trans (dif_neg full)

end Char

/-- One call of a handler: what `uart_irq_update` returns, and the characters
that are read while `uart_irq_rx_ready` holds. -/
structure Invocation where
  uart : Uart
  updated : Bool
  fifo : List UInt8
  deriving DecidableEq, Repr

/-- `uart0_cb` -/
def uart0Cb (updated : Bool) (fifo : List UInt8) (rx : Receiver) : Receiver :=
  if updated = false then rx else fifo.foldl uart0Char rx

/-- `uart1_cb` -/
def uart1Cb (updated : Bool) (fifo : List UInt8) (rx : Receiver) : Receiver :=
  if updated = false then rx else fifo.foldl uart1Char rx

def invoke (rx : Receiver) (invocation : Invocation) : Receiver :=
  match invocation.uart with
  | .uart0 => uart0Cb invocation.updated invocation.fifo rx
  | .uart1 => uart1Cb invocation.updated invocation.fifo rx

/-- The receiver after a schedule of invocations. -/
def run (schedule : List Invocation) : Receiver :=
  schedule.foldl invoke Receiver.zero

/-- What `strlen` and the printing threads see of a message. -/
def cString (message : Message) : List UInt8 :=
  cut (· == 0) message.toList

/-! ## The end of a message -/

/-- The last byte of both buffers is never written but with a NUL, so that even
the messages of UART1, which it does not terminate, can be read as C strings. -/
structure Terminated (rx : Receiver) : Prop where
  rx0Buf : rx.rx0Buf[MSG_SIZE - 1] = 0
  rx1Buf : rx.rx1Buf[MSG_SIZE - 1] = 0
  uart0Msgq : forall message : Message, message ∈ rx.uart0Msgq -> message[MSG_SIZE - 1] = 0
  uart1Msgq : forall message : Message, message ∈ rx.uart1Msgq -> message[MSG_SIZE - 1] = 0

theorem last_set_nul {buffer : Message} (last : buffer[MSG_SIZE - 1] = 0) (pos : Fin MSG_SIZE) :
    (buffer.set pos 0)[MSG_SIZE - 1] = 0 := by
  rw [Vector.getElem_set]
  split
  · rfl
  · exact last

theorem last_set_char {buffer : Message} (last : buffer[MSG_SIZE - 1] = 0) {pos : Fin MSG_SIZE}
    (room : pos.val < MSG_SIZE - 1) (c : UInt8) : (buffer.set pos c)[MSG_SIZE - 1] = 0 := by
  rw [Vector.getElem_set_ne pos.isLt (by decide) (Nat.ne_of_lt room)]
  exact last

theorem last_offered {queue : List Message} {offered : Message}
    (queued : forall message : Message, message ∈ queue -> message[MSG_SIZE - 1] = 0)
    (last : offered[MSG_SIZE - 1] = 0) (message : Message) (member : message ∈ queue ++ [offered]) :
    message[MSG_SIZE - 1] = 0 := by
  rcases List.mem_append.mp member with old | new
  · exact queued message old
  · rw [List.mem_singleton.mp new]
    exact last

theorem Terminated.uart0Char {rx : Receiver} (holds : Terminated rx) (c : UInt8) :
    Terminated (uart0Char rx c) := by
  by_cases ends : endsLine c = true ∧ 0 < rx.rx0BufPos.val
  · have last := last_set_nul holds.rx0Buf rx.rx0BufPos
    rw [uart0Char_of_end ends]
    exact ⟨last, holds.rx1Buf, last_offered holds.uart0Msgq last, holds.uart1Msgq⟩
  · by_cases room : rx.rx0BufPos.val < MSG_SIZE - 1
    · rw [uart0Char_of_room ends room]
      exact ⟨last_set_char holds.rx0Buf room c, holds.rx1Buf, holds.uart0Msgq, holds.uart1Msgq⟩
    · rw [uart0Char_of_full ends room]
      exact holds

theorem Terminated.uart1Char {rx : Receiver} (holds : Terminated rx) (c : UInt8) :
    Terminated (uart1Char rx c) := by
  by_cases ends : endsLine c = true ∧ 0 < rx.rx1BufPos.val
  · have last := last_set_nul holds.rx0Buf rx.rx1BufPos
    rw [uart1Char_of_end ends]
    exact ⟨last, holds.rx1Buf, holds.uart0Msgq, last_offered holds.uart1Msgq holds.rx1Buf⟩
  · by_cases room : rx.rx1BufPos.val < MSG_SIZE - 1
    · rw [uart1Char_of_room ends room]
      exact ⟨holds.rx0Buf, last_set_char holds.rx1Buf room c, holds.uart0Msgq, holds.uart1Msgq⟩
    · rw [uart1Char_of_full ends room]
      exact holds

/-! ## The characters of a schedule -/

/-- The characters that an invocation reads. -/
def Invocation.chars (invocation : Invocation) : List (Uart × UInt8) :=
  if invocation.updated = false then []
  else invocation.fifo.map fun c => (invocation.uart, c)

/-- All characters in the order in which they are read. -/
def arrivals (schedule : List Invocation) : List (Uart × UInt8) :=
  schedule.flatMap Invocation.chars

/-- The characters of one UART. -/
def stream (uart : Uart) (arrived : List (Uart × UInt8)) : List UInt8 :=
  arrived.filterMap fun arrival => if arrival.1 = uart then some arrival.2 else none

/-- The handler of the UART takes in the character. -/
def take (rx : Receiver) (arrival : Uart × UInt8) : Receiver :=
  match arrival.1 with
  | .uart0 => uart0Char rx arrival.2
  | .uart1 => uart1Char rx arrival.2

def takeAll (arrived : List (Uart × UInt8)) : Receiver :=
  arrived.foldl take Receiver.zero

theorem takeAll_concat (arrived : List (Uart × UInt8)) (arrival : Uart × UInt8) :
    takeAll (arrived ++ [arrival]) = take (takeAll arrived) arrival := by
  unfold takeAll
  rw [List.foldl_append, List.foldl_cons, List.foldl_nil]

theorem invoke_eq (rx : Receiver) (invocation : Invocation) :
    invoke rx invocation = invocation.chars.foldl take rx := by
  rcases invocation with ⟨uart, updated, fifo⟩
  cases updated with
  | false => cases uart <;> rfl
  | true =>
      unfold Invocation.chars
      rw [if_neg Bool.noConfusion, List.foldl_map]
      cases uart <;> rfl

/-- How the characters are divided between invocations does not matter. -/
theorem run_eq_takeAll (schedule : List Invocation) :
    run schedule = takeAll (arrivals schedule) := by
  unfold run takeAll arrivals
  rw [List.foldl_flatMap]
  congr 1
  funext rx invocation
  exact invoke_eq rx invocation

theorem terminated_run (schedule : List Invocation) : Terminated (run schedule) := by
  rw [run_eq_takeAll]
  induction arrivals schedule using List.reverseRecOn with
  | nil =>
      constructor
      · decide
      · decide
      · exact fun _ member => nomatch member
      · exact fun _ member => nomatch member
  | append_singleton arrived arrival inductionHypothesis =>
      rw [takeAll_concat]
      rcases arrival with ⟨uart, c⟩
      cases uart with
      | uart0 => exact inductionHypothesis.uart0Char c
      | uart1 => exact inductionHypothesis.uart1Char c

theorem stream_concat (uart : Uart) (arrived : List (Uart × UInt8)) (arrival : Uart × UInt8) :
    stream uart (arrived ++ [arrival]) =
      stream uart arrived ++ if arrival.1 = uart then [arrival.2] else [] := by
  unfold stream
  rw [List.filterMap_append]
  congr 1
  by_cases same : arrival.1 = uart <;> simp [same]

/-- A stream read by one handler alone. -/
theorem stream_alone (uart : Uart) (chars : List UInt8) :
    stream uart (chars.map fun c => (uart, c)) = chars := by
  induction chars with
  | nil => rfl
  | cons c others inductionHypothesis =>
      unfold stream at inductionHypothesis ⊢
      rw [List.map_cons, List.filterMap_cons, inductionHypothesis]
      simp only [if_true]

end DualUart
end NrfExamples
