import NrfExamples.DualUart.TextLines
import NrfExamples.Traces.Machine
import NrfExamples.Traces.Mailbox

namespace NrfExamples
namespace DualUart

open Traces

/-!
# From one UART to the other

The whole of `main.c`: the interrupt handlers, the message queues, the threads that
print them, and `main` with its greetings.  An interrupt can come between any two
characters that a thread writes, and the threads take turns in any order.

What `print_uart` reads of `tx0_buf` and `tx1_buf` does not change meanwhile: they
are written by the thread's own `k_msgq_get` only.  So a thread is described by the
characters that it has yet to write; with none it waits in `k_msgq_get`.
-/

/-! ## What is printed -/

/-- The characters of a string literal. -/
def literal (text : String) : List UInt8 :=
  text.toList.map fun char => UInt8.ofNat char.toNat

def strlen (buf : List UInt8) : Nat :=
  (cut (· == 0) buf).length

/-- The characters that `print_uart` writes. -/
def printUart (buf : List UInt8) : List UInt8 :=
  (List.range (strlen buf)).map fun i => buf.getD i 0

theorem printUart_eq (buf : List UInt8) : printUart buf = cut (· == 0) buf := by
  have isPrefix : cut (· == 0) buf <+: buf := List.takeWhile_prefix _
  apply List.ext_getElem
  · rw [printUart, List.length_map, List.length_range, strlen]
  · intro i inside within
    have inBuf := Nat.lt_of_lt_of_le within isPrefix.length_le
    rw [isPrefix.getElem within]
    simp [printUart, inBuf]

/-- What a thread on this UART prints before a message. -/
def heading : Uart -> List UInt8
  | .uart0 => literal "From Uart1: "
  | .uart1 => literal "From Uart0: "

/-- What a thread on this UART prints of a string. -/
def lineFrame (uart : Uart) (string : List UInt8) : List UInt8 :=
  heading uart ++ string ++ literal "\r\n"

/-- What a thread on this UART prints of a message: three calls of `print_uart`. -/
def frame (uart : Uart) (message : Message) : List UInt8 :=
  printUart (heading uart) ++ printUart message.toList ++ printUart (literal "\r\n")

theorem frame_eq (uart : Uart) (message : Message) :
    frame uart message = lineFrame uart (cString message) := by
  have noNul : printUart (heading uart) = heading uart := by
    rw [printUart_eq]
    cases uart <;> decide
  have lineEnd : printUart (literal "\r\n") = literal "\r\n" := by
    rw [printUart_eq]
    decide
  unfold frame lineFrame cString
  rw [noNul, lineEnd, printUart_eq]

/-- What `main` prints on a UART. -/
def greeting : Uart -> List UInt8
  | .uart0 => printUart (literal "Hello! This is Uart_0\r\n") ++
      printUart (literal "Tell me something and press enter:\r\n")
  | .uart1 => printUart (literal "Hello! This is Uart_1\r\n") ++
      printUart (literal "Tell me something and press enter:\r\n")

/-- What `main` prints with `printk` about a device that is not ready. -/
def notFound : Uart -> List UInt8
  | .uart0 => literal "UART_0 device not found!"
  | .uart1 => literal "UART_1 device not found!"

/-! ## The program -/

def Uart.other : Uart -> Uart
  | .uart0 => .uart1
  | .uart1 => .uart0

inductive Writer
  | main
  | thread
  deriving DecidableEq, Repr

/-- What `main` does: it looks whether a device is ready, sets the callback and
enables the interrupt, or writes one character. -/
inductive Statement
  | check (uart : Uart)
  | enable (uart : Uart)
  | pollOut (uart : Uart) (c : UInt8)
  deriving DecidableEq, Repr

def mainBody : List Statement :=
  [.check .uart0, .check .uart1, .enable .uart0, .enable .uart1] ++
    (greeting .uart0).map (.pollOut .uart0) ++ (greeting .uart1).map (.pollOut .uart1)

/-- The static data, what `main` and the threads have yet to do, what `uart_poll_out`
has written to each UART, oldest first, and what `printk` has written.  Which device
the console is, `main.c` does not say; it may be one of the UARTs. -/
structure Program where
  rx : Receiver
  msgq : Uart -> Mailbox Message 10
  printing : Uart -> List UInt8
  mainRest : List Statement
  rxEnabled : Uart -> Bool
  written : Uart -> List (Writer × UInt8)
  console : List UInt8

namespace Program

def start : Program where
  rx := Receiver.zero
  msgq := fun _ => .empty
  printing := fun _ => []
  mainRest := mainBody
  rxEnabled := fun _ => false
  written := fun _ => []
  console := []

variable (program : Program)

/-- `uart_poll_out` -/
def uartPollOut (writer : Writer) (uart : Uart) (c : UInt8) : Program :=
  { program with
    written := Function.update program.written uart (program.written uart ++ [(writer, c)]) }

def printk (text : List UInt8) : Program :=
  { program with console := program.console ++ text }

end Program

/-- The messages that a handler has called `k_msgq_put` with. -/
def Receiver.offers (rx : Receiver) : Uart -> List Message
  | .uart0 => rx.uart0Msgq
  | .uart1 => rx.uart1Msgq

/-- What `uart0_cb` or `uart1_cb` adds to the messages of its UART. -/
def newOffers (rx : Receiver) (invocation : Invocation) : List Message :=
  ((invoke rx invocation).offers invocation.uart).drop (rx.offers invocation.uart).length

namespace Program

variable (program : Program)

/-- A handler runs.  No thread runs meanwhile, so all its messages can be put at its end. -/
def interrupt (invocation : Invocation) : Program :=
  { program with
    rx := invoke program.rx invocation
    msgq := Function.update program.msgq invocation.uart
      ((program.msgq invocation.uart).putAll (newOffers program.rx invocation)) }

/-- The next step of `print_uart0_fn` or `print_uart1_fn`. -/
def print (uart : Uart) : Program :=
  match program.printing uart with
  | c :: rest =>
      { program.uartPollOut .thread uart c with
        printing := Function.update program.printing uart rest }
  | [] =>
      match (program.msgq uart.other).get with
      | none => program
      | some (message, msgq) =>
          { program with
            msgq := Function.update program.msgq uart.other msgq
            printing := Function.update program.printing uart (frame uart message) }

/-- The next step of `main`. -/
def main (ready : Uart -> Bool) : Program :=
  match program.mainRest with
  | [] => program
  | .check uart :: rest =>
      if ready uart = true then { program with mainRest := rest }
      else { program.printk (notFound uart) with mainRest := [] }
  | .enable uart :: rest =>
      { program with
        mainRest := rest
        rxEnabled := Function.update program.rxEnabled uart true }
  | .pollOut uart c :: rest => { program.uartPollOut .main uart c with mainRest := rest }

end Program

inductive Event
  | interrupt (invocation : Invocation)
  | print (uart : Uart)
  | main
  deriving DecidableEq, Repr

/-- The program on devices that are ready or not. -/
def dualUart (ready : Uart -> Bool) : Machine Program Event where
  start := Program.start
  step := fun program event =>
    match event with
    | .interrupt invocation => program.interrupt invocation
    | .print uart => program.print uart
    | .main => program.main ready
  possible := fun program event =>
    match event with
    | .interrupt invocation => program.rxEnabled invocation.uart = true
    | .print _ | .main => True

/-- The interrupts among the events. -/
def schedule (events : List Event) : List Invocation :=
  events.filterMap fun event =>
    match event with
    | .interrupt invocation => some invocation
    | .print _ | .main => none

/-- The characters of one writer. -/
def wroteBy (writer : Writer) (written : List (Writer × UInt8)) : List UInt8 :=
  written.filterMap fun entry => if entry.1 = writer then some entry.2 else none

/-! ## What a handler offers -/

section Offers

variable {rx : Receiver}

theorem offers_take (rx : Receiver) (arrival : Uart × UInt8) :
    (forall uart, rx.offers uart <+: (take rx arrival).offers uart) ∧
      forall uart, uart ≠ arrival.1 -> (take rx arrival).offers uart = rx.offers uart := by
  rcases arrival with ⟨own, c⟩
  cases own with
  | uart0 =>
      by_cases ends : endsLine c = true ∧ 0 < rx.rx0BufPos.val
      · have same : take rx (.uart0, c) = _ := uart0Char_of_end ends
        rw [same]
        constructor
        · intro uart
          cases uart with
          | uart0 => exact List.prefix_append _ _
          | uart1 => exact List.prefix_refl _
        · intro uart different
          cases uart with
          | uart0 => exact absurd rfl different
          | uart1 => rfl
      · have same : (take rx (.uart0, c)).offers = rx.offers := by
          funext uart
          by_cases room : rx.rx0BufPos.val < MSG_SIZE - 1
          · have same : take rx (.uart0, c) = _ := uart0Char_of_room ends room
            rw [same]
            cases uart <;> rfl
          · exact congrArg (fun later => Receiver.offers later uart) (uart0Char_of_full ends room)
        rw [same]
        exact ⟨fun _ => List.prefix_refl _, fun _ _ => rfl⟩
  | uart1 =>
      by_cases ends : endsLine c = true ∧ 0 < rx.rx1BufPos.val
      · have same : take rx (.uart1, c) = _ := uart1Char_of_end ends
        rw [same]
        constructor
        · intro uart
          cases uart with
          | uart0 => exact List.prefix_refl _
          | uart1 => exact List.prefix_append _ _
        · intro uart different
          cases uart with
          | uart0 => rfl
          | uart1 => exact absurd rfl different
      · have same : (take rx (.uart1, c)).offers = rx.offers := by
          funext uart
          by_cases room : rx.rx1BufPos.val < MSG_SIZE - 1
          · have same : take rx (.uart1, c) = _ := uart1Char_of_room ends room
            rw [same]
            cases uart <;> rfl
          · exact congrArg (fun later => Receiver.offers later uart) (uart1Char_of_full ends room)
        rw [same]
        exact ⟨fun _ => List.prefix_refl _, fun _ _ => rfl⟩

theorem chars_uart {invocation : Invocation} {arrival : Uart × UInt8}
    (member : arrival ∈ invocation.chars) : arrival.1 = invocation.uart := by
  unfold Invocation.chars at member
  split at member
  · cases member
  · rcases List.mem_map.mp member with ⟨c, _, rfl⟩
    rfl

/-- A handler adds messages of its own UART only. -/
theorem offers_foldl (rx : Receiver) (arrived : List (Uart × UInt8)) (own : Uart)
    (uarts : forall arrival, arrival ∈ arrived -> arrival.1 = own) :
    (forall uart, rx.offers uart <+: (arrived.foldl take rx).offers uart) ∧
      forall uart, uart ≠ own -> (arrived.foldl take rx).offers uart = rx.offers uart := by
  induction arrived generalizing rx with
  | nil => exact ⟨fun _ => List.prefix_refl _, fun _ _ => rfl⟩
  | cons arrival others inductionHypothesis =>
      have first := offers_take rx arrival
      have rest := inductionHypothesis (take rx arrival)
        fun later member => uarts later (List.mem_cons_of_mem _ member)
      constructor
      · exact fun uart => (first.1 uart).trans (rest.1 uart)
      · intro uart different
        refine (rest.2 uart different).trans (first.2 uart ?_)
        rw [uarts arrival List.mem_cons_self]
        exact different

theorem offers_invoke (invocation : Invocation) (uart : Uart) :
    (invoke rx invocation).offers uart =
      rx.offers uart ++ if uart = invocation.uart then newOffers rx invocation else [] := by
  have grows := offers_foldl rx invocation.chars invocation.uart fun _ => chars_uart
  rw [← invoke_eq] at grows
  split
  · rename_i same
    subst same
    rcases grows.1 invocation.uart with ⟨new, whole⟩
    unfold newOffers
    rw [← whole, List.drop_left]
  · rename_i different
    rw [grows.2 uart different, List.append_nil]

end Offers

/-! ## The characters on the wires -/

section Wires

variable {program : Program} {writer other : Writer} {uart : Uart} {c : UInt8}

theorem wroteBy_concat (written : List (Writer × UInt8)) :
    wroteBy writer (written ++ [(other, c)]) =
      wroteBy writer written ++ if other = writer then [c] else [] := by
  unfold wroteBy
  rw [List.filterMap_append]
  by_cases same : other = writer <;> simp [same]

theorem wroteBy_pollOut (wire : Uart) :
    wroteBy writer ((program.uartPollOut other uart c).written wire) =
      wroteBy writer (program.written wire) ++
        if other = writer ∧ wire = uart then [c] else [] := by
  unfold Program.uartPollOut
  by_cases same : wire = uart
  · subst same
    simp only [Function.update_self, wroteBy_concat, and_true]
  · simp only [Function.update_of_ne same, same, and_false, if_false, List.append_nil]

end Wires

/-! ## What a run keeps -/

/-- The program follows the events: the handlers have seen the interrupts, the queues
have been offered what the handlers put, and the threads write what has been taken. -/
structure Delivers (events : List Event) (program : Program) : Prop where
  rx : program.rx = DualUart.run (schedule events)
  offered : forall uart, (program.msgq uart).offered = program.rx.offers uart
  printed : forall uart, wroteBy .thread (program.written uart) ++ program.printing uart =
    (program.msgq uart.other).taken.flatMap (frame uart)

namespace Delivers

variable {events : List Event} {program : Program}

theorem start : Delivers [] Program.start where
  rx := rfl
  offered := fun uart => by cases uart <;> rfl
  printed := fun _ => rfl

theorem schedule_concat (event : Event) :
    schedule (events ++ [event]) = schedule events ++ schedule [event] :=
  List.filterMap_append

theorem interrupt (delivers : Delivers events program) (invocation : Invocation) :
    Delivers (events ++ [.interrupt invocation]) (program.interrupt invocation) := by
  constructor
  · have grows : DualUart.run (schedule events ++ [invocation]) =
        invoke (DualUart.run (schedule events)) invocation := by
      unfold DualUart.run
      rw [List.foldl_append, List.foldl_cons, List.foldl_nil]
    rw [schedule_concat]
    exact (congrArg (fun rx => invoke rx invocation) delivers.rx).trans grows.symm
  · intro uart
    unfold Program.interrupt
    simp only [offers_invoke]
    by_cases same : uart = invocation.uart
    · subst same
      rw [Function.update_self, Mailbox.putAll_offered, if_pos rfl, delivers.offered]
    · rw [Function.update_of_ne same, if_neg same, List.append_nil, delivers.offered]
  · intro uart
    have sameTaken : ((program.interrupt invocation).msgq uart.other).taken =
        (program.msgq uart.other).taken := by
      unfold Program.interrupt
      by_cases same : uart.other = invocation.uart
      · simp only [same, Function.update_self, Mailbox.putAll_taken]
      · simp only [Function.update_of_ne same]
    rw [sameTaken]
    exact delivers.printed uart

theorem quiet (delivers : Delivers events program) {later : Program} {event : Event}
    (silent : schedule [event] = []) (rx : later.rx = program.rx)
    (offered : forall uart, (later.msgq uart).offered = (program.msgq uart).offered)
    (printed : forall uart, wroteBy .thread (later.written uart) ++ later.printing uart =
      (later.msgq uart.other).taken.flatMap (frame uart)) :
    Delivers (events ++ [event]) later := by
  constructor
  · rw [schedule_concat, silent, List.append_nil, rx]
    exact delivers.rx
  · intro uart
    rw [offered, rx]
    exact delivers.offered uart
  · exact printed

theorem print (delivers : Delivers events program) (uart : Uart) :
    Delivers (events ++ [.print uart]) (program.print uart) := by
  cases pending : program.printing uart with
  | cons c rest =>
      have step : program.print uart = { program.uartPollOut .thread uart c with
          printing := Function.update program.printing uart rest } := by
        unfold Program.print
        rw [pending]
      rw [step]
      refine delivers.quiet rfl rfl (fun _ => rfl) fun wire => ?_
      have before := delivers.printed wire
      change wroteBy .thread ((program.uartPollOut .thread uart c).written wire) ++
        Function.update program.printing uart rest wire = _
      rw [wroteBy_pollOut]
      by_cases same : wire = uart
      · subst same
        rw [pending] at before
        rw [if_pos ⟨rfl, rfl⟩, Function.update_self, List.append_assoc, List.singleton_append]
        exact before
      · rw [if_neg (fun both => same both.2), List.append_nil, Function.update_of_ne same]
        exact before
  | nil =>
      cases waiting : (program.msgq uart.other).get with
      | none =>
          have step : program.print uart = program := by
            unfold Program.print
            rw [pending, waiting]
          rw [step]
          exact delivers.quiet rfl rfl (fun _ => rfl) delivers.printed
      | some taken =>
          rcases taken with ⟨message, msgq⟩
          rcases Mailbox.get_spec waiting with ⟨_, took, sameOffered, _⟩
          have step : program.print uart = { program with
              msgq := Function.update program.msgq uart.other msgq
              printing := Function.update program.printing uart (frame uart message) } := by
            unfold Program.print
            rw [pending, waiting]
          rw [step]
          refine delivers.quiet rfl rfl (fun other => ?_) fun wire => ?_
          · by_cases same : other = uart.other
            · subst same
              simp only [Function.update_self, sameOffered]
            · simp only [Function.update_of_ne same]
          · have before := delivers.printed wire
            by_cases same : wire = uart
            · subst same
              rw [pending, List.append_nil] at before
              simp only [Function.update_self]
              rw [took, List.flatMap_append, ← before, List.flatMap_singleton]
            · have apart : wire.other ≠ uart.other := by
                intro equal
                cases wire <;> cases uart <;> first | exact same rfl | cases equal
              simp only [Function.update_of_ne same, Function.update_of_ne apart]
              exact before

theorem main (delivers : Delivers events program) (ready : Uart -> Bool) :
    Delivers (events ++ [.main]) (program.main ready) := by
  unfold Program.main
  split
  · exact delivers.quiet rfl rfl (fun _ => rfl) delivers.printed
  · split <;> exact delivers.quiet rfl rfl (fun _ => rfl) delivers.printed
  · exact delivers.quiet rfl rfl (fun _ => rfl) delivers.printed
  · rename_i uart c rest _
    refine delivers.quiet rfl rfl (fun _ => rfl) fun wire => ?_
    have before := delivers.printed wire
    change wroteBy .thread ((program.uartPollOut .main uart c).written wire) ++ _ = _
    rw [wroteBy_pollOut, if_neg (fun both => nomatch both.1), List.append_nil]
    exact before

end Delivers

theorem delivers_run (ready : Uart -> Bool) (events : List Event) :
    Delivers events ((dualUart ready).run events) := by
  induction events using List.reverseRecOn with
  | nil => exact Delivers.start
  | append_singleton events event inductionHypothesis =>
      rw [Machine.run_concat]
      cases event with
      | interrupt invocation => exact inductionHypothesis.interrupt invocation
      | print uart => exact inductionHypothesis.print uart
      | main => exact inductionHypothesis.main ready

/-! ## What is delivered -/

/-- In one step a queue is offered messages, or the longest waiting one is taken. -/
theorem msgq_step (ready : Uart -> Bool) (program : Program) (event : Event) (uart : Uart) :
    (exists new, ((dualUart ready).step program event).msgq uart =
        (program.msgq uart).putAll new) ∨
      exists message, (program.msgq uart).get =
        some (message, ((dualUart ready).step program event).msgq uart) := by
  cases event with
  | interrupt invocation =>
      left
      change exists new, (program.interrupt invocation).msgq uart = _
      unfold Program.interrupt
      by_cases same : uart = invocation.uart
      · subst same
        exact ⟨_, Function.update_self _ _ _⟩
      · exact ⟨[], Function.update_of_ne same _ _⟩
  | print wire =>
      change (exists new, (program.print wire).msgq uart = _) ∨
        exists message, _ = some (message, (program.print wire).msgq uart)
      unfold Program.print
      cases program.printing wire with
      | cons c rest => exact .inl ⟨[], rfl⟩
      | nil =>
          cases waiting : (program.msgq wire.other).get with
          | none => exact .inl ⟨[], rfl⟩
          | some taken =>
              rcases taken with ⟨message, msgq⟩
              by_cases same : uart = wire.other
              · subst same
                right
                simp only [Function.update_self]
                exact ⟨message, waiting⟩
              · left
                exact ⟨[], Function.update_of_ne same _ _⟩
  | main =>
      left
      refine ⟨[], ?_⟩
      change (program.main ready).msgq uart = program.msgq uart
      unfold Program.main
      split
      · rfl
      · split <;> rfl
      · rfl
      · rfl

section Delivered

variable (ready : Uart -> Bool) (events : List Event) (uart : Uart)

/-- The messages that a handler has offered never exceed those that have been taken
by more than the places of the queue. -/
def NeverFull : Prop :=
  forall before, before <+: events ->
    ((DualUart.run (schedule before)).offers uart).length ≤
      (((dualUart ready).run before).msgq uart).taken.length + 10

/-- A run loses no message of a UART exactly when the thread that prints them never
falls more than ten messages behind. -/
theorem lossless_iff :
    (((dualUart ready).run events).msgq uart).Lossless <-> NeverFull ready events uart := by
  have offered : forall before, (((dualUart ready).run before).msgq uart).offered =
      (DualUart.run (schedule before)).offers uart := by
    intro before
    have delivers := delivers_run ready before
    rw [delivers.offered, delivers.rx]
  induction events using List.reverseRecOn with
  | nil =>
      apply iff_of_true rfl
      intro before isPrefix
      rw [List.prefix_nil.mp isPrefix, ← offered]
      exact Nat.zero_le _
  | append_singleton events event inductionHypothesis =>
      have lossless_of_later : (((dualUart ready).run (events ++ [event])).msgq uart).Lossless ->
          (((dualUart ready).run events).msgq uart).Lossless := by
        rw [Machine.run_concat]
        intro lossless
        rcases msgq_step ready ((dualUart ready).run events) event uart with
          ⟨new, put⟩ | ⟨message, got⟩
        · rw [put] at lossless
          exact Mailbox.lossless_of_putAll lossless
        · rcases Mailbox.get_spec got with ⟨_, _, sameOffered, sameAccepted⟩
          unfold Mailbox.Lossless at lossless ⊢
          rw [← sameOffered, ← sameAccepted]
          exact lossless
      constructor
      · intro lossless before isPrefix
        rcases List.prefix_concat_iff.mp isPrefix with whole | shorter
        · rw [whole, ← offered, Mailbox.length_offered lossless]
          exact Nat.add_le_add_left (Mailbox.fits _) _
        · exact inductionHypothesis.mp (lossless_of_later lossless) before shorter
      · intro neverFull
        have lossless := inductionHypothesis.mpr fun before isPrefix =>
          neverFull before (isPrefix.trans (List.prefix_append _ _))
        have room := neverFull (events ++ [event]) (List.prefix_refl _)
        rw [← offered] at room
        rw [Machine.run_concat] at room ⊢
        rcases msgq_step ready ((dualUart ready).run events) event uart with
          ⟨new, put⟩ | ⟨message, got⟩
        · rw [put] at room ⊢
          apply (Mailbox.putAll_lossless_iff lossless new).mpr
          rw [Mailbox.putAll_offered, Mailbox.putAll_taken, List.length_append] at room
          exact room
        · rcases Mailbox.get_spec got with ⟨_, _, sameOffered, sameAccepted⟩
          unfold Mailbox.Lossless at lossless ⊢
          rw [sameOffered, sameAccepted]
          exact lossless

end Delivered

/-- What the thread of a UART has written and has in hand are the frames of the
messages that it has taken; these and the at most ten that wait are, in order, among
the messages that the handler of the other UART has offered.  They are all of these
exactly when the thread has never fallen more than ten messages behind. -/
theorem delivered_inOrder (ready : Uart -> Bool) (events : List Event) (uart : Uart) :
    let program := (dualUart ready).run events
    let msgq := program.msgq uart.other
    let offers := (DualUart.run (schedule events)).offers uart.other
    wroteBy .thread (program.written uart) ++ program.printing uart =
        msgq.taken.flatMap (frame uart) ∧
      msgq.items.length ≤ 10 ∧ (msgq.taken ++ msgq.items).Sublist offers ∧
      (msgq.taken ++ msgq.items = offers <-> NeverFull ready events uart.other) := by
  have delivers := delivers_run ready events
  have lossless := lossless_iff ready events uart.other
  unfold Mailbox.Lossless at lossless
  rw [Mailbox.balance, delivers.offered, delivers.rx] at lossless
  refine ⟨delivers.printed uart, Mailbox.fits _, ?_, lossless⟩
  rw [← Mailbox.balance, ← delivers.rx, ← delivers.offered]
  exact Mailbox.chosen _

/-! ## From text to text -/

/-- The handler of a UART offers its lines unaltered: UART1 cuts none of UART0, and
those of UART1 never get shorter. -/
def Unaltered (arrived : List (Uart × UInt8)) : Uart -> Prop
  | .uart0 => ¬ CompletesStruck arrived
  | .uart1 => NeverShorter (linesOf .uart1 arrived)

theorem strings_eq_linesOf {arrived : List (Uart × UInt8)} {uart : Uart}
    (noNul : 0 ∉ stream uart arrived) (unaltered : Unaltered arrived uart) :
    (takeAll arrived).strings uart = linesOf uart arrived := by
  cases uart with
  | uart0 => rw [(follows_takeAll arrived).spared unaltered, map_cut_linesOf noNul]
  | uart1 =>
      rw [(leaves_takeAll arrived noNul).strings]
      exact pages_nil_eq_iff.mpr unaltered

theorem strings_eq_map (rx : Receiver) (uart : Uart) :
    rx.strings uart = (rx.offers uart).map cString := by
  cases uart <;> rfl

theorem flatMap_frame (uart : Uart) (messages : List Message) :
    messages.flatMap (frame uart) = (messages.map cString).flatMap (lineFrame uart) := by
  rw [List.flatMap_map]
  congr 1
  funext message
  exact frame_eq uart message

/-- Each line of the text that one UART receives is printed on the other, once and
in order, if no line is altered, no line end on a blank line is followed by another,
and the thread has never fallen behind and has caught up. -/
theorem text_delivered {ready : Uart -> Bool} {events : List Event} {uart : Uart}
    (noNul : 0 ∉ stream uart.other (arrivals (schedule events)))
    (unaltered : Unaltered (arrivals (schedule events)) uart.other)
    (noBlank : ¬ lineRule.CompletesBlank (stream uart.other (arrivals (schedule events))))
    (neverFull : NeverFull ready events uart.other)
    (nothingWaits : (((dualUart ready).run events).msgq uart.other).items = [])
    (nothingInHand : ((dualUart ready).run events).printing uart = []) :
    wroteBy .thread (((dualUart ready).run events).written uart) =
      (lineRule.linesOfText (stream uart.other (arrivals (schedule events)))).flatMap
        (lineFrame uart) := by
  have delivers := delivers_run ready events
  have lossless := (lossless_iff ready events uart.other).mpr neverFull
  have printed := delivers.printed uart
  rw [nothingInHand, List.append_nil, Mailbox.taken_eq_accepted nothingWaits, lossless,
    delivers.offered, delivers.rx, flatMap_frame, ← strings_eq_map, run_eq_takeAll,
    strings_eq_linesOf noNul unaltered] at printed
  rw [printed]
  exact congrArg (List.flatMap (lineFrame uart))
    ((lineRule.completed_eq_linesOfText_iff (by decide) _).mpr noBlank)

/-- A line is typed while `main` has not yet greeted, and printed. -/
def typedRun : List Event :=
  List.replicate 4 .main ++ [.interrupt ⟨.uart0, true, [104, 105]⟩, .main,
    .interrupt ⟨.uart0, true, [13]⟩] ++ List.replicate 17 (.print .uart1)

theorem typedRun_delivered :
    wroteBy .thread (((dualUart fun _ => true).run typedRun).written .uart1) =
      (lineRule.linesOfText [104, 105, 13]).flatMap (lineFrame .uart1) := by
  have neverFull : NeverFull (fun _ => true) typedRun .uart0 :=
    (lossless_iff _ _ _).mp (by decide +kernel)
  apply text_delivered _ _ _ neverFull
  · decide +kernel
  · decide +kernel
  · decide +kernel
  · change ¬ CompletesStruck _
    decide +kernel
  · decide +kernel

/-! ## What `main` writes -/

/-- What a part of `main` writes to a UART. -/
def mainWrites (uart : Uart) (statements : List Statement) : List UInt8 :=
  statements.filterMap fun statement =>
    match statement with
    | .pollOut wire c => if wire = uart then some c else none
    | .check _ | .enable _ => none

theorem mainWrites_append (uart : Uart) (first second : List Statement) :
    mainWrites uart (first ++ second) = mainWrites uart first ++ mainWrites uart second :=
  List.filterMap_append

theorem mainWrites_pollOut (wire uart : Uart) (c : UInt8) :
    mainWrites wire [.pollOut uart c] = if wire = uart then [c] else [] := by
  by_cases same : wire = uart
  · subst same
    simp [mainWrites]
  · simp [mainWrites, same, Ne.symm same]

theorem mainWrites_mainBody (uart : Uart) : mainWrites uart mainBody = greeting uart := by
  cases uart <;> decide +kernel

/-- `main` goes on with the rest of its body. -/
def GoesOn (program : Program) (rest : List Statement) : Prop :=
  program.mainRest = rest ∧ program.console = []

/-- `main` has stopped at a check, and has said so. -/
def Stopped (ready : Uart -> Bool) (program : Program) (rest : List Statement) : Prop :=
  exists uart remaining, rest = .check uart :: remaining ∧ ready uart = false ∧
    program.mainRest = [] ∧ program.console = notFound uart

/-- `main` has come to the end of a part of its body, and stops there or goes on. -/
structure Started (ready : Uart -> Bool) (program : Program) : Prop where
  part : exists done rest, mainBody = done ++ rest ∧
    (GoesOn program rest ∨ Stopped ready program rest) ∧
    (forall uart, .check uart ∈ done -> ready uart = true) ∧
    (forall uart, program.rxEnabled uart = true -> .enable uart ∈ done) ∧
    forall uart, wroteBy .main (program.written uart) = mainWrites uart done

namespace Started

variable {ready : Uart -> Bool} {program : Program}

theorem start : Started ready Program.start where
  part := by
    refine ⟨[], mainBody, rfl, .inl ⟨rfl, rfl⟩, ?_, ?_, fun _ => rfl⟩
    · intro uart checked
      cases checked
    · intro uart enabled
      cases enabled

/-- What leaves `main` alone and writes nothing in its name. -/
theorem aside (started : Started ready program) {later : Program}
    (rest : later.mainRest = program.mainRest) (console : later.console = program.console)
    (enabled : later.rxEnabled = program.rxEnabled)
    (written : forall uart, wroteBy .main (later.written uart) =
      wroteBy .main (program.written uart)) : Started ready later := by
  rcases started.part with ⟨done, remaining, body, goesOn, checks, enables, wrote⟩
  refine ⟨done, remaining, body, ?_, checks, ?_, fun uart => (written uart).trans (wrote uart)⟩
  · unfold GoesOn Stopped at *
    rw [rest, console]
    exact goesOn
  · rw [enabled]
    exact enables

theorem print (started : Started ready program) (uart : Uart) :
    Started ready (program.print uart) := by
  unfold Program.print
  split
  · rename_i c rest _
    refine started.aside rfl rfl rfl fun wire => ?_
    change wroteBy .main ((program.uartPollOut .thread uart c).written wire) = _
    rw [wroteBy_pollOut, if_neg (fun both => nomatch both.1), List.append_nil]
  · split
    · exact started
    · exact started.aside rfl rfl rfl fun _ => rfl

theorem main (started : Started ready program) : Started ready (program.main ready) := by
  rcases started.part with ⟨done, rest, body, goesOn, checks, enables, wrote⟩
  rcases goesOn with ⟨goesOn, silent⟩ | stopped
  · cases rest with
    | nil =>
        unfold Program.main
        rw [goesOn]
        exact started
    | cons statement rest =>
        have longer : mainBody = (done ++ [statement]) ++ rest := by
          rw [body, List.append_assoc, List.singleton_append]
        cases statement with
        | check uart =>
            unfold Program.main
            rw [goesOn]
            by_cases isReady : ready uart = true
            · dsimp only
              rw [if_pos isReady]
              refine ⟨done ++ [.check uart], rest, longer, .inl ⟨rfl, silent⟩, ?_, ?_, ?_⟩
              · intro other checked
                rcases List.mem_append.mp checked with before | now
                · exact checks other before
                · cases List.mem_singleton.mp now
                  exact isReady
              · exact fun other enabled => List.mem_append_left _ (enables other enabled)
              · intro wire
                rw [mainWrites_append]
                exact (wrote wire).trans (List.append_nil _).symm
            · dsimp only
              rw [if_neg isReady]
              have said : program.console ++ notFound uart = notFound uart := by
                rw [silent, List.nil_append]
              exact ⟨done, .check uart :: rest, body,
                .inr ⟨uart, rest, rfl, Bool.eq_false_iff.mpr isReady, rfl, said⟩, checks, enables,
                wrote⟩
        | enable uart =>
            unfold Program.main
            rw [goesOn]
            refine ⟨done ++ [.enable uart], rest, longer, .inl ⟨rfl, silent⟩, ?_, ?_, ?_⟩
            · intro other checked
              rcases List.mem_append.mp checked with before | now
              · exact checks other before
              · cases List.mem_singleton.mp now
            · intro other enabled
              by_cases same : other = uart
              · subst same
                exact List.mem_append_right _ List.mem_cons_self
              · apply List.mem_append_left
                apply enables other
                exact (Function.update_of_ne same _ _).symm.trans enabled
            · intro wire
              rw [mainWrites_append]
              exact (wrote wire).trans (List.append_nil _).symm
        | pollOut uart c =>
            unfold Program.main
            rw [goesOn]
            refine ⟨done ++ [.pollOut uart c], rest, longer, .inl ⟨rfl, silent⟩, ?_, ?_, ?_⟩
            · intro other checked
              rcases List.mem_append.mp checked with before | now
              · exact checks other before
              · cases List.mem_singleton.mp now
            · exact fun other enabled => List.mem_append_left _ (enables other enabled)
            · intro wire
              change wroteBy .main ((program.uartPollOut .main uart c).written wire) = _
              rw [wroteBy_pollOut, mainWrites_append, wrote, mainWrites_pollOut]
              simp only [true_and]
  · rcases stopped with ⟨_, _, _, _, ended, _⟩
    unfold Program.main
    rw [ended]
    exact started

end Started

theorem started_run (ready : Uart -> Bool) (events : List Event) :
    Started ready ((dualUart ready).run events) := by
  induction events using List.reverseRecOn with
  | nil => exact Started.start
  | append_singleton events event inductionHypothesis =>
      rw [Machine.run_concat]
      cases event with
      | interrupt invocation => exact inductionHypothesis.aside rfl rfl rfl fun _ => rfl
      | print uart => exact inductionHypothesis.print uart
      | main => exact inductionHypothesis.main

/-- Whatever `main` has done before it found a device that is not ready, it is no more
than the first check. -/
theorem done_of_notReady {ready : Uart -> Bool} {done rest : List Statement}
    (body : mainBody = done ++ rest)
    (checks : forall uart, .check uart ∈ done -> ready uart = true)
    {uart : Uart} (notReady : ready uart = false) : done = [] ∨ done = [.check .uart0] := by
  have notChecked : .check uart ∉ done := by
    intro checked
    rw [checks uart checked] at notReady
    cases notReady
  have isPrefix : done <+: mainBody := ⟨rest, body.symm⟩
  rw [List.prefix_iff_eq_take] at isPrefix
  have short : done.length < 2 := by
    by_contra long
    have checks : [.check .uart0, .check .uart1] <+: done := by
      rw [isPrefix]
      have firstTwo : mainBody.take 2 <+: mainBody.take done.length :=
        List.take_prefix_take_left (Nat.not_lt.mp long)
      exact firstTwo
    apply notChecked
    apply checks.subset
    cases uart <;> decide
  rcases Nat.lt_or_ge done.length 1 with empty | one
  · left
    exact List.length_eq_zero_iff.mp (Nat.lt_one_iff.mp empty)
  · right
    rw [isPrefix, Nat.le_antisymm (Nat.le_of_lt_succ short) one]
    rfl

/-- What `main` has said with `printk` when it ends. -/
def complaint (ready : Uart -> Bool) : List UInt8 :=
  if ready .uart0 = true then
    if ready .uart1 = true then [] else notFound .uart1
  else notFound .uart0

/-- `main` names the first device that is not ready, once, and then ends. -/
theorem Started.console {ready : Uart -> Bool} {program : Program}
    (started : Started ready program) :
    program.console = if program.mainRest = [] then complaint ready else [] := by
  rcases started.part with ⟨done, rest, body, goesOn, checks, _, _⟩
  rcases goesOn with ⟨goesOn, silent⟩ | ⟨uart, remaining, rfl, notReady, ended, said⟩
  · rw [silent, goesOn]
    split
    · rename_i nothingLeft
      rw [nothingLeft, List.append_nil] at body
      have checked : forall uart, ready uart = true := by
        intro uart
        apply checks
        rw [← body]
        cases uart <;> decide +kernel
      unfold complaint
      rw [if_pos (checked .uart0), if_pos (checked .uart1)]
    · rfl
  · rw [said, if_pos ended]
    rcases done_of_notReady body checks notReady with rfl | rfl
    · have first : mainBody.head? = some (.check uart) := by rw [body]; rfl
      cases first
      exact (if_neg (ne_true_of_eq_false notReady)).symm
    · have second : mainBody[1]? = some (.check uart) := by rw [body]; rfl
      cases second
      unfold complaint
      rw [if_pos (checks .uart0 List.mem_cons_self), if_neg (ne_true_of_eq_false notReady)]

theorem wroteBy_eq_nil {written : List (Writer × UInt8)}
    (nothing : forall writer, wroteBy writer written = []) : written = [] := by
  cases written with
  | nil => rfl
  | cons entry others =>
      have wrote := nothing entry.1
      simp [wroteBy] at wrote

/-- `main` does not come to enable the interrupts. -/
theorem schedule_of_notReady {ready : Uart -> Bool} {events : List Event}
    (allowed : (dualUart ready).Allowed events) {uart : Uart} (notReady : ready uart = false) :
    schedule events = [] := by
  induction events using List.reverseRecOn with
  | nil => rfl
  | append_singleton events event inductionHypothesis =>
      rcases Machine.each_concat.mp allowed with ⟨allowedBefore, possible⟩
      rw [Delivers.schedule_concat, inductionHypothesis allowedBefore]
      cases event with
      | print wire => rfl
      | main => rfl
      | interrupt invocation =>
          rcases (started_run ready events).part with ⟨done, rest, body, _, checks, enables, _⟩
          have enabled := enables invocation.uart possible
          rcases done_of_notReady body checks notReady with nothing | first
          · rw [nothing] at enabled
            cases enabled
          · rw [first] at enabled
            cases List.mem_singleton.mp enabled

/-- Without an interrupt nothing is printed. -/
theorem Delivers.quietThread {events : List Event} {program : Program}
    (delivers : Delivers events program) (quiet : schedule events = []) (uart : Uart) :
    wroteBy .thread (program.written uart) = [] := by
  have offered : (program.msgq uart.other).offered = [] := by
    rw [delivers.offered, delivers.rx, quiet]
    cases uart <;> rfl
  have accepted := List.sublist_nil.mp (offered ▸ (program.msgq uart.other).chosen)
  have balance := (program.msgq uart.other).balance
  rw [accepted] at balance
  have printed := delivers.printed uart
  rw [(List.append_eq_nil_iff.mp balance.symm).1] at printed
  exact (List.append_eq_nil_iff.mp printed).1

/-- What `main` has written to a UART is the beginning of its greeting, and all of it
once `main` has ended, if both devices are ready.  If one of them is not, then no
interrupt comes in, and neither `main` nor a thread ever writes to a UART with
`uart_poll_out`.  With `printk` it says nothing but, at its end, that the first such
device is not found. -/
theorem greeted {ready : Uart -> Bool} {events : List Event}
    (allowed : (dualUart ready).Allowed events) (uart : Uart) :
    let program := (dualUart ready).run events
    wroteBy .main (program.written uart) <+: greeting uart ∧
      ((forall wire, ready wire = true) -> program.mainRest = [] ->
        wroteBy .main (program.written uart) = greeting uart) ∧
      (forall wire, ready wire = false -> schedule events = [] ∧ program.written uart = []) ∧
      program.console = if program.mainRest = [] then complaint ready else [] := by
  have started := started_run ready events
  rcases started.part with ⟨done, rest, body, goesOn, checks, _, wrote⟩
  refine ⟨?_, ?_, ?_, started.console⟩
  · rw [wrote, ← mainWrites_mainBody, body, mainWrites_append]
    exact List.prefix_append _ _
  · intro allReady ended
    have nothingLeft : rest = [] := by
      rcases goesOn with ⟨same, _⟩ | ⟨wire, _, _, notReady, _⟩
      · exact same.symm.trans ended
      · rw [allReady wire] at notReady
        cases notReady
    rw [wrote, ← mainWrites_mainBody, body, nothingLeft, List.append_nil]
  · intro wire notReady
    have quiet := schedule_of_notReady allowed notReady
    refine ⟨quiet, wroteBy_eq_nil fun writer => ?_⟩
    cases writer with
    | main =>
        rw [wrote]
        rcases done_of_notReady body checks notReady with nothing | first
        · rw [nothing]
          rfl
        · rw [first]
          rfl
    | thread => exact (delivers_run ready events).quietThread quiet uart

instance (ready : Uart -> Bool) (program : Program) (event : Event) :
    Decidable ((dualUart ready).possible program event) :=
  match event with
  | .interrupt _ => inferInstanceAs (Decidable (_ = _))
  | .print _ | .main => .isTrue trivial

/-- The greeting begins while a line comes in. -/
theorem typedRun_greeted :
    wroteBy .main (((dualUart fun _ => true).run typedRun).written .uart0) = literal "H" ∧
      wroteBy .main (((dualUart fun _ => true).run typedRun).written .uart0) <+:
        greeting .uart0 := by
  have allowed : (dualUart fun _ => true).Each (dualUart fun _ => true).possible typedRun := by
    decide +kernel
  exact ⟨by decide +kernel, (greeted allowed .uart0).1⟩

end DualUart
end NrfExamples
