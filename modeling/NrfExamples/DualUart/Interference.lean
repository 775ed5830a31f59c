import NrfExamples.DualUart.Receiver
import NrfExamples.Traces.Past

namespace NrfExamples
namespace DualUart

open Traces

/-!
# Interference between the two handlers

`uart1_cb` terminates its line in the buffer of UART0.  The line that UART0 is
collecting is then cut at the position of UART1, unless that position is not
yet reached or lies behind a NUL.  The messages of UART0 are those of its own
characters exactly as long as no such line is completed; those of UART1 always
are.
-/

/-- The line protocol that both handlers follow. -/
def lineRule : LineRule UInt8 :=
  ⟨endsLine, MSG_SIZE - 1⟩

/-- The line that a UART has under way after these arrivals. -/
def lineOf (uart : Uart) (arrived : List (Uart × UInt8)) : List UInt8 :=
  (lineRule.assemble (stream uart arrived)).line

/-- The lines that a UART has completed. -/
def linesOf (uart : Uart) (arrived : List (Uart × UInt8)) : List (List UInt8) :=
  (lineRule.assemble (stream uart arrived)).completed

/-- The messages offered to the queue of a UART, read as C strings. -/
def Receiver.strings (rx : Receiver) : Uart -> List (List UInt8)
  | .uart0 => rx.uart0Msgq.map cString
  | .uart1 => rx.uart1Msgq.map cString

/-- The same handler on the same characters while the other UART is silent. -/
def alone (uart : Uart) (chars : List UInt8) : Receiver :=
  run [⟨uart, true, chars⟩]

/-- The messages of each UART depend on its own characters only. -/
def NoInterference (schedule : List Invocation) : Prop :=
  forall uart, (run schedule).strings uart =
    (alone uart (stream uart (arrivals schedule))).strings uart

/-- UART1 ends a line at a position inside what UART0 has collected, before any
NUL in it. -/
def Strikes (before : List (Uart × UInt8)) (arrival : Uart × UInt8) : Prop :=
  arrival.1 = .uart1 ∧ endsLine arrival.2 = true ∧ 0 < (lineOf .uart1 before).length ∧
    (lineOf .uart1 before).length < (cut (· == 0) (lineOf .uart0 before)).length

/-- The arrival does not end the line of UART0. -/
def SameLine (arrival : Uart × UInt8) : Prop :=
  arrival.1 = .uart0 -> endsLine arrival.2 = false

/-- The line that UART0 has under way has been struck. -/
def Struck (arrived : List (Uart × UInt8)) : Prop :=
  Since SameLine Strikes arrived

/-- UART0 completes a line that has been struck. -/
def CompletesStruck (arrived : List (Uart × UInt8)) : Prop :=
  Once (fun before arrival =>
    arrival.1 = .uart0 ∧ endsLine arrival.2 = true ∧ Struck before) arrived

/-! ## One more arrival -/

section Concat

variable {arrived : List (Uart × UInt8)} {c : UInt8}

theorem assemble_own (uart : Uart) :
    lineRule.assemble (stream uart (arrived ++ [(uart, c)])) =
      lineRule.feed (lineRule.assemble (stream uart arrived)) c := by
  rw [stream_concat, if_pos rfl]
  exact lineRule.assemble_concat _ c

theorem stream_other {uart other : Uart} (different : other ≠ uart) :
    stream uart (arrived ++ [(other, c)]) = stream uart arrived := by
  rw [stream_concat, if_neg different, List.append_nil]

theorem struck_uart0 :
    Struck (arrived ++ [(.uart0, c)]) <-> Struck arrived ∧ endsLine c = false := by
  unfold Struck
  rw [since_concat]
  constructor
  · intro either
    rcases either with ⟨other, _⟩ | ⟨before, stays⟩
    · cases other
    · exact ⟨before, stays rfl⟩
  · intro both
    exact .inr ⟨both.1, fun _ => both.2⟩

theorem struck_uart1 :
    Struck (arrived ++ [(.uart1, c)]) <-> Strikes arrived (.uart1, c) ∨ Struck arrived := by
  unfold Struck
  rw [since_concat]
  apply or_congr Iff.rfl
  constructor
  · exact And.left
  · exact fun before => ⟨before, fun own => nomatch own⟩

theorem completesStruck_uart0 :
    CompletesStruck (arrived ++ [(.uart0, c)]) <->
      CompletesStruck arrived ∨ (endsLine c = true ∧ Struck arrived) := by
  unfold CompletesStruck
  rw [once_concat]
  apply or_congr Iff.rfl
  exact ⟨And.right, fun both => ⟨rfl, both⟩⟩

theorem completesStruck_uart1 :
    CompletesStruck (arrived ++ [(.uart1, c)]) <-> CompletesStruck arrived := by
  unfold CompletesStruck
  rw [once_concat]
  constructor
  · intro either
    rcases either with before | ⟨other, _⟩
    · exact before
    · cases other
  · exact Or.inl

end Concat

/-! ## The buffers -/

/-- What a buffer holds of a line. -/
def held (buffer : Message) (pos : Fin MSG_SIZE) : List UInt8 :=
  buffer.toList.take pos

/-- The terminator makes the message read like what was held. -/
theorem cString_terminated (buffer : Message) (pos : Fin MSG_SIZE) :
    cString (buffer.set pos 0 pos.isLt) = cut (· == 0) (held buffer pos) := by
  unfold cString held
  rw [Vector.toList_set, cut_set rfl (by rw [Vector.length_toList]; exact pos.isLt), take_cut]

theorem held_store (buffer : Message) (pos : Fin MSG_SIZE) (c : UInt8)
    (room : pos.val + 1 < MSG_SIZE) :
    held (buffer.set pos c pos.isLt) ⟨pos.val + 1, room⟩ = held buffer pos ++ [c] := by
  have inside : pos.val < (buffer.toList.set pos c).length := by
    rw [List.length_set, Vector.length_toList]
    exact pos.isLt
  unfold held
  rw [Vector.toList_set, ← List.take_append_getElem inside, List.getElem_set_self, List.take_set,
    List.set_eq_of_length_le (List.length_take_le _ _)]

/-- A terminator at any position. -/
theorem held_set (buffer : Message) (pos other : Fin MSG_SIZE) :
    held (buffer.set other 0 other.isLt) pos = (held buffer pos).set other 0 := by
  unfold held
  rw [Vector.toList_set, List.take_set]

/-! ## What the handlers keep of the arrivals -/

/-- Both positions are those of the lines under way; the buffer of UART0 holds a
copy of its line, hit if the line has been struck; and its messages read like
the completed lines unless a struck line has been completed. -/
structure Follows (arrived : List (Uart × UInt8)) (rx : Receiver) : Prop where
  pos0 : rx.rx0BufPos.val = (lineOf .uart0 arrived).length
  pos1 : rx.rx1BufPos.val = (lineOf .uart1 arrived).length
  copy : Copies (· == 0) (held rx.rx0Buf rx.rx0BufPos) (lineOf .uart0 arrived) (Struck arrived)
  count : rx.uart0Msgq.length = (linesOf .uart0 arrived).length
  spared : ¬ CompletesStruck arrived ->
    rx.strings .uart0 = (linesOf .uart0 arrived).map (cut (· == 0))
  short : CompletesStruck arrived ->
    rx.strings .uart0 ≠ (linesOf .uart0 arrived).map (cut (· == 0))

theorem Follows.zero : Follows [] Receiver.zero where
  pos0 := rfl
  pos1 := rfl
  copy := Copies.empty.congr ⟨False.elim, fun struck => not_since_nil struck⟩
  count := rfl
  spared := fun _ => rfl
  short := fun completes => absurd completes not_once_nil

section Steps

variable {arrived : List (Uart × UInt8)} {rx : Receiver} {c : UInt8}

/-- UART0 completes its line. -/
theorem Follows.end0 (follows : Follows arrived rx)
    (ends : endsLine c = true ∧ 0 < rx.rx0BufPos.val) :
    Follows (arrived ++ [(.uart0, c)]) (uart0Char rx c) := by
  have completes : lineRule.assemble (stream .uart0 (arrived ++ [(.uart0, c)])) =
      ⟨[], linesOf .uart0 arrived ++ [lineOf .uart0 arrived]⟩ :=
    (assemble_own .uart0).trans (LineRule.feed_of_end ends.1 (follows.pos0 ▸ ends.2))
  have line : lineOf .uart0 (arrived ++ [(.uart0, c)]) = [] :=
    congrArg Assembly.line completes
  have lines : linesOf .uart0 (arrived ++ [(.uart0, c)]) =
      linesOf .uart0 arrived ++ [lineOf .uart0 arrived] :=
    congrArg Assembly.completed completes
  have sameLength : (rx.strings .uart0).length =
      ((linesOf .uart0 arrived).map (cut (· == 0))).length := by
    rw [List.length_map, ← follows.count]
    exact List.length_map _
  rw [uart0Char_of_end ends]
  have strings : (rx.uart0Msgq ++ [rx.rx0Buf.set rx.rx0BufPos 0]).map cString =
      rx.strings .uart0 ++ [cut (· == 0) (held rx.rx0Buf rx.rx0BufPos)] := by
    rw [← cString_terminated]
    exact List.map_append
  constructor
  · exact congrArg List.length line.symm
  · unfold lineOf
    rw [stream_other (by decide)]
    exact follows.pos1
  · rw [line]
    apply Copies.empty.congr
    constructor
    · exact False.elim
    · intro struck
      have goesOn := (struck_uart0.mp struck).2
      rw [ends.1] at goesOn
      cases goesOn
  · rw [lines, List.length_append, List.length_append, follows.count]
    rfl
  · intro notCompletes
    rw [completesStruck_uart0] at notCompletes
    rcases not_or.mp notCompletes with ⟨notBefore, notNow⟩
    have reads := follows.copy.spared fun struck => notNow ⟨ends.1, struck⟩
    rw [lines, List.map_append, ← follows.spared notBefore]
    apply strings.trans
    rw [reads]
    rfl
  · intro completesNow same
    rw [lines, List.map_append] at same
    rcases List.append_inj (strings.symm.trans same) sameLength with ⟨sameBefore, sameLast⟩
    rcases completesStruck_uart0.mp completesNow with before | ⟨_, struck⟩
    · exact follows.short before sameBefore
    · have shorter := follows.copy.short struck
      rw [List.singleton_inj.mp sameLast] at shorter
      exact Nat.lt_irrefl _ shorter

/-- A character that does not complete the line leaves what has been completed
alone. -/
theorem Follows.more0 (follows : Follows arrived rx) {later : Receiver}
    (notEnd : ¬ (endsLine c = true ∧ 0 < rx.rx0BufPos.val))
    (pos0 : later.rx0BufPos.val = (lineOf .uart0 (arrived ++ [(.uart0, c)])).length)
    (pos1 : later.rx1BufPos = rx.rx1BufPos)
    (copy : Copies (· == 0) (held later.rx0Buf later.rx0BufPos)
      (lineOf .uart0 (arrived ++ [(.uart0, c)])) (Struck arrived))
    (lines : linesOf .uart0 (arrived ++ [(.uart0, c)]) = linesOf .uart0 arrived)
    (queue : later.uart0Msgq = rx.uart0Msgq) :
    Follows (arrived ++ [(.uart0, c)]) later := by
  have notStruck : endsLine c = true -> ¬ Struck arrived := by
    intro ends struck
    have shorter := follows.copy.short struck
    have bounded := length_cut_le (· == 0) (lineOf .uart0 arrived)
    have nonempty := follows.pos0
    exact notEnd ⟨ends, by omega⟩
  have completes : CompletesStruck (arrived ++ [(.uart0, c)]) <-> CompletesStruck arrived := by
    rw [completesStruck_uart0]
    exact or_iff_left fun both => notStruck both.1 both.2
  have strings : later.strings .uart0 = rx.strings .uart0 := congrArg (List.map cString) queue
  constructor
  · exact pos0
  · unfold lineOf
    rw [stream_other (by decide), pos1]
    exact follows.pos1
  · apply copy.congr
    rw [struck_uart0]
    constructor
    · intro struck
      exact ⟨struck, Bool.eq_false_iff.mpr fun ends => notStruck ends struck⟩
    · exact And.left
  · rw [lines, queue]
    exact follows.count
  · rw [completes, strings, lines]
    exact follows.spared
  · rw [completes, strings, lines]
    exact follows.short

theorem Follows.uart0 (follows : Follows arrived rx) :
    Follows (arrived ++ [(.uart0, c)]) (uart0Char rx c) := by
  by_cases ends : endsLine c = true ∧ 0 < rx.rx0BufPos.val
  · exact follows.end0 ends
  · have notEnd : ¬ (lineRule.ends c = true ∧ 0 < (lineOf .uart0 arrived).length) := by
      rw [← follows.pos0]
      exact ends
    by_cases room : rx.rx0BufPos.val < MSG_SIZE - 1
    · have grows := (assemble_own .uart0).trans (LineRule.feed_of_room notEnd (follows.pos0 ▸ room))
      have line : lineOf .uart0 (arrived ++ [(.uart0, c)]) = lineOf .uart0 arrived ++ [c] :=
        congrArg Assembly.line grows
      rw [uart0Char_of_room ends room]
      apply follows.more0 ends
      · rw [line, List.length_append, ← follows.pos0]
        rfl
      · rfl
      · rw [line, held_store]
        exact follows.copy.push c
      · unfold linesOf
        rw [grows]
      · rfl
    · have stays := (assemble_own .uart0).trans (LineRule.feed_of_full notEnd (follows.pos0 ▸ room))
      have line : lineOf .uart0 (arrived ++ [(.uart0, c)]) = lineOf .uart0 arrived :=
        congrArg Assembly.line stays
      rw [uart0Char_of_full ends room]
      apply follows.more0 ends
      · rw [line]
        exact follows.pos0
      · rfl
      · rw [line]
        exact follows.copy
      · exact congrArg Assembly.completed stays
      · rfl

/-- A character of UART1 leaves the lines and the messages of UART0 alone. -/
theorem Follows.aside (follows : Follows arrived rx) {later : Receiver}
    (pos0 : later.rx0BufPos = rx.rx0BufPos)
    (pos1 : later.rx1BufPos.val = (lineOf .uart1 (arrived ++ [(.uart1, c)])).length)
    (copy : Copies (· == 0) (held later.rx0Buf rx.rx0BufPos) (lineOf .uart0 arrived)
      (Struck (arrived ++ [(.uart1, c)])))
    (queue : later.uart0Msgq = rx.uart0Msgq) :
    Follows (arrived ++ [(.uart1, c)]) later := by
  have line : lineOf .uart0 (arrived ++ [(.uart1, c)]) = lineOf .uart0 arrived := by
    unfold lineOf
    rw [stream_other (by decide)]
  have lines : linesOf .uart0 (arrived ++ [(.uart1, c)]) = linesOf .uart0 arrived := by
    unfold linesOf
    rw [stream_other (by decide)]
  have strings : later.strings .uart0 = rx.strings .uart0 := congrArg (List.map cString) queue
  constructor
  · rw [line, pos0]
    exact follows.pos0
  · exact pos1
  · rw [line, pos0]
    exact copy
  · rw [lines, queue]
    exact follows.count
  · rw [completesStruck_uart1, strings, lines]
    exact follows.spared
  · rw [completesStruck_uart1, strings, lines]
    exact follows.short

/-- UART1 touches the buffer of UART0 only where it ends a line. -/
theorem Follows.uart1 (follows : Follows arrived rx) :
    Follows (arrived ++ [(.uart1, c)]) (uart1Char rx c) := by
  have strikes : Strikes arrived (.uart1, c) <-> (endsLine c = true ∧ 0 < rx.rx1BufPos.val) ∧
      rx.rx1BufPos.val < (cut (· == 0) (lineOf .uart0 arrived)).length := by
    unfold Strikes
    rw [follows.pos1, and_assoc]
    exact and_iff_right rfl
  by_cases ends : endsLine c = true ∧ 0 < rx.rx1BufPos.val
  · have completes : lineRule.assemble (stream .uart1 (arrived ++ [(.uart1, c)])) =
        ⟨[], linesOf .uart1 arrived ++ [lineOf .uart1 arrived]⟩ :=
      (assemble_own .uart1).trans (LineRule.feed_of_end ends.1 (follows.pos1 ▸ ends.2))
    rw [uart1Char_of_end ends]
    apply follows.aside
    · rfl
    · exact congrArg (fun assembly => assembly.line.length) completes.symm
    · rw [held_set]
      apply (follows.copy.mark rfl rx.rx1BufPos).congr
      rw [struck_uart1, strikes]
      exact or_congr (and_iff_right ends).symm Iff.rfl
    · rfl
  · have notEnd : ¬ (lineRule.ends c = true ∧ 0 < (lineOf .uart1 arrived).length) := by
      rw [← follows.pos1]
      exact ends
    have unstruck : Struck arrived <-> Struck (arrived ++ [(.uart1, c)]) := by
      rw [struck_uart1, strikes]
      exact (or_iff_right fun both => ends both.1).symm
    by_cases room : rx.rx1BufPos.val < MSG_SIZE - 1
    · have grows := (assemble_own .uart1).trans (LineRule.feed_of_room notEnd (follows.pos1 ▸ room))
      rw [uart1Char_of_room ends room]
      apply follows.aside
      · rfl
      · unfold lineOf
        rw [grows, List.length_append]
        exact congrArg (· + 1) follows.pos1
      · exact follows.copy.congr unstruck
      · rfl
    · have stays := (assemble_own .uart1).trans (LineRule.feed_of_full notEnd (follows.pos1 ▸ room))
      rw [uart1Char_of_full ends room]
      apply follows.aside
      · rfl
      · unfold lineOf
        rw [stays]
        exact follows.pos1
      · exact follows.copy.congr unstruck
      · rfl

end Steps

theorem follows_takeAll (arrived : List (Uart × UInt8)) : Follows arrived (takeAll arrived) := by
  induction arrived using List.reverseRecOn with
  | nil => exact Follows.zero
  | append_singleton arrived arrival inductionHypothesis =>
      rw [takeAll_concat]
      rcases arrival with ⟨uart, c⟩
      cases uart with
      | uart0 => exact inductionHypothesis.uart0
      | uart1 => exact inductionHypothesis.uart1

/-! ## Each UART alone -/

/-- Two receivers agree on what `uart1_cb` reads and offers. -/
structure Agrees (first second : Receiver) : Prop where
  pos : first.rx1BufPos = second.rx1BufPos
  buf : first.rx1Buf = second.rx1Buf
  queue : first.uart1Msgq = second.uart1Msgq

theorem Agrees.uart0 {first second : Receiver} (agrees : Agrees first second) (c : UInt8) :
    Agrees (uart0Char first c) second := by
  unfold uart0Char
  repeat' split
  all_goals exact ⟨agrees.pos, agrees.buf, agrees.queue⟩

theorem Agrees.uart1 {first second : Receiver} (agrees : Agrees first second) (c : UInt8) :
    Agrees (uart1Char first c) (uart1Char second c) := by
  rcases first with ⟨_, buf, _, pos, _, queue⟩
  rcases second with ⟨_, _, _, _, _, _⟩
  rcases agrees with ⟨rfl, rfl, rfl⟩
  unfold uart1Char
  repeat' split
  all_goals exact ⟨rfl, rfl, rfl⟩

/-- UART1 reads nothing that UART0 writes. -/
theorem agrees_alone (arrived : List (Uart × UInt8)) :
    Agrees (takeAll arrived) (takeAll ((stream .uart1 arrived).map fun c => (.uart1, c))) := by
  induction arrived using List.reverseRecOn with
  | nil => exact ⟨rfl, rfl, rfl⟩
  | append_singleton arrived arrival inductionHypothesis =>
      rcases arrival with ⟨uart, c⟩
      rw [takeAll_concat]
      cases uart with
      | uart0 =>
          rw [stream_other (by decide)]
          exact inductionHypothesis.uart0 c
      | uart1 =>
          rw [stream_concat, if_pos rfl, List.map_append, List.map_singleton, takeAll_concat]
          exact inductionHypothesis.uart1 c

theorem alone_eq (uart : Uart) (chars : List UInt8) :
    alone uart chars = takeAll (chars.map fun c => (uart, c)) := by
  unfold alone
  rw [run_eq_takeAll]
  congr 1
  exact List.flatMap_singleton ..

/-- Alone, UART0 is never struck. -/
theorem not_completesStruck_alone (chars : List UInt8) :
    ¬ CompletesStruck (chars.map fun c => (.uart0, c)) := by
  have onlyUart0 : forall arrived : List (Uart × UInt8),
      (forall arrival, arrival ∈ arrived -> arrival.1 = .uart0) -> ¬ Struck arrived := by
    intro arrived own struck
    rcases struck with ⟨before, arrival, after, rfl, strikes, _⟩
    have other := own arrival (List.mem_append_right before List.mem_cons_self)
    rw [strikes.1] at other
    cases other
  intro completes
  rcases completes with ⟨before, arrival, after, split, _, _, struck⟩
  apply onlyUart0 before _ struck
  intro other member
  have isOwn : other ∈ chars.map fun c => (Uart.uart0, c) :=
    split ▸ List.mem_append_left _ member
  rcases List.mem_map.mp isOwn with ⟨c, _, rfl⟩
  rfl

/-- UART0 alone offers the lines of its characters. -/
theorem alone_strings (arrived : List (Uart × UInt8)) :
    (alone .uart0 (stream .uart0 arrived)).strings .uart0 =
      (linesOf .uart0 arrived).map (cut (· == 0)) := by
  rw [alone_eq]
  have follows := follows_takeAll ((stream .uart0 arrived).map fun c => (.uart0, c))
  rw [follows.spared (not_completesStruck_alone _)]
  unfold linesOf
  rw [stream_alone]

/-- The two UARTs are independent of each other exactly when UART0 never
completes a line that UART1 has struck. -/
theorem noInterference_iff (schedule : List Invocation) :
    NoInterference schedule <-> ¬ CompletesStruck (arrivals schedule) := by
  have follows := follows_takeAll (arrivals schedule)
  constructor
  · intro independent completes
    apply follows.short completes
    rw [← alone_strings, ← run_eq_takeAll]
    exact independent .uart0
  · intro notCompletes uart
    rw [run_eq_takeAll]
    cases uart with
    | uart0 => rw [follows.spared notCompletes, alone_strings]
    | uart1 =>
        rw [alone_eq]
        exact congrArg (List.map cString) (agrees_alone (arrivals schedule)).queue

/-- UART1 completes a line of one character while UART0 has received two. -/
theorem not_noInterference :
    ¬ NoInterference [⟨.uart0, true, [97, 98]⟩, ⟨.uart1, true, [120, 10]⟩,
      ⟨.uart0, true, [10]⟩] := by
  intro independent
  have strings := independent .uart0
  revert strings
  decide +kernel

end DualUart
end NrfExamples
