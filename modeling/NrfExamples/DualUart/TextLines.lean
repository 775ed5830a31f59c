import NrfExamples.DualUart.Interference
import NrfExamples.Traces.Text

namespace NrfExamples
namespace DualUart

open Traces

/-!
# Lines and messages

A line end that meets an empty line is not skipped but collected, so that the
next one offers a message which begins with it: of CR LF, the LF begins the
following line.  `uart1_cb` follows the same protocol as `uart0_cb` but never
terminates its buffer, so a message also shows what an earlier, longer line has
left behind it.
-/

/-! ## The first characters -/

/-- UART1 never strikes the first character of a line, so the messages of UART0
begin as the lines do. -/
structure Heads (arrived : List (Uart × UInt8)) (rx : Receiver) : Prop where
  buffer : (held rx.rx0Buf rx.rx0BufPos).head? = (lineOf .uart0 arrived).head?
  strings : (rx.strings .uart0).map List.head? = (linesOf .uart0 arrived).map List.head?

section Heads

variable {arrived : List (Uart × UInt8)} {rx : Receiver} {c : UInt8}

/-- A line without NUL is offered with its first character. -/
theorem Heads.uart0 (heads : Heads arrived rx) (follows : Follows arrived rx)
    (noNul : 0 ∉ stream .uart0 arrived) : Heads (arrived ++ [(.uart0, c)]) (uart0Char rx c) := by
  by_cases ends : endsLine c = true ∧ 0 < rx.rx0BufPos.val
  · have completes : lineRule.assemble (stream .uart0 (arrived ++ [(.uart0, c)])) =
        ⟨[], linesOf .uart0 arrived ++ [lineOf .uart0 arrived]⟩ :=
      (assemble_own .uart0).trans (LineRule.feed_of_end ends.1 (follows.pos0 ▸ ends.2))
    have readable : forall first, (held rx.rx0Buf rx.rx0BufPos).head? = some first ->
        (first == 0) = false := by
      intro first head
      rw [heads.buffer] at head
      have member := (lineRule.subset_of_assemble _).1 (List.mem_of_head? head)
      exact beq_false_of_ne fun nul => noNul (nul ▸ member)
    have offered : (cString (rx.rx0Buf.set rx.rx0BufPos 0)).head? =
        (lineOf .uart0 arrived).head? := by
      rw [cString_terminated, head?_cut readable, heads.buffer]
    rw [uart0Char_of_end ends]
    constructor
    · unfold lineOf
      rw [completes]
      rfl
    · unfold linesOf
      rw [completes, List.map_append, ← heads.strings, List.map_singleton, ← offered]
      unfold Receiver.strings
      simp only [List.map_append, List.map_singleton]
  · have notEnd : ¬ (lineRule.ends c = true ∧ 0 < (lineOf .uart0 arrived).length) := by
      rw [← follows.pos0]
      exact ends
    by_cases room : rx.rx0BufPos.val < MSG_SIZE - 1
    · have grows := (assemble_own .uart0).trans (LineRule.feed_of_room notEnd (follows.pos0 ▸ room))
      rw [uart0Char_of_room ends room]
      constructor
      · unfold lineOf
        rw [grows, held_store, List.head?_append, List.head?_append, heads.buffer]
        rfl
      · unfold linesOf
        rw [grows]
        exact heads.strings
    · have stays := (assemble_own .uart0).trans (LineRule.feed_of_full notEnd (follows.pos0 ▸ room))
      rw [uart0Char_of_full ends room]
      constructor
      · unfold lineOf
        rw [stays]
        exact heads.buffer
      · unfold linesOf
        rw [stays]
        exact heads.strings

theorem Heads.uart1 (heads : Heads arrived rx) :
    Heads (arrived ++ [(.uart1, c)]) (uart1Char rx c) := by
  have line : lineOf .uart0 (arrived ++ [(.uart1, c)]) = lineOf .uart0 arrived := by
    unfold lineOf
    rw [stream_other (by decide)]
  have lines : linesOf .uart0 (arrived ++ [(.uart1, c)]) = linesOf .uart0 arrived := by
    unfold linesOf
    rw [stream_other (by decide)]
  by_cases ends : endsLine c = true ∧ 0 < rx.rx1BufPos.val
  · rw [uart1Char_of_end ends]
    constructor
    · have behind : rx.rx1BufPos.val ≠ 0 := Nat.ne_of_gt ends.2
      rw [line, held_set, List.head?_eq_getElem?, List.getElem?_set_ne behind,
        ← List.head?_eq_getElem?]
      exact heads.buffer
    · rw [lines]
      exact heads.strings
  · have same : (uart1Char rx c).rx0Buf = rx.rx0Buf ∧ (uart1Char rx c).rx0BufPos = rx.rx0BufPos ∧
        (uart1Char rx c).uart0Msgq = rx.uart0Msgq := by
      by_cases room : rx.rx1BufPos.val < MSG_SIZE - 1
      · rw [uart1Char_of_room ends room]
        exact ⟨rfl, rfl, rfl⟩
      · rw [uart1Char_of_full ends room]
        exact ⟨rfl, rfl, rfl⟩
    constructor
    · rw [line, same.1, same.2.1]
      exact heads.buffer
    · rw [lines]
      unfold Receiver.strings
      rw [same.2.2]
      exact heads.strings

theorem heads_takeAll (arrived : List (Uart × UInt8)) (noNul : 0 ∉ stream .uart0 arrived) :
    Heads arrived (takeAll arrived) := by
  induction arrived using List.reverseRecOn with
  | nil => exact ⟨rfl, rfl⟩
  | append_singleton arrived arrival inductionHypothesis =>
      rcases arrival with ⟨uart, c⟩
      have before : 0 ∉ stream .uart0 arrived := by
        intro member
        rw [stream_concat] at noNul
        exact noNul (List.mem_append_left _ member)
      have heads := inductionHypothesis before
      rw [takeAll_concat]
      cases uart with
      | uart0 => exact heads.uart0 (follows_takeAll arrived) before
      | uart1 => exact heads.uart1

end Heads

/-! ## The messages of UART0 -/

/-- Without NUL the completed lines are read as they are. -/
theorem map_cut_linesOf {uart : Uart} {arrived : List (Uart × UInt8)}
    (noNul : 0 ∉ stream uart arrived) :
    (linesOf uart arrived).map (cut (· == 0)) = linesOf uart arrived := by
  refine (List.map_congr_left fun line member => ?_).trans (List.map_id _)
  apply cut_eq_self
  intro entry inside
  have received := (lineRule.subset_of_assemble _).2 line member inside
  exact beq_false_of_ne fun nul => noNul (nul ▸ received)

/-- UART0 offers the lines of its text exactly when UART1 never cuts one of them
and no line end on a blank line is followed by another line end. -/
theorem offersLines_iff (schedule : List Invocation)
    (noNul : 0 ∉ stream .uart0 (arrivals schedule)) :
    (run schedule).strings .uart0 =
        lineRule.linesOfText (stream .uart0 (arrivals schedule)) <->
      ¬ CompletesStruck (arrivals schedule) ∧
        ¬ lineRule.CompletesBlank (stream .uart0 (arrivals schedule)) := by
  have follows := follows_takeAll (arrivals schedule)
  have heads := heads_takeAll (arrivals schedule) noNul
  have readsLines := map_cut_linesOf noNul
  have completes := lineRule.completed_eq_linesOfText_iff (by decide)
    (stream .uart0 (arrivals schedule))
  rw [run_eq_takeAll]
  constructor
  · intro offers
    have notBlank : ¬ lineRule.CompletesBlank (stream .uart0 (arrivals schedule)) := by
      intro blank
      have reads := lineRule.reads_assemble (by decide)
        (stream .uart0 (arrivals schedule))
      rcases reads.spoiled blank with ⟨line, member, first, head, ends⟩
      have offered : some first ∈ ((takeAll (arrivals schedule)).strings .uart0).map List.head? := by
        rw [heads.strings]
        exact List.mem_map.mpr ⟨line, member, head⟩
      rcases List.mem_map.mp offered with ⟨string, isString, begins⟩
      rw [offers] at isString
      exact lineRule.not_mem_linesOfText ⟨first, begins, ends⟩ isString
    refine ⟨fun struck => follows.short struck ?_, notBlank⟩
    rw [offers, readsLines]
    exact (completes.mpr notBlank).symm
  · intro both
    rw [follows.spared both.1, readsLines]
    exact completes.mpr both.2

instance (before : List (Uart × UInt8)) (arrival : Uart × UInt8) :
    Decidable (Strikes before arrival) :=
  inferInstanceAs (Decidable (_ ∧ _))

instance (arrival : Uart × UInt8) : Decidable (SameLine arrival) :=
  inferInstanceAs (Decidable (_ -> _))

instance (arrived : List (Uart × UInt8)) : Decidable (Struck arrived) :=
  inferInstanceAs (Decidable (Since _ _ _))

instance (arrived : List (Uart × UInt8)) : Decidable (CompletesStruck arrived) :=
  inferInstanceAs (Decidable (Once _ _))

instance (before : List UInt8) (next : UInt8) : Decidable (lineRule.EndsBlank before next) :=
  decidable_of_iff (endsLine next = true ∧ before.getLast?.all endsLine = true)
    (and_congr Iff.rfl (Option.all_eq_true _ _))

instance (text : List UInt8) : Decidable (lineRule.CompletesBlank text) :=
  inferInstanceAs (Decidable (Once _ _))

/-- Two lines in three invocations, and a blank one at the end. -/
theorem dividedText_offersLines :
    (run [⟨.uart0, true, [97, 13, 98]⟩, ⟨.uart1, true, [120]⟩, ⟨.uart0, true, [99, 10, 10]⟩]).strings
      .uart0 = lineRule.linesOfText [97, 13, 98, 99, 10, 10] := by
  have divided := offersLines_iff [⟨.uart0, true, [97, 13, 98]⟩, ⟨.uart1, true, [120]⟩,
    ⟨.uart0, true, [99, 10, 10]⟩] (by decide)
  exact divided.mpr ⟨by decide +kernel, by decide +kernel⟩

/-- Of CR LF, the LF is offered with the next line. -/
theorem not_offersLines :
    ¬ forall schedule, 0 ∉ stream .uart0 (arrivals schedule) ->
      stream .uart1 (arrivals schedule) = [] ->
      (run schedule).strings .uart0 =
        lineRule.linesOfText (stream .uart0 (arrivals schedule)) := by
  intro claim
  have offers := claim [⟨.uart0, true, [97, 13, 10, 98, 13, 10]⟩] (by decide) rfl
  revert offers
  decide +kernel

/-! ## The messages of UART1 -/

/-- The buffer of UART1 holds its line over what its completed lines have left
there, and NULs behind. -/
structure Leaves (arrived : List (Uart × UInt8)) (rx : Receiver) : Prop where
  pos : rx.rx1BufPos.val = (lineOf .uart1 arrived).length
  buffer : exists rest, rx.rx1Buf.toList =
    overwrite (lastPage (linesOf .uart1 arrived)) (lineOf .uart1 arrived) ++ rest ∧
      forall entry, entry ∈ rest -> entry = 0
  strings : rx.strings .uart1 = pages [] (linesOf .uart1 arrived)

section Leaves

variable {arrived : List (Uart × UInt8)} {rx : Receiver} {c : UInt8}

theorem Leaves.zero : Leaves [] Receiver.zero where
  pos := rfl
  buffer := ⟨Receiver.zero.rx1Buf.toList, rfl, fun _ member => List.eq_of_mem_replicate member⟩
  strings := rfl

/-- Pages of lines without NUL have no NUL. -/
theorem noNul_page (noNul : 0 ∉ stream .uart1 arrived) :
    0 ∉ overwrite (lastPage (linesOf .uart1 arrived)) (lineOf .uart1 arrived) := by
  intro nul
  rcases mem_of_mem_overwrite nul with inLine | inPage
  · exact noNul ((lineRule.subset_of_assemble _).1 inLine)
  · rcases mem_of_mem_lastPage inPage with ⟨line, member, inside⟩
    exact noNul ((lineRule.subset_of_assemble _).2 line member inside)

/-- The line is offered with what is left behind it. -/
theorem Leaves.cString (leaves : Leaves arrived rx) (noNul : 0 ∉ stream .uart1 arrived) :
    cString rx.rx1Buf =
      overwrite (lastPage (linesOf .uart1 arrived)) (lineOf .uart1 arrived) := by
  rcases leaves.buffer with ⟨rest, buffer, nuls⟩
  have readable : forall entry, entry ∈ overwrite (lastPage (linesOf .uart1 arrived))
      (lineOf .uart1 arrived) -> (entry == 0) = false :=
    fun entry member => beq_false_of_ne fun nul => noNul_page noNul (nul ▸ member)
  have unread : cut (· == 0) rest = [] := by
    cases rest with
    | nil => rfl
    | cons first others =>
        rw [nuls first List.mem_cons_self]
        rfl
  unfold DualUart.cString
  rw [buffer, cut_append, cut_eq_self readable, if_pos rfl, unread, List.append_nil]

theorem Leaves.uart1 (leaves : Leaves arrived rx) (noNul : 0 ∉ stream .uart1 arrived) :
    Leaves (arrived ++ [(.uart1, c)]) (uart1Char rx c) := by
  by_cases ends : endsLine c = true ∧ 0 < rx.rx1BufPos.val
  · have completes : lineRule.assemble (stream .uart1 (arrived ++ [(.uart1, c)])) =
        ⟨[], linesOf .uart1 arrived ++ [lineOf .uart1 arrived]⟩ :=
      (assemble_own .uart1).trans (LineRule.feed_of_end ends.1 (leaves.pos ▸ ends.2))
    have line : lineOf .uart1 (arrived ++ [(.uart1, c)]) = [] :=
      congrArg Assembly.line completes
    have lines : linesOf .uart1 (arrived ++ [(.uart1, c)]) =
        linesOf .uart1 arrived ++ [lineOf .uart1 arrived] :=
      congrArg Assembly.completed completes
    rw [uart1Char_of_end ends]
    constructor
    · exact congrArg List.length line.symm
    · rw [line, lines, lastPage_concat, overwrite_nil]
      exact leaves.buffer
    · have offered : (rx.uart1Msgq ++ [rx.rx1Buf]).map DualUart.cString =
          rx.strings .uart1 ++ [DualUart.cString rx.rx1Buf] := List.map_append
      rw [lines, pages_concat, ← leaves.strings]
      exact offered.trans (congrArg (fun string => rx.strings .uart1 ++ [string])
        (leaves.cString noNul))
  · have notEnd : ¬ (lineRule.ends c = true ∧ 0 < (lineOf .uart1 arrived).length) := by
      rw [← leaves.pos]
      exact ends
    by_cases room : rx.rx1BufPos.val < MSG_SIZE - 1
    · have grows := (assemble_own .uart1).trans (LineRule.feed_of_room notEnd (leaves.pos ▸ room))
      have line : lineOf .uart1 (arrived ++ [(.uart1, c)]) = lineOf .uart1 arrived ++ [c] :=
        congrArg Assembly.line grows
      have lines : linesOf .uart1 (arrived ++ [(.uart1, c)]) = linesOf .uart1 arrived := by
        unfold linesOf
        rw [grows]
      rcases leaves.buffer with ⟨rest, buffer, nuls⟩
      have inside : (lineOf .uart1 arrived).length < (overwrite (lastPage (linesOf .uart1 arrived))
          (lineOf .uart1 arrived) ++ rest).length := by
        rw [← buffer, Vector.length_toList, ← leaves.pos]
        exact rx.rx1BufPos.isLt
      rcases set_overwrite inside c with ⟨fewer, stored, behind⟩
      rw [uart1Char_of_room ends room]
      constructor
      · rw [line, List.length_append, ← leaves.pos]
        rfl
      · refine ⟨fewer, ?_, fun entry member => nuls entry (behind.subset member)⟩
        rw [line, lines, ← stored, ← buffer, ← leaves.pos]
        exact Vector.toList_set rx.rx1BufPos.isLt
      · rw [lines]
        exact leaves.strings
    · have stays := (assemble_own .uart1).trans (LineRule.feed_of_full notEnd (leaves.pos ▸ room))
      have line : lineOf .uart1 (arrived ++ [(.uart1, c)]) = lineOf .uart1 arrived :=
        congrArg Assembly.line stays
      have lines : linesOf .uart1 (arrived ++ [(.uart1, c)]) = linesOf .uart1 arrived :=
        congrArg Assembly.completed stays
      rw [uart1Char_of_full ends room]
      constructor
      · rw [line]
        exact leaves.pos
      · rw [line, lines]
        exact leaves.buffer
      · rw [lines]
        exact leaves.strings

/-- UART0 does not touch what UART1 reads. -/
theorem Leaves.uart0 (leaves : Leaves arrived rx) :
    Leaves (arrived ++ [(.uart0, c)]) (uart0Char rx c) := by
  have agrees : Agrees (uart0Char rx c) rx := Agrees.uart0 ⟨rfl, rfl, rfl⟩ c
  have line : lineOf .uart1 (arrived ++ [(.uart0, c)]) = lineOf .uart1 arrived := by
    unfold lineOf
    rw [stream_other (by decide)]
  have lines : linesOf .uart1 (arrived ++ [(.uart0, c)]) = linesOf .uart1 arrived := by
    unfold linesOf
    rw [stream_other (by decide)]
  constructor
  · rw [line, agrees.pos]
    exact leaves.pos
  · rw [line, lines, agrees.buf]
    exact leaves.buffer
  · rw [lines]
    unfold Receiver.strings
    rw [agrees.queue]
    exact leaves.strings

theorem leaves_takeAll (arrived : List (Uart × UInt8)) (noNul : 0 ∉ stream .uart1 arrived) :
    Leaves arrived (takeAll arrived) := by
  induction arrived using List.reverseRecOn with
  | nil => exact Leaves.zero
  | append_singleton arrived arrival inductionHypothesis =>
      rcases arrival with ⟨uart, c⟩
      have before : 0 ∉ stream .uart1 arrived := by
        intro member
        rw [stream_concat] at noNul
        exact noNul (List.mem_append_left _ member)
      have leaves := inductionHypothesis before
      rw [takeAll_concat]
      cases uart with
      | uart0 => exact leaves.uart0
      | uart1 => exact leaves.uart1 before

end Leaves

/-- While UART1 is silent, it strikes no line. -/
theorem not_completesStruck_of_silent {arrived : List (Uart × UInt8)}
    (silent : stream .uart1 arrived = []) : ¬ CompletesStruck arrived := by
  intro completes
  rcases completes with ⟨before, arrival, after, rfl, _, _, struck⟩
  rcases struck with ⟨earlier, striking, later, rfl, strikes, _⟩
  have received : striking.2 ∈ stream .uart1 ((earlier ++ striking :: later) ++ arrival :: after) := by
    apply List.mem_filterMap.mpr
    refine ⟨striking, List.mem_append_left _ ?_, if_pos strikes.1⟩
    exact List.mem_append_right earlier List.mem_cons_self
  rw [silent] at received
  cases received

/-- Each line is at least as long as the one completed before it. -/
def NeverShorter (lines : List (List UInt8)) : Prop :=
  lines.IsChain fun before line => before.length ≤ line.length

instance (lines : List (List UInt8)) : Decidable (NeverShorter lines) :=
  inferInstanceAs (Decidable (List.IsChain _ lines))

/-- Both handlers offer the same messages for the same text exactly when none of
the lines that they complete is shorter than the one before it. -/
theorem sameMessages_iff {first second : List Invocation} {text : List UInt8}
    (own : stream .uart1 (arrivals first) = text) (other : stream .uart0 (arrivals second) = text)
    (silent : stream .uart1 (arrivals second) = []) (noNul : 0 ∉ text) :
    (run first).strings .uart1 = (run second).strings .uart0 <->
      NeverShorter (lineRule.assemble text).completed := by
  have leaves := leaves_takeAll (arrivals first) (own ▸ noNul)
  have follows := follows_takeAll (arrivals second)
  have offered : (run second).strings .uart0 = (lineRule.assemble text).completed := by
    rw [run_eq_takeAll, follows.spared (not_completesStruck_of_silent silent),
      map_cut_linesOf (other ▸ noNul)]
    unfold linesOf
    rw [other]
  have shown : (run first).strings .uart1 = pages [] (lineRule.assemble text).completed := by
    rw [run_eq_takeAll, leaves.strings]
    unfold linesOf
    rw [own]
  rw [offered, shown]
  exact pages_nil_eq_iff

/-- A longer line after a shorter one, divided differently. -/
theorem longerLine_sameMessages :
    (run [⟨.uart1, true, [97, 10, 98, 99]⟩, ⟨.uart1, true, [10]⟩]).strings .uart1 =
      (run [⟨.uart0, true, [97, 10, 98, 99, 10]⟩]).strings .uart0 := by
  apply (sameMessages_iff rfl rfl rfl _).mpr
  · decide +kernel
  · decide

/-- A shorter line after a longer one. -/
theorem not_sameMessages :
    ¬ forall first second text, stream .uart1 (arrivals first) = text ->
      stream .uart0 (arrivals second) = text -> stream .uart0 (arrivals first) = [] ->
      stream .uart1 (arrivals second) = [] -> 0 ∉ text ->
        (run first).strings .uart1 = (run second).strings .uart0 := by
  intro claim
  have same := claim [⟨.uart1, true, [97, 98, 10, 99, 10]⟩] [⟨.uart0, true, [97, 98, 10, 99, 10]⟩]
    [97, 98, 10, 99, 10] rfl rfl rfl rfl (by decide)
  revert same
  decide +kernel

end DualUart
end NrfExamples
