import Mathlib.Data.List.Basic
import Mathlib.Data.List.Induction

namespace Traces

/-!
# Lines of a stream

A reader collects elements until one of them ends the line, and keeps no more
of a line than it has room for.  What it collected is then read up to a stop
mark.  The second half is about a copy of the line in which such marks have
been set from outside: how long the copy still reads.
-/

variable {A : Type}

/-- Which elements end a line, and how many elements of a line are kept. -/
structure LineRule (A : Type) where
  ends : A -> Bool
  room : Nat

/-- The line being assembled, and the completed ones, oldest first. -/
structure Assembly (A : Type) where
  line : List A
  completed : List (List A)

namespace LineRule

variable (rule : LineRule A)

/-- Take in one element; an empty line is not completed. -/
def feed (assembly : Assembly A) (next : A) : Assembly A :=
  if rule.ends next = true ∧ 0 < assembly.line.length then
    ⟨[], assembly.completed ++ [assembly.line]⟩
  else if assembly.line.length < rule.room then
    { assembly with line := assembly.line ++ [next] }
  else assembly

def assemble (stream : List A) : Assembly A :=
  stream.foldl rule.feed ⟨[], []⟩

section Feed

variable {rule} {assembly : Assembly A} {next : A}

theorem feed_of_end (ends : rule.ends next = true) (nonempty : 0 < assembly.line.length) :
    rule.feed assembly next = ⟨[], assembly.completed ++ [assembly.line]⟩ :=
  if_pos ⟨ends, nonempty⟩

theorem feed_of_room (notEnd : ¬ (rule.ends next = true ∧ 0 < assembly.line.length))
    (room : assembly.line.length < rule.room) :
    rule.feed assembly next = ⟨assembly.line ++ [next], assembly.completed⟩ :=
  (if_neg notEnd).trans (if_pos room)

theorem feed_of_full (notEnd : ¬ (rule.ends next = true ∧ 0 < assembly.line.length))
    (full : ¬ assembly.line.length < rule.room) : rule.feed assembly next = assembly :=
  (if_neg notEnd).trans (if_neg full)

end Feed

theorem assemble_concat (stream : List A) (next : A) :
    rule.assemble (stream ++ [next]) = rule.feed (rule.assemble stream) next := by
  unfold assemble
  rw [List.foldl_append, List.foldl_cons, List.foldl_nil]

/-- Everything in a line comes from the stream. -/
theorem subset_of_assemble (stream : List A) :
    (rule.assemble stream).line ⊆ stream ∧
      forall line, line ∈ (rule.assemble stream).completed -> line ⊆ stream := by
  induction stream using List.reverseRecOn with
  | nil => exact ⟨List.nil_subset _, fun _ member => nomatch member⟩
  | append_singleton stream next inductionHypothesis =>
      rcases inductionHypothesis with ⟨line, completed⟩
      have grows : stream ⊆ stream ++ [next] := List.subset_append_left _ _
      have kept : forall other, other ∈ (rule.assemble stream).completed -> other ⊆ stream ++ [next] :=
        fun other member => List.Subset.trans (completed other member) grows
      rw [assemble_concat]
      by_cases ends : rule.ends next = true ∧ 0 < (rule.assemble stream).line.length
      · rw [feed_of_end ends.1 ends.2]
        refine ⟨List.nil_subset _, fun other member => ?_⟩
        rcases List.mem_append.mp member with old | new
        · exact kept other old
        · rw [List.mem_singleton.mp new]
          exact List.Subset.trans line grows
      · by_cases room : (rule.assemble stream).line.length < rule.room
        · rw [feed_of_room ends room]
          refine ⟨List.append_subset.mpr ⟨List.Subset.trans line grows, ?_⟩, kept⟩
          exact List.subset_append_right _ _
        · rw [feed_of_full ends room]
          exact ⟨List.Subset.trans line grows, kept⟩

end LineRule

/-! ## Reading up to a mark -/

/-- What comes before the first stop mark. -/
def cut (stop : A -> Bool) (entries : List A) : List A :=
  entries.takeWhile fun entry => !stop entry

section Cut

variable {stop : A -> Bool} {mark : A}

theorem length_cut_le (stop : A -> Bool) (entries : List A) :
    (cut stop entries).length ≤ entries.length :=
  (List.takeWhile_prefix _).length_le

theorem cut_eq_self {entries : List A} (unmarked : forall entry, entry ∈ entries ->
    stop entry = false) : cut stop entries = entries := by
  induction entries with
  | nil => rfl
  | cons first others inductionHypothesis =>
      have read := inductionHypothesis fun entry member =>
        unmarked entry (List.mem_cons_of_mem first member)
      unfold cut at read ⊢
      rw [List.takeWhile_cons, unmarked first List.mem_cons_self, read]
      rfl

/-- What is read begins as the entries do, unless they begin with a mark. -/
theorem head?_cut {entries : List A} (unmarked : forall first, entries.head? = some first ->
    stop first = false) : (cut stop entries).head? = entries.head? := by
  cases entries with
  | nil => rfl
  | cons first others =>
      unfold cut
      rw [List.takeWhile_cons, unmarked first rfl]
      rfl

theorem take_cut (entries : List A) (count : Nat) :
    (cut stop entries).take count = cut stop (entries.take count) :=
  List.take_takeWhile

theorem cut_append (first second : List A) :
    cut stop (first ++ second) =
      if (cut stop first).length = first.length then first ++ cut stop second
      else cut stop first :=
  List.takeWhile_append

/-- A new mark shortens what is read to what came before it. -/
theorem cut_set (isStop : stop mark = true) {entries : List A} {position : Nat}
    (inside : position < entries.length) :
    cut stop (entries.set position mark) = (cut stop entries).take position := by
  induction entries generalizing position with
  | nil => cases inside
  | cons head tail inductionHypothesis =>
      cases position with
      | zero =>
          unfold cut
          rw [List.set_cons_zero, List.takeWhile_cons, isStop]
          rfl
      | succ position =>
          have shorter := inductionHypothesis (Nat.lt_of_succ_lt_succ inside)
          unfold cut at shorter ⊢
          rw [List.set_cons_succ, List.takeWhile_cons, List.takeWhile_cons, shorter]
          split
          · rw [List.take_succ_cons]
          · rw [List.take_nil]

end Cut

/-! ## A copy with marks from outside -/

/-- The copy is as long as the line; it reads like the line as long as it has
not been hit, and less than the line once it has. -/
structure Copies (stop : A -> Bool) (copy line : List A) (hit : Prop) : Prop where
  length : copy.length = line.length
  spared : ¬hit -> cut stop copy = cut stop line
  short : hit -> (cut stop copy).length < (cut stop line).length

namespace Copies

variable {stop : A -> Bool} {copy line : List A} {hit : Prop}

theorem empty : Copies stop [] [] False where
  length := rfl
  spared := fun _ => rfl
  short := False.elim

theorem congr {other : Prop} (copies : Copies stop copy line hit) (same : hit <-> other) :
    Copies stop copy line other := by
  rw [← propext same]
  exact copies

/-- Both grow by the same element. -/
theorem push (copies : Copies stop copy line hit) (next : A) :
    Copies stop (copy ++ [next]) (line ++ [next]) hit := by
  constructor
  · rw [List.length_append, List.length_append, copies.length]
  · intro notHit
    have same := copies.spared notHit
    rw [cut_append, cut_append, same, copies.length]
    split
    · rename_i whole
      have copyWhole : (cut stop copy).length = copy.length := by
        rw [same, whole, copies.length]
      have copyRead : cut stop copy = copy :=
        (List.takeWhile_prefix _).eq_of_length copyWhole
      have lineRead : cut stop line = line := (List.takeWhile_prefix _).eq_of_length whole
      rw [← copyRead, same, lineRead]
    · rfl
  · intro wasHit
    have shorter := copies.short wasHit
    have bounded := length_cut_le stop line
    have notWhole : (cut stop copy).length ≠ copy.length := by
      rw [copies.length]
      omega
    rw [cut_append, if_neg notWhole, cut_append]
    split
    · rename_i whole
      rw [List.length_append]
      omega
    · exact shorter

/-- A mark hits if it is inside what is read of the line. -/
theorem mark {mark : A} (copies : Copies stop copy line hit) (isStop : stop mark = true)
    (position : Nat) :
    Copies stop (copy.set position mark) line (position < (cut stop line).length ∨ hit) := by
  have bounded := length_cut_le stop line
  by_cases inside : position < copy.length
  · have reads := cut_set isStop inside
    constructor
    · rw [List.length_set, copies.length]
    · intro notHit
      rcases not_or.mp notHit with ⟨beyond, notBefore⟩
      have same := copies.spared notBefore
      rw [reads, same]
      exact List.take_of_length_le (Nat.le_of_not_lt beyond)
    · intro isHit
      rw [reads, List.length_take]
      rcases isHit with now | before
      · omega
      · have shorter := copies.short before
        omega
  · have beyond : ¬ position < (cut stop line).length := by
      have same := copies.length
      omega
    rw [List.set_eq_of_length_le (Nat.le_of_not_lt inside)]
    exact copies.congr ⟨Or.inr, fun either => either.resolve_left beyond⟩

end Copies

end Traces
