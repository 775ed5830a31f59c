import Mathlib.Data.List.Induction
import NrfExamples.Traces.Lines
import NrfExamples.Traces.Past

namespace Traces

/-!
# Lines of a text

The lines of a text are its non-empty runs of elements that end no line, each
with a line end behind it.  A reader that follows a `LineRule` completes these
lines, unless a line end finds its line empty: then the reader collects the line
end itself, and the next one completes a line that is not of the text.

The second half is about a page on which each line is written over the one
before, without clearing the page.
-/

variable {A : Type}

namespace LineRule

variable (rule : LineRule A)

/-- The runs that have a line end behind them. -/
def closedRuns (text : List A) : List (List A) :=
  (text.splitOnP rule.ends).dropLast

/-- What comes after the last line end. -/
def openRun (text : List A) : List A :=
  (text.splitOnP rule.ends).getLastD []

/-- The lines of a text, each cut to the room for a line. -/
def linesOfText (text : List A) : List (List A) :=
  ((rule.closedRuns text).filter fun run => !run.isEmpty).map (List.take rule.room)

/-- A line end that comes first, or after another. -/
def EndsBlank (before : List A) (next : A) : Prop :=
  rule.ends next = true ∧ forall last, before.getLast? = some last -> rule.ends last = true

/-- A line end on a blank line, and another line end later. -/
def CompletesBlank (text : List A) : Prop :=
  Once (fun before next => rule.ends next = true ∧ Once rule.EndsBlank before) text

/-- The line begins with a line end. -/
def StartsWithEnd (line : List A) : Prop :=
  exists first, line.head? = some first ∧ rule.ends first = true

/-! ## One more element -/

section Concat

variable {rule} {text : List A} {next : A}

theorem splitOnP_concat_of_end (ends : rule.ends next = true) :
    (text ++ [next]).splitOnP rule.ends = text.splitOnP rule.ends ++ [[]] := by
  rw [List.splitOnP_append_cons text [] ends, List.splitOnP_nil]

/-- Any other element extends the last run. -/
theorem splitOnP_concat_of_other (text : List A) (other : rule.ends next = false) :
    exists closed last, text.splitOnP rule.ends = closed ++ [last] ∧
      (text ++ [next]).splitOnP rule.ends = closed ++ [last ++ [next]] := by
  induction text with
  | nil =>
      refine ⟨[], [], List.splitOnP_nil, ?_⟩
      exact List.splitOnP_eq_singleton (by simpa using other)
  | cons head tail inductionHypothesis =>
      rcases inductionHypothesis with ⟨closed, last, before, after⟩
      rw [List.cons_append, List.splitOnP_cons_eq_if_modifyHead,
        List.splitOnP_cons_eq_if_modifyHead, before, after]
      split
      · exact ⟨[] :: closed, last, rfl, rfl⟩
      · cases closed with
        | nil => exact ⟨[], head :: last, rfl, rfl⟩
        | cons run others => exact ⟨(head :: run) :: others, last, rfl, rfl⟩

theorem closedRuns_append_openRun : rule.closedRuns text ++ [rule.openRun text] =
    text.splitOnP rule.ends := by
  unfold closedRuns openRun
  rw [List.getLastD_eq_getLast?, List.getLast?_eq_some_getLast (List.splitOnP_ne_nil _ _)]
  exact List.dropLast_append_getLast _

theorem closedRuns_of_end (ends : rule.ends next = true) :
    rule.closedRuns (text ++ [next]) = rule.closedRuns text ++ [rule.openRun text] := by
  rw [closedRuns_append_openRun]
  unfold closedRuns
  rw [splitOnP_concat_of_end ends, List.dropLast_concat]

theorem openRun_of_end (ends : rule.ends next = true) : rule.openRun (text ++ [next]) = [] := by
  unfold openRun
  rw [splitOnP_concat_of_end ends, List.getLastD_concat]

theorem closedRuns_of_other (other : rule.ends next = false) :
    rule.closedRuns (text ++ [next]) = rule.closedRuns text := by
  rcases splitOnP_concat_of_other text other with ⟨closed, last, before, after⟩
  unfold closedRuns
  rw [before, after, List.dropLast_concat, List.dropLast_concat]

theorem openRun_of_other (other : rule.ends next = false) :
    rule.openRun (text ++ [next]) = rule.openRun text ++ [next] := by
  rcases splitOnP_concat_of_other text other with ⟨closed, last, before, after⟩
  unfold openRun
  rw [before, after, List.getLastD_concat, List.getLastD_concat]

theorem linesOfText_of_end (ends : rule.ends next = true) (nonempty : rule.openRun text ≠ []) :
    rule.linesOfText (text ++ [next]) =
      rule.linesOfText text ++ [(rule.openRun text).take rule.room] := by
  unfold linesOfText
  rw [closedRuns_of_end ends, List.filter_append, List.map_append]
  simp [nonempty]

theorem linesOfText_of_blank (ends : rule.ends next = true) (empty : rule.openRun text = []) :
    rule.linesOfText (text ++ [next]) = rule.linesOfText text := by
  unfold linesOfText
  rw [closedRuns_of_end ends, empty, List.filter_append, List.map_append]
  exact List.append_nil _

theorem linesOfText_of_other (other : rule.ends next = false) :
    rule.linesOfText (text ++ [next]) = rule.linesOfText text := by
  unfold linesOfText
  rw [closedRuns_of_other other]

/-- The last run is empty at the beginning and after a line end. -/
theorem openRun_eq_nil_iff :
    rule.openRun text = [] <-> forall last, text.getLast? = some last -> rule.ends last = true := by
  induction text using List.reverseRecOn with
  | nil => exact ⟨fun _ _ impossible => (nomatch impossible), fun _ => rfl⟩
  | append_singleton text next _ =>
      rw [List.getLast?_concat]
      cases ends : rule.ends next with
      | true =>
          rw [openRun_of_end ends]
          exact ⟨fun _ last same => Option.some.inj same ▸ ends, fun _ => rfl⟩
      | false =>
          rw [openRun_of_other ends]
          constructor
          · exact fun impossible => absurd impossible (List.concat_ne_nil _ _)
          · intro endsLast
            rw [endsLast next rfl] at ends
            cases ends

end Concat

/-- A run has no line end in it. -/
theorem ends_of_mem_splitOnP {text run : List A} (member : run ∈ text.splitOnP rule.ends) {entry : A}
    (inside : entry ∈ run) : rule.ends entry = false := by
  induction text generalizing run with
  | nil =>
      rw [List.splitOnP_nil, List.mem_singleton] at member
      rw [member] at inside
      cases inside
  | cons head tail inductionHypothesis =>
      rw [List.splitOnP_cons_eq_if_modifyHead] at member
      split at member
      · rcases List.mem_cons.mp member with rfl | later
        · cases inside
        · exact inductionHypothesis later inside
      · rename_i other
        rcases List.exists_cons_of_ne_nil (List.splitOnP_ne_nil rule.ends tail) with
          ⟨first, others, same⟩
        rw [same, List.modifyHead_cons] at member
        rcases List.mem_cons.mp member with rfl | later
        · rcases List.mem_cons.mp inside with rfl | old
          · exact Bool.eq_false_iff.mpr other
          · exact inductionHypothesis (same ▸ List.mem_cons_self) old
        · exact inductionHypothesis (same ▸ List.mem_cons_of_mem _ later) inside

/-- The lines of a text have no line end in them. -/
theorem ends_of_mem_linesOfText {text line : List A} (member : line ∈ rule.linesOfText text)
    {entry : A} (inside : entry ∈ line) : rule.ends entry = false := by
  rcases List.mem_map.mp member with ⟨run, kept, rfl⟩
  have closed : run ∈ rule.closedRuns text := (List.mem_filter.mp kept).1
  exact rule.ends_of_mem_splitOnP (List.dropLast_subset _ closed) (List.mem_of_mem_take inside)

theorem not_mem_linesOfText {text line : List A} (starts : rule.StartsWithEnd line) :
    line ∉ rule.linesOfText text := by
  intro member
  rcases starts with ⟨first, head, ends⟩
  have inside := rule.ends_of_mem_linesOfText member (List.mem_of_head? head)
  rw [ends] at inside
  cases inside

/-! ## The lines that a reader completes -/

/-- Until a line end finds a blank line, the reader has the last run of the text
under way.  From then on it has a line that begins with a line end. -/
structure Reads (text : List A) (assembly : Assembly A) : Prop where
  line : ¬ Once rule.EndsBlank text -> assembly.line = (rule.openRun text).take rule.room
  stained : Once rule.EndsBlank text -> ¬ rule.CompletesBlank text ->
    rule.StartsWithEnd assembly.line
  completed : ¬ rule.CompletesBlank text -> assembly.completed = rule.linesOfText text
  spoiled : rule.CompletesBlank text -> exists line, line ∈ assembly.completed ∧
    rule.StartsWithEnd line

theorem completed_prefix (assembly : Assembly A) (next : A) :
    assembly.completed <+: (rule.feed assembly next).completed := by
  unfold feed
  split
  · exact List.prefix_append _ _
  · split <;> exact List.prefix_rfl

section Reads

variable {rule} {text : List A} {assembly : Assembly A} {next : A}

theorem Reads.nil : rule.Reads [] ⟨[], []⟩ where
  line := fun _ => List.take_nil.symm
  stained := fun impossible => absurd impossible not_once_nil
  completed := fun _ => rfl
  spoiled := fun impossible => absurd impossible not_once_nil

theorem endsBlank_concat : Once rule.EndsBlank (text ++ [next]) <->
    Once rule.EndsBlank text ∨ (rule.ends next = true ∧ rule.openRun text = []) := by
  rw [once_concat, openRun_eq_nil_iff]
  exact Iff.rfl

theorem completesBlank_concat : rule.CompletesBlank (text ++ [next]) <->
    rule.CompletesBlank text ∨ (rule.ends next = true ∧ Once rule.EndsBlank text) :=
  once_concat

theorem CompletesBlank.endsBlank (completes : rule.CompletesBlank text) :
    Once rule.EndsBlank text := by
  rcases completes with ⟨before, entry, after, rfl, _, blank⟩
  exact Once.append blank (entry :: after)

/-- An element that ends no line. -/
theorem Reads.other (reads : rule.Reads text assembly) (other : rule.ends next = false) :
    rule.Reads (text ++ [next]) (rule.feed assembly next) := by
  have notEnd : ¬ rule.ends next = true := Bool.eq_false_iff.mp other
  have blank : Once rule.EndsBlank (text ++ [next]) <-> Once rule.EndsBlank text := by
    rw [endsBlank_concat]
    exact or_iff_left fun both => notEnd both.1
  have completes : rule.CompletesBlank (text ++ [next]) <-> rule.CompletesBlank text := by
    rw [completesBlank_concat]
    exact or_iff_left fun both => notEnd both.1
  have sameCompleted : (rule.feed assembly next).completed = assembly.completed := by
    by_cases room : assembly.line.length < rule.room
    · rw [feed_of_room (fun both => notEnd both.1) room]
    · rw [feed_of_full (fun both => notEnd both.1) room]
  constructor
  · intro notBlank
    have before := reads.line fun happened => notBlank (blank.mpr happened)
    have length : assembly.line.length = min rule.room (rule.openRun text).length := by
      rw [before, List.length_take]
    rw [openRun_of_other other]
    by_cases room : assembly.line.length < rule.room
    · have whole : (rule.openRun text).length < rule.room := by omega
      rw [feed_of_room (fun both => notEnd both.1) room, before,
        List.take_of_length_le (Nat.le_of_lt whole), List.take_of_length_le]
      rw [List.length_append]
      exact whole
    · have full : rule.room ≤ (rule.openRun text).length := by omega
      rw [feed_of_full (fun both => notEnd both.1) room, before, List.take_append_of_le_length full]
  · intro happened notCompletes
    rcases reads.stained (blank.mp happened) fun before => notCompletes (completes.mpr before) with
      ⟨first, head, ends⟩
    refine ⟨first, ?_, ends⟩
    by_cases room : assembly.line.length < rule.room
    · rw [feed_of_room (fun both => notEnd both.1) room, List.head?_append, head]
      rfl
    · rw [feed_of_full (fun both => notEnd both.1) room]
      exact head
  · intro notCompletes
    rw [sameCompleted, linesOfText_of_other other]
    exact reads.completed fun before => notCompletes (completes.mpr before)
  · intro happened
    rw [sameCompleted]
    exact reads.spoiled (completes.mp happened)

/-- A line end that finds a line of the text completes it. -/
theorem Reads.end_line (reads : rule.Reads text assembly) (ends : rule.ends next = true)
    (roomy : 0 < rule.room) (notBlank : ¬ Once rule.EndsBlank text)
    (nonempty : rule.openRun text ≠ []) :
    rule.Reads (text ++ [next]) (rule.feed assembly next) := by
  have line := reads.line notBlank
  have stillNot : ¬ Once rule.EndsBlank (text ++ [next]) := by
    rw [endsBlank_concat]
    exact not_or.mpr ⟨notBlank, fun both => nonempty both.2⟩
  have notCompletes : ¬ rule.CompletesBlank text := fun happened => notBlank happened.endsBlank
  have notLater : ¬ rule.CompletesBlank (text ++ [next]) := by
    rw [completesBlank_concat]
    exact not_or.mpr ⟨notCompletes, fun both => notBlank both.2⟩
  have collected : 0 < assembly.line.length := by
    have some := List.length_pos_iff.mpr nonempty
    rw [line, List.length_take]
    omega
  rw [feed_of_end ends collected]
  constructor
  · intro _
    rw [openRun_of_end ends, List.take_nil]
  · exact fun happened => absurd happened stillNot
  · intro _
    rw [linesOfText_of_end ends nonempty, reads.completed notCompletes, line]
  · exact fun happened => absurd happened notLater

/-- A line end that finds a blank line is collected. -/
theorem Reads.end_blank (reads : rule.Reads text assembly) (ends : rule.ends next = true)
    (roomy : 0 < rule.room) (notBlank : ¬ Once rule.EndsBlank text)
    (empty : rule.openRun text = []) :
    rule.Reads (text ++ [next]) (rule.feed assembly next) := by
  have line : assembly.line = [] := by
    rw [reads.line notBlank, empty, List.take_nil]
  have notCompletes : ¬ rule.CompletesBlank text := fun happened => notBlank happened.endsBlank
  have notLater : ¬ rule.CompletesBlank (text ++ [next]) := by
    rw [completesBlank_concat]
    exact not_or.mpr ⟨notCompletes, fun both => notBlank both.2⟩
  have none : ¬ 0 < assembly.line.length := by
    rw [line]
    exact Nat.lt_irrefl 0
  have room : assembly.line.length < rule.room := by
    rw [line]
    exact roomy
  rw [feed_of_room (fun both => none both.2) room, line]
  constructor
  · exact fun impossible => absurd (endsBlank_concat.mpr (.inr ⟨ends, empty⟩)) impossible
  · exact fun _ _ => ⟨next, rfl, ends⟩
  · intro _
    rw [linesOfText_of_blank ends empty]
    exact reads.completed notCompletes
  · exact fun happened => absurd happened notLater

/-- A line end that finds a collected line end completes a line that begins with
it. -/
theorem Reads.end_stained (reads : rule.Reads text assembly) (ends : rule.ends next = true)
    (blank : Once rule.EndsBlank text) :
    rule.Reads (text ++ [next]) (rule.feed assembly next) := by
  have completes : rule.CompletesBlank (text ++ [next]) :=
    completesBlank_concat.mpr (.inr ⟨ends, blank⟩)
  have spoiled : exists line, line ∈ (rule.feed assembly next).completed ∧
      rule.StartsWithEnd line := by
    by_cases before : rule.CompletesBlank text
    · rcases reads.spoiled before with ⟨line, member, starts⟩
      exact ⟨line, (rule.completed_prefix assembly next).subset member, starts⟩
    · rcases reads.stained blank before with ⟨first, head, isEnd⟩
      have collected : 0 < assembly.line.length :=
        List.length_pos_of_mem (List.mem_of_head? head)
      rw [feed_of_end ends collected]
      exact ⟨assembly.line, List.mem_append_right _ List.mem_cons_self, first, head, isEnd⟩
  constructor
  · exact fun impossible => absurd (endsBlank_concat.mpr (.inl blank)) impossible
  · exact fun _ impossible => absurd completes impossible
  · exact fun impossible => absurd completes impossible
  · exact fun _ => spoiled

variable (rule)

theorem reads_assemble (roomy : 0 < rule.room) (text : List A) :
    rule.Reads text (rule.assemble text) := by
  induction text using List.reverseRecOn with
  | nil => exact Reads.nil
  | append_singleton text next inductionHypothesis =>
      rw [assemble_concat]
      cases ends : rule.ends next with
      | false => exact inductionHypothesis.other ends
      | true =>
          by_cases blank : Once rule.EndsBlank text
          · exact inductionHypothesis.end_stained ends blank
          · by_cases empty : rule.openRun text = []
            · exact inductionHypothesis.end_blank ends roomy blank empty
            · exact inductionHypothesis.end_line ends roomy blank empty

/-- The reader completes the lines of the text exactly when no line end on a
blank line is followed by another line end. -/
theorem completed_eq_linesOfText_iff (roomy : 0 < rule.room) (text : List A) :
    (rule.assemble text).completed = rule.linesOfText text <-> ¬ rule.CompletesBlank text := by
  have reads := rule.reads_assemble roomy text
  constructor
  · intro same completes
    rcases reads.spoiled completes with ⟨line, member, starts⟩
    exact rule.not_mem_linesOfText starts (same ▸ member)
  · exact reads.completed

end Reads

end LineRule

/-! ## A page that is not cleared -/

/-- A line is written over the beginning of a page. -/
def overwrite (page line : List A) : List A :=
  line ++ page.drop line.length

/-- The page after all lines. -/
def lastPage (lines : List (List A)) : List A :=
  lines.foldl overwrite []

/-- The page after each line. -/
def pages : (page : List A) -> (lines : List (List A)) -> List (List A)
  | _, [] => []
  | page, line :: later => overwrite page line :: pages (overwrite page line) later

section Pages

variable {page line : List A} {lines : List (List A)}

theorem overwrite_nil (page : List A) : overwrite page [] = page :=
  rfl

theorem lastPage_concat : lastPage (lines ++ [line]) = overwrite (lastPage lines) line := by
  unfold lastPage
  rw [List.foldl_append, List.foldl_cons, List.foldl_nil]

theorem pages_concat :
    pages page (lines ++ [line]) =
      pages page lines ++ [overwrite (lines.foldl overwrite page) line] := by
  induction lines generalizing page with
  | nil => rfl
  | cons first others inductionHypothesis =>
      rw [List.cons_append, pages, pages, inductionHypothesis, List.foldl_cons, List.cons_append]

/-- What a page shows comes from one of its lines. -/
theorem mem_of_mem_overwrite {entry : A} (shown : entry ∈ overwrite page line) :
    entry ∈ line ∨ entry ∈ page := by
  rcases List.mem_append.mp shown with inLine | behind
  · exact .inl inLine
  · exact .inr (List.mem_of_mem_drop behind)

theorem mem_of_mem_lastPage {entry : A} (shown : entry ∈ lastPage lines) :
    exists line, line ∈ lines ∧ entry ∈ line := by
  induction lines using List.reverseRecOn with
  | nil => cases shown
  | append_singleton lines line inductionHypothesis =>
      rw [lastPage_concat] at shown
      rcases mem_of_mem_overwrite shown with inLine | before
      · exact ⟨line, List.mem_append_right lines List.mem_cons_self, inLine⟩
      · rcases inductionHypothesis before with ⟨other, member, inside⟩
        exact ⟨other, List.mem_append_left [line] member, inside⟩

/-- Only a line that is shorter than the page leaves some of it. -/
theorem overwrite_eq_iff : overwrite page line = line <-> page.length ≤ line.length := by
  unfold overwrite
  rw [List.append_right_eq_self, List.drop_eq_nil_iff]

/-- Each page shows its line alone exactly when no line is shorter than the one
before it. -/
theorem pages_eq_iff :
    pages page lines = lines <->
      (page :: lines).IsChain fun first second => first.length ≤ second.length := by
  induction lines generalizing page with
  | nil => exact ⟨fun _ => .singleton page, fun _ => rfl⟩
  | cons line later inductionHypothesis =>
      rw [pages, List.cons_eq_cons, overwrite_eq_iff, List.isChain_cons_cons]
      apply and_congr_right
      intro covers
      rw [overwrite_eq_iff.mpr covers]
      exact inductionHypothesis

/-- The same from an empty page. -/
theorem pages_nil_eq_iff :
    pages [] lines = lines <-> lines.IsChain fun first second => first.length ≤ second.length := by
  rw [pages_eq_iff]
  cases lines with
  | nil => exact ⟨fun _ => .nil, fun _ => .singleton []⟩
  | cons line later =>
      rw [List.isChain_cons_cons]
      exact and_iff_right (Nat.zero_le _)

/-- An element is written behind the line, over the page or over what is behind
the page. -/
theorem set_overwrite {rest : List A} (inside : line.length < (overwrite page line ++ rest).length)
    (next : A) :
    exists fewer, (overwrite page line ++ rest).set line.length next =
      overwrite page (line ++ [next]) ++ fewer ∧ fewer <:+ rest := by
  unfold overwrite at inside ⊢
  rw [List.append_assoc, List.set_append_right _ _ (Nat.le_refl _), Nat.sub_self,
    List.length_append, List.length_singleton]
  by_cases covered : line.length < page.length
  · refine ⟨rest, ?_, List.suffix_rfl⟩
    rw [List.drop_eq_getElem_cons covered, List.cons_append, List.set_cons_zero]
    simp
  · have short : page.length ≤ line.length := Nat.le_of_not_lt covered
    rw [List.drop_eq_nil_of_le short, List.append_nil, List.length_append] at inside
    rw [List.drop_eq_nil_of_le short, List.drop_eq_nil_of_le (Nat.le_succ_of_le short)]
    cases rest with
    | nil => exact absurd inside (Nat.lt_irrefl _)
    | cons old fewer =>
        refine ⟨fewer, ?_, List.suffix_cons old fewer⟩
        simp

end Pages

end Traces
