import Mathlib.Data.List.Induction

namespace Traces

/-!
# What a trace has seen

Three operators of past-time temporal logic over finite traces, oldest entry
first.  An event may read what came before it, so it is a relation between a
trace and its next entry.  Each operator has an equation for a trace that
grows by one entry, which is how a run produces it.
-/

variable {A : Type}

/-- The event has happened at some entry of the trace. -/
def Once (event : List A -> A -> Prop) (history : List A) : Prop :=
  exists before entry after, history = before ++ entry :: after ∧ event before entry

/-- The event has happened, and all later entries are among those that stay. -/
def Since (stays : A -> Prop) (event : List A -> A -> Prop) (history : List A) : Prop :=
  exists before entry after, history = before ++ entry :: after ∧ event before entry ∧
    forall later, later ∈ after -> stays later

/-- The event happens at every entry of the trace. -/
def Always (event : List A -> A -> Prop) (history : List A) : Prop :=
  forall before entry after, history = before ++ entry :: after -> event before entry

variable {stays : A -> Prop} {event : List A -> A -> Prop} {history : List A} {next : A}

theorem not_once_nil : ¬ Once event [] := by
  intro happened
  rcases happened with ⟨before, entry, after, split, _⟩
  cases before <;> cases split

theorem not_since_nil : ¬ Since stays event [] := by
  intro happened
  rcases happened with ⟨before, entry, after, split, _⟩
  cases before <;> cases split

theorem always_nil : Always event [] := by
  intro before entry after split
  cases before <;> cases split

/-- A split of a longer trace is at its last entry, or splits the shorter one. -/
theorem split_concat {before after : List A} {entry : A}
    (split : history ++ [next] = before ++ entry :: after) :
    (after = [] ∧ entry = next ∧ before = history) ∨
      exists shorter, after = shorter ++ [next] ∧ history = before ++ entry :: shorter := by
  rcases List.eq_nil_or_concat after with empty | ⟨shorter, last, ends⟩
  · subst empty
    left
    have same := List.append_inj' split rfl
    exact ⟨rfl, (List.singleton_inj.mp same.2).symm, same.1.symm⟩
  · rw [List.concat_eq_append] at ends
    subst ends
    right
    have regrouped : history ++ [next] = (before ++ entry :: shorter) ++ [last] :=
      split.trans (List.append_assoc before (entry :: shorter) [last]).symm
    have same := List.append_inj' regrouped rfl
    cases same.2
    exact ⟨shorter, rfl, same.1⟩

theorem once_concat :
    Once event (history ++ [next]) <-> Once event history ∨ event history next := by
  constructor
  · intro happened
    rcases happened with ⟨before, entry, after, split, here⟩
    rcases split_concat split with ⟨_, rfl, rfl⟩ | ⟨shorter, _, same⟩
    · exact .inr here
    · exact .inl ⟨before, entry, shorter, same, here⟩
  · intro happened
    rcases happened with ⟨before, entry, after, rfl, here⟩ | here
    · exact ⟨before, entry, after ++ [next],
        List.append_assoc before (entry :: after) [next], here⟩
    · exact ⟨history, next, [], rfl, here⟩

theorem Once.append (happened : Once event history) (later : List A) :
    Once event (history ++ later) := by
  rcases happened with ⟨before, entry, after, rfl, here⟩
  exact ⟨before, entry, after ++ later, List.append_assoc before (entry :: after) later, here⟩

theorem always_concat :
    Always event (history ++ [next]) <-> Always event history ∧ event history next := by
  constructor
  · intro holds
    constructor
    · intro before entry after split
      apply holds before entry (after ++ [next])
      rw [split]
      exact List.append_assoc before (entry :: after) [next]
    · exact holds history next [] rfl
  · intro both before entry after split
    rcases split_concat split with ⟨_, rfl, rfl⟩ | ⟨shorter, _, same⟩
    · exact both.2
    · exact both.1 before entry shorter same

theorem Always.of_prefix {shorter : List A} (holds : Always event history)
    (isPrefix : shorter <+: history) : Always event shorter := by
  intro before entry after split
  rcases isPrefix with ⟨rest, whole⟩
  apply holds before entry (after ++ rest)
  rw [← whole, split]
  exact List.append_assoc before (entry :: after) rest

/-- The split at a position. -/
theorem always_iff : Always event history <->
    forall index (inside : index < history.length), event (history.take index) history[index] := by
  constructor
  · intro holds index inside
    apply holds _ _ (history.drop (index + 1))
    rw [List.getElem_cons_drop, List.take_append_drop]
  · intro holds before entry after split
    subst split
    have inside : before.length < (before ++ entry :: after).length := by
      rw [List.length_append]
      exact Nat.lt_add_of_pos_right (Nat.succ_pos _)
    have here := holds before.length inside
    rw [List.take_left, List.getElem_append_right (Nat.le_refl _)] at here
    simpa using here

instance [forall before entry, Decidable (event before entry)] : Decidable (Always event history) :=
  decidable_of_iff _ always_iff.symm

theorem since_concat :
    Since stays event (history ++ [next]) <->
      event history next ∨ (Since stays event history ∧ stays next) := by
  constructor
  · intro happened
    rcases happened with ⟨before, entry, after, split, here, staying⟩
    rcases split_concat split with ⟨_, rfl, rfl⟩ | ⟨shorter, rfl, same⟩
    · exact .inl here
    · right
      constructor
      · exact ⟨before, entry, shorter, same, here, fun later member =>
          staying later (List.mem_append_left [next] member)⟩
      · exact staying next (List.mem_append_right shorter (List.mem_singleton.mpr rfl))
  · intro happened
    rcases happened with here | ⟨⟨before, entry, after, rfl, here, staying⟩, stay⟩
    · exact ⟨history, next, [], rfl, here, fun later member => nomatch member⟩
    · refine ⟨before, entry, after ++ [next],
        List.append_assoc before (entry :: after) [next], here, ?_⟩
      intro later member
      rcases List.mem_append.mp member with old | new
      · exact staying later old
      · rw [List.mem_singleton.mp new]
        exact stay

/-- It stays so through more entries that stay. -/
theorem Since.append {later : List A} (happened : Since stays event history)
    (staying : forall entry, entry ∈ later -> stays entry) :
    Since stays event (history ++ later) := by
  rcases happened with ⟨before, entry, after, rfl, here, stayed⟩
  refine ⟨before, entry, after ++ later, List.append_assoc before (entry :: after) later, here, ?_⟩
  intro next member
  rcases List.mem_append.mp member with old | new
  · exact stayed next old
  · exact staying next new

/-- After entries at which the event does not happen, it has happened before them
and all of them stay. -/
theorem since_append {later : List A}
    (never : forall before entry, entry ∈ later -> ¬ event before entry) :
    Since stays event (history ++ later) <->
      Since stays event history ∧ forall entry, entry ∈ later -> stays entry := by
  constructor
  · intro happened
    induction later using List.reverseRecOn with
    | nil =>
        rw [List.append_nil] at happened
        exact ⟨happened, fun _ member => nomatch member⟩
    | append_singleton later entry inductionHypothesis =>
        rw [← List.append_assoc] at happened
        have last : entry ∈ later ++ [entry] :=
          List.mem_append_right later (List.mem_singleton.mpr rfl)
        rcases since_concat.mp happened with here | ⟨before, stay⟩
        · exact absurd here (never _ entry last)
        · rcases inductionHypothesis (fun before other member =>
            never before other (List.mem_append_left [entry] member)) before with ⟨old, staying⟩
          refine ⟨old, fun other member => ?_⟩
          rcases List.mem_append.mp member with earlier | new
          · exact staying other earlier
          · rw [List.mem_singleton.mp new]
            exact stay
  · exact fun both => both.1.append both.2

theorem Since.mono {stays weaker : A -> Prop} (happened : Since stays event history)
    (implies : forall entry, stays entry -> weaker entry) : Since weaker event history := by
  rcases happened with ⟨before, entry, after, split, here, staying⟩
  exact ⟨before, entry, after, split, here, fun later member =>
    implies later (staying later member)⟩

/-- `Since`, decided from the newest entry back. -/
def decideSince [DecidablePred stays] [forall before entry, Decidable (event before entry)] :
    (newest : List A) -> Decidable (Since stays event newest.reverse)
  | [] => .isFalse not_since_nil
  | entry :: older =>
      have := decideSince older
      decidable_of_iff (event older.reverse entry ∨ (Since stays event older.reverse ∧ stays entry))
        (by rw [List.reverse_cons, since_concat])

instance [DecidablePred stays] [forall before entry, Decidable (event before entry)] :
    Decidable (Since stays event history) :=
  have decided : Decidable (Since stays event history.reverse.reverse) := decideSince _
  decidable_of_iff (Since stays event history.reverse.reverse) (by rw [List.reverse_reverse])

theorem once_iff_since : Once event history <-> Since (fun _ => True) event history := by
  constructor
  · intro happened
    rcases happened with ⟨before, entry, after, split, here⟩
    exact ⟨before, entry, after, split, here, fun _ _ => trivial⟩
  · intro happened
    rcases happened with ⟨before, entry, after, split, here, _⟩
    exact ⟨before, entry, after, split, here⟩

instance [forall before entry, Decidable (event before entry)] : Decidable (Once event history) :=
  decidable_of_iff _ once_iff_since.symm

end Traces
