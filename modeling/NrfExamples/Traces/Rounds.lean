import Mathlib.Data.List.Count
import NrfExamples.Traces.Past

namespace Traces

/-!
# Requests that are served in rounds

Requests come in at any time.  One round serves all requests that came before
it began, so a request that comes in while another waits is not lost although
no round of its own follows.  A server that begins a round whenever a request
waits, and finishes each round before it looks again, has answered everything
when it finds nothing waiting.
-/

variable {A : Type}

/-- What counts as a request, what begins a round, and what finishes one.  The
entry that begins a round does not finish it. -/
structure Rounds (A : Type) where
  requests : A -> Bool
  begins : A -> Bool
  finishes : List A -> A -> Prop
  apart : forall before entry, begins entry = true -> ¬ finishes before entry

namespace Rounds

variable (rounds : Rounds A) {history : List A} {next : A}

/-- A request has come in since the last round began. -/
def Waiting (history : List A) : Prop :=
  Since (fun entry => rounds.begins entry = false) (fun _ entry => rounds.requests entry = true)
    history

/-- The last round has been finished. -/
def Finished (history : List A) : Prop :=
  Since (fun entry => rounds.begins entry = false) rounds.finishes history

/-- After every request a round began, which was finished. -/
def Answered (history : List A) : Prop :=
  forall before entry after, history = before ++ entry :: after -> rounds.requests entry = true ->
    exists between first middle last rest,
      after = between ++ first :: (middle ++ last :: rest) ∧ rounds.begins first = true ∧
        rounds.finishes (before ++ entry :: (between ++ first :: middle)) last

variable {rounds}

theorem waiting_concat : rounds.Waiting (history ++ [next]) <->
    rounds.requests next = true ∨ rounds.Waiting history ∧ rounds.begins next = false :=
  since_concat

theorem finished_concat : rounds.Finished (history ++ [next]) <->
    rounds.finishes history next ∨ rounds.Finished history ∧ rounds.begins next = false :=
  since_concat

/-- An entry that is nothing to the server. -/
theorem waiting_append (noRequest : rounds.requests next = false)
    (noRound : rounds.begins next = false) :
    rounds.Waiting (history ++ [next]) <-> rounds.Waiting history := by
  rw [waiting_concat, noRequest, noRound]
  simp

theorem Finished.append (finished : rounds.Finished history)
    (noRound : rounds.begins next = false) : rounds.Finished (history ++ [next]) :=
  finished_concat.mpr (.inr ⟨finished, noRound⟩)

/-- A round has begun after a request that does not wait. -/
theorem exists_begins {before after : List A} {entry : A} (request : rounds.requests entry = true)
    (quiet : ¬ rounds.Waiting (before ++ entry :: after)) :
    exists first, first ∈ after ∧ rounds.begins first = true := by
  by_contra none
  apply quiet
  refine ⟨before, entry, after, rfl, request, fun later member => ?_⟩
  apply Bool.eq_false_iff.mpr
  intro begins
  exact none ⟨later, member, begins⟩

/-- With nothing waiting and the last round finished, everything is answered. -/
theorem answered_of_quiet (quiet : ¬ rounds.Waiting history)
    (finished : (forall entry, entry ∈ history -> rounds.begins entry = false) ∨
      rounds.Finished history) : rounds.Answered history := by
  intro before entry after split request
  subst split
  rcases exists_begins request quiet with ⟨first, member, begins⟩
  have inside : first ∈ before ++ entry :: after :=
    List.mem_append_right before (List.mem_cons_of_mem entry member)
  rcases finished with never | ⟨earlier, last, rest, split, ends, stays⟩
  · exact absurd (begins.symm.trans (never first inside)) (by decide)
  rcases List.append_of_mem member with ⟨between, later, rfl⟩
  -- The end of the last round comes after the beginning of this one.
  have regrouped : (before ++ entry :: between) ++ first :: later = earlier ++ last :: rest := by
    rw [← split, List.append_assoc, List.cons_append]
  rcases List.append_eq_append_iff.mp regrouped with ⟨middle, same, ends'⟩ | ⟨middle, _, ends'⟩
  · cases middle with
    | nil =>
        cases ends'
        exact absurd ends (rounds.apart _ _ begins)
    | cons head middle =>
        cases ends'
        refine ⟨between, _, middle, last, rest, rfl, begins, ?_⟩
        rwa [same, List.append_assoc, List.cons_append] at ends
  · have beyond : first ∈ last :: rest := by
      rw [ends']
      exact List.mem_append_right middle List.mem_cons_self
    rcases List.mem_cons.mp beyond with rfl | beyond
    · exact absurd ends (rounds.apart _ _ begins)
    · exact absurd (begins.symm.trans (stays first beyond)) (by decide)

/-- If a round begins only when a request waits, there are no more rounds than
requests. -/
theorem countP_begins_le (asked : Always (fun before entry => rounds.begins entry = true ->
    rounds.Waiting before) history) :
    history.countP rounds.begins ≤ history.countP rounds.requests ∧
      (rounds.Waiting history ->
        history.countP rounds.begins < history.countP rounds.requests) := by
  induction history using List.reverseRecOn with
  | nil => exact ⟨Nat.le_refl 0, fun waiting => absurd waiting not_since_nil⟩
  | append_singleton history entry inductionHypothesis =>
      rcases always_concat.mp asked with ⟨earlier, here⟩
      rcases inductionHypothesis earlier with ⟨some, more⟩
      rw [waiting_concat, List.countP_append, List.countP_append, List.countP_singleton,
        List.countP_singleton]
      cases begins : rounds.begins entry with
      | true =>
          have enough := more (here begins)
          cases requests : rounds.requests entry with
          | true => simp; omega
          | false => simp; omega
      | false =>
          cases requests : rounds.requests entry with
          | true => simp; omega
          | false =>
              simp only [Bool.false_eq_true, if_false, Nat.add_zero]
              refine ⟨some, fun waiting => more ?_⟩
              rcases waiting with now | ⟨before, _⟩
              · cases now
              · exact before

end Rounds

end Traces
