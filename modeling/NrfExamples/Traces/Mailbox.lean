import Mathlib.Data.List.Induction

namespace Traces

/-!
# A queue with a bounded number of places

A message that is put into a full queue is lost.  Beside the messages that wait,
a mailbox remembers which were offered, which found a place, and which have been
taken; that these agree is part of the type, so it holds in every program that
has a mailbox in its state.
-/

structure Mailbox (A : Type) (places : Nat) where
  items : List A
  offered : List A
  accepted : List A
  taken : List A
  fits : items.length ≤ places
  balance : accepted = taken ++ items
  chosen : accepted.Sublist offered

namespace Mailbox

variable {A : Type} {places : Nat}

def empty : Mailbox A places where
  items := []
  offered := []
  accepted := []
  taken := []
  fits := Nat.zero_le places
  balance := rfl
  chosen := .slnil

/-- Offer a message, which is lost if there is no place for it. -/
def put (box : Mailbox A places) (item : A) : Mailbox A places :=
  if room : box.items.length < places then
    { items := box.items ++ [item]
      offered := box.offered ++ [item]
      accepted := box.accepted ++ [item]
      taken := box.taken
      fits := by
        rw [List.length_append, List.length_singleton]
        exact room
      balance := by rw [box.balance, List.append_assoc]
      chosen := box.chosen.append (.refl [item]) }
  else
    { box with
      offered := box.offered ++ [item]
      chosen := box.chosen.trans (List.sublist_append_left _ _) }

/-- Take the message that has waited longest. -/
def get (box : Mailbox A places) : Option (A × Mailbox A places) :=
  match waiting : box.items with
  | [] => none
  | item :: rest => some (item,
      { items := rest
        offered := box.offered
        accepted := box.accepted
        taken := box.taken ++ [item]
        fits := by
          have fits := box.fits
          rw [waiting, List.length_cons] at fits
          exact Nat.le_of_succ_le fits
        balance := by rw [box.balance, waiting, List.append_assoc, List.singleton_append]
        chosen := box.chosen })

/-- Offer one message after the other. -/
def putAll (box : Mailbox A places) (items : List A) : Mailbox A places :=
  items.foldl put box

/-- No message has been lost. -/
def Lossless (box : Mailbox A places) : Prop :=
  box.accepted = box.offered

instance [DecidableEq A] (box : Mailbox A places) : Decidable box.Lossless :=
  inferInstanceAs (Decidable (box.accepted = box.offered))

variable {box : Mailbox A places} {item : A}

theorem put_of_room (room : box.items.length < places) :
    (box.put item).items = box.items ++ [item] ∧ (box.put item).accepted = box.accepted ++ [item] := by
  unfold put
  rw [dif_pos room]
  exact ⟨rfl, rfl⟩

theorem put_of_full (full : ¬ box.items.length < places) :
    (box.put item).items = box.items ∧ (box.put item).accepted = box.accepted := by
  unfold put
  rw [dif_neg full]
  exact ⟨rfl, rfl⟩

@[simp] theorem put_offered : (box.put item).offered = box.offered ++ [item] := by
  unfold put
  split <;> rfl

@[simp] theorem put_taken : (box.put item).taken = box.taken := by
  unfold put
  split <;> rfl

@[simp] theorem putAll_taken (items : List A) : (box.putAll items).taken = box.taken := by
  induction items generalizing box with
  | nil => rfl
  | cons item rest inductionHypothesis =>
      exact inductionHypothesis.trans put_taken

@[simp] theorem putAll_offered (items : List A) :
    (box.putAll items).offered = box.offered ++ items := by
  induction items generalizing box with
  | nil => exact (List.append_nil _).symm
  | cons item rest inductionHypothesis =>
      refine inductionHypothesis.trans ?_
      rw [put_offered, List.append_assoc, List.singleton_append]

/-- What taking a message does, in full. -/
theorem get_spec {later : Mailbox A places} (took : box.get = some (item, later)) :
    box.items = item :: later.items ∧ later.taken = box.taken ++ [item] ∧
      later.offered = box.offered ∧ later.accepted = box.accepted := by
  unfold get at took
  split at took
  · cases took
  · rename_i head rest waiting
    cases took
    exact ⟨waiting, rfl, rfl, rfl⟩

/-- Once a message has been lost, no later message makes up for it. -/
theorem lossless_of_put (lossless : (box.put item).Lossless) :
    box.Lossless ∧ box.items.length < places := by
  unfold Lossless at lossless ⊢
  rw [put_offered] at lossless
  by_cases room : box.items.length < places
  · rw [(put_of_room room).2] at lossless
    exact ⟨(List.append_inj' lossless rfl).1, room⟩
  · rw [(put_of_full room).2] at lossless
    have short := box.chosen.length_le
    have long := congrArg List.length lossless
    rw [List.length_append, List.length_singleton] at long
    omega

theorem lossless_of_putAll {items : List A} (lossless : (box.putAll items).Lossless) :
    box.Lossless := by
  induction items generalizing box with
  | nil => exact lossless
  | cons item rest inductionHypothesis =>
      exact (lossless_of_put (inductionHypothesis lossless)).1

/-- How many places a mailbox would need that loses nothing. -/
theorem length_offered (lossless : box.Lossless) :
    box.offered.length = box.taken.length + box.items.length := by
  have balance := box.balance
  rw [lossless] at balance
  rw [balance, List.length_append]

/-- A mailbox that has lost nothing loses nothing of what comes in exactly when
there are places for all of it. -/
theorem putAll_lossless_iff (lossless : box.Lossless) (items : List A) :
    (box.putAll items).Lossless <->
      box.offered.length + items.length ≤ box.taken.length + places := by
  constructor
  · intro keeps
    have balance := length_offered keeps
    have fits := (box.putAll items).fits
    rw [putAll_offered, putAll_taken, List.length_append] at balance
    omega
  · intro room
    induction items generalizing box with
    | nil => exact lossless
    | cons item rest inductionHypothesis =>
        have balance := length_offered lossless
        rw [List.length_cons] at room
        have place : box.items.length < places := by omega
        apply inductionHypothesis
        · unfold Lossless
          rw [put_offered, (put_of_room place).2, lossless]
        · rw [put_offered, put_taken, List.length_append, List.length_singleton]
          omega

theorem taken_eq_accepted (nothing : box.items = []) : box.taken = box.accepted := by
  have balance := box.balance
  rw [nothing, List.append_nil] at balance
  exact balance.symm

end Mailbox

end Traces
