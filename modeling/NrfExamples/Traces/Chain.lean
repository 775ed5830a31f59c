import NrfExamples.Traces.Machine

namespace Traces

/-!
# Chains of timers

Each time a timer is served, the next one is set; a failure sets none.  A timer is
served at its deadline or later, but never more than `latency` later, and the next
delay counts from then.  So the lateness adds up, while nothing is ever early.
-/

/-- One machine follows another: whatever happens to it is possible for the other,
and what relates their states is kept. -/
theorem Machine.follows {State Event State' Event' : Type} {machine : Machine State Event}
    {other : Machine State' Event'} (related : State -> State' -> Prop) (event : Event -> Event')
    (initially : related machine.start other.start)
    (preserved : forall state state' next, related state state' -> machine.possible state next ->
      other.possible state' (event next) ∧
        related (machine.step state next) (other.step state' (event next)))
    {events : List Event} (allowed : machine.Allowed events) :
    other.Allowed (events.map event) ∧
      related (machine.run events) (other.run (events.map event)) := by
  induction events using List.reverseRecOn with
  | nil => exact ⟨always_nil, initially⟩
  | append_singleton events next inductionHypothesis =>
      rcases Machine.each_concat.mp allowed with ⟨before, possible⟩
      rcases inductionHypothesis before with ⟨allowed, holds⟩
      rcases preserved _ _ next holds possible with ⟨possible', holds'⟩
      rw [List.map_append, List.map_singleton, Machine.run_concat, Machine.run_concat]
      exact ⟨Machine.each_concat.mpr ⟨allowed, possible'⟩, holds'⟩

/-- The time, the timer that is set, and how many timers have been served. -/
structure Chain where
  now : Nat
  due : Option Nat
  served : Nat
  deriving DecidableEq, Repr

namespace Chain

/-- Time passes; the timer is served, which takes some time and may fail. -/
inductive Event
  | elapse (duration : Nat)
  | serve (duration : Nat) (succeeds : Bool)
  deriving DecidableEq, Repr

def step (delay : Nat -> Nat) (chain : Chain) : Event -> Chain
  | .elapse duration => { chain with now := chain.now + duration }
  | .serve duration false => { chain with now := chain.now + duration, due := none }
  | .serve duration true =>
      { now := chain.now + duration
        due := some (chain.now + duration + delay (chain.served + 1))
        served := chain.served + 1 }

/-- A timer is served when it is due, and `latency` after that it has been. -/
def CanHappen (latency : Nat) (chain : Chain) : Event -> Prop
  | .elapse duration => forall due, chain.due = some due -> chain.now + duration ≤ due + latency
  | .serve duration _ => exists due, chain.due = some due ∧ due ≤ chain.now ∧
      chain.now + duration ≤ due + latency

def machine (delay : Nat -> Nat) (latency : Nat) : Machine Chain Event where
  start := ⟨0, some (delay 0), 0⟩
  step := step delay
  possible := CanHappen latency

/-- When a timer would be served if none were late. -/
def dueAt (delay : Nat -> Nat) : Nat -> Nat
  | 0 => delay 0
  | number + 1 => dueAt delay number + delay (number + 1)

/-- No timer has been served in vain. -/
def Succeeds (_ : Chain) : Event -> Prop
  | .elapse _ => True
  | .serve _ succeeds => succeeds = true

instance (chain : Chain) (event : Event) : Decidable (chain.Succeeds event) :=
  match event with
  | .elapse _ => .isTrue trivial
  | .serve _ succeeds => inferInstanceAs (Decidable (succeeds = true))

/-- The event serves a timer, and the next one is set. -/
def Event.serves : Event -> Bool
  | .elapse _ => false
  | .serve _ succeeds => succeeds

variable {delay : Nat -> Nat} {latency : Nat} {chain : Chain} {event : Event}
  {events : List Event}

theorem dueAt_mono (delay : Nat -> Nat) {first last : Nat} (before : first ≤ last) :
    dueAt delay first ≤ dueAt delay last := by
  induction before with
  | refl => exact Nat.le_refl _
  | step _ inductionHypothesis => exact Nat.le_trans inductionHypothesis (Nat.le_add_right _ _)

/-- The timer that is set is not late by more than one latency for each timer before
it, and the last one that was served was not early. -/
structure OnTime (delay : Nat -> Nat) (latency : Nat) (chain : Chain) : Prop where
  early : forall due, chain.due = some due -> dueAt delay chain.served ≤ due
  late : forall due, chain.due = some due ->
    due ≤ dueAt delay chain.served + chain.served * latency
  now : forall due, chain.due = some due -> chain.now ≤ due + latency
  last : forall number, number < chain.served -> dueAt delay number ≤ chain.now

theorem onTime_step (onTime : OnTime delay latency chain)
    (possible : CanHappen latency chain event) : OnTime delay latency (step delay chain event) := by
  match event, possible with
  | .elapse duration, possible =>
      exact ⟨onTime.early, onTime.late, possible, fun number before =>
        Nat.le_trans (onTime.last number before) (Nat.le_add_right _ _)⟩
  | .serve duration false, _ =>
      exact ⟨nofun, nofun, nofun, fun number before =>
        Nat.le_trans (onTime.last number before) (Nat.le_add_right _ _)⟩
  | .serve duration true, ⟨due, set, reached, prompt⟩ =>
      have early := onTime.early due set
      have late := onTime.late due set
      have later : (chain.served + 1) * latency = chain.served * latency + latency :=
        Nat.succ_mul _ _
      constructor
      · rintro next ⟨⟩
        change dueAt delay chain.served + delay (chain.served + 1) ≤ _
        omega
      · rintro next ⟨⟩
        change _ ≤ dueAt delay chain.served + delay (chain.served + 1) +
          (chain.served + 1) * latency
        omega
      · rintro next ⟨⟩
        change chain.now + duration ≤ _
        omega
      · intro number before
        change _ ≤ chain.now + duration
        have monotone := dueAt_mono delay (Nat.le_of_lt_succ before)
        omega

theorem onTime_run (allowed : (machine delay latency).Allowed events) :
    OnTime delay latency ((machine delay latency).run events) := by
  refine Machine.invariant (OnTime delay latency) (fun _ _ => True) ?_
    (fun _ _ onTime possible _ => onTime_step onTime possible) allowed (fun _ _ _ _ => trivial)
  refine ⟨?_, ?_, ?_, nofun⟩
  · rintro due ⟨⟩
    exact Nat.le_refl _
  · rintro due ⟨⟩
    exact Nat.le_add_right _ _
  · intro due _
    exact Nat.zero_le _

theorem served_run (delay : Nat -> Nat) (latency : Nat) (events : List Event) :
    ((machine delay latency).run events).served = events.countP Event.serves := by
  induction events using List.reverseRecOn with
  | nil => rfl
  | append_singleton events event inductionHypothesis =>
      rw [Machine.run_concat, List.countP_append, List.countP_singleton, ← inductionHypothesis]
      match event with
      | .elapse _ => rfl
      | .serve _ true => rfl
      | .serve _ false => rfl

/-- A timer is never served early, and late by no more than one latency for itself and
each before it. -/
theorem serves_inTime (allowed : (machine delay latency).Allowed (events ++ [event]))
    (serves : event.serves = true) :
    let number := events.countP Event.serves
    let now := ((machine delay latency).run (events ++ [event])).now
    dueAt delay number ≤ now ∧ now ≤ dueAt delay number + (number + 1) * latency := by
  rcases Machine.each_concat.mp allowed with ⟨before, possible⟩
  have onTime := onTime_run before
  rw [Machine.run_concat, ← served_run delay latency events]
  generalize (machine delay latency).run events = chain at *
  match event, serves, possible with
  | .serve duration true, _, ⟨due, set, reached, prompt⟩ =>
      have early := onTime.early due set
      have late := onTime.late due set
      have lateness : (chain.served + 1) * latency = chain.served * latency + latency :=
        Nat.succ_mul _ _
      constructor
      · change _ ≤ chain.now + duration
        omega
      · change chain.now + duration ≤ dueAt delay chain.served + (chain.served + 1) * latency
        omega

/-- A timer is set as long as none has been served in vain. -/
theorem isSet_iff (allowed : (machine delay latency).Allowed events) :
    ((machine delay latency).run events).due.isSome = true <->
      (machine delay latency).Each Succeeds events := by
  induction events using List.reverseRecOn with
  | nil => exact iff_of_true rfl always_nil
  | append_singleton events event inductionHypothesis =>
      rcases Machine.each_concat.mp allowed with ⟨before, possible⟩
      rw [Machine.each_concat, Machine.run_concat, ← inductionHypothesis before]
      match event, possible with
      | .elapse _, _ => exact (and_iff_left trivial).symm
      | .serve _ true, ⟨due, set, _⟩ => exact iff_of_true rfl ⟨by rw [set]; rfl, rfl⟩
      | .serve _ false, _ => exact iff_of_false nofun fun both => nomatch both.2

/-- Between the latest time at which a timer is served and the deadline of the next,
exactly the timers up to it have been served. -/
theorem served_eq (allowed : (machine delay latency).Allowed events)
    (succeeds : (machine delay latency).Each Succeeds events) {number : Nat}
    (after : dueAt delay number + (number + 1) * latency < ((machine delay latency).run events).now)
    (before : ((machine delay latency).run events).now < dueAt delay (number + 1)) :
    ((machine delay latency).run events).served = number + 1 := by
  have onTime := onTime_run allowed
  rcases Option.isSome_iff_exists.mp ((isSet_iff allowed).mpr succeeds) with ⟨due, set⟩
  have late := onTime.late due set
  have now := onTime.now due set
  generalize (machine delay latency).run events = chain at *
  rcases Nat.lt_trichotomy chain.served (number + 1) with few | exactly | many
  · -- The timer that is set would be overdue by more than the latency.
    have monotone := dueAt_mono delay (Nat.le_of_lt_succ few)
    have lateness : (chain.served + 1) * latency ≤ (number + 1) * latency :=
      Nat.mul_le_mul_right _ few
    rw [Nat.succ_mul] at lateness
    omega
  · exact exactly
  · exact absurd (onTime.last (number + 1) many) (Nat.not_le.mpr before)

/-- A chain without a timer stays without. -/
theorem stays_unset (unset : ((machine delay latency).run events).due = none)
    {later : List Event} (allowed : (machine delay latency).Allowed (events ++ later)) :
    ((machine delay latency).run (events ++ later)).due = none ∧
      ((machine delay latency).run (events ++ later)).served =
        ((machine delay latency).run events).served := by
  induction later using List.reverseRecOn with
  | nil => rw [List.append_nil]; exact ⟨unset, rfl⟩
  | append_singleton later event inductionHypothesis =>
      rw [← List.append_assoc] at allowed ⊢
      rcases Machine.each_concat.mp allowed with ⟨before, possible⟩
      rcases inductionHypothesis before with ⟨still, same⟩
      rw [Machine.run_concat]
      match event, possible with
      | .elapse _, _ => exact ⟨still, same⟩
      | .serve _ _, ⟨due, set, _⟩ => exact nomatch still.symm.trans set

end Chain

end Traces
