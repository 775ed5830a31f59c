import Mathlib.Data.List.Induction
import NrfExamples.Traces.Past

namespace Traces

/-!
# Machines driven by events

A machine has a state, handles one event after the other, and says which events
are possible in a state.  A run is given by its events.  A condition on events
may read the state that the event meets; it holds along a run if it holds of
each event.
-/

structure Machine (State Event : Type) where
  start : State
  step : State -> Event -> State
  possible : State -> Event -> Prop

namespace Machine

variable {State Event : Type} (machine : Machine State Event)

/-- The state after these events. -/
def run (events : List Event) : State :=
  events.foldl machine.step machine.start

/-- Each event meets a state in which the condition holds of it. -/
def Each (condition : State -> Event -> Prop) (events : List Event) : Prop :=
  Always (fun before event => condition (machine.run before) event) events

/-- The environment can produce these events. -/
def Allowed (events : List Event) : Prop :=
  machine.Each machine.possible events

variable {machine} {condition : State -> Event -> Prop} {events : List Event} {event : Event}

theorem run_concat : machine.run (events ++ [event]) = machine.step (machine.run events) event := by
  unfold run
  rw [List.foldl_append, List.foldl_cons, List.foldl_nil]

theorem each_concat :
    machine.Each condition (events ++ [event]) <->
      machine.Each condition events ∧ condition (machine.run events) event :=
  always_concat

instance [forall state event, Decidable (condition state event)] :
    Decidable (machine.Each condition events) :=
  inferInstanceAs (Decidable (Always _ events))

/-- What holds at the start and is preserved by every event that meets the
condition holds after every run that does. -/
theorem invariant (holds : State -> Prop) (condition : State -> Event -> Prop)
    (initially : holds machine.start)
    (preserved : forall state event, holds state -> machine.possible state event ->
      condition state event -> holds (machine.step state event))
    (allowed : machine.Allowed events) (each : machine.Each condition events) :
    holds (machine.run events) := by
  induction events using List.reverseRecOn with
  | nil => exact initially
  | append_singleton events event inductionHypothesis =>
      rcases each_concat.mp allowed with ⟨allowedBefore, possible⟩
      rcases each_concat.mp each with ⟨eachBefore, condition⟩
      rw [run_concat]
      exact preserved _ _ (inductionHypothesis allowedBefore eachBefore) possible condition

/-- If an event does what it should exactly when it meets the condition, as long as the
invariant holds, then all events of a run do exactly when all of them meet it. -/
theorem each_iff {property : State -> Event -> Prop} (holds : State -> Prop)
    (condition : State -> Event -> Prop) (initially : holds machine.start)
    (preserved : forall state event, holds state -> machine.possible state event ->
      condition state event -> holds (machine.step state event))
    (exact : forall state event, holds state -> machine.possible state event ->
      (property state event <-> condition state event))
    (allowed : machine.Allowed events) :
    machine.Each property events <-> machine.Each condition events := by
  induction events using List.reverseRecOn with
  | nil => exact iff_of_true always_nil always_nil
  | append_singleton events event inductionHypothesis =>
      rcases each_concat.mp allowed with ⟨allowedBefore, possible⟩
      rw [each_concat, each_concat, inductionHypothesis allowedBefore]
      apply and_congr_right
      intro eachBefore
      have before := invariant holds condition initially preserved allowedBefore eachBefore
      exact exact _ _ before possible

end Machine

end Traces
