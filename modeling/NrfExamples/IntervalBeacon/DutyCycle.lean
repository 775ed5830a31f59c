import NrfExamples.Traces.Chain

namespace NrfExamples
namespace IntervalBeacon

open Traces

/-!
# When the beacon advertises

`main.c` of `interval_beacon`.  Two delayable work items switch advertising on and off,
and each schedules the other.  The work queue may be late, and the calls of the
Bluetooth stack take time, both together at most `latency`; the program does not make
up for it.  A call that fails is printed and ends the cycle.
-/

/-- `ACTIVE_TIME` and `SLEEP_TIME`, in milliseconds. -/
abbrev activeTime : Nat := 30000

abbrev sleepTime : Nat := 180000

/-- The time, what the stack does, and when `start_adv_work` and `stop_adv_work` are
due, as far as they are scheduled. -/
structure Beacon where
  now : Nat
  advertising : Bool
  startAdvWork : Option Nat
  stopAdvWork : Option Nat
  deriving DecidableEq, Repr

/-- `start_adv_handler`, with the result of `bt_le_adv_start`. -/
def startAdvHandler (err : Int) (beacon : Beacon) : Beacon :=
  if err ≠ 0 then beacon
  else { beacon with advertising := true, stopAdvWork := some (beacon.now + activeTime) }

/-- `stop_adv_handler`, with the result of `bt_le_adv_stop`. -/
def stopAdvHandler (err : Int) (beacon : Beacon) : Beacon :=
  if err ≠ 0 then beacon
  else { beacon with advertising := false, startAdvWork := some (beacon.now + sleepTime) }

/-- `bt_ready`; nothing is scheduled after an error. -/
def btReady (err : Int) (beacon : Beacon) : Beacon :=
  if err ≠ 0 then beacon
  else { beacon with startAdvWork := some beacon.now }

/-! ## Runs -/

/-- Time passes, and the work queue runs an item; the call in it takes `duration`, and
its result is `err`. -/
inductive Event
  | elapse (duration : Nat)
  | startAdvWork (duration : Nat) (err : Int)
  | stopAdvWork (duration : Nat) (err : Int)
  deriving DecidableEq, Repr

/-- An item that runs is no longer scheduled. -/
def step (beacon : Beacon) : Event -> Beacon
  | .elapse duration => { beacon with now := beacon.now + duration }
  | .startAdvWork duration err =>
      startAdvHandler err { beacon with now := beacon.now + duration, startAdvWork := none }
  | .stopAdvWork duration err =>
      stopAdvHandler err { beacon with now := beacon.now + duration, stopAdvWork := none }

/-- The item is due, and is dealt with in time. -/
def Runs (latency duration : Nat) (beacon : Beacon) (item : Option Nat) : Prop :=
  exists due, item = some due ∧ due ≤ beacon.now ∧ beacon.now + duration ≤ due + latency

/-- An item runs when it is due, and `latency` after that it has run. -/
def CanHappen (latency : Nat) (beacon : Beacon) : Event -> Prop
  | .elapse duration => forall due, beacon.startAdvWork = some due ∨
      beacon.stopAdvWork = some due -> beacon.now + duration ≤ due + latency
  | .startAdvWork duration _ => Runs latency duration beacon beacon.startAdvWork
  | .stopAdvWork duration _ => Runs latency duration beacon beacon.stopAdvWork

/-- Time counts from `bt_ready`. -/
def beacon (latency : Nat) : Machine Beacon Event where
  start := btReady 0 ⟨0, false, none, none⟩
  step := step
  possible := CanHappen latency

/-- The stack does what it is asked for. -/
def Succeeds (_ : Beacon) : Event -> Prop
  | .elapse _ => True
  | .startAdvWork _ err | .stopAdvWork _ err => err = 0

instance (state : Beacon) (event : Event) : Decidable (Succeeds state event) :=
  match event with
  | .elapse _ => .isTrue trivial
  | .startAdvWork _ err | .stopAdvWork _ err => inferInstanceAs (Decidable (err = 0))

/-- When advertising would be switched for the `number`-th time, from zero, if nothing
took any time: on with even numbers, off with odd ones. -/
def switchesAt (number : Nat) : Nat :=
  number / 2 * (activeTime + sleepTime) + number % 2 * activeTime

/-- Advertising is switched on or off. -/
def Event.switches : Event -> Bool
  | .elapse _ => false
  | .startAdvWork _ err | .stopAdvWork _ err => decide (err = 0)

/-- A switching is never early, and late by no more than one latency for itself and
each before it. -/
def InTime (latency : Nat) (before : List Event) (event : Event) : Prop :=
  event.switches = true ->
    switchesAt (before.countP Event.switches) ≤
        ((beacon latency).run (before ++ [event])).now ∧
      ((beacon latency).run (before ++ [event])).now ≤
        switchesAt (before.countP Event.switches) +
          (before.countP Event.switches + 1) * latency

/-! ## The two items as one chain of timers -/

/-- What comes before the `number`-th switching. -/
def delay (number : Nat) : Nat :=
  if number = 0 then 0 else if number % 2 = 1 then activeTime else sleepTime

theorem dueAt_eq (number : Nat) : Chain.dueAt delay number = switchesAt number := by
  induction number with
  | zero => rfl
  | succ number inductionHypothesis =>
      change Chain.dueAt delay number + delay (number + 1) = switchesAt (number + 1)
      rw [inductionHypothesis]
      unfold delay switchesAt activeTime sleepTime
      split
      · omega
      · split <;> omega

/-- The item that is scheduled is the timer that is set: the beacon advertises after an
odd number of switchings, and then only `stop_adv_work` can be scheduled. -/
structure Follows (beacon : Beacon) (chain : Chain) : Prop where
  now : beacon.now = chain.now
  advertising : beacon.advertising = decide (chain.served % 2 = 1)
  startAdvWork : beacon.startAdvWork = if beacon.advertising = true then none else chain.due
  stopAdvWork : beacon.stopAdvWork = if beacon.advertising = true then chain.due else none

/-- A switching serves the timer. -/
def switching : Event -> Chain.Event
  | .elapse duration => .elapse duration
  | .startAdvWork duration err | .stopAdvWork duration err => .serve duration (decide (err = 0))

variable {latency : Nat} {state : Beacon} {chain : Chain} {event : Event} {events : List Event}

theorem startAdvHandler_zero : startAdvHandler 0 state =
    { state with advertising := true, stopAdvWork := some (state.now + activeTime) } :=
  if_neg (not_not.mpr rfl)

theorem startAdvHandler_of_ne {err : Int} (failed : err ≠ 0) : startAdvHandler err state = state :=
  if_pos failed

theorem stopAdvHandler_zero : stopAdvHandler 0 state =
    { state with advertising := false, startAdvWork := some (state.now + sleepTime) } :=
  if_neg (not_not.mpr rfl)

theorem stopAdvHandler_of_ne {err : Int} (failed : err ≠ 0) : stopAdvHandler err state = state :=
  if_pos failed

theorem follows_elapse {duration : Nat} (follows : Follows state chain)
    (possible : CanHappen latency state (.elapse duration)) :
    Chain.CanHappen latency chain (.elapse duration) ∧
      Follows (step state (.elapse duration)) (chain.step delay (.elapse duration)) := by
  refine ⟨fun due set => ?_, ⟨by rw [step, Chain.step, follows.now], follows.advertising,
    follows.startAdvWork, follows.stopAdvWork⟩⟩
  rw [← follows.now]
  apply possible due
  cases advertising : state.advertising with
  | true => exact .inr (by rw [follows.stopAdvWork, if_pos advertising, set])
  | false => exact .inl (by rw [follows.startAdvWork, if_neg (by simp [advertising]), set])

theorem follows_startAdvWork {duration : Nat} {err : Int} (follows : Follows state chain)
    (possible : CanHappen latency state (.startAdvWork duration err)) :
    Chain.CanHappen latency chain (.serve duration (decide (err = 0))) ∧
      Follows (step state (.startAdvWork duration err))
        (chain.step delay (.serve duration (decide (err = 0)))) := by
  rcases possible with ⟨due, scheduled, reached, prompt⟩
  have silent : state.advertising = false := by
    cases advertising : state.advertising with
    | false => rfl
    | true =>
        rw [follows.startAdvWork, if_pos advertising] at scheduled
        cases scheduled
  have noStop : state.stopAdvWork = none := by
    rw [follows.stopAdvWork, silent]
    rfl
  have even : chain.served % 2 = 0 := by
    have odd := follows.advertising.symm.trans silent
    have notOdd := of_decide_eq_false odd
    omega
  rw [follows.startAdvWork, silent] at scheduled
  rw [follows.now] at reached prompt
  refine ⟨⟨due, scheduled, reached, prompt⟩, ?_⟩
  change Follows (startAdvHandler err _) _
  by_cases succeeds : err = 0
  · rw [succeeds, startAdvHandler_zero, decide_eq_true rfl]
    have next : (chain.served + 1) % 2 = 1 := by omega
    refine ⟨by rw [Chain.step, follows.now], (decide_eq_true next).symm, rfl, ?_⟩
    change some (state.now + duration + activeTime) =
      some (chain.now + duration + delay (chain.served + 1))
    rw [follows.now, delay, if_neg (Nat.succ_ne_zero _), if_pos next]
  · rw [startAdvHandler_of_ne succeeds, decide_eq_false succeeds]
    refine ⟨by rw [Chain.step, follows.now], follows.advertising, ?_, ?_⟩
    · change none = if state.advertising = true then none else none
      rw [ite_self]
    · change state.stopAdvWork = if state.advertising = true then none else none
      rw [noStop, ite_self]

theorem follows_stopAdvWork {duration : Nat} {err : Int} (follows : Follows state chain)
    (possible : CanHappen latency state (.stopAdvWork duration err)) :
    Chain.CanHappen latency chain (.serve duration (decide (err = 0))) ∧
      Follows (step state (.stopAdvWork duration err))
        (chain.step delay (.serve duration (decide (err = 0)))) := by
  rcases possible with ⟨due, scheduled, reached, prompt⟩
  have advertises : state.advertising = true := by
    cases advertising : state.advertising with
    | true => rfl
    | false =>
        rw [follows.stopAdvWork, advertising] at scheduled
        cases scheduled
  have noStart : state.startAdvWork = none := by
    rw [follows.startAdvWork, if_pos advertises]
  have odd : chain.served % 2 = 1 :=
    of_decide_eq_true (follows.advertising.symm.trans advertises)
  rw [follows.stopAdvWork, if_pos advertises] at scheduled
  rw [follows.now] at reached prompt
  refine ⟨⟨due, scheduled, reached, prompt⟩, ?_⟩
  change Follows (stopAdvHandler err _) _
  by_cases succeeds : err = 0
  · rw [succeeds, stopAdvHandler_zero, decide_eq_true rfl]
    have next : ¬ (chain.served + 1) % 2 = 1 := by omega
    refine ⟨by rw [Chain.step, follows.now], (decide_eq_false next).symm, ?_, rfl⟩
    change some (state.now + duration + sleepTime) =
      some (chain.now + duration + delay (chain.served + 1))
    rw [follows.now, delay, if_neg (Nat.succ_ne_zero _), if_neg next]
  · rw [stopAdvHandler_of_ne succeeds, decide_eq_false succeeds]
    refine ⟨by rw [Chain.step, follows.now], follows.advertising, ?_, ?_⟩
    · change state.startAdvWork = if state.advertising = true then none else none
      rw [noStart, ite_self]
    · change none = if state.advertising = true then none else none
      rw [ite_self]

/-- The beacon is a chain of timers with these delays. -/
theorem follows_run (allowed : (beacon latency).Allowed events) :
    (Chain.machine delay latency).Allowed (events.map switching) ∧
      Follows ((beacon latency).run events)
        ((Chain.machine delay latency).run (events.map switching)) := by
  refine Machine.follows Follows switching ⟨rfl, rfl, rfl, rfl⟩ ?_ allowed
  intro state chain event follows possible
  match event, possible with
  | .elapse _, possible => exact follows_elapse follows possible
  | .startAdvWork _ _, possible => exact follows_startAdvWork follows possible
  | .stopAdvWork _ _, possible => exact follows_stopAdvWork follows possible

theorem succeeds_iff : (Chain.machine delay latency).Each Chain.Succeeds (events.map switching) <->
    (beacon latency).Each Succeeds events := by
  induction events using List.reverseRecOn with
  | nil => exact iff_of_true always_nil always_nil
  | append_singleton events event inductionHypothesis =>
      rw [List.map_append, List.map_singleton, Machine.each_concat, Machine.each_concat,
        inductionHypothesis]
      apply and_congr_right
      intro _
      cases event with
      | elapse _ => exact Iff.rfl
      | startAdvWork _ err => exact decide_eq_true_iff
      | stopAdvWork _ err => exact decide_eq_true_iff

theorem countP_switching (events : List Event) :
    (events.map switching).countP Chain.Event.serves = events.countP Event.switches := by
  rw [List.countP_map]
  congr 1
  funext event
  cases event <;> rfl

theorem inTime (allowed : (beacon latency).Allowed (events ++ [event])) :
    InTime latency events event := by
  intro switches
  rcases follows_run allowed with ⟨chained, follows⟩
  rw [List.map_append, List.map_singleton] at chained follows
  have serves : (switching event).serves = true := by
    rw [← switches]
    cases event <;> rfl
  rw [follows.now, ← dueAt_eq, ← countP_switching]
  exact Chain.serves_inTime chained serves

/-! ## The duty cycle -/

/-- At most one item is scheduled: `start_adv_work` only while the beacon does not
advertise, `stop_adv_work` only while it does.  As long as no call has failed, it
advertises from the even to the odd switchings and is silent from the odd to the even
ones, each of them late by no more than one latency for itself and each before it.
After a failure nothing is scheduled, and advertising stays as it is for ever.  All
the time the beacon advertises after an odd number of switchings and is silent after
an even one, and each of them is in time, however much lateness has added up. -/
theorem beacon_keepsTime (allowed : (beacon latency).Allowed events) :
    let reached := (beacon latency).run events
    (reached.startAdvWork.isSome = true -> reached.advertising = false) ∧
      (reached.stopAdvWork.isSome = true -> reached.advertising = true) ∧
      ((beacon latency).Each Succeeds events -> forall number,
        switchesAt number + (number + 1) * latency < reached.now ->
        reached.now < switchesAt (number + 1) ->
        (reached.advertising = true <-> number % 2 = 0)) ∧
      (¬ (beacon latency).Each Succeeds events -> forall later,
        (beacon latency).Allowed (events ++ later) ->
        ((beacon latency).run (events ++ later)).startAdvWork = none ∧
          ((beacon latency).run (events ++ later)).stopAdvWork = none ∧
          ((beacon latency).run (events ++ later)).advertising = reached.advertising) ∧
      (reached.advertising = true <-> events.countP Event.switches % 2 = 1) ∧
      Always (InTime latency) events := by
  intro reached
  rcases follows_run allowed with ⟨chained, follows⟩
  refine ⟨?_, ?_, ?_, ?_, ?_, ?_⟩
  · intro scheduled
    cases advertising : reached.advertising with
    | false => rfl
    | true =>
        rw [follows.startAdvWork, if_pos advertising] at scheduled
        cases scheduled
  · intro scheduled
    cases advertising : reached.advertising with
    | true => rfl
    | false =>
        rw [follows.stopAdvWork, if_neg (by rw [advertising]; exact Bool.false_ne_true)] at scheduled
        cases scheduled
  · intro succeeds number after before
    rw [← dueAt_eq] at after before
    have now : reached.now = _ := follows.now
    rw [now] at after before
    have served := Chain.served_eq chained (succeeds_iff.mpr succeeds) after before
    rw [follows.advertising, served, decide_eq_true_iff]
    omega
  · intro failed later allowedLater
    rcases follows_run allowedLater with ⟨chainedLater, followsLater⟩
    have unset : ((Chain.machine delay latency).run (events.map switching)).due = none := by
      rw [← Option.not_isSome_iff_eq_none, Chain.isSet_iff chained, succeeds_iff]
      exact failed
    rw [List.map_append] at chainedLater followsLater
    rcases Chain.stays_unset unset chainedLater with ⟨still, same⟩
    refine ⟨?_, ?_, ?_⟩
    · rw [followsLater.startAdvWork, still, ite_self]
    · rw [followsLater.stopAdvWork, still, ite_self]
    · rw [followsLater.advertising, same, follows.advertising]
  · rw [follows.advertising, decide_eq_true_iff, Chain.served_run, countP_switching]
  · intro before event after split
    apply inTime
    apply Always.of_prefix allowed
    rw [split]
    exact ⟨after, by rw [List.append_assoc, List.singleton_append]⟩

/-- The beacon advertises for half a minute, with a little lateness. -/
def firstCycle : List Event :=
  [.startAdvWork 2 0, .elapse 30001, .stopAdvWork 1 0, .elapse 100000]

theorem firstCycle_allowed : (beacon 5).Allowed firstCycle := by
  refine Machine.each_concat.mpr ⟨Machine.each_concat.mpr ⟨Machine.each_concat.mpr
    ⟨Machine.each_concat.mpr ⟨always_nil, ?_⟩, ?_⟩, ?_⟩, ?_⟩
  · exact ⟨0, rfl, by decide, by decide⟩
  · rintro due (⟨⟨⟩⟩ | ⟨⟨⟩⟩)
    decide
  · exact ⟨30002, rfl, by decide, by decide⟩
  · rintro due (⟨⟨⟩⟩ | ⟨⟨⟩⟩)
    decide

theorem firstCycle_keepsTime :
    ((beacon 5).run firstCycle).advertising = true <-> 1 % 2 = 0 :=
  (beacon_keepsTime firstCycle_allowed).2.2.1 (by decide) 1 (by decide) (by decide)

end IntervalBeacon
end NrfExamples
