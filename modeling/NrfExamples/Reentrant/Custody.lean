import Mathlib.Algebra.GroupWithZero.Nat
import NrfExamples.Reentrant.Sections

namespace Reentrant

/-!
# Things that pass through the hands of calls

Some kind of thing is taken over, kept in the shared state for a while, and
given back.  A call may have it in hand between two of its sections: it has
removed the thing from the shared state and not given it back yet.  The ledger
counts what was taken, what is held and what was given; what a call has in hand
follows from its own steps.  If every section of every call turns what the call
has in hand into what it says it does, then nothing is lost and nothing is given
back twice, however the calls are mixed.

A step may spoil the ledger.  Nothing is claimed from then on.
-/

/-- How much was taken over, is held, was given back, and how often the ledger
was spoiled. -/
structure Ledger (S : Type) where
  taken : S -> Nat
  held : S -> Nat
  given : S -> Nat
  spoiled : S -> Nat

/-- What a call has in hand. -/
structure Hand where
  amount : Nat
  spoiled : Bool
  deriving DecidableEq, Repr

/-- The amount, unless this call has spoiled the ledger. -/
def Hand.Has (hand : Hand) (amount : Nat) : Prop :=
  hand.spoiled = true ∨ hand.amount = amount

def Hand.empty : Hand where
  amount := 0
  spoiled := false

namespace Ledger

variable {S : Type} (ledger : Ledger S)

/-- What a step of a call leaves in its hand. -/
def remember (hand : Hand) (before after : S) : Hand where
  amount := hand.amount + ledger.taken after + ledger.held before + ledger.given before -
    (ledger.taken before + ledger.held after + ledger.given after)
  spoiled := hand.spoiled || decide (ledger.spoiled before < ledger.spoiled after)

theorem remember_same (hand : Hand) (state : S) : ledger.remember hand state state = hand := by
  rcases hand with ⟨amount, spoiled⟩
  simp only [remember, Nat.lt_irrefl, decide_false, Bool.or_false, Hand.mk.injEq, and_true]
  omega

/-- The step turns the first amount in hand into the second, or spoils the ledger. -/
def Moves (before after : S) (first second : Nat) : Prop :=
  ledger.spoiled before < ledger.spoiled after ∨
    (ledger.spoiled after = ledger.spoiled before ∧
      first + ledger.taken after + ledger.held before + ledger.given before =
        second + ledger.taken before + ledger.held after + ledger.given after)

/-- What was taken is held, in somebody's hand, or has been given back. -/
structure Balanced (state : S) (hands : List Hand) : Prop where
  spoiled : forall hand, hand ∈ hands -> hand.spoiled = true -> 0 < ledger.spoiled state
  single : forall hand, hand ∈ hands -> hand.spoiled = true ∨ hand.amount ≤ 1
  balance : 0 < ledger.spoiled state ∨
    ledger.taken state = ledger.held state + (hands.map Hand.amount).sum + ledger.given state

/-- The beginning of a call moves nothing. -/
structure Untouched (state later : S) : Prop where
  taken : ledger.taken later = ledger.taken state
  held : ledger.held later = ledger.held state
  given : ledger.given later = ledger.given state
  spoiled : ledger.spoiled later = ledger.spoiled state

section Step

variable {ledger} {before after : S} {hand : Hand} {first second : Nat}

theorem Moves.refused_le (moves : ledger.Moves before after first second) :
    ledger.spoiled before ≤ ledger.spoiled after := by
  rcases moves with more | ⟨same, _⟩ <;> omega

/-- After the step the call has in hand what the step says. -/
theorem Moves.has (moves : ledger.Moves before after first second) (has : hand.Has first) :
    (ledger.remember hand before after).Has second := by
  rcases moves with more | ⟨_, counts⟩
  · exact .inl (by simp [remember, more])
  rcases has with spoiled | amount
  · exact .inl (by simp [remember, spoiled])
  · refine .inr ?_
    simp only [remember, amount]
    omega

theorem Balanced.step {others more : List Hand}
    (holds : ledger.Balanced before (others ++ hand :: more)) (has : hand.Has first)
    (moves : ledger.Moves before after first second) (single : second ≤ 1) :
    ledger.Balanced after (others ++ ledger.remember hand before after :: more) := by
  have kept := moves.refused_le
  have afterwards := moves.has has
  refine ⟨?_, ?_, ?_⟩
  · intro other member spoiled
    have old : forall one, one ∈ others ++ hand :: more -> one.spoiled = true ->
        0 < ledger.spoiled after := by
      intro one member spoiled
      have before := holds.spoiled one member spoiled
      omega
    rcases List.mem_append.mp member with left | right
    · exact old other (List.mem_append_left _ left) spoiled
    · rcases List.mem_cons.mp right with rfl | right
      · rcases Bool.or_eq_true_iff.mp spoiled with already | now
        · exact old hand (List.mem_append_right _ List.mem_cons_self) already
        · have more := of_decide_eq_true now
          omega
      · exact old other (List.mem_append_right _ (List.mem_cons_of_mem _ right)) spoiled
  · intro other member
    rcases List.mem_append.mp member with left | right
    · exact holds.single other (List.mem_append_left _ left)
    · rcases List.mem_cons.mp right with rfl | right
      · rcases afterwards with spoiled | amount
        · exact .inl spoiled
        · exact .inr (amount ▸ single)
      · exact holds.single other (List.mem_append_right _ (List.mem_cons_of_mem _ right))
  · by_cases unspoiled : ledger.spoiled after = 0
    · right
      have nothing : ledger.spoiled before = 0 := by omega
      have sound : hand.spoiled = false := by
        cases spoiled : hand.spoiled with
        | false => rfl
        | true =>
            have impossible := holds.spoiled hand (List.mem_append_right _ List.mem_cons_self) spoiled
            omega
      have started : hand.amount = first := by
        rcases has with spoiled | amount
        · rw [sound] at spoiled
          cases spoiled
        · exact amount
      rcases moves with more | ⟨_, counts⟩
      · omega
      rcases holds.balance with impossible | balance
      · omega
      simp only [List.map_append, List.map_cons, List.sum_append, List.sum_cons, remember] at balance ⊢
      omega
    · exact .inl (Nat.pos_of_ne_zero unspoiled)

end Step

/-! ## Calls side by side -/

section Calls

variable {I : Interface} {A : Type} (accounts : Ledger I.State)

/-- The ledger is balanced, and a procedure is called and returns with empty hands.
What the entries mean may depend on an invariant of the state. -/
def sharing (inv : I.State -> Prop) (callable : I.Proc -> Prop) : Sharing I Hand where
  inv := fun state memories => inv state ∧ accounts.Balanced state (memories.map Prod.snd)
  does := fun _ _ _ => True
  does_nothing := fun _ _ => trivial
  ended := fun _ _ hand => hand.Has 0
  pre := fun _ proc hand => callable proc ∧ hand.Has 0
  post := fun _ _ _ _ later => later.Has 0

/-- The program turns what the call has in hand at its beginning into what is
said of its value. -/
def Carries (side : SideBySide I Hand) (inv : I.State -> Prop) (callable : I.Proc -> Prop)
    (program : Prog I A) (first : Nat) (second : A -> Nat) : Prop :=
  forall owner hand, hand.Has first ->
    program.Owns side (accounts.sharing inv callable) owner
      (fun value later => later.Has (second value)) hand

variable {accounts} {side : SideBySide I Hand} {inv : I.State -> Prop} {callable : I.Proc -> Prop}
  {B : Type} {program : Prog I A} {first : Nat} {second : A -> Nat}

theorem Carries.andThen {rest : A -> Prog I B} {third : B -> Nat}
    (begins : accounts.Carries side inv callable program first second)
    (goesOn : forall value, accounts.Carries side inv callable (rest value) (second value) third) :
    accounts.Carries side inv callable (program >>= rest) first third := by
  intro owner hand has
  exact Prog.Owns.andThen (begins owner hand has) fun value later kept => goesOn value owner later kept

/-- The calls remember by this ledger. -/
def Remembers (accounts : Ledger I.State) (side : SideBySide I Hand) : Prop :=
  side.remember = accounts.remember

theorem carries_perform {run : I.State -> A × I.State} (remembers : accounts.Remembers side)
    (moves : forall state, inv state -> inv (run state).2 ∧
      accounts.Moves state (run state).2 first (second (run state).1))
    (single : forall value, second value ≤ 1) :
    accounts.Carries side inv callable (Prog.perform run) first second := by
  intro owner hand has state before after holds
  rw [remembers]
  rcases holds with ⟨known, balanced⟩
  rw [List.map_append, List.map_cons] at balanced
  rcases moves state known with ⟨kept, moves⟩
  refine ⟨⟨kept, ?_⟩, trivial, moves.has has⟩
  rw [List.map_append, List.map_cons]
  exact balanced.step has moves (single _)

theorem carries_modify {run : I.State -> I.State} {amount : Nat} (remembers : accounts.Remembers side)
    (moves : forall state, inv state -> inv (run state) ∧
      accounts.Moves state (run state) first amount) (single : amount ≤ 1) :
    accounts.Carries side inv callable (Prog.modify run) first (fun _ => amount) := by
  have performed : accounts.Carries side inv callable (Prog.perform fun state => ((), run state)) first
      (fun _ => amount) := carries_perform remembers moves fun _ => single
  exact performed

theorem carries_get (view : I.State -> A) :
    accounts.Carries side inv callable (Prog.get view) first (fun _ => first) := by
  intro owner hand has state before after holds
  rw [side.remember_same]
  exact ⟨holds, trivial, has⟩

theorem carries_question (query : I.Query) :
    accounts.Carries side inv callable (Prog.question query) first (fun _ => first) :=
  fun _ _ has _ _ _ => has

theorem carries_invoke {proc : I.Proc} (called : callable proc) :
    accounts.Carries side inv callable (Prog.invoke proc) 0 (fun _ => 0) :=
  fun _ _ has => ⟨⟨called, has⟩, fun _ _ returned => returned⟩

/-! ### Runs -/

theorem Balanced.begin {state later : I.State} {hands : List Hand}
    (holds : accounts.Balanced state hands) (same : accounts.Untouched state later) :
    accounts.Balanced later (hands ++ [Hand.empty]) := by
  refine ⟨?_, ?_, ?_⟩
  · intro hand member spoiled
    rw [same.spoiled]
    rcases List.mem_append.mp member with old | new
    · exact holds.spoiled hand old spoiled
    · rw [List.mem_singleton.mp new] at spoiled
      cases spoiled
  · intro hand member
    rcases List.mem_append.mp member with old | new
    · exact holds.single hand old
    · rw [List.mem_singleton.mp new]
      exact .inr (Nat.zero_le 1)
  · rw [same.spoiled, same.taken, same.held, same.given, List.map_append, List.sum_append]
    exact holds.balance

theorem holds_of_reachable {start : I.State} {current : Pool I Hand}
    (fresh : side.fresh = Hand.empty)
    (begins : forall proc state later, inv state -> side.begins proc state later ->
      callable proc ∧ inv later ∧ accounts.Untouched state later)
    (bodies : forall proc, callable proc ->
      accounts.Carries side inv callable (side.sys.body proc) 0 (fun _ => 0))
    (known : inv start)
    (initially : accounts.taken start = accounts.held start + accounts.given start)
    (reached : side.Reachable ⟨start, []⟩ current) :
    (accounts.sharing inv callable).Holds side current := by
  have starts : (accounts.sharing inv callable).Begins side := by
    intro proc state later memories holds allowed
    rcases begins proc state later holds.1 allowed with ⟨called, kept, same⟩
    rw [fresh]
    refine ⟨⟨kept, ?_⟩, trivial, bodies proc called proc Hand.empty (.inr rfl)⟩
    rw [List.map_append]
    exact Balanced.begin holds.2 same
  have honours : (accounts.sharing inv callable).Honours side :=
    fun owner proc hand assumed => bodies proc assumed.1 owner hand assumed.2
  have nobody : accounts.Balanced start [] :=
    ⟨fun _ member => (nomatch member), fun _ member => (nomatch member), .inr initially⟩
  exact Sharing.Holds.of_reachable starts honours ⟨known, nobody⟩ reached

/-- Only calls under way have anything in hand, and never more than one. -/
theorem counts_of_holds {current : Pool I Hand}
    (holds : (accounts.sharing inv callable).Holds side current)
    (unspoiled : accounts.spoiled current.state = 0) :
    accounts.held current.state + accounts.given current.state ≤ accounts.taken current.state ∧
      accounts.taken current.state ≤ accounts.held current.state + accounts.given current.state +
        current.activities.countP Activity.underWay := by
  have balanced : accounts.Balanced current.state (current.memories.map Prod.snd) := holds.inv.2
  have sound : forall activity, activity ∈ current.activities -> activity.memory.spoiled = false := by
    intro activity member
    cases spoiled : activity.memory.spoiled with
    | false => rfl
    | true =>
        have impossible := balanced.spoiled activity.memory (by
          simp only [Pool.memories, List.map_map, List.mem_map]
          exact ⟨activity, member, rfl⟩) spoiled
        omega
  have each : forall activity, activity ∈ current.activities ->
      activity.memory.amount ≤ if activity.underWay then 1 else 0 := by
    intro activity member
    have unspoiledHand := sound activity member
    rcases activity with ⟨proc, hand, prog⟩
    cases prog with
    | ret value =>
        rcases holds.ended member with spoiled | nothing
        · rw [spoiled] at unspoiledHand
          cases unspoiledHand
        · exact Nat.le_of_eq nothing
    | _ =>
        have single := balanced.single hand (by
          simp only [Pool.memories, List.map_map, List.mem_map]
          exact ⟨_, member, rfl⟩)
        rcases single with spoiled | single
        · rw [spoiled] at unspoiledHand
          cases unspoiledHand
        · exact single
  have total : forall activities : List (Activity I Hand),
      (forall activity, activity ∈ activities ->
        activity.memory.amount ≤ if activity.underWay then 1 else 0) ->
      (activities.map fun activity => activity.memory.amount).sum ≤
        activities.countP Activity.underWay := by
    intro activities
    induction activities with
    | nil => exact fun _ => Nat.le_refl 0
    | cons activity activities inductionHypothesis =>
        intro bounded
        have first := bounded activity List.mem_cons_self
        have rest := inductionHypothesis fun other member =>
          bounded other (List.mem_cons_of_mem _ member)
        rw [List.map_cons, List.sum_cons, List.countP_cons]
        omega
  have inHand := total current.activities each
  rcases balanced.balance with impossible | balance
  · omega
  · simp only [Pool.memories, List.map_map] at balance
    have same : (current.activities.map
        (Hand.amount ∘ Prod.snd ∘ fun activity => (activity.proc, activity.memory))).sum =
        (current.activities.map fun activity => activity.memory.amount).sum := rfl
    rw [same] at balance
    omega

end Calls

end Ledger

end Reentrant
