import NrfExamples.Reentrant.Program

namespace Reentrant

/-!
# Calls side by side

Any number of calls run on one shared state, a step of one after a step of
another in any order.  New calls begin when the environment lets them.  Each
call has a memory, which no program can read: it is computed from the steps of
that call alone.

What holds in every state is a predicate on the shared state and on all
memories.  `Sharing.Owns` says what one program needs for it, with the other
calls left open, so each program is looked at by itself.
-/

/-- A call under way: its memory, and what remains to be executed. -/
structure Activity (I : Interface) (M : Type) where
  proc : I.Proc
  memory : M
  prog : Prog I (I.Result proc)

/-- The shared state and all calls, the oldest first.  A call that has ended
stays in the list. -/
structure Pool (I : Interface) (M : Type) where
  state : I.State
  activities : List (Activity I M)

variable {I : Interface} {M A B : Type}

/-- Who has which memory. -/
def Pool.memories (pool : Pool I M) : List (I.Proc × M) :=
  pool.activities.map fun activity => (activity.proc, activity.memory)

/-- The procedures, when a call begins and what that changes, and how a call
remembers its own steps. -/
structure SideBySide (I : Interface) (M : Type) where
  sys : System I
  begins : I.Proc -> I.State -> I.State -> Prop
  fresh : M
  remember : M -> I.State -> I.State -> M
  remember_same : forall memory state, remember memory state state = memory

namespace SideBySide

variable (side : SideBySide I M)

/-- One step: a call begins, or one of the calls goes on. -/
inductive Step : Pool I M -> Pool I M -> Prop
  | begin (activities : List (Activity I M)) (proc : I.Proc) (state later : I.State)
      (allowed : side.begins proc state later) :
      Step ⟨state, activities⟩ ⟨later, activities ++ [⟨proc, side.fresh, side.sys.body proc⟩]⟩
  | move (first last : List (Activity I M)) (proc : I.Proc) (memory : M)
      (prog next : Prog I (I.Result proc)) (state later : I.State)
      (step : side.sys.Step ⟨state, prog⟩ ⟨later, next⟩) :
      Step ⟨state, first ++ ⟨proc, memory, prog⟩ :: last⟩
        ⟨later, first ++ ⟨proc, side.remember memory state later, next⟩ :: last⟩

/-- The pools that a run from `start` passes through. -/
def Reachable (start current : Pool I M) : Prop :=
  Relation.ReflTransGen side.Step start current

variable {side}

/-- A run of one call alone is a run of the pool. -/
theorem reachable_alone {proc : I.Proc} {prog next : Prog I (I.Result proc)}
    {state later : I.State} (runs : side.sys.Reachable ⟨state, prog⟩ ⟨later, next⟩)
    (first last : List (Activity I M)) (memory : M) :
    exists remembered, side.Reachable ⟨state, first ++ ⟨proc, memory, prog⟩ :: last⟩
      ⟨later, first ++ ⟨proc, remembered, next⟩ :: last⟩ := by
  generalize ends : (⟨later, next⟩ : Config I (I.Result proc)) = target at runs
  induction runs generalizing later next with
  | refl =>
      cases ends
      exact ⟨memory, .refl⟩
  | tail _ step inductionHypothesis =>
      subst ends
      rcases inductionHypothesis rfl with ⟨remembered, before⟩
      exact ⟨_, before.tail (.move first last proc remembered _ next _ later step)⟩

end SideBySide

/-- What holds of the state and the memories, what every step does, what is known
of a call that has ended, and the contract of a procedure that a call uses. -/
structure Sharing (I : Interface) (M : Type) where
  inv : I.State -> List (I.Proc × M) -> Prop
  does : I.State -> List (I.Proc × M) -> I.State -> Prop
  does_nothing : forall state memories, does state memories state
  ended : (proc : I.Proc) -> I.Result proc -> M -> Prop
  pre : (owner proc : I.Proc) -> M -> Prop
  post : (owner proc : I.Proc) -> M -> I.Result proc -> M -> Prop

namespace Prog

variable (side : SideBySide I M) (sharing : Sharing I M) (owner : I.Proc)

/-- Whatever the other calls do, the program of this call keeps the invariant, and
ends in `goal`. -/
def Owns : Prog I A -> (A -> M -> Prop) -> M -> Prop
  | .ret value, goal, memory => goal value memory
  | .act run next, goal, memory => forall state first last,
      sharing.inv state (first ++ (owner, memory) :: last) ->
        sharing.inv (run state).2
          (first ++ (owner, side.remember memory state (run state).2) :: last) ∧
        sharing.does state (first ++ (owner, memory) :: last) (run state).2 ∧
        (next (run state).1).Owns goal (side.remember memory state (run state).2)
  | .ask query next, goal, memory => forall state answer,
      side.sys.permitted query state answer -> (next answer).Owns goal memory
  | .call proc next, goal, memory => sharing.pre owner proc memory ∧
      forall result later, sharing.post owner proc memory result later ->
        (next result).Owns goal later

variable {side sharing owner} {memory : M}

theorem Owns.mono {program : Prog I A} {goal weaker : A -> M -> Prop}
    (owns : program.Owns side sharing owner goal memory)
    (implies : forall value later, goal value later -> weaker value later) :
    program.Owns side sharing owner weaker memory := by
  induction program generalizing memory with
  | ret value => exact implies value memory owns
  | act run next inductionHypothesis =>
      intro state first last holds
      rcases owns state first last holds with ⟨kept, does, goesOn⟩
      exact ⟨kept, does, inductionHypothesis _ goesOn⟩
  | ask query next inductionHypothesis =>
      intro state answer allowed
      exact inductionHypothesis answer (owns state answer allowed)
  | call proc next inductionHypothesis =>
      constructor
      · exact owns.1
      · exact fun result later promised => inductionHypothesis result (owns.2 result later promised)

/-- Sequencing: the goal of the first part is that the second part owns what it
needs. -/
theorem Owns.andThen {program : Prog I A} {rest : A -> Prog I B} {middle : A -> M -> Prop}
    {goal : B -> M -> Prop} (first : program.Owns side sharing owner middle memory)
    (second : forall value later, middle value later ->
      (rest value).Owns side sharing owner goal later) :
    (program.bind rest).Owns side sharing owner goal memory := by
  induction program generalizing memory with
  | ret value => exact second value memory first
  | act run next inductionHypothesis =>
      intro state before after holds
      rcases first state before after holds with ⟨kept, does, goesOn⟩
      exact ⟨kept, does, inductionHypothesis _ goesOn⟩
  | ask query next inductionHypothesis =>
      intro state answer allowed
      exact inductionHypothesis answer (first state answer allowed)
  | call proc next inductionHypothesis =>
      constructor
      · exact first.1
      · exact fun result later promised => inductionHypothesis result (first.2 result later promised)

/-- Read the state, then go on. -/
theorem get_owns {view : I.State -> A} {rest : A -> Prog I B} {goal : B -> M -> Prop}
    (goesOn : forall value, (rest value).Owns side sharing owner goal memory) :
    (get view >>= rest).Owns side sharing owner goal memory := by
  intro state first last holds
  rw [side.remember_same]
  exact ⟨holds, sharing.does_nothing _ _, goesOn (view state)⟩

/-- Call a procedure, then go on. -/
theorem invoke_owns {proc : I.Proc} {rest : I.Result proc -> Prog I A} {goal : A -> M -> Prop}
    (assumed : sharing.pre owner proc memory)
    (returns : forall result later, sharing.post owner proc memory result later ->
      (rest result).Owns side sharing owner goal later) :
    (invoke proc >>= rest).Owns side sharing owner goal memory :=
  ⟨assumed, returns⟩

end Prog

namespace Sharing

variable (side : SideBySide I M) (sharing : Sharing I M)

/-- A call that begins keeps the invariant, and its body does from there on. -/
def Begins : Prop :=
  forall proc state later memories, sharing.inv state memories -> side.begins proc state later ->
    sharing.inv later (memories ++ [(proc, side.fresh)]) ∧ sharing.does state memories later ∧
    (side.sys.body proc).Owns side sharing proc (sharing.ended proc) side.fresh

/-- The body of a procedure meets its contract for every call that uses it. -/
def Honours : Prop :=
  forall owner proc memory, sharing.pre owner proc memory ->
    (side.sys.body proc).Owns side sharing owner (sharing.post owner proc memory) memory

/-- The invariant holds, and every call keeps it. -/
structure Holds (pool : Pool I M) : Prop where
  inv : sharing.inv pool.state pool.memories
  owns : forall activity, activity ∈ pool.activities ->
    activity.prog.Owns side sharing activity.proc (sharing.ended activity.proc) activity.memory

variable {side sharing}

/-- What one step of one call does. -/
theorem owns_step {owner : I.Proc} {memory : M} {goal : A -> M -> Prop} {state later : I.State}
    {program next : Prog I A} {first last : List (I.Proc × M)} (honours : sharing.Honours side)
    (owns : program.Owns side sharing owner goal memory)
    (holds : sharing.inv state (first ++ (owner, memory) :: last))
    (step : side.sys.Step ⟨state, program⟩ ⟨later, next⟩) :
    sharing.inv later (first ++ (owner, side.remember memory state later) :: last) ∧
      sharing.does state (first ++ (owner, memory) :: last) later ∧
      next.Owns side sharing owner goal (side.remember memory state later) := by
  cases step with
  | act _ run next => exact owns state first last holds
  | ask _ query next answer allowed =>
      rw [side.remember_same]
      exact ⟨holds, sharing.does_nothing _ _, owns state answer allowed⟩
  | call _ proc next =>
      rw [side.remember_same]
      refine ⟨holds, sharing.does_nothing _ _, ?_⟩
      exact Prog.Owns.andThen (honours owner proc memory owns.1) owns.2

/-- One step of the pool keeps the invariant, and does what every step does. -/
theorem Holds.step {pool later : Pool I M} (begins : sharing.Begins side)
    (honours : sharing.Honours side) (holds : sharing.Holds side pool)
    (step : side.Step pool later) :
    sharing.Holds side later ∧ sharing.does pool.state pool.memories later.state := by
  cases step with
  | begin activities proc state after allowed =>
      rcases begins proc state after _ holds.inv allowed with ⟨kept, does, owns⟩
      refine ⟨⟨?_, ?_⟩, does⟩
      · unfold Pool.memories at *
        rw [List.map_append]
        exact kept
      · intro activity member
        rcases List.mem_append.mp member with old | new
        · exact holds.owns activity old
        · rw [List.mem_singleton.mp new]
          exact owns
  | move first last proc memory prog next state after step =>
      have known := holds.inv
      unfold Pool.memories at known
      rw [List.map_append, List.map_cons] at known
      have here := holds.owns ⟨proc, memory, prog⟩ (List.mem_append_right _ List.mem_cons_self)
      rcases owns_step honours here known step with ⟨kept, does, owns⟩
      refine ⟨⟨?_, ?_⟩, ?_⟩
      · unfold Pool.memories
        rw [List.map_append, List.map_cons]
        exact kept
      · intro activity member
        rcases List.mem_append.mp member with old | new
        · exact holds.owns activity (List.mem_append_left _ old)
        · rcases List.mem_cons.mp new with rfl | old
          · exact owns
          · exact holds.owns activity (List.mem_append_right _ (List.mem_cons_of_mem _ old))
      · unfold Pool.memories
        rw [List.map_append, List.map_cons]
        exact does

/-- What is known of a call that has ended. -/
theorem Holds.ended {pool : Pool I M} (holds : sharing.Holds side pool) {proc : I.Proc}
    {memory : M} {value : I.Result proc}
    (here : ⟨proc, memory, .ret value⟩ ∈ pool.activities) : sharing.ended proc value memory :=
  holds.owns _ here

/-- The invariant holds in every pool of a run that starts without calls. -/
theorem Holds.of_reachable {start : I.State} {current : Pool I M} (begins : sharing.Begins side)
    (honours : sharing.Honours side) (initially : sharing.inv start [])
    (reached : side.Reachable ⟨start, []⟩ current) : sharing.Holds side current := by
  induction reached with
  | refl => exact ⟨initially, fun _ member => nomatch member⟩
  | tail _ step inductionHypothesis => exact (inductionHypothesis.step begins honours step).1

end Sharing

end Reentrant
