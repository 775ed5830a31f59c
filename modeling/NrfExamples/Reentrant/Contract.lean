import NrfExamples.Reentrant.Program

namespace Reentrant

/-!
# Contracts for programs that call back into each other

A contract assigns to each procedure what it may assume and what it promises,
and to each question what is known when it is asked.  Assumption and promise
share a ghost value, which the caller chooses and no program can read.
`Prog.Safe` computes what a program needs under a contract; it recurses on the
tree, so it never runs a procedure.  If every body meets its own contract, then the contract holds
in every run, however deep the procedures call each other.  The
runs may be infinite: nothing is said about termination.
-/

variable {I : Interface} {A B : Type}

/-- What is known throughout a run, at the questions, and around the calls. -/
structure Contract (I : Interface) where
  Ghost : I.Proc -> Type
  always : I.State -> Prop
  asked : I.Query -> I.State -> Prop
  pre : (proc : I.Proc) -> Ghost proc -> I.State -> Prop
  post : (proc : I.Proc) -> Ghost proc -> I.Result proc -> I.State -> Prop

namespace Prog

/-- The program keeps to the contract from this state on, and ends in `goal`. -/
def Safe (sys : System I) (contract : Contract I) :
    Prog I A -> (A -> I.State -> Prop) -> I.State -> Prop
  | .ret value, goal, state => goal value state
  | .act run next, goal, state =>
      contract.always (run state).2 ∧ (next (run state).1).Safe sys contract goal (run state).2
  | .ask query next, goal, state =>
      contract.asked query state ∧ forall answer, sys.permitted query state answer ->
        (next answer).Safe sys contract goal state
  | .call proc next, goal, state =>
      exists ghost, contract.pre proc ghost state ∧ forall result later,
        contract.always later -> contract.post proc ghost result later ->
          (next result).Safe sys contract goal later

variable {sys : System I} {contract : Contract I}

theorem Safe.mono {program : Prog I A} {weaker goal : A -> I.State -> Prop} {state : I.State}
    (safe : program.Safe sys contract goal state)
    (implies : forall value later, goal value later -> weaker value later) :
    program.Safe sys contract weaker state := by
  induction program generalizing state with
  | ret value => exact implies value state safe
  | act run next inductionHypothesis => exact ⟨safe.1, inductionHypothesis _ safe.2⟩
  | ask query next inductionHypothesis =>
      exact ⟨safe.1, fun answer allowed => inductionHypothesis answer (safe.2 answer allowed)⟩
  | call proc next inductionHypothesis =>
      rcases safe with ⟨ghost, assumed, returns⟩
      exact ⟨ghost, assumed, fun result later known promised =>
        inductionHypothesis result (returns result later known promised)⟩

/-- What holds always also holds where the program ends. -/
theorem Safe.with_always {program : Prog I A} {goal : A -> I.State -> Prop} {state : I.State}
    (safe : program.Safe sys contract goal state) (known : contract.always state) :
    program.Safe sys contract (fun value later => contract.always later ∧ goal value later)
      state := by
  induction program generalizing state with
  | ret value => exact ⟨known, safe⟩
  | act run next inductionHypothesis =>
      exact ⟨safe.1, inductionHypothesis _ safe.2 safe.1⟩
  | ask query next inductionHypothesis =>
      exact ⟨safe.1, fun answer allowed =>
        inductionHypothesis answer (safe.2 answer allowed) known⟩
  | call proc next inductionHypothesis =>
      rcases safe with ⟨ghost, assumed, returns⟩
      exact ⟨ghost, assumed, fun result later knownLater promised =>
        inductionHypothesis result (returns result later knownLater promised) knownLater⟩

/-- Sequencing: the goal of the first part is that the second part is safe. -/
theorem safe_bind (program : Prog I A) (rest : A -> Prog I B) (goal : B -> I.State -> Prop)
    (state : I.State) :
    (program.bind rest).Safe sys contract goal state <->
      program.Safe sys contract (fun value => (rest value).Safe sys contract goal) state := by
  induction program generalizing state with
  | ret value => rfl
  | act run next inductionHypothesis =>
      exact and_congr Iff.rfl (inductionHypothesis _ _)
  | ask query next inductionHypothesis =>
      exact and_congr Iff.rfl (forall_congr' fun answer =>
        imp_congr Iff.rfl (inductionHypothesis answer state))
  | call proc next inductionHypothesis =>
      exact exists_congr fun ghost => and_congr Iff.rfl (forall_congr' fun result =>
        forall_congr' fun later =>
          imp_congr Iff.rfl (imp_congr Iff.rfl (inductionHypothesis result later)))

/-- Prove the first part with a goal of its own, and the second part from it. -/
theorem Safe.andThen {program : Prog I A} {rest : A -> Prog I B} {middle : A -> I.State -> Prop}
    {goal : B -> I.State -> Prop} {state : I.State}
    (first : program.Safe sys contract middle state)
    (second : forall value later, middle value later ->
      (rest value).Safe sys contract goal later) :
    (program >>= rest).Safe sys contract goal state :=
  (safe_bind program rest goal state).mpr (first.mono second)

/-! ## What each construct needs -/

section Constructs

variable {goal : A -> I.State -> Prop} {state : I.State}

/-- One section that returns a value, then go on. -/
theorem perform_then {run : I.State -> B × I.State} {rest : B -> Prog I A}
    (known : contract.always (run state).2)
    (safe : (rest (run state).1).Safe sys contract goal (run state).2) :
    (perform run >>= rest).Safe sys contract goal state :=
  ⟨known, safe⟩

/-- Read the state, then go on. -/
theorem get_then {view : I.State -> B} {rest : B -> Prog I A} (known : contract.always state)
    (safe : (rest (view state)).Safe sys contract goal state) :
    (get view >>= rest).Safe sys contract goal state :=
  ⟨known, safe⟩

/-- Change the state, then go on. -/
theorem modify_then {run : I.State -> I.State} {rest : Unit -> Prog I A}
    (known : contract.always (run state))
    (safe : (rest ()).Safe sys contract goal (run state)) :
    (modify run >>= rest).Safe sys contract goal state :=
  ⟨known, safe⟩

@[simp] theorem safe_monadBind (program : Prog I B) (rest : B -> Prog I A) :
    (program >>= rest).Safe sys contract goal state <->
      program.Safe sys contract (fun value => (rest value).Safe sys contract goal) state :=
  safe_bind program rest goal state

@[simp] theorem safe_pure (value : A) :
    (pure value : Prog I A).Safe sys contract goal state <-> goal value state :=
  Iff.rfl

@[simp] theorem safe_perform (run : I.State -> A × I.State) :
    (perform run).Safe sys contract goal state <->
      contract.always (run state).2 ∧ goal (run state).1 (run state).2 :=
  Iff.rfl

@[simp] theorem safe_modify (run : I.State -> I.State) (goal : Unit -> I.State -> Prop) :
    (modify run).Safe sys contract goal state <->
      contract.always (run state) ∧ goal () (run state) :=
  Iff.rfl

@[simp] theorem safe_get (view : I.State -> A) :
    (get view).Safe sys contract goal state <->
      contract.always state ∧ goal (view state) state :=
  Iff.rfl

@[simp] theorem safe_ret (value : A) :
    (Prog.ret value : Prog I A).Safe sys contract goal state <-> goal value state :=
  Iff.rfl

@[simp] theorem safe_ask (query : I.Query) (next : I.Answer query -> Prog I A) :
    (Prog.ask query next).Safe sys contract goal state <->
      contract.asked query state ∧ forall answer, sys.permitted query state answer ->
        (next answer).Safe sys contract goal state :=
  Iff.rfl

@[simp] theorem safe_call (proc : I.Proc) (next : I.Result proc -> Prog I A) :
    (Prog.call proc next).Safe sys contract goal state <->
      exists ghost, contract.pre proc ghost state ∧ forall result later,
        contract.always later -> contract.post proc ghost result later ->
          (next result).Safe sys contract goal later :=
  Iff.rfl

@[simp] theorem safe_ite (condition : Prop) [Decidable condition] (yes no : Prog I A) :
    (if condition then yes else no).Safe sys contract goal state <->
      (condition -> yes.Safe sys contract goal state) ∧
        (¬condition -> no.Safe sys contract goal state) := by
  by_cases holds : condition <;> simp [holds]

end Constructs

/-! ## Programs that make only harmless calls -/

/-- The program calls only procedures that meet the predicate. -/
def CallsOnly (harmless : I.Proc -> Prop) : Prog I A -> Prop
  | .ret _ => True
  | .act _ next => forall value, (next value).CallsOnly harmless
  | .ask _ next => forall answer, (next answer).CallsOnly harmless
  | .call proc next => harmless proc ∧ forall result, (next result).CallsOnly harmless

theorem CallsOnly.andThen {harmless : I.Proc -> Prop} {program : Prog I A} {rest : A -> Prog I B}
    (first : program.CallsOnly harmless) (second : forall value, (rest value).CallsOnly harmless) :
    (program >>= rest).CallsOnly harmless := by
  induction program with
  | ret value => exact second value
  | act run next inductionHypothesis =>
      exact fun value => inductionHypothesis value (first value)
  | ask query next inductionHypothesis =>
      exact fun answer => inductionHypothesis answer (first answer)
  | call proc next inductionHypothesis =>
      constructor
      · exact first.1
      · exact fun result => inductionHypothesis result (first.2 result)

theorem callsOnly_get {harmless : I.Proc -> Prop} (view : I.State -> A) :
    (get view).CallsOnly harmless :=
  fun _ => trivial

theorem callsOnly_modify {harmless : I.Proc -> Prop} (run : I.State -> I.State) :
    (modify run).CallsOnly harmless :=
  fun _ => trivial

theorem callsOnly_invoke {harmless : I.Proc -> Prop} {proc : I.Proc} (here : harmless proc) :
    (invoke proc).CallsOnly harmless :=
  ⟨here, fun _ => trivial⟩

/-- If the contract asks nothing but of some calls, then a program without these
keeps to it. -/
theorem CallsOnly.safe {harmless : I.Proc -> Prop} {program : Prog I A} {state : I.State}
    (callsOnly : program.CallsOnly harmless) (always : forall state, contract.always state)
    (asked : forall query state, contract.asked query state)
    (pre : forall proc, harmless proc -> exists ghost, forall state, contract.pre proc ghost state) :
    program.Safe sys contract (fun _ _ => True) state := by
  induction program generalizing state with
  | ret value => trivial
  | act run next inductionHypothesis =>
      constructor
      · exact always _
      · exact inductionHypothesis _ (callsOnly _)
  | ask query next inductionHypothesis =>
      constructor
      · exact asked query state
      · exact fun answer _ => inductionHypothesis answer (callsOnly answer)
  | call proc next inductionHypothesis =>
      rcases pre proc callsOnly.1 with ⟨ghost, holds⟩
      exact ⟨ghost, holds state, fun result later _ _ =>
        inductionHypothesis result (callsOnly.2 result)⟩

end Prog

namespace System

variable {sys : System I} {contract : Contract I}

/-- Every body meets its own contract, assuming the contracts of what it calls. -/
def Honours (sys : System I) (contract : Contract I) : Prop :=
  forall proc ghost state, contract.always state -> contract.pre proc ghost state ->
    (sys.body proc).Safe sys contract (contract.post proc ghost) state

/-- The contract holds in every configuration of a run.  The induction is on
the run, and the invariant is that what remains to be executed is safe. -/
theorem Reachable.safe {start current : Config I A} {goal : A -> I.State -> Prop}
    (reachable : sys.Reachable start current) (honours : sys.Honours contract)
    (initially : contract.always start.state)
    (safe : start.prog.Safe sys contract goal start.state) :
    contract.always current.state ∧ current.prog.Safe sys contract goal current.state := by
  induction reachable with
  | refl => exact ⟨initially, safe⟩
  | tail _ step inductionHypothesis =>
      rcases inductionHypothesis with ⟨known, remains⟩
      cases step with
      | act state run next => exact remains
      | ask state query next answer allowed => exact ⟨known, remains.2 answer allowed⟩
      | call state proc next =>
          rcases remains with ⟨ghost, assumed, returns⟩
          refine ⟨known, (Prog.safe_bind _ _ _ _).mpr ?_⟩
          exact ((honours proc ghost state known assumed).with_always known).mono
            fun result later promised => returns result later promised.1 promised.2

section Points

variable {start current : Config I A} {goal : A -> I.State -> Prop}
variable (reachable : sys.Reachable start current) (honours : sys.Honours contract)
variable (initially : contract.always start.state)
variable (safe : start.prog.Safe sys contract goal start.state)

include reachable honours initially safe

theorem always_of_reachable : contract.always current.state :=
  (Reachable.safe reachable honours initially safe).1

/-- Whenever a question is about to be answered, its assertion holds. -/
theorem asked_of_reachable {query : I.Query} {next : I.Answer query -> Prog I A}
    (here : current.prog = .ask query next) : contract.asked query current.state := by
  have remains := (Reachable.safe reachable honours initially safe).2
  rw [here] at remains
  exact remains.1

/-- Whenever a procedure is about to be called, its precondition holds. -/
theorem pre_of_reachable {proc : I.Proc} {next : I.Result proc -> Prog I A}
    (here : current.prog = .call proc next) :
    exists ghost, contract.pre proc ghost current.state := by
  have remains := (Reachable.safe reachable honours initially safe).2
  rw [here] at remains
  rcases remains with ⟨ghost, assumed, _⟩
  exact ⟨ghost, assumed⟩

end Points

end System

end Reentrant
