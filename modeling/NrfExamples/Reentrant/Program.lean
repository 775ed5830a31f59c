import Mathlib.Logic.Relation

namespace Reentrant

/-!
# Programs that call back into each other

A driver calls its client, the client calls the driver again from inside the
callback, and so on to any depth.  A program here is a tree of four kinds of
nodes: a result, one uninterrupted section on the shared state, a question to
the environment, and a call of a procedure by name.  Naming procedures keeps
the tree finite while the recursion it describes is not: `Step` unfolds a call
by putting the body of the procedure in front of what remains to be done.

Nothing here depends on a particular driver.  The interface is a parameter.
-/

/-- The shared state, the questions a program can put to its environment, and
the procedures it can call, with the answers and results of each. -/
structure Interface where
  State : Type
  Query : Type
  Answer : Query -> Type
  Proc : Type
  Result : Proc -> Type

variable {I : Interface} {A B : Type}

/-- A program over an interface, ending in a value of type `A`. -/
inductive Prog (I : Interface) (A : Type) : Type 1
  | ret (value : A)
  | act {B : Type} (run : I.State -> B × I.State) (next : B -> Prog I A)
  | ask (query : I.Query) (next : I.Answer query -> Prog I A)
  | call (proc : I.Proc) (next : I.Result proc -> Prog I A)

namespace Prog

/-- Run the first program and continue with its value. -/
def bind : Prog I A -> (A -> Prog I B) -> Prog I B
  | .ret value, rest => rest value
  | .act run next, rest => .act run fun value => (next value).bind rest
  | .ask query next, rest => .ask query fun answer => (next answer).bind rest
  | .call proc next, rest => .call proc fun result => (next result).bind rest

instance : Monad (Prog I) where
  pure := .ret
  bind := bind

/-- One uninterrupted section that returns a value. -/
def perform (run : I.State -> A × I.State) : Prog I A :=
  .act run .ret

/-- One uninterrupted section without a value. -/
def modify (run : I.State -> I.State) : Prog I Unit :=
  .act (fun state => ((), run state)) .ret

/-- Read the state without changing it. -/
def get (view : I.State -> A) : Prog I A :=
  .act (fun state => (view state, state)) .ret

/-- Put one question to the environment. -/
def question (query : I.Query) : Prog I (I.Answer query) :=
  .ask query .ret

/-- Call one procedure. -/
def invoke (proc : I.Proc) : Prog I (I.Result proc) :=
  .call proc .ret

end Prog

/-- A system gives every procedure its body, and says which answers its
environment may give to a question in a state. -/
structure System (I : Interface) where
  body : (proc : I.Proc) -> Prog I (I.Result proc)
  permitted : (query : I.Query) -> I.State -> I.Answer query -> Prop

/-- The state together with what remains to be executed. -/
structure Config (I : Interface) (A : Type) where
  state : I.State
  prog : Prog I A

/-- The question a run has come to. -/
def pendingQuery (config : Config I A) : Option I.Query :=
  match config.prog with
  | .ask query _ => some query
  | _ => none

/-- The procedure a run is about to call. -/
def pendingCall (config : Config I A) : Option I.Proc :=
  match config.prog with
  | .call proc _ => some proc
  | _ => none

/-- The run has come to its end. -/
def hasReturned (config : Config I A) : Bool :=
  match config.prog with
  | .ret _ => true
  | _ => false

/-- What the run has come to its end with. -/
def resultOf (config : Config I A) : Option A :=
  match config.prog with
  | .ret value => some value
  | _ => none

theorem eq_of_resultOf {config : Config I A} {value : A} (here : resultOf config = some value) :
    config = ⟨config.state, .ret value⟩ := by
  rcases config with ⟨state, prog⟩
  cases prog with
  | ret other =>
      cases here
      rfl
  | _ => cases here

theorem exists_of_hasReturned {config : Config I A} (here : hasReturned config = true) :
    exists value, config = ⟨config.state, .ret value⟩ := by
  rcases config with ⟨state, prog⟩
  cases prog with
  | ret value => exact ⟨value, rfl⟩
  | _ => cases here

theorem exists_of_pendingQuery {config : Config I A} {query : I.Query}
    (here : pendingQuery config = some query) : exists next, config.prog = .ask query next := by
  rcases config with ⟨state, prog⟩
  cases prog with
  | ask asked next =>
      cases here
      exact ⟨next, rfl⟩
  | _ => cases here

theorem exists_of_pendingCall {config : Config I A} {proc : I.Proc}
    (here : pendingCall config = some proc) : exists next, config.prog = .call proc next := by
  rcases config with ⟨state, prog⟩
  cases prog with
  | call called next =>
      cases here
      exact ⟨next, rfl⟩
  | _ => cases here

namespace System

variable (sys : System I)

/-- One step of a run. -/
inductive Step : Config I A -> Config I A -> Prop
  | act {C : Type} (state : I.State) (run : I.State -> C × I.State) (next : C -> Prog I A) :
      Step ⟨state, .act run next⟩ ⟨(run state).2, next (run state).1⟩
  | ask (state : I.State) (query : I.Query) (next : I.Answer query -> Prog I A)
      (answer : I.Answer query) (allowed : sys.permitted query state answer) :
      Step ⟨state, .ask query next⟩ ⟨state, next answer⟩
  | call (state : I.State) (proc : I.Proc) (next : I.Result proc -> Prog I A) :
      Step ⟨state, .call proc next⟩ ⟨state, (sys.body proc).bind next⟩

/-- The configurations that a run from `start` passes through. -/
def Reachable (start current : Config I A) : Prop :=
  Relation.ReflTransGen (Step sys) start current

/-- A stricter environment reaches no more. -/
theorem Reachable.mono {sys other : System I} (sameBody : sys.body = other.body)
    (weaker : forall query state answer, sys.permitted query state answer ->
      other.permitted query state answer)
    {start current : Config I A} (reachable : sys.Reachable start current) :
    other.Reachable start current := by
  refine Relation.ReflTransGen.mono (fun first second step => ?_) _ _ reachable
  cases step with
  | act state run next => exact .act state run next
  | ask state query next answer allowed =>
      exact .ask state query next answer (weaker query state answer allowed)
  | call state proc next =>
      rw [sameBody]
      exact .call state proc next

section Play

variable [DecidableEq I.Query]
variable [forall query state answer, Decidable (sys.permitted query state answer)]

/-- Follow a script of answers for at most `fuel` steps.  The run stops where
the script does not fit the question or gives an answer that is not permitted,
so whatever it reaches is reachable. -/
def play : (fuel : Nat) -> (script : List (Sigma I.Answer)) -> Config I A -> Config I A
  | 0, _, config => config
  | fuel + 1, script, ⟨state, .act run next⟩ =>
      play fuel script ⟨(run state).2, next (run state).1⟩
  | fuel + 1, script, ⟨state, .call proc next⟩ =>
      play fuel script ⟨state, (sys.body proc).bind next⟩
  | _ + 1, _, ⟨state, .ret value⟩ => ⟨state, .ret value⟩
  | _ + 1, [], ⟨state, .ask query next⟩ => ⟨state, .ask query next⟩
  | fuel + 1, ⟨asked, answer⟩ :: script, ⟨state, .ask query next⟩ =>
      if same : asked = query then
        if sys.permitted query state (same ▸ answer) then
          play fuel script ⟨state, next (same ▸ answer)⟩
        else ⟨state, .ask query next⟩
      else ⟨state, .ask query next⟩

theorem play_reachable (fuel : Nat) (script : List (Sigma I.Answer)) (config : Config I A) :
    sys.Reachable config (sys.play fuel script config) := by
  induction fuel generalizing script config with
  | zero => exact .refl
  | succ fuel inductionHypothesis =>
      rcases config with ⟨state, prog⟩
      cases prog with
      | ret value => exact .refl
      | act run next =>
          exact .head (.act state run next) (inductionHypothesis script _)
      | call proc next =>
          exact .head (.call state proc next) (inductionHypothesis script _)
      | ask query next =>
          cases script with
          | nil => exact .refl
          | cons head script =>
              rcases head with ⟨asked, answer⟩
              unfold play
              split
              · rename_i same
                subst same
                split
                · rename_i allowed
                  exact .head (.ask state _ next answer allowed) (inductionHypothesis script _)
                · exact .refl
              · exact .refl

end Play

end System

end Reentrant
