import NrfExamples.Reentrant.Program

namespace Reentrant

/-!
# Two runs in lockstep

Two runs of one program from two states that are alike make the same steps if
no section tells the states apart and every answer that is permitted in one is
permitted in the other.  `Prog.Lockstep` computes what that takes, from one
call to the next, and a procedure may assume something about the two states in
which it is called.

A run also has to be compared with another one from the middle, where the
program is whatever remains of an earlier run from other states.
`Prog.Resumable` says, without looking at a state, that the program can go on
in lockstep behind each of its calls, and every run keeps that.
-/

variable {I : Interface} {A B : Type}

/-- When two states are alike, and what a procedure may assume about them. -/
structure Coupling (I : Interface) where
  alike : I.State -> I.State -> Prop
  assumed : I.Proc -> I.State -> I.State -> Prop

namespace Prog

/-- From two states the program makes the same steps, and the states stay alike. -/
def Lockstep (sys : System I) (coupling : Coupling I) : Prog I A -> I.State -> I.State -> Prop
  | .ret _, left, right => coupling.alike left right
  | .act run next, left, right =>
      coupling.alike left right ∧ (run left).1 = (run right).1 ∧
        (next (run left).1).Lockstep sys coupling (run left).2 (run right).2
  | .ask query next, left, right =>
      coupling.alike left right ∧ forall answer, sys.permitted query left answer ->
        sys.permitted query right answer ∧ (next answer).Lockstep sys coupling left right
  | .call proc next, left, right =>
      coupling.alike left right ∧ coupling.assumed proc left right ∧
        forall result leftLater rightLater, coupling.alike leftLater rightLater ->
          (next result).Lockstep sys coupling leftLater rightLater

/-- Behind each of its calls the program goes on in lockstep from any two states
that are alike. -/
def Resumable (sys : System I) (coupling : Coupling I) : Prog I A -> Prop
  | .ret _ => True
  | .act _ next => forall value, (next value).Resumable sys coupling
  | .ask _ next => forall answer, (next answer).Resumable sys coupling
  | .call _ next => forall result,
      (forall left right, coupling.alike left right ->
        (next result).Lockstep sys coupling left right) ∧
      (next result).Resumable sys coupling

/-- The program keeps any two states alike that are alike. -/
structure Couples (sys : System I) (coupling : Coupling I) (program : Prog I A) : Prop where
  lockstep : forall left right, coupling.alike left right ->
    program.Lockstep sys coupling left right
  resumable : program.Resumable sys coupling

variable {sys : System I} {coupling : Coupling I}

theorem Lockstep.alike {program : Prog I A} {left right : I.State}
    (lockstep : program.Lockstep sys coupling left right) : coupling.alike left right := by
  cases program with
  | ret value => exact lockstep
  | act run next => exact lockstep.1
  | ask query next => exact lockstep.1
  | call proc next => exact lockstep.1

theorem Lockstep.andThen {program : Prog I A} {rest : A -> Prog I B} {left right : I.State}
    (first : program.Lockstep sys coupling left right)
    (second : forall value left right, coupling.alike left right ->
      (rest value).Lockstep sys coupling left right) :
    (program >>= rest).Lockstep sys coupling left right := by
  induction program generalizing left right with
  | ret value => exact second value left right first
  | act run next inductionHypothesis =>
      rcases first with ⟨known, same, after⟩
      exact ⟨known, same, inductionHypothesis _ after⟩
  | ask query next inductionHypothesis =>
      rcases first with ⟨known, answers⟩
      refine ⟨known, fun answer allowed => ?_⟩
      rcases answers answer allowed with ⟨also, after⟩
      exact ⟨also, inductionHypothesis answer after⟩
  | call proc next inductionHypothesis =>
      rcases first with ⟨known, assumed, returns⟩
      refine ⟨known, assumed, fun result leftLater rightLater later => ?_⟩
      exact inductionHypothesis result (returns result leftLater rightLater later)

theorem Resumable.andThen {program : Prog I A} {rest : A -> Prog I B}
    (first : program.Resumable sys coupling)
    (second : forall value, (rest value).Couples sys coupling) :
    (program >>= rest).Resumable sys coupling := by
  induction program with
  | ret value => exact (second value).resumable
  | act run next inductionHypothesis =>
      exact fun value => inductionHypothesis value (first value)
  | ask query next inductionHypothesis =>
      exact fun answer => inductionHypothesis answer (first answer)
  | call proc next inductionHypothesis =>
      intro result
      rcases first result with ⟨lockstep, resumable⟩
      constructor
      · intro left right known
        apply (lockstep left right known).andThen
        exact fun value => (second value).lockstep
      · exact inductionHypothesis result resumable

/-- Where a call is about to be made, what remains goes on in lockstep, whatever
led there. -/
theorem Resumable.from_call {program : Prog I A} {proc : I.Proc}
    {next : I.Result proc -> Prog I A} {left right : I.State}
    (resumable : program.Resumable sys coupling) (here : program = .call proc next)
    (known : coupling.alike left right) (assumed : coupling.assumed proc left right) :
    program.Lockstep sys coupling left right := by
  subst here
  exact ⟨known, assumed, fun result => (resumable result).1⟩

/-! ## What each construct needs -/

section Constructs

theorem Couples.andThen {program : Prog I A} {rest : A -> Prog I B}
    (first : program.Couples sys coupling)
    (second : forall value, (rest value).Couples sys coupling) :
    (program >>= rest).Couples sys coupling where
  lockstep left right known :=
    (first.lockstep left right known).andThen fun value => (second value).lockstep
  resumable := first.resumable.andThen second

theorem couples_pure (value : A) : (pure value : Prog I A).Couples sys coupling where
  lockstep _ _ known := known
  resumable := trivial

theorem couples_modify {run : I.State -> I.State}
    (same : forall left right, coupling.alike left right ->
      coupling.alike (run left) (run right)) :
    (modify run).Couples sys coupling where
  lockstep left right known := ⟨known, rfl, same left right known⟩
  resumable _ := trivial

theorem couples_get {view : I.State -> A}
    (same : forall left right, coupling.alike left right -> view left = view right) :
    (get view).Couples sys coupling where
  lockstep left right known := ⟨known, same left right known, known⟩
  resumable _ := trivial

theorem couples_question {query : I.Query}
    (same : forall left right answer, coupling.alike left right ->
      sys.permitted query left answer -> sys.permitted query right answer) :
    (question query).Couples sys coupling where
  lockstep left right known :=
    ⟨known, fun answer allowed => ⟨same left right answer known allowed, known⟩⟩
  resumable _ := trivial

theorem couples_invoke {proc : I.Proc}
    (assumed : forall left right, coupling.alike left right -> coupling.assumed proc left right) :
    (invoke proc).Couples sys coupling where
  lockstep left right known := ⟨known, assumed left right known, fun _ _ _ later => later⟩
  resumable _ := ⟨fun _ _ later => later, trivial⟩

end Constructs

end Prog

namespace System

variable {sys : System I} {coupling : Coupling I}

/-- Every body keeps the states alike, and can be resumed. -/
structure Couples (sys : System I) (coupling : Coupling I) : Prop where
  lockstep : forall proc left right, coupling.alike left right ->
    coupling.assumed proc left right -> (sys.body proc).Lockstep sys coupling left right
  resumable : forall proc, (sys.body proc).Resumable sys coupling

/-- Whatever remains of a run can be resumed. -/
theorem Reachable.resumable {start current : Config I A}
    (reachable : sys.Reachable start current) (couples : sys.Couples coupling)
    (initially : start.prog.Resumable sys coupling) : current.prog.Resumable sys coupling := by
  induction reachable with
  | refl => exact initially
  | tail _ step inductionHypothesis =>
      cases step with
      | act state run next => exact inductionHypothesis _
      | ask state query next answer allowed => exact inductionHypothesis answer
      | call state proc next =>
          apply Prog.Resumable.andThen (couples.resumable proc)
          exact fun result => ⟨(inductionHypothesis result).1, (inductionHypothesis result).2⟩

/-- Each run from one of two states has its like from the other.  The induction is
on the run, and the invariant is that what remains runs in lockstep. -/
theorem Reachable.lockstep {start current : Config I A} {other : I.State}
    (reachable : sys.Reachable start current) (couples : sys.Couples coupling)
    (initially : start.prog.Lockstep sys coupling start.state other) :
    exists state, sys.Reachable ⟨other, start.prog⟩ ⟨state, current.prog⟩ ∧
      current.prog.Lockstep sys coupling current.state state := by
  induction reachable with
  | refl => exact ⟨other, .refl, initially⟩
  | tail _ step inductionHypothesis =>
      rcases inductionHypothesis with ⟨state, before, remains⟩
      cases step with
      | act left run next =>
          rcases remains with ⟨_, same, after⟩
          refine ⟨(run state).2, before.tail ?_, after⟩
          rw [same]
          exact .act state run next
      | ask left query next answer allowed =>
          rcases remains.2 answer allowed with ⟨also, after⟩
          exact ⟨state, before.tail (.ask state query next answer also), after⟩
      | call left proc next =>
          rcases remains with ⟨known, assumed, returns⟩
          refine ⟨state, before.tail (.call state proc next), ?_⟩
          apply Prog.Lockstep.andThen (couples.lockstep proc left state known assumed)
          exact returns

end System

end Reentrant
