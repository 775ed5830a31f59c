import NrfExamples.Reentrant.Interrupts

namespace Reentrant

/-!
# Runs that exist

A contract says what holds in every run.  That there is a run to a certain
state is shown by giving one, and `Prog.Leads` is about its parts: from one
state a program can come to its end with this value and that state, whatever
follows it.  Its rules follow the constructs of a program, so a run of a long
program is put together from the runs of its functions.
-/

namespace Prog

variable {I : Interface} {A B C : Type}

/-- Nothing remains to be done after a program that is followed by its result. -/
theorem bind_ret (program : Prog I A) : program.bind .ret = program := by
  induction program with
  | ret value => rfl
  | act run next inductionHypothesis => exact congrArg (act run) (funext inductionHypothesis)
  | ask query next inductionHypothesis => exact congrArg (ask query) (funext inductionHypothesis)
  | call proc next inductionHypothesis => exact congrArg (call proc) (funext inductionHypothesis)

theorem bind_bind (program : Prog I A) (second : A -> Prog I B) (third : B -> Prog I C) :
    (program.bind second).bind third = program.bind fun value => (second value).bind third := by
  induction program with
  | ret value => rfl
  | act run next inductionHypothesis => exact congrArg (act run) (funext inductionHypothesis)
  | ask query next inductionHypothesis => exact congrArg (ask query) (funext inductionHypothesis)
  | call proc next inductionHypothesis => exact congrArg (call proc) (funext inductionHypothesis)

/-- From `state` the program can come to its end with this value in `later`. -/
structure Leads (sys : System I) (program : Prog I A) (state : I.State) (value : A)
    (later : I.State) : Prop where
  run : forall (B : Type) (rest : A -> Prog I B),
    sys.Reachable ⟨state, program.bind rest⟩ ⟨later, rest value⟩

variable {sys : System I} {state middle later : I.State}

theorem leads_pure (value : A) : (pure value : Prog I A).Leads sys state value state :=
  ⟨fun _ _ => .refl⟩

theorem leads_perform (run : I.State -> A × I.State) :
    (perform run).Leads sys state (run state).1 (run state).2 :=
  ⟨fun _ rest => .single (.act state run rest)⟩

theorem leads_get (view : I.State -> A) : (get view).Leads sys state (view state) state :=
  ⟨fun _ rest => .single (.act state (fun state => (view state, state)) rest)⟩

theorem leads_modify (run : I.State -> I.State) : (modify run).Leads sys state () (run state) :=
  ⟨fun _ rest => .single (.act state (fun state => ((), run state)) rest)⟩

theorem leads_question {query : I.Query} {answer : I.Answer query}
    (allowed : sys.permitted query state answer) :
    (question query).Leads sys state answer state :=
  ⟨fun _ rest => .single (.ask state query rest answer allowed)⟩

theorem Leads.andThen {program : Prog I A} {rest : A -> Prog I B} {first : A} {second : B}
    (leads : program.Leads sys state first middle)
    (goesOn : (rest first).Leads sys middle second later) :
    (program >>= rest).Leads sys state second later := by
  constructor
  intro C last
  have before := leads.run C fun value => (rest value).bind last
  rw [← bind_bind] at before
  exact before.trans (goesOn.run C last)

/-- A call of a procedure, from a run of its body. -/
theorem Leads.invoked {proc : I.Proc} {value : I.Result proc}
    (leads : (sys.body proc).Leads sys state value later) :
    (invoke proc).Leads sys state value later :=
  ⟨fun B rest => .head (.call state proc rest) (leads.run B rest)⟩

/-- A program that ends with the call of a procedure can come to its body. -/
theorem Leads.reachable {program : Prog I A} {value : A} {proc : I.Proc}
    (leads : program.Leads sys state value later) :
    sys.Reachable ⟨state, program >>= fun _ => invoke proc⟩ ⟨later, sys.body proc⟩ := by
  have called := @System.Step.call I _ sys later proc .ret
  rw [bind_ret] at called
  exact (leads.run _ fun _ => invoke proc).tail called

end Prog

/-! ## Threads -/

namespace Thread

variable {thread : Thread} {setup : Setup thread} {state : thread.State}

/-- A thread can pass a point without an event. -/
theorem leads_interrupts {point : thread.Point} (goesOn : setup.mayGoOn point state) :
    (interrupts point).Leads setup.system state () state := by
  apply Prog.Leads.invoked
  have next : (Prog.question (I := thread.interface) (.next point)).Leads setup.system state none
      state := Prog.leads_question goesOn
  exact next.andThen (Prog.leads_pure ())

theorem leads_reply {call : thread.Call} {answer : thread.Reply call}
    (replies : setup.mayReply call state answer) :
    (reply call).Leads setup.system state answer state :=
  Prog.leads_question (I := thread.interface) replies

end Thread

end Reentrant
