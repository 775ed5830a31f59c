import NrfExamples.Reentrant.Pool

namespace Reentrant

/-!
# Invariants that every section keeps

Some invariants do not depend on where a program has got to: whoever runs the
next section, the invariant survives it.  Such an invariant holds however the
sections of any number of calls are mixed.  What a section needs to know about
the answers of the environment is all that a program carries from one section
to the next.
-/

variable {I : Interface} {M A B : Type}

namespace Prog

variable (sys : System I) (inv : I.State -> Prop) (callable : I.Proc -> Prop)

/-- Every section of the program keeps the invariant, whatever has happened
since the section before it, and only some procedures are called. -/
def Keeps : Prog I A -> Prop
  | .ret _ => True
  | .act run next => forall state, inv state ->
      inv (run state).2 ∧ (next (run state).1).Keeps
  | .ask query next => forall state answer, sys.permitted query state answer ->
      (next answer).Keeps
  | .call proc next => callable proc ∧ forall result, (next result).Keeps

variable {sys inv callable}

theorem Keeps.andThen {program : Prog I A} {rest : A -> Prog I B}
    (first : program.Keeps sys inv callable) (second : forall value, (rest value).Keeps sys inv callable) :
    (program >>= rest).Keeps sys inv callable := by
  change (program.bind rest).Keeps sys inv callable
  induction program with
  | ret value => exact second value
  | act run next inductionHypothesis =>
      intro state holds
      rcases first state holds with ⟨kept, goesOn⟩
      exact ⟨kept, inductionHypothesis _ goesOn⟩
  | ask query next inductionHypothesis =>
      intro state answer allowed
      exact inductionHypothesis answer (first state answer allowed)
  | call proc next inductionHypothesis =>
      exact ⟨first.1, fun result => inductionHypothesis result (first.2 result)⟩

theorem keeps_pure (value : A) : (pure value : Prog I A).Keeps sys inv callable := trivial

theorem keeps_get (view : I.State -> A) : (get view).Keeps sys inv callable :=
  fun _ holds => ⟨holds, trivial⟩

theorem keeps_modify {run : I.State -> I.State} (kept : forall state, inv state -> inv (run state)) :
    (modify run).Keeps sys inv callable :=
  fun state holds => ⟨kept state holds, trivial⟩

theorem keeps_perform {run : I.State -> A × I.State}
    (kept : forall state, inv state -> inv (run state).2) : (perform run).Keeps sys inv callable :=
  fun state holds => ⟨kept state holds, trivial⟩

theorem keeps_question (query : I.Query) : (question query).Keeps sys inv callable :=
  fun _ _ _ => trivial

theorem keeps_invoke {proc : I.Proc} (allowed : callable proc) :
    (invoke proc).Keeps sys inv callable :=
  ⟨allowed, fun _ => trivial⟩

/-- Nothing has to be known about the other calls. -/
theorem Keeps.owns {side : SideBySide I M} {sharing : Sharing I M} {owner : I.Proc}
    {program : Prog I A} (keeps : program.Keeps side.sys inv callable) {memory : M}
    (inv_iff : forall state memories, sharing.inv state memories <-> inv state)
    (does : forall state memories later, sharing.does state memories later)
    (pre : forall proc memory, callable proc -> sharing.pre owner proc memory) :
    program.Owns side sharing owner (fun _ _ => True) memory := by
  induction program generalizing memory with
  | ret value => trivial
  | act run next inductionHypothesis =>
      intro state first last holds
      rcases keeps state ((inv_iff _ _).mp holds) with ⟨kept, goesOn⟩
      exact ⟨(inv_iff _ _).mpr kept, does _ _ _, inductionHypothesis _ goesOn⟩
  | ask query next inductionHypothesis =>
      intro state answer allowed
      exact inductionHypothesis answer (keeps state answer allowed)
  | call proc next inductionHypothesis =>
      exact ⟨pre proc memory keeps.1, fun result _ _ => inductionHypothesis result (keeps.2 result)⟩

end Prog

namespace Sharing

/-- Only the state matters, and any step is fine that keeps the invariant. -/
def ofInvariant (M : Type) (inv : I.State -> Prop) (callable : I.Proc -> Prop) : Sharing I M where
  inv := fun state _ => inv state
  does := fun _ _ _ => True
  does_nothing := fun _ _ => trivial
  ended := fun _ _ _ => True
  pre := fun _ proc _ => callable proc
  post := fun _ _ _ _ _ => True

end Sharing

/-- What every section keeps holds in every state of a pool. -/
theorem SideBySide.invariant_of_reachable {side : SideBySide I M} {inv : I.State -> Prop}
    {callable : I.Proc -> Prop}
    (begins : forall proc state later, inv state -> side.begins proc state later ->
      inv later ∧ callable proc)
    (bodies : forall proc, callable proc -> (side.sys.body proc).Keeps side.sys inv callable)
    {start : I.State} {current : Pool I M} (initially : inv start)
    (reached : side.Reachable ⟨start, []⟩ current) : inv current.state := by
  have owns : forall owner proc memory, callable proc -> (side.sys.body proc).Owns side
      (Sharing.ofInvariant M inv callable) owner (fun _ _ => True) memory :=
    fun owner proc memory allowed => (bodies proc allowed).owns (fun _ _ => Iff.rfl)
      (fun _ _ _ => trivial) fun _ _ called => called
  have starts : (Sharing.ofInvariant M inv callable).Begins side := by
    intro proc state later memories holds allowed
    rcases begins proc state later holds allowed with ⟨kept, called⟩
    exact ⟨kept, trivial, owns proc proc side.fresh called⟩
  have honours : (Sharing.ofInvariant M inv callable).Honours side :=
    fun owner proc memory called => owns owner proc memory called
  exact (Sharing.Holds.of_reachable starts honours initially reached).inv

/-- Some of the call is still to be executed. -/
def Activity.underWay (activity : Activity I M) : Bool :=
  match activity.prog with
  | .ret _ => false
  | _ => true

/-- Where the calls that have ended are not of the kind that is counted, the memories
count as many as the calls under way. -/
theorem Pool.countP_underWay (pool : Pool I M) (counts : I.Proc × M -> Bool)
    (ended : forall proc memory value, ⟨proc, memory, .ret value⟩ ∈ pool.activities ->
      counts (proc, memory) = false) :
    pool.activities.countP (fun activity =>
      activity.underWay && counts (activity.proc, activity.memory)) =
        pool.memories.countP counts := by
  unfold Pool.memories
  rw [List.countP_map]
  apply List.countP_congr
  intro activity member
  rcases activity with ⟨proc, memory, prog⟩
  cases prog with
  | ret value =>
      have nothing := ended proc memory value member
      simp only [Activity.underWay, Function.comp_apply, nothing, Bool.and_false]
  | _ => simp only [Activity.underWay, Function.comp_apply, Bool.true_and]

/-! ## Runs put together from runs of single calls -/

namespace SideBySide

variable {side : SideBySide I M} {start : Pool I M} {activities first last : List (Activity I M)}
  {proc : I.Proc} {memory : M} {state later after : I.State}
  {prog next : Prog I (I.Result proc)}

/-- A call begins and goes on alone for a while. -/
theorem Reachable.begin (reached : side.Reachable start ⟨state, activities⟩)
    (allowed : side.begins proc state later)
    (runs : side.sys.Reachable ⟨later, side.sys.body proc⟩ ⟨after, next⟩) :
    exists remembered, side.Reachable start
      ⟨after, activities ++ [⟨proc, remembered, next⟩]⟩ := by
  have begun := reached.tail (.begin activities proc state later allowed)
  rcases reachable_alone runs activities [] side.fresh with ⟨remembered, alone⟩
  exact ⟨remembered, begun.trans alone⟩

/-- One of the calls goes on alone for a while. -/
theorem Reachable.resume
    (reached : side.Reachable start ⟨state, first ++ ⟨proc, memory, prog⟩ :: last⟩)
    (runs : side.sys.Reachable ⟨state, prog⟩ ⟨after, next⟩) :
    exists remembered, side.Reachable start
      ⟨after, first ++ ⟨proc, remembered, next⟩ :: last⟩ := by
  rcases reachable_alone runs first last memory with ⟨remembered, alone⟩
  exact ⟨remembered, reached.trans alone⟩

/-- Two pools of the same calls, which may have different memories. -/
inductive SameCalls {N : Type} : List (Activity I M) -> List (Activity I N) -> Prop
  | nil : SameCalls [] []
  | cons (proc : I.Proc) (memory : M) (other : N) (prog : Prog I (I.Result proc))
      {activities : List (Activity I M)} {others : List (Activity I N)}
      (rest : SameCalls activities others) :
      SameCalls (⟨proc, memory, prog⟩ :: activities) (⟨proc, other, prog⟩ :: others)

namespace SameCalls

variable {N : Type} {activities more : List (Activity I M)} {others rest : List (Activity I N)}

theorem append (same : SameCalls activities others) (also : SameCalls more rest) :
    SameCalls (activities ++ more) (others ++ rest) := by
  induction same with
  | nil => exact also
  | cons proc memory other prog _ inductionHypothesis =>
      exact .cons proc memory other prog inductionHypothesis

/-- A call in the one pool is the same call in the other. -/
theorem split {proc : I.Proc} {memory : M} {prog : Prog I (I.Result proc)}
    (same : SameCalls (activities ++ ⟨proc, memory, prog⟩ :: more) others) :
    exists before other after, others = before ++ ⟨proc, other, prog⟩ :: after ∧
      SameCalls activities before ∧ SameCalls more after := by
  induction activities generalizing others with
  | nil =>
      cases same with
      | cons _ _ other _ rest => exact ⟨[], other, _, rfl, .nil, rest⟩
  | cons activity activities inductionHypothesis =>
      cases same with
      | cons head memory other program rest =>
          rcases inductionHypothesis rest with ⟨before, found, after, rfl, first, last⟩
          exact ⟨_ :: before, found, after, rfl, .cons head memory other program first, last⟩

theorem countP_underWay (same : SameCalls activities others) :
    others.countP Activity.underWay = activities.countP Activity.underWay := by
  induction same with
  | nil => rfl
  | cons proc memory other prog _ inductionHypothesis =>
      rw [List.countP_cons, List.countP_cons, inductionHypothesis]
      cases prog <;> rfl

end SameCalls

/-- Memories do not change what a pool can do. -/
theorem exists_memories {N : Type} (other : SideBySide I N) (sys : other.sys = side.sys)
    (begins : other.begins = side.begins) {begun : I.State} {current : Pool I M}
    (reached : side.Reachable ⟨begun, []⟩ current) :
    exists others, other.Reachable ⟨begun, []⟩ ⟨current.state, others⟩ ∧
      SameCalls current.activities others := by
  induction reached with
  | refl => exact ⟨[], .refl, .nil⟩
  | tail _ step inductionHypothesis =>
      rcases inductionHypothesis with ⟨others, before, same⟩
      cases step with
      | begin activities proc state later allowed =>
          refine ⟨_, before.tail (.begin others proc state later (begins ▸ allowed)), ?_⟩
          rw [sys]
          exact same.append (.cons proc _ _ _ .nil)
      | move first last proc memory prog next state later step =>
          rcases same.split with ⟨start, found, rest, rfl, before', after⟩
          refine ⟨_, before.tail (.move start rest proc found prog next state later (sys ▸ step)), ?_⟩
          exact before'.append (.cons proc _ _ next after)

end SideBySide

end Reentrant
