import NrfExamples.Reentrant.Contract

namespace Reentrant

/-!
# A thread and its interrupts

A thread can be interrupted at certain points, any number of times, by events
with a handler each.  It also calls code outside the program, whose replies the
environment chooses.  `interrupts` is the procedure that stands at such a point:
the environment delivers events there until it lets the thread go on.

A phase is what the thread has established and the handlers keep.  It is the
ghost value of `interrupts`: the same point is passed in different phases.  What
a phase means may depend on the point, since an event that one point excludes
can come in at another.
-/

/-- What a thread consists of. -/
structure Thread where
  State : Type
  Point : Type
  Event : Type
  Call : Type
  Reply : Call -> Type
  Proc : Type
  Result : Proc -> Type

inductive ThreadQuery (Point Call : Type)
  | next (point : Point)
  | reply (call : Call)
  deriving DecidableEq, Repr

inductive ThreadProc (Point Proc : Type)
  | interrupts (point : Point)
  | proc (proc : Proc)
  deriving DecidableEq, Repr

namespace Thread

variable (thread : Thread)

/-- At a point, the next event, or none to go on. -/
abbrev Answer : ThreadQuery thread.Point thread.Call -> Type
  | .next _ => Option thread.Event
  | .reply call => thread.Reply call

abbrev ProcResult : ThreadProc thread.Point thread.Proc -> Type
  | .interrupts _ => Unit
  | .proc proc => thread.Result proc

abbrev interface : Interface where
  State := thread.State
  Query := ThreadQuery thread.Point thread.Call
  Answer := thread.Answer
  Proc := ThreadProc thread.Point thread.Proc
  Result := thread.ProcResult

/-- The handlers and procedures of a thread, and what its environment may do. -/
structure Setup where
  handle : thread.Event -> Prog thread.interface Unit
  body : (proc : thread.Proc) -> Prog thread.interface (thread.Result proc)
  mayHappen : thread.Point -> thread.State -> thread.Event -> Prop
  mayGoOn : thread.Point -> thread.State -> Prop
  mayReply : (call : thread.Call) -> thread.State -> thread.Reply call -> Prop

variable {thread}

/-- Stand at a point until the environment lets the thread go on. -/
def interrupts (point : thread.Point) : Prog thread.interface Unit :=
  Prog.invoke (I := thread.interface) (ThreadProc.interrupts point)

/-- A question to the code outside. -/
def reply (call : thread.Call) : Prog thread.interface (thread.Reply call) :=
  Prog.question (I := thread.interface) (ThreadQuery.reply call)

/-- A call of one of the thread's own procedures. -/
def invoke (proc : thread.Proc) : Prog thread.interface (thread.Result proc) :=
  Prog.invoke (I := thread.interface) (ThreadProc.proc proc)

namespace Setup

variable (setup : Setup thread)

def interruptsBody (point : thread.Point) : Prog thread.interface Unit :=
  Prog.ask (I := thread.interface) (ThreadQuery.next point) fun answer =>
    match answer with
    | none => .ret ()
    | some event => (setup.handle event).bind fun _ => interrupts point

def system : System thread.interface where
  body := fun proc =>
    match proc with
    | .interrupts point => setup.interruptsBody point
    | .proc proc => setup.body proc
  permitted := fun query state answer =>
    match query with
    | .next point =>
        match answer with
        | none => setup.mayGoOn point state
        | some event => setup.mayHappen point state event
    | .reply call => setup.mayReply call state answer

end Setup

/-! ## Contracts for a thread -/

/-- What is known always, in each phase, at the calls to the outside, and around
the procedures. -/
structure Terms (thread : Thread) where
  Phase : Type
  holds : Phase -> thread.Point -> thread.State -> Prop
  always : thread.State -> Prop
  called : thread.Call -> thread.State -> Prop
  Ghost : thread.Proc -> Type
  pre : (proc : thread.Proc) -> Ghost proc -> thread.State -> Prop
  post : (proc : thread.Proc) -> Ghost proc -> thread.Result proc -> thread.State -> Prop

namespace Terms

variable (terms : Terms thread) (setup : Setup thread)

def contract : Contract thread.interface where
  Ghost := fun proc =>
    match proc with
    | .interrupts _ => terms.Phase
    | .proc proc => terms.Ghost proc
  always := terms.always
  asked := fun query state =>
    match query with
    | .next _ => True
    | .reply call => terms.called call state
  pre := fun proc ghost state =>
    match proc with
    | .interrupts point => terms.holds ghost point state
    | .proc proc => terms.pre proc ghost state
  post := fun proc ghost result state =>
    match proc with
    | .interrupts point => terms.holds ghost point state ∧ setup.mayGoOn point state
    | .proc proc => terms.post proc ghost result state

/-- Every handler keeps every phase. -/
def HandlersKeep : Prop :=
  forall point phase state event, terms.always state -> terms.holds phase point state ->
    setup.mayHappen point state event ->
    (setup.handle event).Safe setup.system (terms.contract setup)
      (fun _ => terms.holds phase point) state

/-- Every procedure meets its own terms. -/
def BodiesMeet : Prop :=
  forall proc ghost state, terms.always state -> terms.pre proc ghost state ->
    (setup.body proc).Safe setup.system (terms.contract setup) (terms.post proc ghost) state

variable {terms setup}

/-- It is enough to look at one event, whatever the point and the phase. -/
theorem honours (handlers : terms.HandlersKeep setup) (bodies : terms.BodiesMeet setup) :
    setup.system.Honours (terms.contract setup) := by
  intro proc ghost state known assumed
  cases proc with
  | interrupts point =>
      constructor
      · trivial
      · intro answer allowed
        cases answer with
        | none => exact ⟨assumed, allowed⟩
        | some event =>
            apply (Prog.safe_bind _ _ _ _).mpr
            apply (handlers point ghost state event known assumed allowed).mono
            intro _ later kept
            apply (Prog.safe_call _ _).mpr
            exact ⟨ghost, kept, fun _ _ _ promised => promised⟩
  | proc proc => exact bodies proc ghost state known assumed

/-! ## What each step needs -/

section Steps

variable {A : Type} {goal : A -> thread.State -> Prop} {state : thread.State}

/-- The thread passes a point in a phase. -/
theorem interrupts_then {point : thread.Point} {rest : Unit -> Prog thread.interface A}
    (phase : terms.Phase) (assumed : terms.holds phase point state)
    (goesOn : forall later, terms.always later -> terms.holds phase point later ->
      setup.mayGoOn point later ->
      (rest ()).Safe setup.system (terms.contract setup) goal later) :
    (interrupts point >>= rest).Safe setup.system (terms.contract setup) goal state := by
  apply (Prog.safe_call _ _).mpr
  exact ⟨phase, assumed, fun _ later known promised => goesOn later known promised.1 promised.2⟩

/-- The thread asks the code outside. -/
theorem reply_then {call : thread.Call} {rest : thread.Reply call -> Prog thread.interface A}
    (called : terms.called call state)
    (replied : forall answer, setup.mayReply call state answer ->
      (rest answer).Safe setup.system (terms.contract setup) goal state) :
    (reply call >>= rest).Safe setup.system (terms.contract setup) goal state := by
  apply (Prog.safe_ask _ _).mpr
  exact ⟨called, replied⟩

/-- The thread calls one of its procedures. -/
theorem invoke_then {proc : thread.Proc} {rest : thread.Result proc -> Prog thread.interface A}
    (ghost : terms.Ghost proc) (assumed : terms.pre proc ghost state)
    (returns : forall result later, terms.always later -> terms.post proc ghost result later ->
      (rest result).Safe setup.system (terms.contract setup) goal later) :
    (invoke proc >>= rest).Safe setup.system (terms.contract setup) goal state := by
  apply (Prog.safe_call _ _).mpr
  exact ⟨ghost, assumed, returns⟩

/-- The thread ends with a call of one of its procedures. -/
theorem safe_invoke {proc : thread.Proc} {goal : thread.Result proc -> thread.State -> Prop}
    (ghost : terms.Ghost proc) (assumed : terms.pre proc ghost state)
    (returns : forall result later, terms.always later -> terms.post proc ghost result later ->
      goal result later) :
    (invoke proc).Safe setup.system (terms.contract setup) goal state := by
  apply (Prog.safe_call _ _).mpr
  exact ⟨ghost, assumed, returns⟩

end Steps

end Terms

/-! ## Programs that leave something alone -/

section Frame

variable {A B : Type} {passed : thread.Point -> Prop} {kept : thread.State -> Prop}

/-- Every section of the program keeps the predicate, and the program calls
nothing, except that it passes these points. -/
def Keeps (passed : thread.Point -> Prop) (kept : thread.State -> Prop) :
    Prog thread.interface A -> Prop
  | .ret _ => True
  | .act run next => (forall state, kept state -> kept (run state).2) ∧
      forall value, Keeps passed kept (next value)
  | .ask _ next => forall answer, Keeps passed kept (next answer)
  | .call (.interrupts point) next =>
      passed point ∧ forall result, Keeps passed kept (next result)
  | .call (.proc _) _ => False

theorem Keeps.andThen {program : Prog thread.interface A} {rest : A -> Prog thread.interface B}
    (first : Keeps passed kept program) (second : forall value, Keeps passed kept (rest value)) :
    Keeps passed kept (program >>= rest) := by
  induction program with
  | ret value => exact second value
  | act run next inductionHypothesis =>
      constructor
      · exact first.1
      · exact fun value => inductionHypothesis value (first.2 value)
  | ask query next inductionHypothesis =>
      exact fun answer => inductionHypothesis answer (first answer)
  | call proc next inductionHypothesis =>
      cases proc with
      | interrupts point =>
          constructor
          · exact first.1
          · exact fun result => inductionHypothesis result (first.2 result)
      | proc proc => exact absurd first id

theorem keeps_modify {change : thread.State -> thread.State}
    (keeps : forall state, kept state -> kept (change state)) :
    Keeps passed kept (Prog.modify (I := thread.interface) change) :=
  ⟨keeps, fun _ => trivial⟩

theorem keeps_get (view : thread.State -> A) :
    Keeps passed kept (Prog.get (I := thread.interface) view) :=
  ⟨fun _ holds => holds, fun _ => trivial⟩

theorem keeps_interrupts {point : thread.Point} (here : passed point) :
    Keeps passed kept (interrupts point) :=
  ⟨here, fun _ => trivial⟩

theorem keeps_reply (call : thread.Call) : Keeps passed kept (reply call) :=
  fun _ => trivial

/-- What is known always and in a phase, alike at the points that are passed,
stays so in a program that leaves it alone. -/
theorem Keeps.safe {terms : Terms thread} {setup : Setup thread} {phase : terms.Phase}
    {program : Prog thread.interface A} {state : thread.State}
    (keeps : Keeps passed (fun state => terms.always state ∧ kept state) program)
    (alike : forall point state, passed point -> (terms.holds phase point state <-> kept state))
    (called : forall call state, terms.called call state)
    (now : terms.always state ∧ kept state) :
    program.Safe setup.system (terms.contract setup)
      (fun _ state => terms.always state ∧ kept state) state := by
  induction program generalizing state with
  | ret value => exact now
  | act run next inductionHypothesis =>
      have after := keeps.1 state now
      exact ⟨after.1, inductionHypothesis _ (keeps.2 _) after⟩
  | ask query next inductionHypothesis =>
      constructor
      · cases query with
        | next point => trivial
        | reply call => exact called call state
      · exact fun answer _ => inductionHypothesis answer (keeps answer) now
  | call proc next inductionHypothesis =>
      cases proc with
      | interrupts point =>
          refine ⟨phase, (alike point state keeps.1).mpr now.2, ?_⟩
          intro result later known promised
          exact inductionHypothesis result (keeps.2 result)
            ⟨known, (alike point later keeps.1).mp promised.1⟩
      | proc proc => exact absurd keeps id

end Frame

end Thread

end Reentrant
