import NrfExamples.GnssCoap.Fixes
import NrfExamples.Traces.Rounds

namespace NrfExamples
namespace GnssCoap
namespace Fixes

open Reentrant Prog Traces

/-!
# Every valid fix is formatted

`gnss_event_handler` submits `new_fix_work` for a valid fix, and submitting it
again while it waits does nothing.  So one run of `new_fix_work_fn` stands for
all fixes before it.  There are no more runs than valid fixes, and when the work
queue is idle without the item, a run has come after every valid fix: it read
the latitude then and formatted what it had read.
-/

/-- The work queue formats the latitude that it read last. -/
def Formats (before : List FixEntry) (entry : FixEntry) : Prop :=
  exists latitude longitude, entry = .formatted latitude longitude ∧
    Since (fun entry => entry.isLatitude = false) (fun _ entry => entry = .latitude latitude) before

def FixEntry.isFormatted : FixEntry -> Bool
  | .formatted _ _ => true
  | _ => false

/-- A valid fix asks for a run of `new_fix_work_fn`, which begins to read with the
latitude. -/
def fixRounds : Rounds FixEntry where
  requests := FixEntry.storesFix
  begins := FixEntry.isLatitude
  finishes := Formats
  apart := by
    rintro before entry begins ⟨latitude, longitude, rfl, _⟩
    cases begins

/-- The work queue is about to look for work, or goes on waiting after an
interrupt. -/
def IsIdle (current : WorkConfig) : Prop :=
  pendingCall current = some (.interrupts .idle)

/-! ## What the interrupts do -/

/-- How often `new_fix_work` waits. -/
def State.newFixes (state : State) : Nat :=
  state.client.work.count .newFix

/-- An entry that has nothing to do with a run of `new_fix_work_fn`. -/
def FixEntry.aside (entry : FixEntry) : Prop :=
  entry.storesFix = false ∧ entry.isLatitude = false ∧ entry.isFormatted = false

/-- Either nothing that matters, or a valid fix was stored and the item waits. -/
inductive Interrupted (before after : State) : Prop
  | aside (added : List FixEntry) (history : after.history = before.history ++ added)
      (nothing : forall entry, entry ∈ added -> entry.aside)
      (same : after.newFixes = before.newFixes)
  | fix (frame : Frame) (valid : hasFix frame = true)
      (history : after.history = before.history ++ [.stored frame])
      (waits : .newFix ∈ after.client.work) (more : after.newFixes ≤ before.newFixes + 1)

section Interrupts

variable {state : State}

theorem count_kWorkSubmit_coapPut (client : Client) :
    (client.kWorkSubmit .coapPut).work.count .newFix = client.work.count .newFix := by
  unfold Client.kWorkSubmit
  split
  · rfl
  · rw [List.count_append]
    rfl

theorem interrupted_mapClient {change : Client -> Client}
    (same : (change state.client).work.count .newFix = state.client.work.count .newFix) :
    Interrupted state (state.mapClient change) :=
  .aside [] (List.append_nil _).symm (fun _ member => nomatch member) same

theorem interrupted_lteHandler (status : Option Nat) :
    Interrupted state (state.mapClient (lteHandler status)) := by
  apply interrupted_mapClient
  unfold lteHandler
  cases status with
  | none => rfl
  | some status =>
      dsimp only
      split
      · split <;> rfl
      · rfl

theorem interrupted_buttonPressed {build : Build} (real : build.simulateFix = false)
    (first : Bool) : Interrupted state (state.mapClient (buttonPressed build first)) := by
  apply interrupted_mapClient
  unfold buttonPressed
  rw [real]
  split
  · exact count_kWorkSubmit_coapPut _
  · rfl

/-- The item waits after it has been submitted, at most once more than before. -/
theorem kWorkSubmit_newFix (client : Client) :
    .newFix ∈ (client.kWorkSubmit .newFix).work ∧
      (client.kWorkSubmit .newFix).work.count .newFix ≤ client.work.count .newFix + 1 := by
  unfold Client.kWorkSubmit
  split
  · rename_i waits
    exact ⟨waits, Nat.le_succ _⟩
  · constructor
    · exact List.mem_append_right _ (List.mem_singleton.mpr rfl)
    · exact Nat.le_of_eq (by rw [List.count_append, List.count_singleton_self])

theorem interrupted_gnssPvt (err : Int) (frame : Frame) :
    Interrupted state (state.gnssPvt err frame) := by
  unfold State.gnssPvt gnssEventHandler State.mapClient State.record
  dsimp only
  by_cases fails : err = 0
  · rw [if_neg (not_not_intro fails), if_pos fails]
    by_cases valid : hasFix frame = true
    · have flag := of_decide_eq_true valid
      rw [if_pos flag]
      have submitted := kWorkSubmit_newFix { state.client with pvtData := frame }
      exact .fix frame valid rfl submitted.1 submitted.2
    · have noFlag : ¬ frame.flags &&& NRF_MODEM_GNSS_PVT_FLAG_FIX_VALID ≠ 0 :=
        fun flag => valid (decide_eq_true flag)
      rw [if_neg noFlag]
      refine .aside [.stored frame] rfl ?_ rfl
      intro entry member
      rw [List.mem_singleton.mp member]
      exact ⟨Bool.eq_false_iff.mpr valid, rfl, rfl⟩
  · rw [if_pos fails, if_neg fails]
    refine .aside [.failed err] rfl ?_ rfl
    intro entry member
    rw [List.mem_singleton.mp member]
    exact ⟨rfl, rfl, rfl⟩

theorem interrupted_handleEvent {build : Build} (real : build.simulateFix = false)
    {event : Event} (possible : mayInterrupt event = true) :
    Interrupted state (handleEvent build event state) := by
  cases event with
  | lte status => exact interrupted_lteHandler status
  | dateTime => exact interrupted_mapClient rfl
  | button first second => exact interrupted_buttonPressed real first
  | gnssPvt err frame => exact interrupted_gnssPvt err frame
  | gnssOther => exact .aside [] (List.append_nil _).symm (fun _ member => nomatch member) rfl
  | timer => cases possible
  | work => cases possible

end Interrupts

/-! ## What is known in every state -/

/-- No more has been formatted than there were valid fixes, less those that still
have the item waiting. -/
def Enough (spare : Nat) (state : State) : Prop :=
  state.history.countP FixEntry.isFormatted + state.newFixes + spare ≤
    state.history.countP FixEntry.storesFix

/-- A fix that has not been read yet has the item waiting. -/
def Noticed (state : State) : Prop :=
  fixRounds.Waiting state.history -> .newFix ∈ state.client.work

/-- Where `new_fix_work_fn` has come to. -/
inductive Progress
  | idle
  | taken
  | halfway (latitude : Reading)

def Progress.Holds : Progress -> State -> Prop
  | .idle, state => Noticed state ∧
      ((forall entry, entry ∈ state.history -> fixRounds.begins entry = false) ∨
        fixRounds.Finished state.history)
  | .taken, state => Enough 1 state
  | .halfway latitude, state => Enough 1 state ∧ Noticed state ∧
      Since (fun entry => entry.isLatitude = false) (fun _ entry => entry = .latitude latitude)
        state.history

section Steps

variable {before after : State} {progress : Progress} {spare : Nat}

theorem Interrupted.exists_added (interrupted : Interrupted before after) :
    exists added, after.history = before.history ++ added ∧
      forall entry, entry ∈ added -> entry.isLatitude = false := by
  cases interrupted with
  | aside added history nothing _ =>
      exact ⟨added, history, fun entry member => (nothing entry member).2.1⟩
  | fix frame _ history _ _ =>
      refine ⟨[.stored frame], history, fun entry member => ?_⟩
      rw [List.mem_singleton.mp member]
      rfl

theorem Enough.interrupted (enough : Enough spare before)
    (interrupted : Interrupted before after) : Enough spare after := by
  unfold Enough at *
  cases interrupted with
  | aside added history nothing same =>
      have formats : added.countP FixEntry.isFormatted = 0 :=
        List.countP_eq_zero.mpr fun entry member => by simp [(nothing entry member).2.2]
      rw [history, List.countP_append, List.countP_append, formats, same]
      omega
  | fix frame valid history waits more =>
      have one : [FixEntry.stored frame].countP FixEntry.storesFix = 1 :=
        List.countP_singleton.trans (if_pos valid)
      rw [history, List.countP_append, List.countP_append, one]
      have none : [FixEntry.stored frame].countP FixEntry.isFormatted = 0 := rfl
      omega

theorem Noticed.interrupted (noticed : Noticed before)
    (interrupted : Interrupted before after) : Noticed after := by
  intro waiting
  cases interrupted with
  | fix frame valid history waits more => exact waits
  | aside added history nothing same =>
      rw [history] at waiting
      unfold Rounds.Waiting at waiting
      rw [since_append] at waiting
      · have counted := List.count_pos_iff.mpr (noticed waiting.1)
        apply List.count_pos_iff.mp
        unfold State.newFixes at same
        omega
      · intro _ entry member fix
        exact absurd (fix.symm.trans (nothing entry member).1) (by decide)

theorem Progress.Holds.interrupted (holds : progress.Holds before)
    (interrupted : Interrupted before after) : progress.Holds after := by
  rcases interrupted.exists_added with ⟨added, history, noRound⟩
  cases progress with
  | idle =>
      refine ⟨holds.1.interrupted interrupted, ?_⟩
      rw [history]
      rcases holds.2 with never | finished
      · left
        intro entry member
        rcases List.mem_append.mp member with old | new
        · exact never entry old
        · exact noRound entry new
      · exact .inr (Since.append finished noRound)
  | taken => exact Enough.interrupted holds interrupted
  | halfway latitude =>
      refine ⟨holds.1.interrupted interrupted, holds.2.1.interrupted interrupted, ?_⟩
      rw [history]
      exact holds.2.2.append noRound

end Steps

/-! ## What the work queue needs and promises -/

def roundTerms : Thread.Terms workThread where
  Phase := Progress
  holds := fun progress point state => progress.Holds state ∧
    (point = .idle -> Progress.idle.Holds state)
  always := Enough 0
  called := fun _ _ => True
  Ghost := fun _ => Unit
  pre := fun _ _ => Progress.idle.Holds
  post := fun _ _ _ _ => True

abbrev RoundSafe (build : Build) {A : Type} (program : WorkProg A) (goal : A -> State -> Prop)
    (state : State) : Prop :=
  program.Safe (setup build).system (roundTerms.contract (setup build)) goal state

section Functions

variable {build : Build} {state : State} {A : Type} {goal : A -> State -> Prop}

theorem interrupts_keep (real : build.simulateFix = false) :
    roundTerms.HandlersKeep (setup build) := by
  intro point progress state event enough holds possible
  have interrupted : Interrupted state _ := interrupted_handleEvent real possible
  exact ⟨enough.interrupted interrupted, holds.1.interrupted interrupted,
    fun here => (holds.2 here).interrupted interrupted⟩

/-- Pass a point other than the wait for work. -/
theorem pass_then {point : Point} {rest : Unit -> WorkProg A} (progress : Progress)
    (busy : point ≠ .idle) (holds : progress.Holds state)
    (goesOn : forall later, Enough 0 later -> progress.Holds later ->
      RoundSafe build (rest ()) goal later) :
    RoundSafe build (interrupts point >>= rest) goal state := by
  apply Thread.Terms.interrupts_then progress
  · exact ⟨holds, fun here => absurd here busy⟩
  · exact fun later enough kept _ => goesOn later enough kept.1

theorem Enough.less {spare : Nat} (enough : Enough spare state) : Enough 0 state := by
  unfold Enough at *
  omega

/-- What neither records anything nor touches the item. -/
theorem Enough.mapClient {spare : Nat} (enough : Enough spare state) {change : Client -> Client}
    (same : (change state.client).work.count .newFix = state.client.work.count .newFix) :
    Enough spare (state.mapClient change) :=
  enough.interrupted (interrupted_mapClient same)

theorem idle_mapClient (idle : Progress.idle.Holds state) {change : Client -> Client}
    (same : (change state.client).work.count .newFix = state.client.work.count .newFix) :
    Progress.idle.Holds (state.mapClient change) :=
  idle.interrupted (interrupted_mapClient same)

/-- Once the latitude has been read, a fix that waits came in after it. -/
theorem rounds_readLatitude (taken : Progress.taken.Holds state) :
    RoundSafe build readLatitude (fun latitude => (Progress.halfway latitude).Holds) state := by
  have recorded : forall latitude, Enough 1 (state.record (.latitude latitude)) := by
    intro latitude
    have enough : Enough 1 state := taken
    unfold Enough State.record State.newFixes at *
    dsimp only
    rw [List.countP_append, List.countP_append]
    exact enough
  refine ⟨(recorded _).less, recorded _, ?_, since_concat.mpr (.inl rfl)⟩
  intro waiting
  rcases Rounds.waiting_concat.mp waiting with fix | ⟨_, noRound⟩
  · cases fix
  · cases noRound

/-- Formatting finishes the round. -/
theorem rounds_readLongitude {latitude : Reading} (halfway : (Progress.halfway latitude).Holds state) :
    RoundSafe build (readLongitude latitude) (fun _ => Progress.idle.Holds) state := by
  rcases halfway with ⟨enough, noticed, read⟩
  have recorded : forall longitude, Enough 0 (state.record (.formatted latitude longitude)) := by
    intro longitude
    unfold Enough State.record State.newFixes at *
    dsimp only
    rw [List.countP_append, List.countP_append]
    have one : [FixEntry.formatted latitude longitude].countP FixEntry.isFormatted = 1 := rfl
    rw [one]
    omega
  refine ⟨recorded _, ?_, .inr (Rounds.finished_concat.mpr (.inl ⟨latitude, _, rfl, read⟩))⟩
  intro waiting
  exact noticed ((Rounds.waiting_append rfl rfl).mp waiting)

theorem rounds_newFixWorkFn (taken : Progress.taken.Holds state) :
    RoundSafe build newFixWorkFn (fun _ => Progress.idle.Holds) state := by
  refine pass_then .taken (fun same => nomatch same) taken ?_
  intro first enough taken
  apply Prog.Safe.andThen ((rounds_readLatitude taken).with_always enough)
  intro latitude second halfway
  refine pass_then (.halfway latitude) (fun same => nomatch same) halfway.2 ?_
  intro third enough halfway
  apply Prog.Safe.andThen ((rounds_readLongitude halfway).with_always enough)
  intro longitude fourth idle
  apply Thread.Terms.reply_then trivial
  intro printed _
  refine pass_then .idle (fun same => nomatch same) idle.2 ?_
  intro fifth enough idle
  split
  · exact ⟨enough.mapClient (count_kWorkSubmit_coapPut _),
      idle_mapClient idle (count_kWorkSubmit_coapPut _)⟩
  · exact ⟨enough.mapClient (count_kWorkSubmit_coapPut _),
      idle_mapClient idle (count_kWorkSubmit_coapPut _)⟩

theorem rounds_runOldest (enough : Enough 0 state) (idle : Progress.idle.Holds state) :
    RoundSafe build runOldest (fun _ => Progress.idle.Holds) state := by
  apply Prog.get_then enough
  split
  · exact idle
  · rename_i item later waiting
    cases item with
    | newFix =>
        have taken : Enough 1 (state.mapClient fun client => { client with work := later }) := by
          unfold Enough State.newFixes at *
          rw [waiting, List.count_cons_self] at enough
          exact enough
        apply Prog.modify_then taken.less
        exact rounds_newFixWorkFn taken
    | coapPut =>
        have same : later.count .newFix = state.client.work.count .newFix := by
          rw [waiting]
          rfl
        have taken : Enough 0 (state.mapClient fun client => { client with work := later }) :=
          enough.mapClient same
        apply Prog.modify_then taken
        refine pass_then .idle (fun same => nomatch same) (idle_mapClient idle same) ?_
        intro first enough idle
        apply Thread.Terms.reply_then trivial
        intro left _
        have changed : Enough 0 (first.mapClient fun client =>
            { client with
              nextToken := left.1
              coapBuf := left.2 }) := enough.mapClient rfl
        exact ⟨changed, idle_mapClient idle rfl⟩

theorem rounds_workQueue (idle : Progress.idle.Holds state) :
    RoundSafe build workQueue (fun _ _ => True) state := by
  have holds : roundTerms.holds Progress.idle .idle state := ⟨idle, fun _ => idle⟩
  apply Thread.Terms.interrupts_then Progress.idle holds
  intro first enough idle _
  apply Prog.Safe.andThen (rounds_runOldest enough idle.1)
  intro _ second idle
  exact Thread.Terms.safe_invoke () idle fun _ _ _ _ => trivial

end Functions

/-- In every run, no more positions are formatted than there were valid fixes.
When the work queue is idle and `new_fix_work` does not wait, every valid fix has
been followed by a run of `new_fix_work_fn`. -/
theorem fixes_formatted {build : Build} {current : WorkConfig}
    (real : build.simulateFix = false) (reached : WorkReached build current) :
    (current.state.history.countP FixEntry.isFormatted ≤
      current.state.history.countP FixEntry.storesFix) ∧
      (IsIdle current -> .newFix ∉ current.state.client.work ->
        fixRounds.Answered current.state.history) := by
  have honours := Thread.Terms.honours (interrupts_keep real) fun _ _ _ _ idle =>
    rounds_workQueue idle
  have initially : Enough 0 State.initial := Nat.le_refl 0
  have idle : Progress.idle.Holds State.initial :=
    ⟨fun waiting => absurd waiting not_since_nil, .inl fun _ member => nomatch member⟩
  have safe : RoundSafe build workQueue _ _ := rounds_workQueue idle
  constructor
  · have enough : Enough 0 current.state :=
      System.always_of_reachable reached honours initially safe
    unfold Enough at enough
    omega
  · intro here nothing
    rcases exists_of_pendingCall here with ⟨next, here⟩
    rcases System.pre_of_reachable reached honours initially safe here with ⟨progress, holds⟩
    have settled := holds.2 rfl
    apply Rounds.answered_of_quiet
    · exact fun waiting => nothing (settled.1 waiting)
    · exact settled.2

/-- Two valid fixes are stored before the work queue comes to the first, and a third
while it formats. -/
def threeStored : WorkConfig :=
  (setup realBuild).system.play (I := workThread.interface) 39 (readsAt .idle here ++
    readsAt .idle here ++
    [⟨.next .idle, none⟩, ⟨.next .beforeLatitude, none⟩] ++ readsAt .beforeLongitude here ++
    [⟨.next .beforeLongitude, none⟩, ⟨.reply (.snprintf 100 200), ((0, []) : Int × List UInt8)⟩,
      ⟨.next .beforeStore, none⟩, ⟨.next .idle, none⟩, ⟨.next .beforeLatitude, none⟩,
      ⟨.next .beforeLongitude, none⟩, ⟨.reply (.snprintf 100 200), ((0, []) : Int × List UInt8)⟩,
      ⟨.next .beforeStore, none⟩]) ⟨State.initial, workQueue⟩

theorem threeStored_formatted :
    threeStored.state.history.countP FixEntry.storesFix = 3 ∧
      threeStored.state.history.countP FixEntry.isFormatted = 2 ∧
      fixRounds.Answered threeStored.state.history := by
  have reached : WorkReached realBuild threeStored := (setup realBuild).system.play_reachable 39 _ _
  have idle : pendingCall threeStored = some (.interrupts .idle) := by decide +kernel
  refine ⟨by decide +kernel, by decide +kernel, ?_⟩
  exact (fixes_formatted rfl reached).2 idle (by decide +kernel)

end Fixes
end GnssCoap
end NrfExamples
