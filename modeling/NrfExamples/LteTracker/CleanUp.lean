import NrfExamples.LteTracker.Registration

namespace NrfExamples
namespace LteTracker

open Reentrant Prog Traces

/-!
# What `main` leaves behind

After the loop `main` powers LTE off and shuts the modem library down, and an
iteration closes its socket at the end.  An iteration is left in two ways:
`return 0` skips what follows the loop, and `break` skips the `close`.  So
nothing is left behind only where `break` is taken without a socket: when
`lte_lc_func_mode_set` fails, which is before the socket is created or after it
is closed, and when `socket` fails without setting `errno`, so that
`server_connect` returns zero.
-/

/-! ## Sockets -/

/-- The open sockets after one more entry. -/
def track (openNow : List Int) : Entry -> List Int
  | .returned .socket sock => if sock < 0 then openNow else openNow ++ [sock]
  | .returned (.close sock) _ => openNow.erase sock
  | _ => openNow

/-- The sockets that have been created and not closed. -/
def openSockets (history : List Entry) : List Int :=
  history.foldl track []

/-- No socket is left open, and the modem is shut down. -/
def CleanedUp (history : List Entry) : Prop :=
  openSockets history = [] ∧ .called .lteLcPowerOff ∈ history ∧
    .called .nrfModemLibShutdown ∈ history

/-- `main` has returned, and not before the loop. -/
def LeftLoop (current : TrackerConfig) : Prop :=
  hasReturned current = true ∧ .took .gnssFixSem ∈ current.state.history

/-- No socket is open where an iteration starts, never more than one, and
nothing is left behind. -/
def Tidy (current : TrackerConfig) : Prop :=
  (pendingCall current = some (.proc .trackingLoop) -> openSockets current.state.history = []) ∧
    (openSockets current.state.history).length ≤ 1 ∧
    (LeftLoop current -> CleanedUp current.state.history)

/-! ## The last iteration -/

def Entry.modeFails : Entry -> Bool
  | .returned (.lteLcFuncModeSet _) err => err ≠ 0
  | _ => false

def Entry.socketFails : Entry -> Bool
  | .returned .socket sock => sock < 0
  | _ => false

def Entry.readsNoError : Entry -> Bool
  | .returned .errno err => err = 0
  | _ => false

/-- It has happened since the last fix was taken. -/
def InIteration (happens : Entry -> Bool) (history : List Entry) : Prop :=
  Since (fun entry => entry ≠ .took .gnssFixSem) (fun _ entry => happens entry = true) history

/-- LTE could not be activated or deactivated, or there was no socket and no
`errno` either. -/
def EndsWithoutSocket (history : List Entry) : Prop :=
  InIteration Entry.modeFails history ∨
    (InIteration Entry.socketFails history ∧ InIteration Entry.readsNoError history)

namespace CleanUp

section Histories

variable {history : List Entry} {entry : Entry} {happens : Entry -> Bool}

theorem openSockets_concat :
    openSockets (history ++ [entry]) = track (openSockets history) entry := by
  unfold openSockets
  rw [List.foldl_append, List.foldl_cons, List.foldl_nil]

theorem inIteration_concat :
    InIteration happens (history ++ [entry]) <->
      happens entry = true ∨ (InIteration happens history ∧ entry ≠ .took .gnssFixSem) :=
  since_concat

theorem inIteration_concat_iff (happensNot : happens entry = false)
    (sameIteration : entry ≠ .took .gnssFixSem) :
    InIteration happens (history ++ [entry]) <-> InIteration happens history := by
  rw [inIteration_concat, happensNot]
  simp [sameIteration]

/-- A call does not end an iteration; its result may. -/
theorem endsWithoutSocket_called (function : Call) :
    EndsWithoutSocket (history ++ [.called function]) <-> EndsWithoutSocket history := by
  have other : Entry.called function ≠ .took .gnssFixSem := fun same => nomatch same
  unfold EndsWithoutSocket
  rw [inIteration_concat_iff rfl other, inIteration_concat_iff rfl other,
    inIteration_concat_iff rfl other]

/-- An entry that nothing here depends on. -/
structure Neutral (entry : Entry) : Prop where
  sockets : forall openNow, track openNow entry = openNow
  modeFails : entry.modeFails = false
  socketFails : entry.socketFails = false
  readsNoError : entry.readsNoError = false
  sameIteration : entry ≠ .took .gnssFixSem
  notShutDown : entry ≠ .called .nrfModemLibShutdown

theorem neutral_event (event : Event) : Neutral (.event event) where
  sockets := fun _ => rfl
  modeFails := rfl
  socketFails := rfl
  readsNoError := rfl
  sameIteration := fun same => nomatch same
  notShutDown := fun same => nomatch same

theorem neutral_called {function : Call} (different : function ≠ .nrfModemLibShutdown) :
    Neutral (.called function) where
  sockets := fun _ => rfl
  modeFails := rfl
  socketFails := rfl
  readsNoError := rfl
  sameIteration := fun same => nomatch same
  notShutDown := fun same => different (Entry.called.inj same)

theorem neutral_took_lteConnected : Neutral (.took .lteConnected) where
  sockets := fun _ => rfl
  modeFails := rfl
  socketFails := rfl
  readsNoError := rfl
  sameIteration := by decide
  notShutDown := by decide

/-- Neither the call nor its result matters here. -/
def indifferent : Call -> Bool
  | .socket | .close _ | .errno | .lteLcFuncModeSet _ | .nrfModemLibShutdown => false
  | _ => true

theorem neutral_returned {function : Call} (unused : indifferent function = true)
    (result : Int) : Neutral (.returned function result) where
  sockets := by
    intro openNow
    cases function <;> first | rfl | cases unused
  modeFails := by cases function <;> first | rfl | cases unused
  socketFails := by cases function <;> first | rfl | cases unused
  readsNoError := by cases function <;> first | rfl | cases unused
  sameIteration := fun same => nomatch same
  notShutDown := fun same => nomatch same

theorem neutral_returned_nrfModemLibShutdown (result : Int) :
    Neutral (.returned .nrfModemLibShutdown result) where
  sockets := fun _ => rfl
  modeFails := rfl
  socketFails := rfl
  readsNoError := rfl
  sameIteration := fun same => nomatch same
  notShutDown := fun same => nomatch same

theorem neutral_modeSet (mode : FuncMode) : Neutral (.returned (.lteLcFuncModeSet mode) 0) where
  sockets := fun _ => rfl
  modeFails := rfl
  socketFails := rfl
  readsNoError := rfl
  sameIteration := fun same => nomatch same
  notShutDown := fun same => nomatch same

namespace Neutral

variable (neutral : Neutral entry)

include neutral

theorem openSockets_eq : openSockets (history ++ [entry]) = openSockets history := by
  rw [openSockets_concat, neutral.sockets]

theorem inIteration_iff (happensNot : happens entry = false) :
    InIteration happens (history ++ [entry]) <-> InIteration happens history :=
  inIteration_concat_iff happensNot neutral.sameIteration

theorem modeFails_iff :
    InIteration Entry.modeFails (history ++ [entry]) <-> InIteration Entry.modeFails history :=
  neutral.inIteration_iff neutral.modeFails

theorem socketFails_iff :
    InIteration Entry.socketFails (history ++ [entry]) <->
      InIteration Entry.socketFails history :=
  neutral.inIteration_iff neutral.socketFails

theorem endsWithoutSocket_iff :
    EndsWithoutSocket (history ++ [entry]) <-> EndsWithoutSocket history := by
  unfold EndsWithoutSocket
  rw [neutral.modeFails_iff, neutral.socketFails_iff,
    neutral.inIteration_iff neutral.readsNoError]

theorem notShutDown_iff :
    .called .nrfModemLibShutdown ∈ history ++ [entry] <->
      .called .nrfModemLibShutdown ∈ history := by
  rw [List.mem_append, List.mem_singleton]
  simp [neutral.notShutDown.symm]

end Neutral

end Histories

/-! ## What `main` has established -/

/-- From `leaving` on, `main` is past the loop and has made these calls. -/
inductive Phase
  /-- No fix has been taken yet. -/
  | starting
  /-- No socket is open. -/
  | idle
  /-- No socket is open, and nothing has failed in this iteration. -/
  | quiet
  /-- A socket is open, and nothing has failed in this iteration. -/
  | connected (sock : Int)
  /-- `socket` has failed in this iteration. -/
  | refused
  /-- The iteration ends without a socket. -/
  | failed
  | leaving (made : List Call)

def Phase.Holds (phase : Phase) (tracker : Tracker) : Prop :=
  match phase with
  | .starting => openSockets tracker.history = [] ∧
      .called .nrfModemLibShutdown ∉ tracker.history ∧ .took .gnssFixSem ∉ tracker.history
  | .idle => openSockets tracker.history = [] ∧ .called .nrfModemLibShutdown ∉ tracker.history
  | .quiet => openSockets tracker.history = [] ∧
      .called .nrfModemLibShutdown ∉ tracker.history ∧
      ¬ InIteration Entry.modeFails tracker.history ∧
      ¬ InIteration Entry.socketFails tracker.history ∧
      ¬ InIteration Entry.readsNoError tracker.history
  | .connected sock => openSockets tracker.history = [sock] ∧ tracker.sock = sock ∧
      .called .nrfModemLibShutdown ∉ tracker.history ∧
      ¬ InIteration Entry.modeFails tracker.history ∧
      ¬ InIteration Entry.socketFails tracker.history
  | .refused => openSockets tracker.history = [] ∧
      .called .nrfModemLibShutdown ∉ tracker.history ∧
      ¬ InIteration Entry.modeFails tracker.history ∧
      InIteration Entry.socketFails tracker.history ∧
      ¬ InIteration Entry.readsNoError tracker.history
  | .failed => openSockets tracker.history = [] ∧
      .called .nrfModemLibShutdown ∉ tracker.history ∧ EndsWithoutSocket tracker.history
  | .leaving made => (openSockets tracker.history).length ≤ 1 ∧
      (openSockets tracker.history = [] <-> EndsWithoutSocket tracker.history) ∧
      forall function, function ∈ made -> .called function ∈ tracker.history

section Steps

variable {tracker : Tracker} {entry : Entry} {phase : Phase}

theorem Phase.Holds.record (holds : phase.Holds tracker) (neutral : Neutral entry) :
    phase.Holds (tracker.record entry) := by
  cases phase with
  | starting =>
      unfold Phase.Holds Tracker.record at *
      rw [neutral.openSockets_eq, neutral.notShutDown_iff, List.mem_append, List.mem_singleton]
      simp [holds, neutral.sameIteration.symm]
  | idle =>
      unfold Phase.Holds Tracker.record at *
      rw [neutral.openSockets_eq, neutral.notShutDown_iff]
      exact holds
  | quiet =>
      unfold Phase.Holds Tracker.record at *
      rw [neutral.openSockets_eq, neutral.notShutDown_iff, neutral.modeFails_iff,
        neutral.socketFails_iff, neutral.inIteration_iff neutral.readsNoError]
      exact holds
  | connected sock =>
      unfold Phase.Holds Tracker.record at *
      rw [neutral.openSockets_eq, neutral.notShutDown_iff, neutral.modeFails_iff,
        neutral.socketFails_iff]
      exact holds
  | refused =>
      unfold Phase.Holds Tracker.record at *
      rw [neutral.openSockets_eq, neutral.notShutDown_iff, neutral.modeFails_iff,
        neutral.socketFails_iff, neutral.inIteration_iff neutral.readsNoError]
      exact holds
  | failed =>
      unfold Phase.Holds Tracker.record at *
      rw [neutral.openSockets_eq, neutral.notShutDown_iff, neutral.endsWithoutSocket_iff]
      exact holds
  | leaving made =>
      unfold Phase.Holds Tracker.record at *
      rw [neutral.openSockets_eq, neutral.endsWithoutSocket_iff]
      exact ⟨holds.1, holds.2.1, fun function member =>
        List.mem_append_left _ (holds.2.2 function member)⟩

theorem sock_handleEvent (event : Event) (tracker : Tracker) :
    (handleEvent event tracker).sock = tracker.sock := by
  cases event with
  | lte evt =>
      unfold handleEvent lteHandler
      cases evt with
      | nwRegStatus status =>
          dsimp only
          split <;> rfl
      | _ => rfl
  | gnss evt retval =>
      unfold handleEvent gnssEventHandler
      cases evt with
      | sleepAfterFix =>
          dsimp only
          split <;> rfl
      | _ => rfl

/-- Nothing is left behind exactly if the last iteration ends without a socket. -/
def Settled (tracker : Tracker) : Prop :=
  CleanedUp tracker.history <-> EndsWithoutSocket tracker.history

/-- A phase depends on the history and on `sock` alone. -/
theorem Phase.Holds.congr {later : Tracker} (holds : phase.Holds tracker)
    (history : later.history = tracker.history) (sock : later.sock = tracker.sock) :
    phase.Holds later := by
  unfold Phase.Holds at *
  rw [history, sock]
  exact holds

theorem Phase.Holds.handleEvent (holds : phase.Holds tracker) (event : Event) :
    phase.Holds ((handleEvent event tracker).record (.event event)) :=
  (holds.congr (history_handleEvent event tracker) (sock_handleEvent event tracker)).record
    (neutral_event event)

/-- No phase has more than one open socket. -/
theorem Phase.Holds.atMostOne (holds : phase.Holds tracker) :
    (openSockets tracker.history).length ≤ 1 := by
  cases phase with
  | leaving made => exact holds.1
  | connected sock =>
      rw [holds.1]
      exact Nat.le_refl 1
  | starting | idle | quiet | refused | failed =>
      rw [holds.1]
      exact Nat.zero_le 1

/-- The fix that begins an iteration. -/
theorem Phase.Holds.took (holds : Phase.idle.Holds tracker) :
    Phase.quiet.Holds (tracker.record (.took .gnssFixSem)) := by
  have begins : forall happens : Entry -> Bool, happens (.took .gnssFixSem) = false ->
      ¬ InIteration happens (tracker.history ++ [.took .gnssFixSem]) := by
    intro happens happensNot happened
    rcases inIteration_concat.mp happened with here | ⟨_, other⟩
    · rw [happensNot] at here
      cases here
    · exact other rfl
  unfold Phase.Holds Tracker.record at *
  refine ⟨?_, ?_, begins _ rfl, begins _ rfl, begins _ rfl⟩
  · rw [openSockets_concat, holds.1]
    rfl
  · simpa using holds.2

theorem Phase.Holds.idle (holds : Phase.quiet.Holds tracker) : Phase.idle.Holds tracker :=
  ⟨holds.1, holds.2.1⟩

/-- What `lte_lc_func_mode_set` returns. -/
theorem Phase.Holds.modeFailed (holds : Phase.idle.Holds tracker) (mode : FuncMode) {err : Int}
    (fails : err ≠ 0) :
    Phase.failed.Holds (tracker.record (.returned (.lteLcFuncModeSet mode) err)) := by
  unfold Phase.Holds Tracker.record at *
  refine ⟨?_, ?_, .inl (inIteration_concat.mpr (.inl ?_))⟩
  · rw [openSockets_concat, holds.1]
    rfl
  · simpa using holds.2
  · exact decide_eq_true fails

/-- An entry that does not happen to be one of these. -/
theorem not_inIteration_concat {happens : Entry -> Bool} {history : List Entry}
    (before : ¬ InIteration happens history) (happensNot : happens entry = false) :
    ¬ InIteration happens (history ++ [entry]) := by
  intro happened
  rcases inIteration_concat.mp happened with here | ⟨earlier, _⟩
  · rw [happensNot] at here
    cases here
  · exact before earlier

/-- `socket` returns no socket. -/
theorem Phase.Holds.refuse (holds : Phase.quiet.Holds tracker) {sock : Int} (fails : sock < 0) :
    Phase.refused.Holds { tracker.record (.returned .socket sock) with sock := sock } := by
  unfold Phase.Holds Tracker.record at *
  rcases holds with ⟨closed, notShutDown, mode, _, errno⟩
  refine ⟨?_, by simpa using notShutDown, not_inIteration_concat mode rfl,
    inIteration_concat.mpr (.inl (decide_eq_true fails)), not_inIteration_concat errno rfl⟩
  rw [openSockets_concat, closed]
  exact if_pos fails

/-- `socket` returns a socket. -/
theorem Phase.Holds.connect (holds : Phase.quiet.Holds tracker) {sock : Int} (works : ¬ sock < 0) :
    (Phase.connected sock).Holds
      { tracker.record (.returned .socket sock) with sock := sock } := by
  unfold Phase.Holds Tracker.record at *
  rcases holds with ⟨closed, notShutDown, mode, socket, _⟩
  refine ⟨?_, rfl, by simpa using notShutDown, not_inIteration_concat mode rfl,
    not_inIteration_concat socket (decide_eq_false works)⟩
  rw [openSockets_concat, closed]
  exact if_neg works

/-- After `close` no socket is open. -/
theorem Phase.Holds.closed {sock : Int} (holds : (Phase.connected sock).Holds tracker)
    (result : Int) : Phase.idle.Holds (tracker.record (.returned (.close sock) result)) := by
  unfold Phase.Holds Tracker.record at *
  constructor
  · rw [openSockets_concat, holds.1]
    exact List.erase_cons_head sock []
  · simpa using holds.2.2.1

theorem Phase.Holds.closedNothing (holds : Phase.failed.Holds tracker) (sock result : Int) :
    Phase.idle.Holds (tracker.record (.returned (.close sock) result)) := by
  unfold Phase.Holds Tracker.record at *
  constructor
  · rw [openSockets_concat, holds.1]
    rfl
  · simpa using holds.2.1

/-- With a socket, the value of `errno` does not matter. -/
theorem Phase.Holds.readErrno {sock : Int} (holds : (Phase.connected sock).Holds tracker)
    (errno : Int) : (Phase.connected sock).Holds (tracker.record (.returned .errno errno)) := by
  unfold Phase.Holds Tracker.record at *
  rcases holds with ⟨opened, same, notShutDown, mode, socket⟩
  refine ⟨?_, same, by simpa using notShutDown, not_inIteration_concat mode rfl,
    not_inIteration_concat socket rfl⟩
  rw [openSockets_concat, opened]
  rfl

/-- Nor does it once the iteration is known to end without a socket. -/
theorem Phase.Holds.readErrnoAgain (holds : Phase.failed.Holds tracker) (errno : Int) :
    Phase.failed.Holds (tracker.record (.returned .errno errno)) := by
  have stays : forall happens, InIteration happens tracker.history ->
      InIteration happens (tracker.history ++ [.returned .errno errno]) :=
    fun happens happened => inIteration_concat.mpr (.inr ⟨happened, fun same => nomatch same⟩)
  unfold Phase.Holds Tracker.record at *
  refine ⟨?_, by simpa using holds.2.1, ?_⟩
  · rw [openSockets_concat, holds.1]
    rfl
  · rcases holds.2.2 with mode | ⟨socket, read⟩
    · exact .inl (stays _ mode)
    · exact .inr ⟨stays _ socket, stays _ read⟩

/-- After `socket` has failed, zero passes for success. -/
theorem Phase.Holds.missErrno (holds : Phase.refused.Holds tracker) :
    Phase.failed.Holds (tracker.record (.returned .errno 0)) := by
  unfold Phase.Holds Tracker.record at *
  rcases holds with ⟨closed, notShutDown, _, socket, _⟩
  refine ⟨?_, by simpa using notShutDown, .inr ⟨?_, inIteration_concat.mpr (.inl rfl)⟩⟩
  · rw [openSockets_concat, closed]
    rfl
  · exact inIteration_concat.mpr (.inr ⟨socket, fun same => nomatch same⟩)

theorem Phase.Holds.noticeErrno (holds : Phase.refused.Holds tracker) {errno : Int}
    (nonzero : errno ≠ 0) : Phase.refused.Holds (tracker.record (.returned .errno errno)) := by
  unfold Phase.Holds Tracker.record at *
  rcases holds with ⟨closed, notShutDown, mode, socket, read⟩
  refine ⟨?_, by simpa using notShutDown, not_inIteration_concat mode rfl,
    inIteration_concat.mpr (.inr ⟨socket, fun same => nomatch same⟩),
    not_inIteration_concat read (decide_eq_false nonzero)⟩
  rw [openSockets_concat, closed]
  rfl

/-- What `main` has to do when it leaves the loop by `break`. -/
theorem Phase.Holds.leave {phase : Phase} (holds : phase.Holds tracker)
    (ends : phase = .failed ∨ exists sock, phase = .connected sock) :
    (Phase.leaving []).Holds tracker := by
  have noneMade : forall function, function ∈ ([] : List Call) ->
      .called function ∈ tracker.history := fun function member => nomatch member
  rcases ends with rfl | ⟨sock, rfl⟩
  · exact ⟨holds.atMostOne, iff_of_true holds.1 holds.2.2, noneMade⟩
  · refine ⟨holds.atMostOne, iff_of_false ?_ ?_, noneMade⟩
    · rw [holds.1]
      exact List.cons_ne_nil sock []
    · rintro (mode | ⟨socket, _⟩)
      · exact holds.2.2.2.1 mode
      · exact holds.2.2.2.2 socket

/-- The calls after the loop. -/
theorem Phase.Holds.make {made : List Call} (holds : (Phase.leaving made).Holds tracker)
    (function : Call) :
    (Phase.leaving (function :: made)).Holds (tracker.record (.called function)) := by
  unfold Phase.Holds Tracker.record at *
  rw [openSockets_concat, endsWithoutSocket_called]
  refine ⟨holds.1, holds.2.1, ?_⟩
  intro other member
  rcases List.mem_cons.mp member with rfl | before
  · exact List.mem_append_right _ (List.mem_singleton.mpr rfl)
  · exact List.mem_append_left _ (holds.2.2 other before)

/-- After both calls nothing is left behind, unless a socket is. -/
theorem Phase.Holds.made
    (holds : (Phase.leaving [.nrfModemLibShutdown, .lteLcPowerOff]).Holds tracker) :
    Settled tracker := by
  unfold Settled
  rw [← holds.2.1]
  constructor
  · exact fun clean => clean.1
  · exact fun closed => ⟨closed, holds.2.2 _ (by decide), holds.2.2 _ (by decide)⟩

/-- Where `main` leaves the loop by `return`, the modem has not been shut down,
and the iteration does not end without a socket. -/
theorem Phase.Holds.abandon {phase : Phase} (holds : phase.Holds tracker)
    (ends : phase = .quiet ∨ phase = .refused ∨ exists sock, phase = .connected sock) :
    Settled tracker := by
  rcases ends with rfl | rfl | ⟨sock, rfl⟩
  · rcases holds with ⟨_, notShutDown, mode, socket, _⟩
    exact iff_of_false (fun clean => notShutDown clean.2.2)
      fun ends => ends.elim mode fun both => socket both.1
  · rcases holds with ⟨_, notShutDown, mode, _, read⟩
    exact iff_of_false (fun clean => notShutDown clean.2.2)
      fun ends => ends.elim mode fun both => read both.2
  · rcases holds with ⟨_, _, notShutDown, mode, socket⟩
    exact iff_of_false (fun clean => notShutDown clean.2.2)
      fun ends => ends.elim mode fun both => socket both.1

end Steps

/-! ## What the procedures need and promise -/

/-- What `server_connect` leaves behind. -/
def Connects (err : Int) (tracker : Tracker) : Prop :=
  (exists sock, (Phase.connected sock).Holds tracker) ∨
    if err = 0 then Phase.failed.Holds tracker else Phase.refused.Holds tracker

def terms : Thread.Terms mainThread where
  Phase := Phase
  holds := fun phase _ => phase.Holds
  always := fun tracker => (openSockets tracker.history).length ≤ 1
  called := fun _ _ => True
  Ghost := fun _ => Unit
  pre := fun proc _ =>
    match proc with
    | .kSemTake .gnssFixSem | .trackingLoop => Phase.idle.Holds
    | .kSemTake .lteConnected | .serverResolve | .serverConnect => Phase.quiet.Holds
  post := fun proc _ result tracker =>
    match proc, result with
    | .kSemTake _, _ | .serverResolve, _ => Phase.quiet.Holds tracker
    | .serverConnect, err => Connects err tracker
    | .trackingLoop, _ => Settled tracker

abbrev TrackerSafe {A : Type} (program : TrackerProg A) (goal : A -> Tracker -> Prop)
    (tracker : Tracker) : Prop :=
  program.Safe (setup false).system (terms.contract (setup false)) goal tracker

theorem handlers_keep : terms.HandlersKeep (setup false) := by
  intro _ phase tracker event _ holds _
  have kept := holds.handleEvent event
  exact ⟨kept.atMostOne, kept⟩

section Procedures

variable {tracker : Tracker} {phase : Phase} {A : Type} {goal : A -> Tracker -> Prop}

/-- A call in a phase, up to its result. -/
theorem call_then {function : Call} {rest : Int -> TrackerProg A} (holds : phase.Holds tracker)
    (notShutDown : function ≠ .nrfModemLibShutdown)
    (returns : forall result later, phase.Holds later ->
      (openSockets (later.record (.returned function result)).history).length ≤ 1 ∧
        TrackerSafe (rest result) goal (later.record (.returned function result))) :
    TrackerSafe (call function >>= rest) goal tracker := by
  apply Thread.Terms.interrupts_then phase holds
  intro first _ kept _
  have called := Phase.Holds.record kept (neutral_called notShutDown)
  apply Prog.modify_then called.atMostOne
  apply Thread.Terms.interrupts_then phase called
  intro second _ kept _
  apply Thread.Terms.reply_then trivial
  intro result _
  have after := returns result second kept
  exact Prog.modify_then after.1 after.2

/-- A call that keeps the phase, whatever it returns. -/
theorem keepingCall_then {function : Call} {rest : Int -> TrackerProg A}
    (holds : phase.Holds tracker) (unused : indifferent function = true)
    (returns : forall result later, phase.Holds later -> TrackerSafe (rest result) goal later) :
    TrackerSafe (call function >>= rest) goal tracker := by
  have notShutDown : function ≠ .nrfModemLibShutdown := by
    intro same
    rw [same] at unused
    cases unused
  apply call_then holds notShutDown
  intro result later kept
  have after := kept.record (neutral_returned unused result)
  exact ⟨after.atMostOne, returns result _ after⟩

theorem safe_callAll (functions : List Call) (holds : phase.Holds tracker)
    (kept : forall function, function ∈ functions -> forall result later, phase.Holds later ->
      phase.Holds (later.record (.returned function result)))
    (notShutDown : .nrfModemLibShutdown ∉ functions) :
    TrackerSafe (callAll functions) (fun _ => phase.Holds) tracker := by
  induction functions generalizing tracker with
  | nil => exact holds
  | cons function later inductionHypothesis =>
      rw [List.mem_cons, not_or] at notShutDown
      apply call_then holds (fun same => notShutDown.1 same.symm)
      intro err second before
      have after := kept function (List.mem_cons_self ..) err second before
      apply And.intro after.atMostOne
      split
      · exact after
      · exact inductionHypothesis after
          (fun other member => kept other (List.mem_cons_of_mem function member)) notShutDown.2

/-- `return -errno` in a phase that no value of `errno` changes. -/
theorem safe_failErrno (holds : phase.Holds tracker)
    (kept : forall errno later, phase.Holds later ->
      phase.Holds (later.record (.returned .errno errno))) :
    TrackerSafe failErrno (fun _ => phase.Holds) tracker := by
  apply call_then holds (by decide)
  intro errno later before
  have after := kept errno later before
  exact ⟨after.atMostOne, after⟩

theorem safe_failErrno_refused (holds : Phase.refused.Holds tracker) :
    TrackerSafe failErrno Connects tracker := by
  apply call_then holds (by decide)
  intro errno later before
  by_cases zero : errno = 0
  · subst zero
    have after := before.missErrno
    exact ⟨after.atMostOne, .inr after⟩
  · have after := before.noticeErrno zero
    refine ⟨after.atMostOne, .inr ?_⟩
    rw [if_neg (fun same => zero (Int.neg_eq_zero.mp same))]
    exact after

theorem safe_serverResolve (holds : Phase.quiet.Holds tracker) :
    TrackerSafe serverResolve (fun _ => Phase.quiet.Holds) tracker := by
  apply keepingCall_then holds rfl
  intro err first kept
  split
  · exact kept
  · apply keepingCall_then kept rfl
    intro result second kept
    split
    · exact kept
    · apply keepingCall_then kept rfl
      exact fun _ _ kept => kept

theorem safe_setsockopts {sock : Int} {rest : TrackerProg Int} (options : List SockOpt)
    (holds : (Phase.connected sock).Holds tracker)
    (safe : forall later, (Phase.connected sock).Holds later ->
      TrackerSafe rest (fun _ => (Phase.connected sock).Holds) later) :
    TrackerSafe (setsockopts sock rest options) (fun _ => (Phase.connected sock).Holds)
      tracker := by
  induction options generalizing tracker with
  | nil => exact safe tracker holds
  | cons option others inductionHypothesis =>
      apply keepingCall_then holds rfl
      intro err second kept
      split
      · exact safe_failErrno kept fun errno _ before => before.readErrno errno
      · exact inductionHypothesis kept

theorem safe_serverConnect (holds : Phase.quiet.Holds tracker) :
    TrackerSafe serverConnect Connects tracker := by
  apply call_then holds (by decide)
  intro sock first before
  by_cases fails : sock < 0
  · have after := before.refuse fails
    apply And.intro after.atMostOne
    apply Prog.modify_then after.atMostOne
    rw [if_pos fails]
    exact safe_failErrno_refused after
  · have after := before.connect fails
    apply And.intro after.atMostOne
    apply Prog.modify_then after.atMostOne
    rw [if_neg fails]
    refine Prog.Safe.mono (safe_setsockopts _ after ?_) fun _ _ kept => .inl ⟨sock, kept⟩
    intro later opened
    apply keepingCall_then opened rfl
    intro err last kept
    split
    · exact safe_failErrno kept fun errno _ before => before.readErrno errno
    · exact kept

theorem safe_encodeAll {rest : TrackerProg Int} (encodings : List Encoding)
    (holds : phase.Holds tracker)
    (safe : forall later, phase.Holds later -> TrackerSafe rest (fun _ => phase.Holds) later) :
    TrackerSafe (encodeAll rest encodings) (fun _ => phase.Holds) tracker := by
  induction encodings generalizing tracker with
  | nil => exact safe tracker holds
  | cons encoding others inductionHypothesis =>
      apply keepingCall_then holds rfl
      intro err second kept
      split
      · exact kept
      · exact inductionHypothesis kept

theorem safe_clientPostSend (holds : phase.Holds tracker)
    (readErrno : forall errno later, phase.Holds later ->
      phase.Holds (later.record (.returned .errno errno))) :
    TrackerSafe clientPostSend (fun _ => phase.Holds) tracker := by
  apply safe_encodeAll _ holds
  intro later kept
  apply Prog.get_then kept.atMostOne
  apply keepingCall_then kept rfl
  intro err last kept
  split
  · exact safe_failErrno kept readErrno
  · exact kept

theorem safe_clientHandleGetResponse (holds : phase.Holds tracker) :
    TrackerSafe clientHandleGetResponse (fun _ => phase.Holds) tracker := by
  apply keepingCall_then holds rfl
  intro err later kept
  split <;> exact kept

/-- The calls after the loop. -/
theorem leavingCall_then {function : Call} {made : List Call} {rest : Int -> TrackerProg A}
    (holds : (Phase.leaving made).Holds tracker)
    (returned : forall result, Neutral (.returned function result))
    (returns : forall result later, (Phase.leaving (function :: made)).Holds later ->
      TrackerSafe (rest result) goal later) :
    TrackerSafe (call function >>= rest) goal tracker := by
  apply Thread.Terms.interrupts_then (Phase.leaving made) holds
  intro first _ kept _
  have called := Phase.Holds.make kept function
  apply Prog.modify_then called.atMostOne
  apply Thread.Terms.interrupts_then (Phase.leaving (function :: made)) called
  intro second _ kept _
  apply Thread.Terms.reply_then trivial
  intro result _
  have before : (Phase.leaving (function :: made)).Holds second := kept
  have after := before.record (returned result)
  exact Prog.modify_then after.atMostOne (returns result _ after)

/-- `main` leaves the loop by `break`. -/
theorem safe_shutDown (holds : phase.Holds tracker)
    (ends : phase = .failed ∨ exists sock, phase = .connected sock) :
    TrackerSafe shutDown (fun _ => Settled) tracker := by
  apply leavingCall_then (holds.leave ends) (neutral_returned rfl)
  intro _ first poweredOff
  apply leavingCall_then poweredOff neutral_returned_nrfModemLibShutdown
  exact fun _ _ made => made.made

/-- The end of an iteration whose socket is closed. -/
theorem safe_deactivate (holds : Phase.idle.Holds tracker) :
    TrackerSafe (do
      let err <- call (.lteLcFuncModeSet .deactivateLte)
      if err ≠ 0 then shutDown else invoke .trackingLoop)
      (fun _ => Settled) tracker := by
  apply call_then holds (by decide)
  intro err later before
  by_cases fails : err ≠ 0
  · have after := before.modeFailed .deactivateLte fails
    apply And.intro after.atMostOne
    rw [if_pos fails]
    exact safe_shutDown after (.inl rfl)
  · rw [not_not] at fails
    subst fails
    have after := before.record (neutral_modeSet .deactivateLte)
    exact ⟨after.atMostOne, Thread.Terms.safe_invoke () after fun _ _ _ promised => promised⟩

/-- The loop from `recv` on, with a socket or without one. -/
theorem safe_receiveResponse (holds : phase.Holds tracker)
    (ends : phase = .failed ∨ exists sock, phase = .connected sock) :
    TrackerSafe receiveResponse
      (fun _ => Settled) tracker := by
  apply Prog.get_then holds.atMostOne
  have closes : forall result later, phase.Holds later ->
      Phase.idle.Holds (later.record (.returned (.close tracker.sock) result)) := by
    intro result later before
    rcases ends with rfl | ⟨sock, rfl⟩
    · exact before.closedNothing tracker.sock result
    · rw [holds.2.1]
      exact before.closed result
  apply keepingCall_then holds rfl
  intro received first kept
  split
  · exact safe_shutDown kept ends
  · split
    · exact safe_shutDown kept ends
    · apply Prog.Safe.andThen (safe_clientHandleGetResponse kept)
      intro err second kept
      split
      · exact safe_shutDown kept ends
      · have notShutDown : Call.close tracker.sock ≠ .nrfModemLibShutdown :=
          fun same => nomatch same
        apply call_then kept notShutDown
        intro result third before
        have after := closes result third before
        exact ⟨after.atMostOne, safe_deactivate after⟩

/-- Every value of `errno` keeps a phase that can come to `client_post_send`. -/
theorem readErrno_keeps (ends : phase = .failed ∨ exists sock, phase = .connected sock)
    (errno : Int) (holds : phase.Holds tracker) :
    phase.Holds (tracker.record (.returned .errno errno)) := by
  rcases ends with rfl | ⟨sock, rfl⟩
  · exact holds.readErrnoAgain errno
  · exact holds.readErrno errno

/-- The loop from `client_post_send` on. -/
theorem safe_postSend (holds : phase.Holds tracker)
    (ends : phase = .failed ∨ exists sock, phase = .connected sock) :
    TrackerSafe (do
      let err <- clientPostSend
      if err ≠ 0 then shutDown else receiveResponse)
      (fun _ => Settled) tracker := by
  apply Prog.Safe.andThen (safe_clientPostSend holds fun errno _ => readErrno_keeps ends errno)
  intro err later kept
  split
  · exact safe_shutDown kept ends
  · exact safe_receiveResponse kept ends

theorem safe_deliver (holds : Phase.quiet.Holds tracker) :
    TrackerSafe deliver
      (fun _ => Settled) tracker := by
  apply Thread.Terms.invoke_then () holds
  intro err first _ connects
  by_cases fails : err ≠ 0
  · rw [if_pos fails]
    rcases connects with ⟨sock, opened⟩ | without
    · exact opened.abandon (.inr (.inr ⟨sock, rfl⟩))
    · rw [if_neg fails] at without
      exact without.abandon (.inr (.inl rfl))
  · rw [if_neg fails]
    rcases connects with ⟨sock, opened⟩ | without
    · exact safe_postSend opened (.inr ⟨sock, rfl⟩)
    · rw [if_pos (not_not.mp fails)] at without
      exact safe_postSend without (.inl rfl)

theorem safe_kSemTake_lteConnected (holds : Phase.quiet.Holds tracker) :
    TrackerSafe (kSemTake .lteConnected) (fun _ => Phase.quiet.Holds) tracker := by
  apply Thread.Terms.interrupts_then Phase.quiet holds
  intro first known kept _
  apply Prog.get_then known
  split
  · exact Thread.Terms.safe_invoke () kept fun _ _ _ promised => promised
  · have taken : Phase.quiet.Holds (first.setCount .lteConnected (first.count .lteConnected - 1)) :=
      Phase.Holds.congr kept rfl rfl
    have after := taken.record neutral_took_lteConnected
    exact ⟨after.atMostOne, after⟩

theorem safe_kSemTake_gnssFixSem (holds : Phase.idle.Holds tracker) :
    TrackerSafe (kSemTake .gnssFixSem) (fun _ => Phase.quiet.Holds) tracker := by
  apply Thread.Terms.interrupts_then Phase.idle holds
  intro first known kept _
  apply Prog.get_then known
  split
  · exact Thread.Terms.safe_invoke () kept fun _ _ _ promised => promised
  · have taken : Phase.idle.Holds (first.setCount .gnssFixSem (first.count .gnssFixSem - 1)) :=
      Phase.Holds.congr kept rfl rfl
    have after := taken.took
    exact ⟨after.atMostOne, after⟩

/-- One iteration. -/
theorem safe_trackingLoop (holds : Phase.idle.Holds tracker) :
    TrackerSafe trackingLoop
      (fun _ => Settled) tracker := by
  apply Thread.Terms.invoke_then () holds
  intro _ first _ begun
  have begun : Phase.quiet.Holds first := begun
  apply call_then begun (by decide)
  intro err second before
  by_cases fails : err ≠ 0
  · have after := before.idle.modeFailed .normal fails
    apply And.intro after.atMostOne
    rw [if_pos fails]
    exact safe_shutDown after (.inl rfl)
  · rw [not_not] at fails
    subst fails
    have after := before.record (neutral_modeSet .normal)
    apply And.intro after.atMostOne
    apply Thread.Terms.invoke_then () after
    intro _ third known registered
    apply Prog.get_then known
    split
    · apply Thread.Terms.invoke_then () registered
      intro err fourth known resolved
      have resolved : Phase.quiet.Holds fourth := resolved
      split
      · exact resolved.abandon (.inl rfl)
      · apply Prog.modify_then known
        exact safe_deliver (resolved.congr rfl rfl)
    · exact safe_deliver registered

/-- A result before the loop. -/
theorem Phase.Holds.start {function : Call} (holds : Phase.starting.Holds tracker)
    (notSocket : function ≠ .socket) (notClose : forall sock, function ≠ .close sock)
    (result : Int) : Phase.starting.Holds (tracker.record (.returned function result)) := by
  unfold Phase.Holds Tracker.record at *
  rcases holds with ⟨closed, notShutDown, notBegun⟩
  refine ⟨?_, by simpa using notShutDown, by simpa using notBegun⟩
  rw [openSockets_concat, closed]
  cases function with
  | socket => exact absurd rfl notSocket
  | close sock => exact absurd rfl (notClose sock)
  | _ => rfl

/-- The calls that configure the modem and GNSS. -/
def configures : Call -> Bool
  | .nrfModemLibInit | .modemKeyMgmtWriteIdentity | .modemKeyMgmtWritePsk | .lteLcInit
  | .lteLcConnectAsync | .lteLcFuncModeSet _ | .gnssTimingSourceSet | .gnssUseCaseSet
  | .gnssEventHandlerSet | .gnssFixIntervalSet | .gnssFixRetrySet | .gnssStart
  | .gnssPrioModeEnable => true
  | _ => false

theorem safe_configure (functions : List Call) (holds : Phase.starting.Holds tracker)
    (configure : forall function, function ∈ functions -> configures function = true) :
    TrackerSafe (callAll functions) (fun _ => Phase.starting.Holds) tracker := by
  apply safe_callAll functions holds
  · intro function member result later before
    have here := configure function member
    apply before.start
    · rintro rfl
      cases here
    · rintro sock rfl
      cases here
  · intro member
    cases configure _ member

theorem safe_modemConfigure (build : Build) (holds : Phase.starting.Holds tracker) :
    TrackerSafe (modemConfigure build) (fun _ => Phase.starting.Holds) tracker := by
  apply safe_configure _ holds
  cases build.ncsBefore26 <;> decide

theorem safe_gnssInitAndStart (build : Build) (holds : Phase.starting.Holds tracker) :
    TrackerSafe (gnssInitAndStart build) (fun _ => Phase.starting.Holds) tracker := by
  apply Prog.Safe.andThen (safe_configure _ holds ?_)
  · intro err later kept
    split <;> exact kept
  · cases build.highAccuracyTiming <;> cases build.lowAccuracy <;> decide

theorem safe_main (build : Build) :
    TrackerSafe (main build) (fun _ later => .took .gnssFixSem ∈ later.history -> Settled later)
      Tracker.initial := by
  have notBegun : forall {later : Tracker}, Phase.starting.Holds later ->
      .took .gnssFixSem ∈ later.history -> Settled later :=
    fun holds begun => absurd begun holds.2.2
  have initially : Phase.starting.Holds Tracker.initial := by
    refine ⟨rfl, ?_, ?_⟩
    · exact fun member => nomatch member
    · exact fun member => nomatch member
  apply keepingCall_then initially rfl
  intro _ first kept
  apply Prog.Safe.andThen (safe_modemConfigure build kept)
  intro err second kept
  split
  · exact notBegun kept
  · apply keepingCall_then kept rfl
    intro err third kept
    split
    · exact notBegun kept
    · apply Prog.Safe.andThen (safe_gnssInitAndStart build kept)
      intro _ fourth kept
      have idle : Phase.idle.Holds fourth := ⟨kept.1, kept.2.1⟩
      exact Thread.Terms.safe_invoke () idle fun _ _ _ settled _ => settled

end Procedures

theorem bodies_meet : terms.BodiesMeet (setup false) := by
  intro proc _ tracker _ assumed
  cases proc with
  | kSemTake sem =>
      cases sem with
      | gnssFixSem => exact safe_kSemTake_gnssFixSem assumed
      | lteConnected => exact safe_kSemTake_lteConnected assumed
  | serverResolve => exact safe_serverResolve assumed
  | serverConnect => exact safe_serverConnect assumed
  | trackingLoop => exact safe_trackingLoop assumed

theorem honours : (setup false).system.Honours (terms.contract (setup false)) :=
  Thread.Terms.honours handlers_keep bodies_meet

/-! ## Every run -/

section Runs

variable {build : Build} {current : TrackerConfig} (reached : TrackerReached false build current)

include reached

theorem openSockets_atMostOne : (openSockets current.state.history).length ≤ 1 :=
  System.always_of_reachable reached honours (Nat.zero_le 1) (safe_main build)

/-- No socket is open where an iteration starts. -/
theorem openSockets_of_trackingLoop
    (starts : pendingCall current = some (.proc .trackingLoop)) :
    openSockets current.state.history = [] := by
  rcases exists_of_pendingCall starts with ⟨next, here⟩
  rcases System.pre_of_reachable reached honours (Nat.zero_le 1) (safe_main build) here
    with ⟨_, idle⟩
  exact idle.1

theorem cleanedUp_iff_of_leftLoop (left : LeftLoop current) :
    CleanedUp current.state.history <-> EndsWithoutSocket current.state.history := by
  rcases exists_of_hasReturned left.1 with ⟨_, here⟩
  have ended := (System.Reachable.safe reached honours (Nat.zero_le 1) (safe_main build)).2
  rw [here] at ended
  exact ended left.2

/-- `main` leaves nothing behind exactly if the iteration that it leaves has no
socket: LTE was not activated or not deactivated, or `socket` failed and
`errno` was zero. -/
theorem tidy_iff_endsWithoutSocket :
    Tidy current <-> (LeftLoop current -> EndsWithoutSocket current.state.history) := by
  constructor
  · intro tidy left
    exact (cleanedUp_iff_of_leftLoop reached left).mp (tidy.2.2 left)
  · intro ends
    refine ⟨openSockets_of_trackingLoop reached, openSockets_atMostOne reached, ?_⟩
    exact fun left => (cleanedUp_iff_of_leftLoop reached left).mpr (ends left)

end Runs

/-! ## Two runs -/

instance (happens : Entry -> Bool) (history : List Entry) :
    Decidable (InIteration happens history) :=
  inferInstanceAs (Decidable (Since _ _ history))

instance (history : List Entry) : Decidable (EndsWithoutSocket history) :=
  inferInstanceAs (Decidable (_ ∨ _))

instance (history : List Entry) : Decidable (CleanedUp history) :=
  inferInstanceAs (Decidable (_ ∧ _))

instance (current : TrackerConfig) : Decidable (LeftLoop current) :=
  inferInstanceAs (Decidable (_ ∧ _))

/-- A call that nothing interrupts and that returns this. -/
def returns (function : Call) (result : Int) : Script :=
  [⟨.next (.before function), none⟩, ⟨.next (.during function), none⟩, ⟨.reply function, result⟩]

/-- A fix is found, and LTE cannot be activated. -/
def inactiveRun : TrackerConfig :=
  scripted false 150 (starting [] ++
    [⟨.next (.waiting .gnssFixSem), some (.gnss .sleepAfterFix 0)⟩,
      ⟨.next (.waiting .gnssFixSem), none⟩] ++
    returns .activate (-1) ++ returns .lteLcPowerOff 0 ++ returns .nrfModemLibShutdown 0)

theorem inactiveRun_tidy : LeftLoop inactiveRun ∧ Tidy inactiveRun := by
  have ends : EndsWithoutSocket inactiveRun.state.history := by decide +kernel
  exact ⟨by decide +kernel,
    (tidy_iff_endsWithoutSocket (scripted_reached false 150 _)).mpr fun _ => ends⟩

/-- A fix is found, LTE registers, and `connect` fails on the new socket. -/
def unconnectedRun : TrackerConfig :=
  scripted false 250 (starting [] ++ fixFound ++
    [⟨.next (.waiting .lteConnected), some registeredHome⟩,
      ⟨.next (.waiting .lteConnected), none⟩] ++
    returns .getaddrinfo 0 ++ returns .addrinfo 1 ++ returns .freeaddrinfo 0 ++
    returns .socket 3 ++ returns (.setsockopt 3 .tlsPeerVerify) 0 ++
    returns (.setsockopt 3 .tlsHostname) 0 ++ returns (.setsockopt 3 .tlsSecTagList) 0 ++
    returns (.connect 3) (-1) ++ returns .errno 111)

/-- `main` returns with the socket open and the modem on. -/
theorem not_tidy : ¬ forall build current, TrackerReached false build current -> Tidy current := by
  intro claim
  have left : LeftLoop unconnectedRun := by decide +kernel
  have clean := (claim build unconnectedRun (scripted_reached false 250 _)).2.2 left
  revert clean
  decide +kernel

end CleanUp
end LteTracker
end NrfExamples
