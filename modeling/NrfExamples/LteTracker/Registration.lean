import NrfExamples.LteTracker.Main
import NrfExamples.Traces.Past

namespace NrfExamples
namespace LteTracker

open Reentrant Prog Traces

/-!
# Waiting for a registration

`lte_connected` is given by every registration and taken once in an iteration.
A registration that comes after the take, or before the first activation,
leaves the semaphore given, and the next iteration passes the wait with it.  If
the semaphore is not given whenever LTE is activated, then every pass of the
wait is due to a registration since that activation.
-/

/-- `lte_lc_func_mode_set(LTE_LC_FUNC_MODE_NORMAL)` -/
abbrev Call.activate : Call :=
  .lteLcFuncModeSet .normal

def Entry.registers : Entry -> Bool
  | .event (.lte evt) => evt.registers
  | _ => false

/-- The entry neither activates LTE nor begins another iteration. -/
def SameIteration (entry : Entry) : Prop :=
  entry ≠ .called .activate ∧ entry ≠ .took .gnssFixSem

/-- The iteration has called the activation. -/
def Activated (history : List Entry) : Prop :=
  Since SameIteration (fun _ entry => entry = .called .activate) history

/-- A registration has been delivered after the activation of this iteration was
called. -/
def FreshlyRegistered (history : List Entry) : Prop :=
  Since SameIteration (fun before entry => entry.registers = true ∧ Activated before) history

/-- The `lte_connected` semaphore is not given when LTE is activated. -/
def NotGiven (tracker : Tracker) : Point -> Prop
  | .before call => call = .activate -> tracker.lteConnected = 0
  | .during _ | .waiting _ => True

/-- `main` and its handlers; a careful environment does not let the activation
begin with the semaphore given. -/
def setup (careful : Bool) : mainThread.Setup where
  handle := fun event => .modify fun tracker => (handleEvent event tracker).record (.event event)
  body := trackerBody
  mayHappen := fun _ tracker event => mayHappen tracker event
  mayGoOn := fun point tracker => careful = true -> NotGiven tracker point
  mayReply := fun _ _ _ => True

abbrev TrackerConfig := Config mainThread.interface Unit

/-- The configurations of all runs of `main`. -/
def TrackerReached (careful : Bool) (build : Build) (current : TrackerConfig) : Prop :=
  (setup careful).system.Reachable ⟨Tracker.initial, main build⟩ current

/-- `main` is past the wait: it is about to call `server_resolve` or
`server_connect`. -/
def PastWait (current : TrackerConfig) : Prop :=
  pendingCall current = some (.proc .serverResolve) ∨
    pendingCall current = some (.proc .serverConnect)

/-! ## The phases of an iteration -/

inductive Phase
  /-- Nothing is known. -/
  | outside
  /-- LTE has been activated. -/
  | activated
  /-- The wait has been passed. -/
  | registered

/-- In the second phase a given semaphore means a fresh registration. -/
def Phase.Holds (phase : Phase) (tracker : Tracker) : Prop :=
  match phase with
  | .outside => True
  | .activated => Activated tracker.history ∧
      (tracker.lteConnected ≠ 0 -> FreshlyRegistered tracker.history)
  | .registered => FreshlyRegistered tracker.history

section Histories

variable {history : List Entry} {entry : Entry}

theorem sameIteration_event (event : Event) : SameIteration (.event event) := by
  constructor
  · exact fun same => nomatch same
  · exact fun same => nomatch same

theorem sameIteration_returned (function : Call) (result : Int) :
    SameIteration (.returned function result) := by
  constructor
  · exact fun same => nomatch same
  · exact fun same => nomatch same

theorem sameIteration_called {function : Call} (different : function ≠ .activate) :
    SameIteration (.called function) := by
  constructor
  · exact fun same => different (Entry.called.inj same)
  · exact fun same => nomatch same

theorem Activated.append (activated : Activated history) (same : SameIteration entry) :
    Activated (history ++ [entry]) :=
  since_concat.mpr (.inr ⟨activated, same⟩)

theorem FreshlyRegistered.append (fresh : FreshlyRegistered history) (same : SameIteration entry) :
    FreshlyRegistered (history ++ [entry]) :=
  since_concat.mpr (.inr ⟨fresh, same⟩)

/-- An entry that leaves the semaphore as it was. -/
theorem Phase.Holds.record {phase : Phase} {tracker : Tracker} (holds : phase.Holds tracker)
    (same : SameIteration entry) : phase.Holds (tracker.record entry) := by
  cases phase with
  | outside => trivial
  | activated =>
      constructor
      · exact holds.1.append same
      · intro given
        exact (holds.2 given).append same
  | registered => exact FreshlyRegistered.append holds same

end Histories

theorem lteConnected_gnssEventHandler (evt : GnssEvt) (retval : Int) (tracker : Tracker) :
    (gnssEventHandler evt retval tracker).lteConnected = tracker.lteConnected := by
  unfold gnssEventHandler
  cases evt with
  | sleepAfterFix =>
      dsimp only
      split <;> rfl
  | _ => rfl

theorem history_handleEvent (event : Event) (tracker : Tracker) :
    (handleEvent event tracker).history = tracker.history := by
  cases event with
  | lte evt =>
      unfold handleEvent lteHandler
      cases evt with
      | nwRegStatus status =>
          dsimp only
          split <;> rfl
      | _ => rfl
  | gnss evt retval =>
      unfold handleEvent gnssEventHandler
      cases evt with
      | sleepAfterFix =>
          dsimp only
          split <;> rfl
      | _ => rfl

/-- Only a registration gives the semaphore. -/
theorem lteConnected_handleEvent (event : Event) (tracker : Tracker)
    (notRegisters : (Entry.event event).registers = false) :
    (handleEvent event tracker).lteConnected = tracker.lteConnected := by
  cases event with
  | gnss evt retval => exact lteConnected_gnssEventHandler evt retval tracker
  | lte evt =>
      cases evt with
      | nwRegStatus status => cases status <;> first | rfl | cases notRegisters
      | _ => rfl

/-- Every handler keeps every phase. -/
theorem Phase.Holds.handleEvent {phase : Phase} {tracker : Tracker} (holds : phase.Holds tracker)
    (event : Event) : phase.Holds ((handleEvent event tracker).record (.event event)) := by
  have same := sameIteration_event event
  have history : ((LteTracker.handleEvent event tracker).record (.event event)).history =
      tracker.history ++ [.event event] := by
    unfold Tracker.record
    rw [history_handleEvent]
  cases phase with
  | outside => exact True.intro
  | activated =>
      unfold Phase.Holds
      rw [history]
      constructor
      · exact holds.1.append same
      · intro given
        cases registers : (Entry.event event).registers with
        | true => exact since_concat.mpr (.inl ⟨registers, holds.1⟩)
        | false =>
            have before := lteConnected_handleEvent event tracker registers
            exact (holds.2 fun none => given (before.trans none)).append same
  | registered =>
      unfold Phase.Holds
      rw [history]
      exact FreshlyRegistered.append holds same

/-! ## What the procedures need and promise -/

def terms : Thread.Terms mainThread where
  Phase := Phase
  holds := fun phase _ => phase.Holds
  always := fun _ => True
  called := fun _ _ => True
  Ghost := fun _ => Unit
  pre := fun proc _ tracker =>
    match proc with
    | .kSemTake .lteConnected => Phase.Holds .activated tracker
    | .serverResolve | .serverConnect => FreshlyRegistered tracker.history
    | .kSemTake .gnssFixSem | .trackingLoop => True
  post := fun proc _ _ tracker =>
    match proc with
    | .kSemTake .lteConnected | .serverResolve => FreshlyRegistered tracker.history
    | .kSemTake .gnssFixSem | .serverConnect | .trackingLoop => True

abbrev TrackerSafe {A : Type} (program : TrackerProg A) (goal : A -> Tracker -> Prop)
    (tracker : Tracker) : Prop :=
  program.Safe (setup true).system (terms.contract (setup true)) goal tracker

theorem handlers_keep : terms.HandlersKeep (setup true) := by
  intro _ phase tracker event _ holds _
  exact ⟨trivial, Phase.Holds.handleEvent holds event⟩

section Procedures

variable {tracker : Tracker} {A : Type} {goal : A -> Tracker -> Prop}

/-- A call keeps the phase, unless it activates LTE. -/
theorem safe_call {function : Call} (phase : Phase) (holds : phase.Holds tracker)
    (other : function ≠ .activate ∨ phase = .outside) :
    TrackerSafe (call function) (fun _ => phase.Holds) tracker := by
  have sameCalled : forall later, phase.Holds later ->
      phase.Holds (later.record (.called function)) := by
    intro later before
    rcases other with different | outside
    · exact before.record (sameIteration_called different)
    · rw [outside]
      trivial
  apply Thread.Terms.interrupts_then phase holds
  intro first _ kept _
  apply Prog.modify_then trivial
  apply Thread.Terms.interrupts_then phase (sameCalled first kept)
  intro second _ kept _
  apply Thread.Terms.reply_then trivial
  intro result _
  apply Prog.modify_then trivial
  exact Phase.Holds.record kept (sameIteration_returned function result)

theorem call_then {function : Call} {rest : Int -> TrackerProg A} (phase : Phase)
    (holds : phase.Holds tracker) (other : function ≠ .activate ∨ phase = .outside)
    (returns : forall result later, phase.Holds later -> TrackerSafe (rest result) goal later) :
    TrackerSafe (call function >>= rest) goal tracker :=
  Prog.Safe.andThen (safe_call phase holds other) returns

/-- A call outside the phases that matter. -/
theorem anyCall_then {function : Call} {rest : Int -> TrackerProg A}
    (returns : forall result later, TrackerSafe (rest result) goal later) :
    TrackerSafe (call function >>= rest) goal tracker :=
  call_then .outside trivial (.inr rfl) fun result later _ => returns result later

/-- The activation begins with the semaphore not given. -/
theorem safe_activate :
    TrackerSafe (call .activate) (fun _ => Phase.Holds .activated) tracker := by
  apply Thread.Terms.interrupts_then Phase.outside trivial
  intro first _ _ notGiven
  apply Prog.modify_then trivial
  apply Thread.Terms.interrupts_then Phase.activated
  · constructor
    · exact since_concat.mpr (.inl rfl)
    · exact fun given => absurd (notGiven rfl rfl) given
  · intro second _ kept _
    have activated : Phase.Holds .activated second := kept
    apply Thread.Terms.reply_then trivial
    intro result _
    apply Prog.modify_then trivial
    exact activated.record (sameIteration_returned _ result)

theorem safe_callAll (functions : List Call) :
    TrackerSafe (callAll functions) (fun _ _ => True) tracker := by
  induction functions generalizing tracker with
  | nil => trivial
  | cons function later inductionHypothesis =>
      apply anyCall_then
      intro err second
      split
      · trivial
      · exact inductionHypothesis

theorem safe_failErrno : TrackerSafe failErrno (fun _ _ => True) tracker := by
  apply anyCall_then
  exact fun _ _ => trivial

theorem safe_serverResolve (fresh : FreshlyRegistered tracker.history) :
    TrackerSafe serverResolve (fun _ later => FreshlyRegistered later.history) tracker := by
  apply call_then .registered fresh (.inl (by decide))
  intro err first kept
  split
  · exact kept
  · apply call_then .registered kept (.inl (by decide))
    intro result second kept
    split
    · exact kept
    · apply call_then .registered kept (.inl (by decide))
      exact fun _ _ kept => kept

theorem safe_setsockopts (sock : Int) {rest : TrackerProg Int} (options : List SockOpt)
    (safe : forall later, TrackerSafe rest (fun _ _ => True) later) :
    TrackerSafe (setsockopts sock rest options) (fun _ _ => True) tracker := by
  induction options generalizing tracker with
  | nil => exact safe tracker
  | cons option others inductionHypothesis =>
      apply anyCall_then
      intro err second
      split
      · exact safe_failErrno
      · exact inductionHypothesis

theorem safe_serverConnect : TrackerSafe serverConnect (fun _ _ => True) tracker := by
  apply anyCall_then
  intro sock first
  apply Prog.modify_then trivial
  split
  · exact safe_failErrno
  · apply safe_setsockopts
    intro later
    apply anyCall_then
    intro err last
    split
    · exact safe_failErrno
    · trivial

theorem safe_encodeAll {rest : TrackerProg Int} (encodings : List Encoding)
    (safe : forall later, TrackerSafe rest (fun _ _ => True) later) :
    TrackerSafe (encodeAll rest encodings) (fun _ _ => True) tracker := by
  induction encodings generalizing tracker with
  | nil => exact safe tracker
  | cons encoding others inductionHypothesis =>
      apply anyCall_then
      intro err second
      split
      · trivial
      · exact inductionHypothesis

theorem safe_clientPostSend : TrackerSafe clientPostSend (fun _ _ => True) tracker := by
  apply safe_encodeAll
  intro later
  apply Prog.get_then trivial
  apply anyCall_then
  intro err last
  split
  · exact safe_failErrno
  · trivial

theorem safe_clientHandleGetResponse :
    TrackerSafe clientHandleGetResponse (fun _ _ => True) tracker := by
  apply anyCall_then
  intro err later
  split <;> trivial

theorem safe_shutDown : TrackerSafe shutDown (fun _ _ => True) tracker := by
  apply anyCall_then
  intro _ later
  apply anyCall_then
  exact fun _ _ => trivial

theorem safe_again : TrackerSafe (invoke .trackingLoop) (fun _ _ => True) tracker :=
  Thread.Terms.safe_invoke () trivial fun _ _ _ _ => trivial

theorem safe_receiveResponse : TrackerSafe receiveResponse (fun _ _ => True) tracker := by
  apply Prog.get_then trivial
  apply anyCall_then
  intro received first
  split
  · exact safe_shutDown
  · split
    · exact safe_shutDown
    · apply Prog.Safe.andThen safe_clientHandleGetResponse
      intro err second _
      split
      · exact safe_shutDown
      · apply anyCall_then
        intro _ third
        apply anyCall_then
        intro err fourth
        split
        · exact safe_shutDown
        · exact safe_again

theorem safe_deliver (fresh : FreshlyRegistered tracker.history) :
    TrackerSafe deliver (fun _ _ => True) tracker := by
  apply Thread.Terms.invoke_then () fresh
  intro err first _ _
  split
  · trivial
  · apply Prog.Safe.andThen safe_clientPostSend
    intro err second _
    split
    · exact safe_shutDown
    · exact safe_receiveResponse

theorem safe_kSemTake_lteConnected (activated : Phase.Holds .activated tracker) :
    TrackerSafe (kSemTake .lteConnected) (fun _ later => FreshlyRegistered later.history)
      tracker := by
  apply Thread.Terms.interrupts_then Phase.activated activated
  intro first _ kept _
  apply Prog.get_then trivial
  split
  · exact Thread.Terms.safe_invoke () kept fun _ _ _ promised => promised
  · rename_i given
    apply And.intro trivial
    apply (kept.2 given).append
    constructor
    · exact fun same => nomatch same
    · decide

theorem safe_kSemTake_gnssFixSem :
    TrackerSafe (kSemTake .gnssFixSem) (fun _ _ => True) tracker := by
  apply Thread.Terms.interrupts_then Phase.outside trivial
  intro first _ _ _
  apply Prog.get_then trivial
  split
  · exact Thread.Terms.safe_invoke () trivial fun _ _ _ _ => trivial
  · exact ⟨trivial, trivial⟩

/-- One iteration, from the wait for a fix. -/
theorem safe_trackingLoop : TrackerSafe trackingLoop (fun _ _ => True) tracker := by
  apply Thread.Terms.invoke_then () trivial
  intro _ first _ _
  apply Prog.Safe.andThen safe_activate
  intro err second activated
  split
  · exact safe_shutDown
  · apply Thread.Terms.invoke_then () activated
    intro _ third _ fresh
    apply Prog.get_then trivial
    split
    · apply Thread.Terms.invoke_then () fresh
      intro err fourth _ fresh
      split
      · trivial
      · apply Prog.modify_then trivial
        exact safe_deliver fresh
    · exact safe_deliver fresh

theorem safe_gnssInitAndStart (build : Build) :
    TrackerSafe (gnssInitAndStart build) (fun _ _ => True) tracker := by
  apply Prog.Safe.andThen (safe_callAll _)
  intro err later _
  split <;> trivial

theorem safe_main (build : Build) : TrackerSafe (main build) (fun _ _ => True) tracker := by
  apply anyCall_then
  intro _ first
  apply Prog.Safe.andThen (safe_callAll _)
  intro err second _
  split
  · trivial
  · apply anyCall_then
    intro err third
    split
    · trivial
    · apply Prog.Safe.andThen (safe_gnssInitAndStart build)
      exact fun _ _ _ => safe_again

end Procedures

theorem bodies_meet : terms.BodiesMeet (setup true) := by
  intro proc _ tracker _ assumed
  cases proc with
  | kSemTake sem =>
      cases sem with
      | gnssFixSem => exact safe_kSemTake_gnssFixSem
      | lteConnected => exact safe_kSemTake_lteConnected assumed
  | serverResolve => exact safe_serverResolve assumed
  | serverConnect => exact safe_serverConnect
  | trackingLoop => exact safe_trackingLoop

/-- If the semaphore is not given whenever LTE is activated, `main` goes past the
wait only with a registration that was delivered since the activation. -/
theorem freshlyRegistered_of_pastWait {build : Build} {current : TrackerConfig}
    (reached : TrackerReached true build current) (past : PastWait current) :
    FreshlyRegistered current.state.history := by
  have honours := Thread.Terms.honours handlers_keep bodies_meet
  rcases past with here | here
  · rcases exists_of_pendingCall here with ⟨next, here⟩
    rcases System.pre_of_reachable reached honours trivial (safe_main build) here with ⟨_, fresh⟩
    exact fresh
  · rcases exists_of_pendingCall here with ⟨next, here⟩
    rcases System.pre_of_reachable reached honours trivial (safe_main build) here with ⟨_, fresh⟩
    exact fresh

/-! ## Two runs -/

instance (tracker : Tracker) (point : Point) : Decidable (NotGiven tracker point) :=
  match point with
  | .before _ => inferInstanceAs (Decidable (_ -> _ = 0))
  | .during _ | .waiting _ => .isTrue trivial

instance (careful : Bool) (query : ThreadQuery Point Call) (tracker : Tracker)
    (answer : Thread.Answer mainThread query) :
    Decidable ((setup careful).system.permitted query tracker answer) :=
  match query, answer with
  | .next _, none => inferInstanceAs (Decidable (_ -> NotGiven tracker _))
  | .next _, some event => inferInstanceAs (Decidable (mayHappen tracker event))
  | .reply _, _ => .isTrue trivial

instance (entry : Entry) : Decidable (SameIteration entry) :=
  inferInstanceAs (Decidable (_ ∧ _))

instance (history : List Entry) : Decidable (Activated history) :=
  inferInstanceAs (Decidable (Since _ _ history))

instance (history : List Entry) : Decidable (FreshlyRegistered history) :=
  inferInstanceAs (Decidable (Since _ _ history))

abbrev Script := List (Sigma (Thread.Answer mainThread))

/-- A call that nothing interrupts, and its result. -/
def succeeds (function : Call) : Script :=
  [⟨.next (.before function), none⟩, ⟨.next (.during function), none⟩,
    ⟨.reply function, (0 : Int)⟩]

def build : Build :=
  ⟨false, false, false⟩

/-- The calls of `main` before the loop, with the events that come in before LTE
is deactivated. -/
def starting (events : List Event) : Script :=
  [Call.dkLedsInit, .nrfModemLibInit, .modemKeyMgmtWriteIdentity, .modemKeyMgmtWritePsk,
      .lteLcConnectAsync].flatMap succeeds ++
    events.map (fun event => ⟨.next (.before (.lteLcFuncModeSet .deactivateLte)), some event⟩) ++
    [Call.lteLcFuncModeSet .deactivateLte, .dkButtonsInit, .gnssEventHandlerSet,
      .gnssFixIntervalSet, .gnssFixRetrySet, .gnssStart, .gnssPrioModeEnable].flatMap succeeds

/-- A fix is found, and LTE activated. -/
def fixFound : Script :=
  [⟨.next (.waiting .gnssFixSem), some (.gnss .sleepAfterFix 0)⟩,
    ⟨.next (.waiting .gnssFixSem), none⟩] ++ succeeds .activate

def registeredHome : Event :=
  .lte (.nwRegStatus .registeredHome)

def scripted (careful : Bool) (fuel : Nat) (script : Script) : TrackerConfig :=
  (setup careful).system.play (I := mainThread.interface) fuel script
    ⟨Tracker.initial, main build⟩

theorem scripted_reached (careful : Bool) (fuel : Nat) (script : Script) :
    TrackerReached careful build (scripted careful fuel script) :=
  (setup careful).system.play_reachable fuel script _

/-- The registration comes while `main` waits for it. -/
def waitingRun : TrackerConfig :=
  scripted true 113 (starting [] ++ fixFound ++
    [⟨.next (.waiting .lteConnected), none⟩,
      ⟨.next (.waiting .lteConnected), some registeredHome⟩,
      ⟨.next (.waiting .lteConnected), none⟩])

theorem waitingRun_fresh :
    PastWait waitingRun ∧ FreshlyRegistered waitingRun.state.history := by
  have past : PastWait waitingRun := .inl (by decide +kernel)
  exact ⟨past, freshlyRegistered_of_pastWait (scripted_reached true 113 _) past⟩

/-- A registration comes during `modem_configure`, and none later. -/
def staleRun : TrackerConfig :=
  scripted false 109 (starting [registeredHome] ++ fixFound ++
    [⟨.next (.waiting .lteConnected), none⟩])

/-- The wait is passed with the registration that came before the activation. -/
theorem not_freshlyRegistered :
    ¬ forall build current, TrackerReached false build current -> PastWait current ->
      FreshlyRegistered current.state.history := by
  intro claim
  have past : PastWait staleRun := .inl (by decide +kernel)
  have fresh := claim build staleRun (scripted_reached false 109 _) past
  revert fresh
  decide +kernel

end LteTracker
end NrfExamples
