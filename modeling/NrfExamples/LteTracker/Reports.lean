import NrfExamples.LteTracker.Registration
import NrfExamples.Traces.Rounds

namespace NrfExamples
namespace LteTracker

open Reentrant Prog Traces

/-!
# Every fix is reported

A fix that is read from the modem gives `gnss_fix_sem`, which has room for one,
and an iteration of `main` takes it.  Fixes that come in during an iteration are
not counted: they share one further iteration, and each overwrites the one
before it.  Nothing is lost for that.  When `main` waits and the semaphore is
not given, then after every fix an iteration has begun that formatted the
position, sent it, and got a response that could be parsed.
-/

/-- The GNSS went to sleep after a fix, which was read from the modem. -/
def Entry.readsFix : Entry -> Bool
  | .event (.gnss .sleepAfterFix retval) => retval = 0
  | _ => false

def Entry.beginsIteration : Entry -> Bool
  | .took .gnssFixSem => true
  | _ => false

def Entry.isSend : Entry -> Bool
  | .called (.send _) => true
  | _ => false

def Entry.sends : Entry -> Bool
  | .returned (.send _) result => 0 ≤ result
  | _ => false

def Entry.parses : Entry -> Bool
  | .returned .coapPacketParse result => 0 ≤ result
  | _ => false

namespace Reports

/-- It has happened in this iteration. -/
abbrev InIteration (event : List Entry -> Entry -> Prop) (history : List Entry) : Prop :=
  Since (fun entry => entry.beginsIteration = false) event history

/-- The position has been formatted and put into the request. -/
def Formatted (history : List Entry) : Prop :=
  InIteration (fun _ entry => entry = .called (.coapEncode .payload)) history

/-- It has been sent since. -/
def Sent (history : List Entry) : Prop :=
  InIteration (fun before entry => entry.sends = true ∧ Formatted before) history

/-- A fix asks for an iteration, which is finished when the response to what it
sent has been parsed. -/
def fixRounds : Rounds Entry where
  requests := Entry.readsFix
  begins := Entry.beginsIteration
  finishes := fun before entry => entry.parses = true ∧ Sent before
  apart := by
    rintro before entry begins ⟨parses, _⟩
    cases entry with
    | took sem => cases parses
    | _ => cases begins

/-- A failed call leaves an error number other than zero. -/
def reporting : mainThread.Setup :=
  { setup false with
    mayReply := fun function _ result => function = .errno -> result ≠ 0 }

/-- The configurations of all runs of `main`. -/
def ReportsReached (build : Build) (current : TrackerConfig) : Prop :=
  reporting.system.Reachable ⟨Tracker.initial, main build⟩ current

/-- `main` is about to wait for a fix, or goes on waiting after an event. -/
def WaitsForFix (current : TrackerConfig) : Prop :=
  pendingCall current = some (.interrupts (.waiting .gnssFixSem))

/-! ## What is known in every state -/

/-- The semaphore says whether a fix waits, and no iteration sends twice. -/
structure Known (tracker : Tracker) : Prop where
  limit : tracker.gnssFixSem ≤ 1
  waiting : fixRounds.Waiting tracker.history <-> tracker.gnssFixSem ≠ 0
  asked : Always (fun before entry => fixRounds.begins entry = true -> fixRounds.Waiting before)
    tracker.history
  sends : tracker.history.countP Entry.isSend ≤ tracker.history.countP fixRounds.begins

/-- Where an iteration has come to. -/
inductive Stage
  | settled
  | serving
  | formatted
  | sending
  | sent
  | finished
  | ended

/-- There is a request of this iteration left to be sent. -/
def Unsent (history : List Entry) : Prop :=
  history.countP Entry.isSend < history.countP fixRounds.begins

def Stage.Holds : Stage -> List Entry -> Prop
  | .settled, history =>
      (forall entry, entry ∈ history -> fixRounds.begins entry = false) ∨
        fixRounds.Finished history
  | .serving, history => Unsent history
  | .formatted, history => Unsent history ∧ Formatted history
  | .sending, history => Formatted history
  | .sent, history => Sent history
  | .finished, history => fixRounds.Finished history
  | .ended, _ => True

section Steps

variable {tracker : Tracker} {stage : Stage} {entry : Entry}

theorem known_initial : Known Tracker.initial where
  limit := Nat.zero_le 1
  waiting := ⟨fun waits => absurd waits not_since_nil, fun given => absurd rfl given⟩
  asked := always_nil
  sends := Nat.le_refl 0

/-- An entry that neither begins an iteration nor sends. -/
theorem Stage.Holds.append {history : List Entry} (holds : stage.Holds history)
    (same : entry.beginsIteration = false) (noSend : entry.isSend = false) :
    stage.Holds (history ++ [entry]) := by
  have unsent : Unsent history -> Unsent (history ++ [entry]) := by
    intro unsent
    unfold Unsent at *
    rw [List.countP_append, List.countP_append, List.countP_singleton, noSend]
    exact Nat.lt_of_lt_of_le unsent (Nat.le_add_right _ _)
  have later : forall {event}, InIteration event history ->
      InIteration event (history ++ [entry]) :=
    fun happened => since_concat.mpr (.inr ⟨happened, same⟩)
  cases stage with
  | settled =>
      rcases holds with never | finished
      · left
        intro other member
        rcases List.mem_append.mp member with old | new
        · exact never other old
        · rw [List.mem_singleton.mp new]
          exact same
      · exact .inr (later finished)
  | serving => exact unsent holds
  | formatted => exact ⟨unsent holds.1, later holds.2⟩
  | sending => exact later holds
  | sent => exact later holds
  | finished => exact later holds
  | ended => trivial

/-- An entry that is nothing to the iterations. -/
theorem Known.record (known : Known tracker) (noFix : entry.readsFix = false)
    (same : entry.beginsIteration = false)
    (mayCall : entry.isSend = true -> Unsent tracker.history) : Known (tracker.record entry) where
  limit := known.limit
  waiting := (Rounds.waiting_append noFix same).trans known.waiting
  asked := always_concat.mpr ⟨known.asked, fun begins => absurd (begins.symm.trans same) (by decide)⟩
  sends := by
    have sends := known.sends
    unfold Tracker.record
    dsimp only
    rw [List.countP_append, List.countP_append, List.countP_singleton]
    cases isSend : entry.isSend with
    | true =>
        have unsent := mayCall isSend
        unfold Unsent at unsent
        rw [if_pos rfl]
        omega
    | false => exact Nat.le_trans sends (Nat.le_add_right _ _)

theorem gnssFixSem_lteHandler (evt : LteEvt) (tracker : Tracker) :
    (lteHandler evt tracker).gnssFixSem = tracker.gnssFixSem := by
  unfold lteHandler
  cases evt with
  | nwRegStatus status =>
      dsimp only
      split <;> rfl
  | _ => rfl

/-- The handlers give the semaphore when they have read a fix. -/
theorem gnssFixSem_handleEvent (event : Event) (tracker : Tracker) :
    (handleEvent event tracker).gnssFixSem =
      if (Entry.event event).readsFix = true then min (tracker.gnssFixSem + 1) 1
      else tracker.gnssFixSem := by
  cases event with
  | lte evt => exact gnssFixSem_lteHandler evt tracker
  | gnss evt retval =>
      cases evt with
      | sleepAfterFix =>
          unfold handleEvent gnssEventHandler Entry.readsFix
          dsimp only
          by_cases read : retval = 0
          · rw [if_pos read, if_pos (decide_eq_true read)]
            rfl
          · rw [if_neg read, if_neg (by rw [decide_eq_false read]; decide)]
      | _ => rfl

theorem Known.handleEvent (known : Known tracker) (event : Event) :
    Known ((handleEvent event tracker).record (.event event)) := by
  have history := history_handleEvent event tracker
  have count := gnssFixSem_handleEvent event tracker
  have sends := known.sends
  refine ⟨?_, ?_, ?_, ?_⟩
  · have limit := known.limit
    have same : ((LteTracker.handleEvent event tracker).record (.event event)).gnssFixSem =
      (LteTracker.handleEvent event tracker).gnssFixSem := rfl
    rw [same, count]
    split <;> omega
  · unfold Tracker.record
    dsimp only
    rw [history, count, Rounds.waiting_concat]
    by_cases reads : (Entry.event event).readsFix = true
    · rw [if_pos reads]
      constructor
      · exact fun _ => by omega
      · exact fun _ => .inl reads
    · rw [if_neg reads, ← known.waiting]
      constructor
      · rintro (fix | ⟨before, _⟩)
        · exact absurd fix reads
        · exact before
      · exact fun before => .inr ⟨before, rfl⟩
  · unfold Tracker.record
    dsimp only
    rw [history]
    exact always_concat.mpr ⟨known.asked, fun begins => nomatch begins⟩
  · unfold Tracker.record
    dsimp only
    rw [history, List.countP_append, List.countP_append]
    exact Nat.add_le_add sends (Nat.le_refl 0)

/-- An iteration begins with a fix that waits. -/
theorem Known.took (known : Known tracker) (given : tracker.gnssFixSem ≠ 0) :
    Known ((tracker.setCount .gnssFixSem (tracker.gnssFixSem - 1)).record (.took .gnssFixSem)) ∧
      Stage.serving.Holds (tracker.history ++ [.took .gnssFixSem]) := by
  have limit := known.limit
  have sends := known.sends
  have more : Unsent (tracker.history ++ [.took .gnssFixSem]) := by
    unfold Unsent
    rw [List.countP_append, List.countP_append]
    exact Nat.lt_succ_of_le sends
  refine ⟨⟨?_, ?_, ?_, Nat.le_of_lt more⟩, more⟩
  · exact Nat.le_trans (Nat.sub_le _ _) limit
  · have none : tracker.gnssFixSem - 1 = 0 := by omega
    constructor
    · intro waits
      rcases Rounds.waiting_concat.mp waits with fix | ⟨_, other⟩
      · cases fix
      · cases other
    · exact fun left => absurd none left
  · exact always_concat.mpr ⟨known.asked, fun _ => known.waiting.mpr given⟩

end Steps

/-! ## What the procedures need and promise -/

def reportTerms : Thread.Terms mainThread where
  Phase := Stage
  holds := fun stage point tracker => stage.Holds tracker.history ∧
    (point = .waiting .gnssFixSem -> Stage.settled.Holds tracker.history)
  always := Known
  called := fun _ _ => True
  Ghost := fun _ => Unit
  pre := fun proc _ tracker =>
    match proc with
    | .kSemTake .gnssFixSem | .trackingLoop => Stage.settled.Holds tracker.history
    | .kSemTake .lteConnected | .serverResolve | .serverConnect =>
        Stage.serving.Holds tracker.history
  post := fun proc _ _ tracker =>
    match proc with
    | .kSemTake _ | .serverResolve | .serverConnect => Stage.serving.Holds tracker.history
    | .trackingLoop => True

abbrev ReportsSafe {A : Type} (program : TrackerProg A) (goal : A -> Tracker -> Prop)
    (tracker : Tracker) : Prop :=
  program.Safe reporting.system (reportTerms.contract reporting) goal tracker

/-- The events change no stage. -/
theorem events_keep : reportTerms.HandlersKeep reporting := by
  intro point stage tracker event known holds _
  have kept : forall stage : Stage, stage.Holds tracker.history ->
      stage.Holds ((handleEvent event tracker).record (.event event)).history := by
    intro stage before
    unfold Tracker.record
    dsimp only
    rw [history_handleEvent]
    exact before.append rfl rfl
  exact ⟨known.handleEvent event, kept stage holds.1, fun here => kept .settled (holds.2 here)⟩

section Procedures

variable {tracker : Tracker} {A : Type} {goal : A -> Tracker -> Prop}

/-- Pass a point other than the wait for a fix. -/
theorem stay_then {point : Point} {rest : Unit -> TrackerProg A} (stage : Stage)
    (elsewhere : point ≠ .waiting .gnssFixSem) (holds : stage.Holds tracker.history)
    (goesOn : forall later, Known later -> stage.Holds later.history ->
      ReportsSafe (rest ()) goal later) :
    ReportsSafe (Thread.interrupts point >>= rest) goal tracker := by
  apply Thread.Terms.interrupts_then stage
  · exact ⟨holds, fun here => absurd here elsewhere⟩
  · exact fun later known kept _ => goesOn later known kept.1

/-- Record an entry that is nothing to the iterations. -/
theorem record_then {entry : Entry} {rest : Unit -> TrackerProg A} (stage : Stage)
    (known : Known tracker) (holds : stage.Holds tracker.history) (noFix : entry.readsFix = false)
    (same : entry.beginsIteration = false) (noSend : entry.isSend = false)
    (goesOn : Known (tracker.record entry) -> stage.Holds (tracker.record entry).history ->
      ReportsSafe (rest ()) goal (tracker.record entry)) :
    ReportsSafe (LteTracker.record entry >>= rest) goal tracker := by
  have recorded := known.record noFix same fun sends => absurd (sends.symm.trans noSend) (by decide)
  apply Prog.modify_then recorded
  exact goesOn recorded (holds.append same noSend)

/-- A call that does not send keeps the stage. -/
theorem safe_call {function : Call} (stage : Stage) (holds : stage.Holds tracker.history)
    (noSend : (Entry.called function).isSend = false) :
    ReportsSafe (call function) (fun result later => stage.Holds later.history ∧
      (function = .errno -> result ≠ 0)) tracker := by
  refine stay_then stage (fun same => nomatch same) holds ?_
  intro first known kept
  apply record_then stage known kept rfl rfl noSend
  intro known kept
  refine stay_then stage (fun same => nomatch same) kept ?_
  intro second known kept
  apply Thread.Terms.reply_then trivial
  intro result replies
  apply record_then stage known kept rfl rfl rfl
  exact fun _ kept => ⟨kept, replies⟩

theorem call_then {function : Call} {rest : Int -> TrackerProg A} (stage : Stage)
    (known : Known tracker) (holds : stage.Holds tracker.history)
    (noSend : (Entry.called function).isSend = false)
    (returns : forall result later, Known later -> stage.Holds later.history ->
      ReportsSafe (rest result) goal later) :
    ReportsSafe (call function >>= rest) goal tracker := by
  apply Prog.Safe.andThen ((safe_call stage holds noSend).with_always known)
  exact fun result later kept => returns result later kept.1 kept.2.1

/-- A call after which nothing more is claimed. -/
theorem lastCall_then {function : Call} {rest : Int -> TrackerProg A} (known : Known tracker)
    (noSend : (Entry.called function).isSend = false)
    (returns : forall result later, Known later -> ReportsSafe (rest result) goal later) :
    ReportsSafe (call function >>= rest) goal tracker :=
  call_then .ended known trivial noSend fun result later known _ => returns result later known

theorem safe_failErrno (known : Known tracker) :
    ReportsSafe failErrno (fun result _ => result ≠ 0) tracker := by
  apply Prog.Safe.andThen ((safe_call .ended trivial rfl).with_always known)
  intro errno later replied
  have different := replied.2.2 rfl
  exact fun zero => different (Int.neg_eq_zero.mp zero)

theorem safe_callAll (stage : Stage) (functions : List Call) (known : Known tracker)
    (holds : stage.Holds tracker.history)
    (noSends : forall function, function ∈ functions -> (Entry.called function).isSend = false) :
    ReportsSafe (callAll functions) (fun _ later => stage.Holds later.history) tracker := by
  induction functions generalizing tracker with
  | nil => exact holds
  | cons function others inductionHypothesis =>
      apply call_then stage known holds (noSends function List.mem_cons_self)
      intro err later known kept
      split
      · exact kept
      · exact inductionHypothesis known kept fun other member =>
          noSends other (List.mem_cons_of_mem function member)

theorem safe_serverResolve (known : Known tracker) (serving : Stage.serving.Holds tracker.history) :
    ReportsSafe serverResolve (fun _ later => Stage.serving.Holds later.history) tracker := by
  apply call_then .serving known serving rfl
  intro err first known kept
  split
  · exact kept
  · apply call_then .serving known kept rfl
    intro result second known kept
    split
    · exact kept
    · apply call_then .serving known kept rfl
      exact fun _ _ _ kept => kept

theorem safe_setsockopts (sock : Int) {rest : TrackerProg Int} (options : List SockOpt)
    (known : Known tracker) (serving : Stage.serving.Holds tracker.history)
    (safe : forall later, Known later -> Stage.serving.Holds later.history ->
      ReportsSafe rest (fun _ later => Stage.serving.Holds later.history) later) :
    ReportsSafe (setsockopts sock rest options)
      (fun _ later => Stage.serving.Holds later.history) tracker := by
  induction options generalizing tracker with
  | nil => exact safe tracker known serving
  | cons option others inductionHypothesis =>
      apply call_then .serving known serving rfl
      intro err second known kept
      split
      · apply call_then .serving known kept rfl
        exact fun _ _ _ kept => kept
      · exact inductionHypothesis known kept

theorem Known.setSock (known : Known tracker) (sock : Int) :
    Known { tracker with sock := sock } :=
  ⟨known.limit, known.waiting, known.asked, known.sends⟩

theorem safe_serverConnect (known : Known tracker) (serving : Stage.serving.Holds tracker.history) :
    ReportsSafe serverConnect (fun _ later => Stage.serving.Holds later.history) tracker := by
  apply call_then .serving known serving rfl
  intro sock first known kept
  apply Prog.modify_then (known.setSock sock)
  split
  · apply call_then .serving (known.setSock sock) kept rfl
    exact fun _ _ _ kept => kept
  · apply safe_setsockopts sock _ (known.setSock sock) kept
    intro later known kept
    apply call_then .serving known kept rfl
    intro err last known kept
    split
    · apply call_then .serving known kept rfl
      exact fun _ _ _ kept => kept
    · exact kept

/-- The steps of the encoding up to the payload. -/
theorem safe_encodeAll {rest : TrackerProg Int} (encodings : List Encoding)
    (known : Known tracker) (serving : Stage.serving.Holds tracker.history)
    (safe : forall later, Known later -> Stage.serving.Holds later.history ->
      ReportsSafe rest (fun err last => err = 0 -> Sent last.history) later) :
    ReportsSafe (encodeAll rest encodings) (fun err last => err = 0 -> Sent last.history)
      tracker := by
  induction encodings generalizing tracker with
  | nil => exact safe tracker known serving
  | cons encoding others inductionHypothesis =>
      apply call_then .serving known serving rfl
      intro err second known kept
      split
      · rename_i failed
        intro zero
        omega
      · exact inductionHypothesis known kept

/-- The position is formatted and put into the request. -/
theorem payload_then {rest : Int -> TrackerProg A} (serving : Stage.serving.Holds tracker.history)
    (returns : forall result later, Known later -> Stage.formatted.Holds later.history ->
      ReportsSafe (rest result) goal later) :
    ReportsSafe (call (.coapEncode .payload) >>= rest) goal tracker := by
  refine stay_then .serving (fun same => nomatch same) serving ?_
  intro first known kept
  have formatted : Stage.formatted.Holds (first.record (.called (.coapEncode .payload))).history :=
    ⟨kept.append rfl rfl, since_concat.mpr (.inl rfl)⟩
  have recorded : Known (first.record (.called (.coapEncode .payload))) :=
    known.record rfl rfl fun sends => nomatch sends
  apply Prog.modify_then recorded
  refine stay_then .formatted (fun same => nomatch same) formatted ?_
  intro second known kept
  apply Thread.Terms.reply_then trivial
  intro result _
  apply record_then .formatted known kept rfl rfl rfl
  exact fun known kept => returns result _ known kept

/-- What was formatted is sent, once. -/
theorem safe_send (sock : Int) (formatted : Stage.formatted.Holds tracker.history) :
    ReportsSafe (call (.send sock)) (fun result later => 0 ≤ result -> Sent later.history)
      tracker := by
  refine stay_then .formatted (fun same => nomatch same) formatted ?_
  intro first known kept
  have recorded : Known (first.record (.called (.send sock))) :=
    known.record rfl rfl fun _ => kept.1
  have still : Formatted (first.record (.called (.send sock))).history :=
    since_concat.mpr (.inr ⟨kept.2, rfl⟩)
  apply Prog.modify_then recorded
  refine stay_then .sending (fun same => nomatch same) still ?_
  intro second known kept
  apply Thread.Terms.reply_then trivial
  intro result _
  have returned : Known (second.record (.returned (.send sock) result)) :=
    known.record rfl rfl fun sends => nomatch sends
  apply Prog.modify_then returned
  intro sent
  exact since_concat.mpr (.inl ⟨decide_eq_true sent, kept⟩)

theorem safe_clientPostSend (known : Known tracker) (serving : Stage.serving.Holds tracker.history) :
    ReportsSafe clientPostSend (fun err later => err = 0 -> Sent later.history) tracker := by
  have split : forall rest, encodeAll rest
      [.packetInit, .uriPath, .contentFormat, .uriQuery, .payloadMarker, .payload] =
        encodeAll (encodeAll rest [.payload])
          [.packetInit, .uriPath, .contentFormat, .uriQuery, .payloadMarker] := fun _ => rfl
  unfold clientPostSend
  rw [split]
  apply safe_encodeAll _ known serving
  intro first known serving
  apply payload_then serving
  intro err second known formatted
  split
  · rename_i failed
    intro zero
    omega
  · apply Prog.get_then known
    apply Prog.Safe.andThen ((safe_send _ formatted).with_always known)
    intro err third sent
    split
    · apply (safe_failErrno sent.1).mono
      exact fun result _ different zero => absurd zero different
    · rename_i succeeded
      exact fun _ => sent.2 (Int.not_lt.mp succeeded)

/-- The response is parsed, which finishes the iteration. -/
theorem safe_clientHandleGetResponse (sent : Stage.sent.Holds tracker.history) :
    ReportsSafe clientHandleGetResponse
      (fun err later => 0 ≤ err -> fixRounds.Finished later.history) tracker := by
  refine stay_then .sent (fun same => nomatch same) sent ?_
  intro first known kept
  apply record_then .sent known kept rfl rfl rfl
  intro known kept
  refine stay_then .sent (fun same => nomatch same) kept ?_
  intro second known kept
  apply Thread.Terms.reply_then trivial
  intro result _
  have returned : Known (second.record (.returned .coapPacketParse result)) :=
    known.record rfl rfl fun sends => nomatch sends
  apply Prog.modify_then returned
  dsimp only
  split
  · rename_i failed
    intro succeeded
    omega
  · rename_i succeeded
    exact fun _ => since_concat.mpr (.inl ⟨decide_eq_true (Int.not_lt.mp succeeded), kept⟩)

theorem safe_shutDown (known : Known tracker) :
    ReportsSafe shutDown (fun _ _ => True) tracker := by
  apply lastCall_then known rfl
  intro _ later known
  apply lastCall_then known rfl
  exact fun _ _ _ => trivial

theorem safe_receiveResponse (known : Known tracker) (sent : Stage.sent.Holds tracker.history) :
    ReportsSafe receiveResponse (fun _ _ => True) tracker := by
  apply Prog.get_then known
  apply call_then .sent known sent rfl
  intro received first known kept
  split
  · exact safe_shutDown known
  · split
    · exact safe_shutDown known
    · apply Prog.Safe.andThen ((safe_clientHandleGetResponse kept).with_always known)
      intro err second parsed
      split
      · exact safe_shutDown parsed.1
      · rename_i succeeded
        apply call_then .finished parsed.1 (parsed.2 (Int.not_lt.mp succeeded)) rfl
        intro _ third known finished
        apply call_then .finished known finished rfl
        intro err fourth known finished
        split
        · exact safe_shutDown known
        · exact Thread.Terms.safe_invoke () (.inr finished)
            fun _ _ _ _ => trivial

theorem safe_deliver (serving : Stage.serving.Holds tracker.history) :
    ReportsSafe deliver (fun _ _ => True) tracker := by
  apply Thread.Terms.invoke_then () serving
  intro err first known kept
  split
  · trivial
  · apply Prog.Safe.andThen ((safe_clientPostSend known kept).with_always known)
    intro err second sent
    split
    · exact safe_shutDown sent.1
    · rename_i same
      exact safe_receiveResponse sent.1 (sent.2 (not_not.mp same))

theorem safe_kSemTake_gnssFixSem (settled : Stage.settled.Holds tracker.history) :
    ReportsSafe (kSemTake .gnssFixSem) (fun _ later => Stage.serving.Holds later.history)
      tracker := by
  apply Thread.Terms.interrupts_then Stage.settled
  · exact ⟨settled, fun _ => settled⟩
  · intro first known kept _
    apply Prog.get_then known
    split
    · exact Thread.Terms.safe_invoke () kept.1 fun _ _ _ served => served
    · rename_i given
      exact known.took given

theorem safe_kSemTake_lteConnected (serving : Stage.serving.Holds tracker.history) :
    ReportsSafe (kSemTake .lteConnected) (fun _ later => Stage.serving.Holds later.history)
      tracker := by
  refine stay_then .serving (fun same => nomatch same) serving ?_
  intro first known kept
  apply Prog.get_then known
  split
  · exact Thread.Terms.safe_invoke () kept fun _ _ _ served => served
  · have taken : Known { first with lteConnected := first.lteConnected - 1 } :=
      ⟨known.limit, known.waiting, known.asked, known.sends⟩
    constructor
    · exact taken.record rfl rfl fun sends => nomatch sends
    · exact kept.append rfl rfl

/-- One iteration, from the wait for a fix. -/
theorem safe_trackingLoop (settled : Stage.settled.Holds tracker.history) :
    ReportsSafe trackingLoop (fun _ _ => True) tracker := by
  apply Thread.Terms.invoke_then () settled
  intro _ first known serving
  apply call_then .serving known serving rfl
  intro err second known serving
  split
  · exact safe_shutDown known
  · apply Thread.Terms.invoke_then () serving
    intro _ third known serving
    apply Prog.get_then known
    split
    · apply Thread.Terms.invoke_then () serving
      intro err fourth known serving
      split
      · trivial
      · have locked : Known { fourth with resolveAddressLock := 1 } :=
          ⟨known.limit, known.waiting, known.asked, known.sends⟩
        apply Prog.modify_then locked
        exact safe_deliver serving
    · exact safe_deliver serving

theorem safe_main (build : Build) (known : Known tracker)
    (settled : Stage.settled.Holds tracker.history) :
    ReportsSafe (main build) (fun _ _ => True) tracker := by
  apply call_then .settled known settled rfl
  intro _ first known settled
  have configured := safe_callAll .settled ([.nrfModemLibInit, .modemKeyMgmtWriteIdentity,
    .modemKeyMgmtWritePsk] ++ (if build.ncsBefore26 then [.lteLcInit] else []) ++
    [.lteLcConnectAsync, .lteLcFuncModeSet .deactivateLte]) known settled (by
      cases build.ncsBefore26 <;> simp [Entry.isSend])
  apply Prog.Safe.andThen (configured.with_always known)
  intro err second configured
  split
  · trivial
  · apply call_then .settled configured.1 configured.2 rfl
    intro err third known settled
    split
    · trivial
    · have started := safe_callAll .settled ((if build.highAccuracyTiming then
        [.gnssTimingSourceSet] else []) ++ (if build.lowAccuracy then [.gnssUseCaseSet] else []) ++
        [.gnssEventHandlerSet, .gnssFixIntervalSet, .gnssFixRetrySet, .gnssStart,
          .gnssPrioModeEnable]) known settled (by
          cases build.highAccuracyTiming <;> cases build.lowAccuracy <;> simp [Entry.isSend])
      have initialised : ReportsSafe (gnssInitAndStart build)
          (fun _ later => Stage.settled.Holds later.history) third := by
        apply Prog.Safe.andThen started
        intro err later kept
        split <;> exact kept
      apply Prog.Safe.andThen initialised
      exact fun _ _ settled => Thread.Terms.safe_invoke () settled
        fun _ _ _ _ => trivial

end Procedures

theorem report_bodies_meet : reportTerms.BodiesMeet reporting := by
  intro proc _ tracker known assumed
  cases proc with
  | kSemTake sem =>
      cases sem with
      | gnssFixSem => exact safe_kSemTake_gnssFixSem assumed
      | lteConnected => exact safe_kSemTake_lteConnected assumed
  | serverResolve => exact safe_serverResolve known assumed
  | serverConnect => exact safe_serverConnect known assumed
  | trackingLoop => exact safe_trackingLoop assumed

/-- In every run, requests are sent at most once for a fix.  When `main` waits for
a fix and the semaphore is not given, every fix has been reported. -/
theorem fixes_reported {build : Build} {current : TrackerConfig}
    (reached : ReportsReached build current) :
    (current.state.history.countP Entry.isSend ≤ current.state.history.countP Entry.readsFix) ∧
      (WaitsForFix current -> current.state.gnssFixSem = 0 ->
        fixRounds.Answered current.state.history) := by
  have honours := Thread.Terms.honours events_keep report_bodies_meet
  have settled : Stage.settled.Holds Tracker.initial.history := .inl fun _ member => nomatch member
  have safe := safe_main build known_initial settled
  have known : Known current.state := System.always_of_reachable reached honours known_initial safe
  constructor
  · exact Nat.le_trans known.sends (Rounds.countP_begins_le known.asked).1
  · intro waits empty
    rcases exists_of_pendingCall waits with ⟨next, here⟩
    rcases System.pre_of_reachable reached honours known_initial safe here with ⟨stage, holds⟩
    apply Rounds.answered_of_quiet
    · exact fun waiting => known.waiting.mp waiting empty
    · exact holds.2 rfl

/-! ## A run -/

instance (query : ThreadQuery Point Call) (tracker : Tracker)
    (answer : Thread.Answer mainThread query) :
    Decidable (reporting.system.permitted query tracker answer) :=
  match query, answer with
  | .next _, none => .isTrue fun careful => nomatch careful
  | .next _, some event => inferInstanceAs (Decidable (mayHappen tracker event))
  | .reply _, _ => inferInstanceAs (Decidable (_ -> _ ≠ 0))

/-- A call that nothing interrupts, and its result. -/
def replies (function : Call) (result : Int) : Script :=
  [⟨.next (.before function), none⟩, ⟨.next (.during function), none⟩,
    ⟨.reply function, result⟩]

def fixRead : Event :=
  .gnss .sleepAfterFix 0

/-- An iteration in which these events come in before the socket is opened, and
all calls succeed. -/
def iteration (resolve : Script) (events : List Event) : Script :=
  [⟨.next (.waiting .gnssFixSem), none⟩] ++ replies .activate 0 ++
    [⟨.next (.waiting .lteConnected), some registeredHome⟩,
      ⟨.next (.waiting .lteConnected), none⟩] ++ resolve ++
    events.map (fun event => ⟨.next (.before .socket), some event⟩) ++
    [Call.socket, .setsockopt 0 .tlsPeerVerify, .setsockopt 0 .tlsHostname,
      .setsockopt 0 .tlsSecTagList, .connect 0, .coapEncode .packetInit, .coapEncode .uriPath,
      .coapEncode .contentFormat, .coapEncode .uriQuery, .coapEncode .payloadMarker,
      .coapEncode .payload, .send 0].flatMap succeeds ++
    replies (.recv 0) 1 ++
    [Call.coapPacketParse, .close 0, .lteLcFuncModeSet .deactivateLte].flatMap succeeds

/-- Three fixes are read, two of them while the first is being reported.  There are
two iterations. -/
def threeFixes : TrackerConfig :=
  reporting.system.play (I := mainThread.interface) 394 (starting [] ++
    [⟨.next (.waiting .gnssFixSem), some fixRead⟩] ++
    iteration (replies .getaddrinfo 0 ++ replies .addrinfo 1 ++ replies .freeaddrinfo 0)
      [fixRead, fixRead] ++
    iteration [] []) ⟨Tracker.initial, main build⟩

theorem threeFixes_reported :
    threeFixes.state.history.countP Entry.readsFix = 3 ∧
      threeFixes.state.history.countP Entry.isSend = 2 ∧
      fixRounds.Answered threeFixes.state.history := by
  have reached : ReportsReached build threeFixes := reporting.system.play_reachable 394 _ _
  have waits : pendingCall threeFixes = some (.interrupts (.waiting .gnssFixSem)) := by
    decide +kernel
  refine ⟨by decide +kernel, by decide +kernel, ?_⟩
  exact (fixes_reported reached).2 waits (by decide +kernel)

end Reports
end LteTracker
end NrfExamples
