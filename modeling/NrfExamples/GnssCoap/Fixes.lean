import Mathlib.Data.List.Induction
import NrfExamples.GnssCoap.Main
import NrfExamples.Reentrant.Leads
import NrfExamples.Traces.Past

namespace NrfExamples
namespace GnssCoap
namespace Fixes

open Reentrant Prog Traces

/-!
# What the work queue reads of the fixes

`gnss_event_handler` runs in an interrupt and stores every frame in the one
`pvt_data`, whether the fix is valid or not.  `new_fix_work_fn` runs later, on
the work queue, and reads the latitude and the longitude one after the other.
So the other functions of the program come in here as interrupts, also between
these two reads.  A coordinate is kept with the number of the frame that it was
read from.

The build is the one without simulated fixes.
-/

/-- A coordinate, and how many frames had been stored when it was read. -/
structure Reading where
  value : Coordinate
  number : Nat
  deriving DecidableEq, Repr

/-- What has happened to `pvt_data`: a frame was stored, or could not be read from
the modem; `new_fix_work_fn` read the latitude; it read the longitude and
formatted both. -/
inductive FixEntry
  | stored (frame : Frame)
  | failed (err : Int)
  | latitude (latitude : Reading)
  | formatted (latitude longitude : Reading)
  deriving DecidableEq, Repr

/-- The variables of the program and the history, oldest entry first. -/
structure State where
  client : Client
  history : List FixEntry

namespace State

def initial : State :=
  ⟨Client.initial, []⟩

def record (state : State) (entry : FixEntry) : State :=
  { state with history := state.history ++ [entry] }

def mapClient (state : State) (change : Client -> Client) : State :=
  { state with client := change state.client }

end State

def FixEntry.frame : FixEntry -> Option Frame
  | .stored frame => some frame
  | _ => none

/-- The frames that have been stored. -/
def frames (history : List FixEntry) : List Frame :=
  history.filterMap FixEntry.frame

/-- The flag `NRF_MODEM_GNSS_PVT_FLAG_FIX_VALID` is set. -/
def hasFix (frame : Frame) : Bool :=
  frame.flags &&& NRF_MODEM_GNSS_PVT_FLAG_FIX_VALID ≠ 0

/-! ## The work queue -/

inductive Point
  | idle
  | beforeLatitude
  | beforeLongitude
  | beforeStore
  | coapPut
  deriving DecidableEq, Repr

/-- `snprintf` returns a number and the text; `coap_put_work_fn`, which does not
touch `pvt_data`, leaves `next_token` and `coap_buf` behind. -/
inductive WorkCall
  | snprintf (latitude longitude : Coordinate)
  | coapPutWorkFn
  deriving DecidableEq, Repr

abbrev WorkReply : WorkCall -> Type
  | .snprintf _ _ => Int × List UInt8
  | .coapPutWorkFn => UInt16 × List UInt8

inductive WorkProc
  | workQueue
  deriving DecidableEq, Repr

abbrev workThread : Thread where
  State := State
  Point := Point
  Event := Event
  Call := WorkCall
  Reply := WorkReply
  Proc := WorkProc
  Result := fun _ => Unit

abbrev WorkProg := Prog workThread.interface

def WorkProg.modify (change : State -> State) : WorkProg Unit :=
  Prog.modify (I := workThread.interface) change

def WorkProg.get {A : Type} (view : State -> A) : WorkProg A :=
  Prog.get (I := workThread.interface) view

def interrupts (point : Point) : WorkProg Unit :=
  @Thread.interrupts workThread point

def reply (call : WorkCall) : WorkProg (WorkReply call) :=
  @Thread.reply workThread call

/-- Read `pvt_data.latitude`. -/
def readLatitude : WorkProg Reading :=
  Prog.perform (I := workThread.interface) fun state =>
    let latitude := ⟨state.client.pvtData.latitude, (frames state.history).length⟩
    (latitude, state.record (.latitude latitude))

/-- Read `pvt_data.longitude`, and format both. -/
def readLongitude (latitude : Reading) : WorkProg Reading :=
  Prog.perform (I := workThread.interface) fun state =>
    let longitude := ⟨state.client.pvtData.longitude, (frames state.history).length⟩
    (longitude, state.record (.formatted latitude longitude))

/-- `new_fix_work_fn` -/
def newFixWorkFn : WorkProg Unit := do
  interrupts .beforeLatitude
  let latitude <- readLatitude
  interrupts .beforeLongitude
  let longitude <- readLongitude latitude
  let printed <- reply (.snprintf latitude.value longitude.value)
  interrupts .beforeStore
  if printed.1 < 0 then
    .modify fun state => state.mapClient fun client => client.kWorkSubmit .coapPut
  else
    .modify fun state => state.mapClient fun client =>
      { client with coapPayload := printed.2.take (MESSAGE_SIZE - 1) }.kWorkSubmit .coapPut

def runItem : WorkItem -> WorkProg Unit
  | .newFix => newFixWorkFn
  | .coapPut => do
      interrupts .coapPut
      let left <- reply .coapPutWorkFn
      .modify fun state => state.mapClient fun client =>
        { client with nextToken := left.1, coapBuf := left.2 }

/-- Take the oldest item and run it, if there is one. -/
def runOldest : WorkProg Unit := do
  let work <- .get fun state => state.client.work
  match work with
  | [] => pure ()
  | item :: later => do
      .modify fun state => state.mapClient fun client => { client with work := later }
      runItem item

def workQueue : WorkProg Unit := do
  interrupts .idle
  runOldest
  @Thread.invoke workThread .workQueue

/-! ## The interrupts -/

/-- `gnss_event_handler` on a frame, with what becomes of `pvt_data`. -/
def State.gnssPvt (state : State) (err : Int) (frame : Frame) : State :=
  (state.mapClient (gnssEventHandler err frame)).record
    (if err = 0 then .stored frame else .failed err)

def handleEvent (build : Build) (event : Event) (state : State) : State :=
  match event with
  | .lte status => state.mapClient (lteHandler status)
  | .dateTime => state.mapClient dateTimeEvtHandler
  | .button first _ => state.mapClient (buttonPressed build first)
  | .gnssPvt err frame => state.gnssPvt err frame
  | .gnssOther => state
  | .timer => state.mapClient gnssSimulateFix
  | .work => state

/-- Fixes are simulated in the other build, and the work items are what is being
interrupted. -/
def mayInterrupt : Event -> Bool
  | .timer | .work => false
  | _ => true

def setup (build : Build) : workThread.Setup where
  handle := fun event => .modify (handleEvent build event)
  body := fun _ => workQueue
  mayHappen := fun _ _ event => mayInterrupt event = true
  mayGoOn := fun _ _ => True
  mayReply := fun _ _ _ => True

abbrev WorkConfig := Config workThread.interface Unit

/-- The configurations of all runs of the work queue. -/
def WorkReached (build : Build) (current : WorkConfig) : Prop :=
  (setup build).system.Reachable ⟨State.initial, workQueue⟩ current

/-! ## What is formatted -/

/-- Both coordinates are those of one frame, which has a valid fix. -/
def OneValidFrame (before : List FixEntry) (latitude longitude : Reading) : Prop :=
  latitude.number = longitude.number ∧ exists frame,
    ((frames before).take latitude.number).getLast? = some frame ∧ hasFix frame = true ∧
      latitude.value = frame.latitude ∧ longitude.value = frame.longitude

def FixEntry.storesFix : FixEntry -> Bool
  | .stored frame => hasFix frame
  | _ => false

def FixEntry.storesNoFix : FixEntry -> Bool
  | .stored frame => !hasFix frame
  | _ => false

def FixEntry.isLatitude : FixEntry -> Bool
  | .latitude _ => true
  | _ => false

/-- The entry leaves the frame whose latitude was read last in `pvt_data`. -/
def FixEntry.leaves : FixEntry -> Bool
  | .stored _ | .latitude _ => false
  | _ => true

/-- A frame without a valid fix has been stored since the last one with a valid
fix. -/
def Overwritten (history : List FixEntry) : Prop :=
  Since (fun entry => entry.storesFix = false) (fun _ entry => entry.storesNoFix = true) history

/-- When the latitude was read, the last frame with a valid fix had not been
overwritten by one without, and no frame has been stored since. -/
def Undisturbed (history : List FixEntry) : Prop :=
  Since (fun entry => entry.leaves = true)
    (fun before entry => entry.isLatitude = true ∧ ¬ Overwritten before) history

/-- Something holds of each location that is formatted. -/
def AtFormats (holds : List FixEntry -> Reading -> Reading -> Prop) (before : List FixEntry)
    (entry : FixEntry) : Prop :=
  forall latitude longitude, entry = .formatted latitude longitude ->
    holds before latitude longitude

/-- A location comes from one valid frame just when nothing has disturbed it. -/
abbrev ValidAsUndisturbed : List FixEntry -> FixEntry -> Prop :=
  AtFormats fun before latitude longitude =>
    (OneValidFrame before latitude longitude <-> Undisturbed before)

/-! ## Histories -/

section Histories

variable {history : List FixEntry} {frame last : Frame}

theorem frames_append (history later : List FixEntry) :
    frames (history ++ later) = frames history ++ frames later :=
  List.filterMap_append

/-- With a frame stored, the last one decides. -/
theorem overwritten_iff (stored : (frames history).getLast? = some last) :
    Overwritten history <-> hasFix last = false := by
  induction history using List.reverseRecOn with
  | nil => cases stored
  | append_singleton history entry inductionHypothesis =>
      rw [frames_append] at stored
      unfold Overwritten at *
      rw [since_concat]
      cases entry with
      | stored frame =>
          have same : frame = last := by
            rw [show frames [.stored frame] = [frame] from rfl, List.getLast?_concat] at stored
            exact Option.some.inj stored
          subst same
          cases fix : hasFix frame <;> simp [FixEntry.storesFix, FixEntry.storesNoFix, fix]
      | _ =>
          rw [show frames [_] = [] from rfl, List.append_nil] at stored
          rw [inductionHypothesis stored]
          simp [FixEntry.storesFix, FixEntry.storesNoFix]

/-- What the interrupts record. -/
def FixEntry.byInterrupt : FixEntry -> Bool
  | .stored _ | .failed _ => true
  | _ => false

/-- Interrupts that leave the frame are those that store none. -/
theorem leaves_iff {later : List FixEntry}
    (interrupts : forall entry, entry ∈ later -> entry.byInterrupt = true) :
    (forall entry, entry ∈ later -> entry.leaves = true) <-> frames later = [] := by
  unfold frames
  rw [List.filterMap_eq_nil_iff]
  refine forall_congr' fun entry => imp_congr_right fun member => ?_
  have here := interrupts entry member
  cases entry with
  | stored frame => simp [FixEntry.leaves, FixEntry.frame]
  | failed err => simp [FixEntry.leaves, FixEntry.frame]
  | _ => cases here

/-- The latitude was read from the last frame, and only interrupts have come
since. -/
def LatitudeRead (latitude : Reading) (history : List FixEntry) : Prop :=
  exists earlier later frame, history = earlier ++ .latitude latitude :: later ∧
    (forall entry, entry ∈ later -> entry.byInterrupt = true) ∧
    (frames earlier).getLast? = some frame ∧
    latitude = ⟨frame.latitude, (frames earlier).length⟩

theorem LatitudeRead.append {latitude : Reading} {entry : FixEntry}
    (read : LatitudeRead latitude history) (interrupt : entry.byInterrupt = true) :
    LatitudeRead latitude (history ++ [entry]) := by
  rcases read with ⟨earlier, later, frame, rfl, interrupts, stored, same⟩
  refine ⟨earlier, later ++ [entry], frame,
    List.append_assoc earlier (.latitude latitude :: later) [entry], ?_, stored, same⟩
  intro other member
  rcases List.mem_append.mp member with old | new
  · exact interrupts other old
  · rw [List.mem_singleton.mp new]
    exact interrupt

/-- Nothing has disturbed it since just when no frame has been stored and the one
that was read has a valid fix. -/
theorem undisturbed_iff {earlier later : List FixEntry} {latitude : Reading}
    (interrupts : forall entry, entry ∈ later -> entry.byInterrupt = true)
    (stored : (frames earlier).getLast? = some frame) :
    Undisturbed (earlier ++ .latitude latitude :: later) <->
      frames later = [] ∧ hasFix frame = true := by
  have never : forall (before : List FixEntry) (entry : FixEntry), entry ∈ later ->
      ¬ (entry.isLatitude = true ∧ ¬ Overwritten before) := by
    rintro before entry member ⟨isLatitude, _⟩
    have here := interrupts entry member
    cases entry with
    | latitude _ => cases here
    | _ => cases isLatitude
  unfold Undisturbed
  rw [List.append_cons, since_append never, since_concat, leaves_iff interrupts,
    overwritten_iff stored]
  simp [FixEntry.isLatitude, FixEntry.leaves, and_comm]

/-- The longitude that is read now comes from the frame of the latitude, and that
frame has a valid fix, just when nothing has disturbed it. -/
theorem oneValidFrame_iff {latitude : Reading} {now : Frame}
    (read : LatitudeRead latitude history)
    (current : forall frame, (frames history).getLast? = some frame -> now = frame) :
    OneValidFrame history latitude ⟨now.longitude, (frames history).length⟩ <->
      Undisturbed history := by
  rcases read with ⟨earlier, later, frame, rfl, interrupts, stored, rfl⟩
  rw [undisturbed_iff interrupts stored]
  have whole : forall latitude, frames (earlier ++ .latitude latitude :: later) =
      frames earlier ++ frames later := by
    intro latitude
    rw [frames_append]
    rfl
  unfold OneValidFrame
  rw [whole] at current ⊢
  rw [List.take_left, stored, List.length_append]
  constructor
  · rintro ⟨same, other, isLast, fix, _⟩
    cases isLast
    have none : (frames later).length = 0 := by
      dsimp only at same
      omega
    exact ⟨List.length_eq_zero_iff.mp none, fix⟩
  · rintro ⟨none, fix⟩
    rw [none, List.append_nil] at current
    rw [none, current frame stored]
    exact ⟨rfl, frame, rfl, fix, rfl, rfl⟩

end Histories

/-! ## What is known in every state -/

/-- `pvt_data` is the last frame, the work item has been submitted for a frame,
and what has been formatted is as it should be. -/
structure Known (state : State) : Prop where
  current : forall frame, (frames state.history).getLast? = some frame ->
    state.client.pvtData = frame
  submitted : .newFix ∈ state.client.work -> frames state.history ≠ []
  formats : Always ValidAsUndisturbed state.history

/-- What `new_fix_work_fn` has done. -/
inductive Phase
  | idle
  | running
  | halfway (latitude : Reading)

def Phase.Holds (phase : Phase) (state : State) : Prop :=
  match phase with
  | .idle => True
  | .running => frames state.history ≠ []
  | .halfway latitude => LatitudeRead latitude state.history

section Steps

variable {state : State} {phase : Phase}

theorem Known.initial : Known State.initial where
  current := fun _ none => nomatch none
  submitted := fun member => nomatch member
  formats := always_nil

/-- What changes neither the frame nor submits `new_fix_work`. -/
theorem Known.mapClient (known : Known state) {change : Client -> Client}
    (samePvt : (change state.client).pvtData = state.client.pvtData)
    (submits : .newFix ∈ (change state.client).work -> .newFix ∈ state.client.work) :
    Known (state.mapClient change) where
  current := fun frame stored => samePvt.trans (known.current frame stored)
  submitted := fun member => known.submitted (submits member)
  formats := known.formats

theorem mem_work_kWorkSubmit {client : Client} {item : WorkItem}
    (member : .newFix ∈ (client.kWorkSubmit item).work) :
    .newFix ∈ client.work ∨ item = .newFix := by
  unfold Client.kWorkSubmit at member
  split at member
  · exact .inl member
  · rcases List.mem_append.mp member with old | new
    · exact .inl old
    · exact .inr (List.mem_singleton.mp new).symm

theorem pvtData_kWorkSubmit (client : Client) (item : WorkItem) :
    (client.kWorkSubmit item).pvtData = client.pvtData := by
  unfold Client.kWorkSubmit
  split <;> rfl

theorem Known.coapPut (known : Known state) :
    Known (state.mapClient fun client => client.kWorkSubmit .coapPut) := by
  apply known.mapClient
  · exact pvtData_kWorkSubmit _ _
  · exact fun member => (mem_work_kWorkSubmit member).resolve_right (fun same => nomatch same)

theorem Known.lteHandler (known : Known state) (status : Option Nat) :
    Known (state.mapClient (lteHandler status)) := by
  unfold GnssCoap.lteHandler
  apply known.mapClient
  · cases status with
    | none => rfl
    | some status =>
        dsimp only
        split
        · split <;> rfl
        · rfl
  · cases status with
    | none => exact id
    | some status =>
        dsimp only
        split
        · split <;> exact id
        · exact id

theorem Known.buttonPressed (known : Known state) {build : Build}
    (real : build.simulateFix = false) (first : Bool) :
    Known (state.mapClient (buttonPressed build first)) := by
  have presses : GnssCoap.buttonPressed build first state.client = state.client ∨
      GnssCoap.buttonPressed build first state.client = state.client.kWorkSubmit .coapPut := by
    unfold GnssCoap.buttonPressed
    rw [real]
    split
    · exact .inr rfl
    · exact .inl rfl
  apply known.mapClient
  · rcases presses with same | submits
    · rw [same]
    · rw [submits]
      exact pvtData_kWorkSubmit _ _
  · rcases presses with same | submits
    · rw [same]
      exact id
    · rw [submits]
      exact fun member => (mem_work_kWorkSubmit member).resolve_right (fun same => nomatch same)

/-- The frame that is stored is the last one. -/
theorem Known.gnssPvt (known : Known state) (err : Int) (frame : Frame) :
    Known (state.gnssPvt err frame) := by
  unfold State.gnssPvt gnssEventHandler
  by_cases fails : err = 0
  · subst fails
    have recorded : frames (state.history ++ [.stored frame]) = frames state.history ++ [frame] :=
      frames_append _ _
    refine ⟨?_, ?_, ?_⟩
    · intro last stored
      change (frames (state.history ++ [.stored frame])).getLast? = some last at stored
      rw [recorded, List.getLast?_concat] at stored
      cases stored
      unfold State.mapClient State.record
      dsimp only
      rw [if_neg (not_not_intro rfl)]
      split
      · exact pvtData_kWorkSubmit _ _
      · rfl
    · intro _
      change frames (state.history ++ [.stored frame]) ≠ []
      rw [recorded]
      exact List.append_ne_nil_of_right_ne_nil _ (List.cons_ne_nil _ _)
    · exact always_concat.mpr ⟨known.formats, fun _ _ same => nomatch same⟩
  · have recorded : frames (state.history ++ [.failed err]) = frames state.history := by
      rw [frames_append]
      exact List.append_nil _
    unfold State.mapClient State.record
    rw [if_neg fails]
    dsimp only
    rw [if_pos fails]
    refine ⟨?_, ?_, always_concat.mpr ⟨known.formats, fun _ _ same => nomatch same⟩⟩
    · dsimp only
      rw [recorded]
      exact known.current
    · dsimp only
      rw [recorded]
      exact known.submitted

theorem Phase.Holds.gnssPvt (holds : phase.Holds state) (err : Int) (frame : Frame) :
    phase.Holds (state.gnssPvt err frame) := by
  have interrupt : (if err = 0 then FixEntry.stored frame else .failed err).byInterrupt = true := by
    split <;> rfl
  cases phase with
  | idle => trivial
  | running =>
      change frames (state.history ++ [_]) ≠ []
      rw [frames_append]
      exact List.append_ne_nil_of_left_ne_nil holds _
  | halfway latitude => exact LatitudeRead.append holds interrupt

/-- Every interrupt keeps what is known, and every phase. -/
theorem Known.handleEvent (known : Known state) (holds : phase.Holds state) {build : Build}
    (real : build.simulateFix = false) {event : Event} (possible : mayInterrupt event = true) :
    Known (handleEvent build event state) ∧ phase.Holds (handleEvent build event state) := by
  cases event with
  | lte status => exact ⟨known.lteHandler status, holds⟩
  | dateTime => exact ⟨known.mapClient rfl id, holds⟩
  | button first second => exact ⟨known.buttonPressed real first, holds⟩
  | gnssPvt err frame => exact ⟨known.gnssPvt err frame, holds.gnssPvt err frame⟩
  | gnssOther => exact ⟨known, holds⟩
  | timer => cases possible
  | work => cases possible

end Steps

/-! ## What the work queue needs and promises -/

def terms : Thread.Terms workThread where
  Phase := Phase
  holds := fun phase _ => phase.Holds
  always := Known
  called := fun _ _ => True
  Ghost := fun _ => Unit
  pre := fun _ _ _ => True
  post := fun _ _ _ _ => True

abbrev WorkSafe (build : Build) {A : Type} (program : WorkProg A) (goal : A -> State -> Prop)
    (state : State) : Prop :=
  program.Safe (setup build).system (terms.contract (setup build)) goal state

section Functions

variable {build : Build} {state : State}

theorem handlers_keep (real : build.simulateFix = false) : terms.HandlersKeep (setup build) := by
  intro _ phase state event known holds possible
  exact known.handleEvent holds real possible

/-- The latitude is read from the last frame, which there is. -/
theorem safe_readLatitude (known : Known state) (stored : frames state.history ≠ []) :
    WorkSafe build readLatitude (fun latitude => (Phase.halfway latitude).Holds) state := by
  have last := List.getLast?_eq_some_getLast stored
  have recorded : frames (state.history ++ [.latitude
      ⟨state.client.pvtData.latitude, (frames state.history).length⟩]) = frames state.history := by
    rw [frames_append]
    exact List.append_nil _
  constructor
  · refine ⟨?_, ?_, always_concat.mpr ⟨known.formats, fun _ _ same => nomatch same⟩⟩
    · dsimp only [State.record]
      rw [recorded]
      exact known.current
    · dsimp only [State.record]
      rw [recorded]
      exact known.submitted
  · refine ⟨state.history, [], _, rfl, fun _ member => absurd member List.not_mem_nil, last, ?_⟩
    dsimp only
    rw [known.current _ last]

/-- The longitude may come from a later frame. -/
theorem safe_readLongitude {latitude : Reading} (known : Known state)
    (read : LatitudeRead latitude state.history) :
    WorkSafe build (readLongitude latitude) (fun _ _ => True) state := by
  have recorded : frames (state.history ++ [.formatted latitude
      ⟨state.client.pvtData.longitude, (frames state.history).length⟩]) =
        frames state.history := by
    rw [frames_append]
    exact List.append_nil _
  refine ⟨⟨?_, ?_, always_concat.mpr ⟨known.formats, ?_⟩⟩, trivial⟩
  · dsimp only [State.record]
    rw [recorded]
    exact known.current
  · dsimp only [State.record]
    rw [recorded]
    exact known.submitted
  · intro _ _ same
    cases same
    exact oneValidFrame_iff read known.current

theorem safe_newFixWorkFn (stored : frames state.history ≠ []) :
    WorkSafe build newFixWorkFn (fun _ _ => True) state := by
  apply Thread.Terms.interrupts_then Phase.running stored
  intro first known stored _
  apply Prog.Safe.andThen (safe_readLatitude known stored)
  intro latitude second read
  apply Thread.Terms.interrupts_then (Phase.halfway latitude) read
  intro third known read _
  apply Prog.Safe.andThen (safe_readLongitude known read)
  intro longitude fourth _
  apply Thread.Terms.reply_then trivial
  intro printed _
  apply Thread.Terms.interrupts_then Phase.idle trivial
  intro fifth known _ _
  have submitted : Known (fifth.mapClient fun client => client.kWorkSubmit .coapPut) :=
    Known.coapPut known
  split
  · exact ⟨submitted, trivial⟩
  · have copied : Known (fifth.mapClient fun client =>
        { client with coapPayload := printed.2.take (MESSAGE_SIZE - 1) }) :=
      Known.mapClient known rfl id
    exact ⟨copied.coapPut, trivial⟩

theorem safe_runOldest (known : Known state) :
    WorkSafe build runOldest (fun _ _ => True) state := by
  apply Prog.get_then known
  split
  · trivial
  · rename_i item later waiting
    have taken : Known (state.mapClient fun client => { client with work := later }) :=
      known.mapClient rfl fun member => waiting ▸ List.mem_cons_of_mem item member
    apply Prog.modify_then taken
    cases item with
    | newFix => exact safe_newFixWorkFn (known.submitted (waiting ▸ List.mem_cons_self))
    | coapPut =>
        apply Thread.Terms.interrupts_then Phase.idle trivial
        intro first known _ _
        apply Thread.Terms.reply_then trivial
        intro left _
        have changed : Known (first.mapClient fun client =>
            { client with nextToken := left.1, coapBuf := left.2 }) :=
          Known.mapClient known rfl id
        exact ⟨changed, trivial⟩

theorem safe_workQueue : WorkSafe build workQueue (fun _ _ => True) state := by
  apply Thread.Terms.interrupts_then Phase.idle trivial
  intro first known _ _
  apply Prog.Safe.andThen (safe_runOldest known)
  intro _ second _
  exact Thread.Terms.safe_invoke () trivial fun _ _ _ _ => trivial

end Functions

/-- In every run, a location that is formatted comes from one frame with a valid
fix if and only if no frame without one had been stored on top of it before the
latitude was read, and none at all before the longitude was. -/
theorem oneValidFrame_iff_undisturbed {build : Build} {current : WorkConfig}
    (real : build.simulateFix = false) (reached : WorkReached build current) :
    Always (AtFormats fun before latitude longitude =>
      (OneValidFrame before latitude longitude <-> Undisturbed before))
      current.state.history := by
  have honours := Thread.Terms.honours (handlers_keep real) fun _ _ _ _ _ => safe_workQueue
  exact (System.always_of_reachable reached honours Known.initial safe_workQueue).formats

/-! ## Without interrupts -/

/-- What `new_fix_work_fn` does with the text that `snprintf` printed. -/
def storeFix (printed : Int × List UInt8) (client : Client) : Client :=
  if printed.1 < 0 then client.kWorkSubmit .coapPut
  else { client with coapPayload := printed.2.take (MESSAGE_SIZE - 1) }.kWorkSubmit .coapPut

/-- `new_fix_work_fn` as one uninterrupted event formats the frame in `pvt_data`. -/
theorem leads_newFixWorkFn_event (lib : CoapLib) (build : Build)
    (allowed : GnssCoap.Point -> Client -> Event -> Prop) (client : Client)
    (printed : Int × List UInt8) :
    GnssCoap.newFixWorkFn.Leads (GnssCoap.setup lib build allowed).system client ()
      (storeFix printed client) := by
  have answers : (GnssCoap.setup lib build allowed).mayReply
      (.snprintf client.pvtData) client printed := trivial
  apply Prog.Leads.andThen (Prog.leads_get _)
  apply Prog.Leads.andThen (Thread.leads_reply answers)
  unfold storeFix
  split
  · exact Prog.leads_modify _
  · exact Prog.leads_modify _

/-- On the work queue it does the same when no interrupt comes in between. -/
theorem leads_newFixWorkFn (build : Build) (state : State) (printed : Int × List UInt8) :
    exists history, newFixWorkFn.Leads (setup build).system state ()
      ⟨storeFix printed state.client, history⟩ := by
  apply Exists.intro
  apply Prog.Leads.andThen (Thread.leads_interrupts trivial)
  apply Prog.Leads.andThen (Prog.leads_perform _)
  apply Prog.Leads.andThen (Thread.leads_interrupts trivial)
  apply Prog.Leads.andThen (Prog.leads_perform _)
  apply Prog.Leads.andThen (@Thread.leads_reply workThread (setup build) _ _ printed trivial)
  apply Prog.Leads.andThen (Thread.leads_interrupts trivial)
  unfold storeFix
  split
  · exact Prog.leads_modify _
  · exact Prog.leads_modify _

/-! ## Two runs -/

instance (before : List FixEntry) (latitude longitude : Reading) :
    Decidable (OneValidFrame before latitude longitude) :=
  decidable_of_iff (latitude.number = longitude.number ∧
    (((frames before).take latitude.number).getLast?.any fun frame =>
      hasFix frame && decide (latitude.value = frame.latitude) &&
        decide (longitude.value = frame.longitude)) = true)
    (by simp [OneValidFrame, Option.any_eq_true, and_assoc])

instance (holds : List FixEntry -> Reading -> Reading -> Prop)
    [forall before latitude longitude, Decidable (holds before latitude longitude)]
    (before : List FixEntry) (entry : FixEntry) : Decidable (AtFormats holds before entry) :=
  match entry with
  | .formatted latitude longitude => decidable_of_iff (holds before latitude longitude)
      ⟨fun here _ _ same => (FixEntry.formatted.inj same).1 ▸ (FixEntry.formatted.inj same).2 ▸ here,
        fun each => each latitude longitude rfl⟩
  | .stored _ | .failed _ | .latitude _ => .isTrue fun _ _ impossible => nomatch impossible

instance (build : Build) (query : ThreadQuery Point WorkCall) (state : State)
    (answer : Thread.Answer workThread query) :
    Decidable ((setup build).system.permitted query state answer) :=
  match query, answer with
  | .next _, none => .isTrue trivial
  | .next _, some event => inferInstanceAs (Decidable (mayInterrupt event = true))
  | .reply _, _ => .isTrue trivial

def realBuild : Build :=
  ⟨false, false⟩

def scriptedFixes (script : List (Sigma (Thread.Answer workThread))) : WorkConfig :=
  (setup realBuild).system.play (I := workThread.interface) 60 script
    ⟨State.initial, workQueue⟩

theorem scriptedFixes_reached (script : List (Sigma (Thread.Answer workThread))) :
    WorkReached realBuild (scriptedFixes script) :=
  (setup realBuild).system.play_reachable 60 script _

/-- A frame is read from the modem while the work queue stands at this point. -/
def readsAt (point : Point) (frame : Frame) : List (Sigma (Thread.Answer workThread)) :=
  [⟨.next point, some (.gnssPvt 0 frame)⟩]

def here : Frame :=
  ⟨100, 200, 1⟩

def nowhere : Frame :=
  ⟨0, 0, 0⟩

/-- The work queue formats the coordinates of a frame with a valid fix, after which
a frame without one is read. -/
def undisturbedRun : WorkConfig :=
  scriptedFixes (readsAt .idle here ++
    [⟨.next .idle, none⟩, ⟨.next .beforeLatitude, none⟩, ⟨.next .beforeLongitude, none⟩] ++
    [⟨.reply (.snprintf 100 200), ((0, []) : Int × List UInt8)⟩] ++ readsAt .beforeStore nowhere)

theorem undisturbedRun_valid :
    (.formatted ⟨100, 1⟩ ⟨200, 1⟩ ∈ undisturbedRun.state.history) ∧
      Always (AtFormats fun before latitude longitude =>
        (OneValidFrame before latitude longitude <-> Undisturbed before))
        undisturbedRun.state.history := by
  constructor
  · decide +kernel
  · exact oneValidFrame_iff_undisturbed rfl (scriptedFixes_reached _)

/-- A frame without a valid fix is read before the work queue gets to the one
with a valid fix. -/
def overwrittenRun : WorkConfig :=
  scriptedFixes (readsAt .idle here ++ readsAt .idle nowhere ++
    [⟨.next .idle, none⟩, ⟨.next .beforeLatitude, none⟩, ⟨.next .beforeLongitude, none⟩])

/-- What is formatted are the coordinates of the frame without a fix. -/
theorem not_always_oneValidFrame :
    ¬ forall build current, build.simulateFix = false -> WorkReached build current ->
      Always (AtFormats OneValidFrame) current.state.history := by
  intro claim
  have valid := claim realBuild overwrittenRun rfl (scriptedFixes_reached _)
  revert valid
  decide +kernel

end Fixes
end GnssCoap
end NrfExamples
