import NrfExamples.Reentrant.Lockstep
import NrfExamples.Uart.Composition
import NrfExamples.Uart.Handed
import NrfExamples.Uart.Quiet

namespace NrfExamples
namespace Uart
namespace Rejected

open Reentrant AdapterProg

/-!
# Runs that differ in the past

The adapter adds to the log and never reads it.  So two runs from worlds that
differ only in the log so far go on in lockstep, and add the same entries, as
long as the client does the same.  No section tells the worlds apart, and no
function does.
-/

variable {App : Type}

/-- The same world with more log behind its own. -/
def behind (world : World App) (old : List Obs) : World App :=
  { world with log := world.log ++ old }

/-! ## What the sections do -/

/-- A section reads nothing of the log and keeps to known buffers. -/
structure Keeps (held : List Pointer) (run : World App -> World App) : Prop where
  blind : forall world old, run (behind world old) = behind (run world) old
  sound : forall world, Sound held world -> Sound held (run world)

/-- So does a section that reports an event, which is about a known buffer, too. -/
structure Reports (held : List Pointer) (run : World App -> Option UartEvent × World App) :
    Prop where
  blind : forall world old, run (behind world old) = ((run world).1, behind (run world).2 old)
  sound : forall world, Sound held world -> Sound held (run world).2
  known : forall world evt, Sound held world -> (run world).1 = some evt ->
    Handed held (run world).2.log (bufferOfEvent evt)

section Sections

variable {held : List Pointer}

@[simp] theorem behind_adapter (world : World App) (old : List Obs) :
    (behind world old).adapter = world.adapter := rfl

@[simp] theorem assertNoMsg_behind (world : World App) (old : List Obs) (what : Assertion)
    (holds : Bool) :
    (behind world old).assertNoMsg what holds = behind (world.assertNoMsg what holds) old := by
  cases holds <;> rfl

@[simp] theorem observe_behind (world : World App) (old : List Obs) (obs : Obs) :
    (behind world old).observe obs = behind (world.observe obs) old := rfl

@[simp] theorem setTx_behind (world : World App) (old : List Obs) (tx : TxData) :
    (behind world old).setTx tx = behind (world.setTx tx) old := rfl

@[simp] theorem setRx_behind (world : World App) (old : List Obs) (rx : RxData) :
    (behind world old).setRx rx = behind (world.setRx rx) old := rfl

@[simp] theorem kTimerStart_behind (world : World App) (old : List Obs) (timeout : Int) :
    (behind world old).kTimerStart timeout = world.kTimerStart timeout := rfl

@[simp] theorem irqTxEnable_behind (world : World App) (old : List Obs) :
    (behind world old).irqTxEnable = behind world.irqTxEnable old := rfl

@[simp] theorem irqTxDisable_behind (world : World App) (old : List Obs) :
    (behind world old).irqTxDisable = behind world.irqTxDisable old := rfl

@[simp] theorem storeBytes_behind (world : World App) (old : List Obs) (pointer : Pointer)
    (bytes : List UInt8) :
    (behind world old).storeBytes pointer bytes = behind (world.storeBytes pointer bytes) old := by
  cases pointer <;> rfl

theorem tx_behind (buf : Pointer) (len : Nat) (timeout : Int) (world : World App)
    (old : List Obs) :
    (behind world old).tx buf len timeout =
      ((world.tx buf len timeout).1, behind (world.tx buf len timeout).2 old) := by
  by_cases empty : len = 0
  · simp [World.tx, empty]
  by_cases busy : world.adapter.tx.buf.isSome
  · simp [World.tx, empty, busy]
  · by_cases forever : timeout = sysForeverMs <;> simp [World.tx, empty, busy, forever]

theorem rxBufRsp_behind (buf : Pointer) (len : Nat) (world : World App) (old : List Obs) :
    (behind world old).rxBufRsp buf len =
      ((world.rxBufRsp buf len).1, behind (world.rxBufRsp buf len).2 old) := by
  by_cases busy : world.adapter.rx.nextBuf.isSome
  · simp [World.rxBufRsp, busy]
  · simp only [World.rxBufRsp, behind_adapter, busy, assertNoMsg_behind]
    rfl

theorem run_behind (call : BufferCall) (world : World App) (old : List Obs) :
    call.run (behind world old) = ((call.run world).1, behind (call.run world).2 old) := by
  cases call with
  | tx buf len timeout => exact tx_behind buf len timeout world old
  | rxEnable buf len timeout => rfl
  | rxBufRsp buf len => exact rxBufRsp_behind buf len world old

theorem notifyRxBuffer_behind (world : World App) (old : List Obs) :
    (behind world old).notifyRxBuffer =
      (world.notifyRxBuffer.1, behind world.notifyRxBuffer.2 old) := by
  by_cases present : world.adapter.rx.buf.isSome
  · by_cases after : world.adapter.rx.currBuf.after world.adapter.rx.lastNotifyBuf <;>
      simp [World.notifyRxBuffer, present, after]
  · simp [World.notifyRxBuffer, present]

theorem txAbort_behind (world : World App) (old : List Obs) :
    (behind world old).txAbort = (world.txAbort.1, behind world.txAbort.2 old) := by
  cases buf : world.adapter.tx.buf with
  | none =>
      have idle : (behind world old).txAbort = (none, _) := World.txAbort_of_idle buf
      rw [idle, World.txAbort_of_idle buf]
      rfl
  | some address =>
      have busy : world.adapter.tx.buf.isSome := by simp [buf]
      have aborted : (behind world old).txAbort = (some _, _) := World.txAbort_of_busy busy
      rw [aborted, World.txAbort_of_busy busy]
      rfl

theorem onTxComplete_behind (world : World App) (old : List Obs) :
    (behind world old).onTxComplete =
      (world.onTxComplete.1, behind world.onTxComplete.2 old) := by
  by_cases finished : world.adapter.tx.sizeLeft = 0
  · cases buf : world.adapter.tx.buf with
    | none =>
        have idle : (behind world old).onTxComplete = (none, _) :=
          World.onTxComplete_of_idle finished buf
        rw [idle, World.onTxComplete_of_idle finished buf]
        rfl
    | some address =>
        have busy : world.adapter.tx.buf.isSome := by simp [buf]
        have done : (behind world old).onTxComplete = (some _, _) :=
          World.onTxComplete_of_busy finished busy
        rw [done, World.onTxComplete_of_busy finished busy]
        simp only [World.completeChecks, behind_adapter, assertNoMsg_behind]
        rfl
  · have unfinished : (behind world old).onTxComplete = (none, _) :=
      World.onTxComplete_of_unfinished finished
    rw [unfinished, World.onTxComplete_of_unfinished finished]

theorem onTxReady_behind (ret : Int) (world : World App) (old : List Obs) :
    (behind world old).onTxReady ret = behind (world.onTxReady ret) old := by
  by_cases nothing : ret ≤ 0
  · simp [World.onTxReady, nothing]
  · simp only [World.onTxReady, nothing, if_false]
    rfl

theorem onRxReadyBegin_behind (world : World App) (old : List Obs) :
    (behind world old).onRxReadyBegin = behind world.onRxReadyBegin old := by
  by_cases forever : world.adapter.rx.timeout = sysForeverMs <;>
    simp [World.onRxReadyBegin, forever]

theorem onRxReadyStore_behind (bytes : List UInt8) (world : World App) (old : List Obs) :
    (behind world old).onRxReadyStore bytes = behind (world.onRxReadyStore bytes) old := by
  simp only [World.onRxReadyStore, behind_adapter, observe_behind, storeBytes_behind,
    assertNoMsg_behind]
  rfl

theorem rxDisable_behind (dev : Device) (world : World App) (old : List Obs) :
    (behind world old).rxDisable dev = behind (world.rxDisable dev) old := by
  cases dev <;> rfl

theorem switchRxBuffer_behind (dev : Device) (world : World App) (old : List Obs) :
    (behind world old).switchRxBuffer dev =
      ((world.switchRxBuffer dev).1, behind (world.switchRxBuffer dev).2 old) := by
  cases dev <;> rfl

theorem bufferOf_of_isMark {obs : Obs} (isMark : obs.isMark = true) : bufferOf obs = none := by
  cases obs with
  | event evt => cases isMark
  | pushed src bytes => cases isMark
  | stored dest bytes => cases isMark
  | _ => rfl

theorem keeps_of_plain {run : World App -> World App} (plain : PlainSection run) :
    Keeps held run := by
  constructor
  · intro world old
    cases plain with
    | checked => exact assertNoMsg_behind world old _ _
    | onTxReady ret => exact onTxReady_behind ret world old
    | onRxReadyBegin => exact onRxReadyBegin_behind world old
    | onRxReadyStore bytes => exact onRxReadyStore_behind bytes world old
    | rxDisable dev => exact rxDisable_behind dev world old
    | _ => rfl
  · intro world sound
    cases plain with
    | mark obs isMark =>
        apply sound.observe
        rw [bufferOf_of_isMark isMark]
        exact handed_none
    | returned call ret => exact sound.observe handed_none
    | checked => exact sound.assertNoMsg _ _
    | onTxReady ret => exact sound.onTxReady ret
    | onRxReadyBegin => exact sound.onRxReadyBegin
    | onRxReadyStore bytes => exact sound.onRxReadyStore bytes
    | rxDisable dev => exact sound.rxDisable dev
    | observeForeign evt => exact sound.silent rfl sound.irq sound.buffers
    | txTimerExpired => exact sound.txTimer none
    | rxTimerExpired => exact sound.rxTimer none
    | elapse ticks => exact sound.silent rfl sound.irq sound.buffers

theorem reports_notifyRxBuffer : Reports held fun world : World App => world.notifyRxBuffer where
  blind := notifyRxBuffer_behind
  sound _ sound := sound.notifyRxBuffer
  known world evt sound made := by
    have after := sound.notifyRxBuffer
    have pending := World.notifyRxBuffer_evt made
    rw [World.notifyRxBuffer_of_unnotified pending] at made after ⊢
    cases made
    exact after.rxBuf

theorem reports_txAbort : Reports held fun world : World App => world.txAbort where
  blind := txAbort_behind
  sound _ sound := sound.txAbort
  known world evt sound made := by
    cases buf : world.adapter.tx.buf with
    | none =>
        rw [World.txAbort_of_idle buf] at made
        cases made
    | some address =>
        rw [World.txAbort_of_busy (by simp [buf])] at made ⊢
        cases made
        exact sound.txBuf

theorem reports_onTxComplete : Reports held fun world : World App => world.onTxComplete where
  blind := onTxComplete_behind
  sound _ sound := sound.onTxComplete
  known world evt sound made := by
    by_cases finished : world.adapter.tx.sizeLeft = 0
    · cases buf : world.adapter.tx.buf with
      | none =>
          rw [World.onTxComplete_of_idle finished buf] at made
          cases made
      | some address =>
          have checked := sound.completeChecks.txBuf
          have same : world.completeChecks.adapter = world.adapter := by
            simp [World.completeChecks]
          rw [same] at checked
          rw [World.onTxComplete_of_busy finished (by simp [buf])] at made ⊢
          cases made
          exact checked
    · rw [World.onTxComplete_of_unfinished finished] at made
      cases made

end Sections

/-! ## What the functions do -/

/-- The two worlds are one but for the log that lies behind. -/
def Alike (held : List Pointer) (first second : List Obs) (left right : World App) : Prop :=
  exists world, Sound held world ∧ left = behind world first ∧ right = behind world second

/-- An event is delivered about a known buffer. -/
def coupling (held : List Pointer) (first second : List Obs) : Coupling (adapterInterface App) where
  alike := Alike held first second
  assumed := fun proc left right =>
    match proc with
    | .userCallback evt =>
        Alike held first second (left.observe (.event evt)) (right.observe (.event evt))
    | _ => True

section Functions

variable {held : List Pointer} {first second : List Obs}

abbrev Couples {B : Type} (held : List Pointer) (first second : List Obs)
    (program : AdapterProg App B) : Prop :=
  Prog.Couples (adapterSystem anything) (coupling held first second) program

abbrev Lockstep {B : Type} (held : List Pointer) (first second : List Obs)
    (program : AdapterProg App B) (left right : World App) : Prop :=
  Prog.Lockstep (adapterSystem anything) (coupling held first second) program left right

abbrev Resumable {B : Type} (held : List Pointer) (first second : List Obs)
    (program : AdapterProg App B) : Prop :=
  Prog.Resumable (adapterSystem anything) (coupling held first second) program

/-- What the client and the targets may do does not depend on the log. -/
theorem permitted_anything (query : Query) (left right : World App) (answer : Answer query)
    (allowed : (adapterSystem anything).permitted query left answer) :
    (adapterSystem anything).permitted query right answer := by
  cases query with
  | client evt => cases answer <;> trivial
  | fifoRead size => cases answer <;> exact allowed
  | next => exact ⟨trivial, fun _ _ => trivial⟩
  | _ => exact allowed

theorem couples_modify {run : World App -> World App} (keeps : Keeps held run) :
    Couples held first second (modify run) := by
  apply Prog.couples_modify
  rintro left right ⟨world, sound, rfl, rfl⟩
  exact ⟨run world, keeps.sound world sound, keeps.blind world first, keeps.blind world second⟩

/-- Anything but the log can be read. -/
theorem couples_get {B : Type} {view : World App -> B}
    (blind : forall world old, view (behind world old) = view world) :
    Couples held first second (get view) := by
  apply Prog.couples_get
  rintro left right ⟨world, _, rfl, rfl⟩
  rw [blind, blind]

theorem couples_ask (query : Query) :
    Couples held first second (ask query : AdapterProg App (Answer query)) := by
  apply Prog.couples_question
  exact fun left right answer _ => permitted_anything query left right answer

theorem couples_invoke (proc : Proc) (unassumed : forall evt, proc ≠ .userCallback evt) :
    Couples held first second (invoke proc : AdapterProg App (Result proc)) := by
  apply Prog.couples_invoke
  intro left right _
  cases proc with
  | userCallback evt => exact absurd rfl (unassumed evt)
  | _ => trivial

theorem lockstep_event {evt : UartEvent} {world : World App} (sound : Sound held world)
    (known : Handed held world.log (bufferOfEvent evt)) :
    Lockstep held first second (userCallback .adapter evt) (behind world first)
      (behind world second) := by
  have delivered : Sound held (world.observe (.event evt)) := sound.observe known
  exact ⟨⟨world, sound, rfl, rfl⟩, ⟨_, delivered, rfl, rfl⟩, fun _ _ _ later => later⟩

theorem resumable_userCallback (dev : Device) (evt : UartEvent) :
    Resumable held first second (userCallback dev evt : AdapterProg App Unit) := by
  cases dev with
  | adapter => exact fun _ => ⟨fun _ _ later => later, trivial⟩
  | target => exact fun _ => trivial

theorem couples_userCallback (dev : Device) {evt : UartEvent} (none : bufferOfEvent evt = none) :
    Couples held first second (userCallback dev evt : AdapterProg App Unit) := by
  cases dev with
  | adapter =>
      constructor
      · rintro left right ⟨world, sound, rfl, rfl⟩
        apply lockstep_event sound
        rw [none]
        exact handed_none
      · exact resumable_userCallback .adapter evt
  | target => exact couples_modify (keeps_of_plain (.observeForeign evt))

/-- A section with its report, and what may follow. -/
theorem couples_reported {B : Type} {run : World App -> Option UartEvent × World App}
    {rest : Option UartEvent -> AdapterProg App B} (reports : Reports held run)
    (lockstep : forall evt left right, Lockstep held first second (deliver evt) left right ->
      Lockstep held first second (rest evt) left right)
    (resumable : forall evt, Resumable held first second (deliver evt : AdapterProg App Unit) ->
      Resumable held first second (rest evt)) :
    Couples held first second (perform run >>= rest) := by
  constructor
  · rintro left right ⟨world, sound, rfl, rfl⟩
    have after := reports.sound world sound
    refine ⟨⟨world, sound, rfl, rfl⟩, ?_, ?_⟩
    · rw [reports.blind, reports.blind]
    · rw [reports.blind, reports.blind]
      apply lockstep
      cases made : (run world).1 with
      | none => exact ⟨_, after, rfl, rfl⟩
      | some evt => exact lockstep_event after (reports.known world evt sound made)
  · intro made
    apply resumable
    cases made with
    | none => trivial
    | some evt => exact resumable_userCallback .adapter evt

theorem couples_notifyRxBuffer :
    Couples held first second (notifyRxBuffer : AdapterProg App Unit) :=
  couples_reported reports_notifyRxBuffer (fun _ _ _ safe => safe) fun _ safe => safe

theorem couples_onTxComplete : Couples held first second (onTxComplete : AdapterProg App Unit) :=
  couples_reported reports_onTxComplete (fun _ _ _ safe => safe) fun _ safe => safe

theorem couples_txAbort : Couples held first second (txAbort : AdapterProg App Int) := by
  apply couples_reported reports_txAbort
  · intro evt left right delivered
    apply delivered.andThen
    exact fun _ _ _ known => known
  · intro evt delivered
    apply delivered.andThen
    exact fun _ => Prog.couples_pure _

/-- The buffer that is released was the adapter's. -/
theorem couples_switched (dev : Device) {rest : AdapterProg App Unit}
    (after : Couples held first second rest) :
    Couples held first second (perform (World.switchRxBuffer dev) >>= fun oldBuf =>
      if oldBuf.isSome then notifyRxBufferRelease dev oldBuf >>= fun _ => rest else rest) := by
  constructor
  · rintro left right ⟨world, sound, rfl, rfl⟩
    have switched := sound.switchRxBuffer dev
    refine ⟨⟨world, sound, rfl, rfl⟩, ?_, ?_⟩
    · rw [switchRxBuffer_behind, switchRxBuffer_behind]
    · rw [switchRxBuffer_behind, switchRxBuffer_behind]
      change Lockstep held first second (if _ then _ else _) _ _
      split
      · refine Prog.Lockstep.andThen ?_ fun _ => after.lockstep
        cases dev with
        | adapter => exact lockstep_event switched sound.rxBuf
        | target =>
            apply (couples_modify (keeps_of_plain (.observeForeign _))).lockstep
            exact ⟨_, switched, rfl, rfl⟩
      · exact after.lockstep _ _ ⟨_, switched, rfl, rfl⟩
  · intro oldBuf
    change Resumable held first second (if _ then _ else _)
    split
    · apply (resumable_userCallback dev _).andThen
      exact fun _ => after
    · exact after.resumable

theorem couples_switchRxBuffer (dev : Device) (requestNew : Bool) :
    Couples held first second (switchRxBuffer dev requestNew : AdapterProg App Unit) := by
  cases requestNew with
  | true => exact couples_switched dev (couples_userCallback dev rfl)
  | false => exact couples_switched dev (Prog.couples_pure _)

theorem bufferOf_called (call : BufferCall) {log : List Obs} :
    Handed held (.called call.apiCall :: log) (bufferOfCall call.apiCall) := by
  intro address present
  exact .inr ⟨call.apiCall, address, List.mem_cons_self, present, rfl⟩

theorem couples_bufferCall (call : BufferCall) :
    Couples held first second (apiCall call.apiCall : AdapterProg App Int) := by
  have sections : (apiCall call.apiCall : AdapterProg App Int) = (do
      modify fun world => world.observe (.called call.apiCall)
      let ret <- perform call.run
      modify fun world => world.observe (.returned call.apiCall ret world.now)
      pure ret) := by
    cases call <;> rfl
  rw [sections]
  constructor
  · rintro left right ⟨world, sound, rfl, rfl⟩
    have called : Sound held (world.observe (.called call.apiCall)) := sound.observe handed_none
    have ran := called.run call (bufferOf_called call)
    have returned : forall ret time, Sound held
        ((call.run (world.observe (.called call.apiCall))).2.observe
          (.returned call.apiCall ret time)) := fun ret time => ran.observe handed_none
    refine ⟨⟨world, sound, rfl, rfl⟩, rfl, ⟨_, called, rfl, rfl⟩, ?_, ?_⟩
    · dsimp only
      rw [observe_behind, observe_behind, run_behind, run_behind]
    · dsimp only
      rw [observe_behind, observe_behind, run_behind, run_behind]
      exact ⟨⟨_, ran, rfl, rfl⟩, rfl, ⟨_, returned _ _, rfl, rfl⟩⟩
  · exact fun _ _ _ => trivial

/-- Everything but the loops of `on_rx_ready`. -/
abbrev composed (held : List Pointer) (first second : List Obs) : Composition App where
  Holds program := Couples held first second program
  result := Prog.couples_pure
  andThen _ _ := Prog.Couples.andThen
  reading _ := couples_get fun _ _ => rfl
  readingBuf dev := couples_get fun _ _ => by cases dev <;> rfl
  plain _ plain := couples_modify (keeps_of_plain plain)
  question := couples_ask
  calling proc unassumed _ := couples_invoke proc unassumed
  disabled dev := couples_userCallback dev rfl
  stopped _ := couples_userCallback .adapter rfl
  notifying := couples_notifyRxBuffer
  completing := couples_onTxComplete
  aborting := couples_txAbort
  switching := couples_switchRxBuffer
  direct call isDirect := by
    cases call with
    | tx buf len timeout => exact couples_bufferCall (.tx buf len timeout)
    | rxEnable buf len timeout => exact couples_bufferCall (.rxEnable buf len timeout)
    | rxBufRsp buf len => exact couples_bufferCall (.rxBufRsp buf len)
    | txAbort => cases isDirect
    | rxDisable => cases isDirect

theorem couples_dropLoop : Couples held first second (dropLoop : AdapterProg App Unit) := by
  apply (couples_ask (.fifoRead 1)).andThen
  intro ret
  apply (couples_modify (keeps_of_plain (.mark _ rfl))).andThen
  intro _
  split
  · exact couples_invoke _ fun _ => nofun
  · exact Prog.couples_pure _

theorem couples_onRxReadyRead (notifyNow : Bool) :
    Couples held first second (onRxReadyRead notifyNow : AdapterProg App Bool) := by
  apply (couples_get fun _ _ => rfl).andThen
  intro sizeLeft
  split
  · apply (couples_invoke .dropLoop fun _ => nofun).andThen
    exact fun _ => Prog.couples_pure _
  · apply (couples_ask (.fifoRead sizeLeft)).andThen
    intro ret
    apply (couples_modify (keeps_of_plain (.onRxReadyStore _))).andThen
    intro _
    apply (couples_get fun _ _ => rfl).andThen
    intro timeout
    dsimp only
    split
    · exact couples_invoke _ fun _ => nofun
    · exact Prog.couples_pure _

theorem couples_onRxReadyLoop (notifyNow : Bool) :
    Couples held first second (onRxReadyLoop notifyNow : AdapterProg App Bool) := by
  apply (couples_get fun _ _ => rfl).andThen
  intro sizeLeft
  split
  · apply couples_notifyRxBuffer.andThen
    intro _
    apply (couples_switchRxBuffer .adapter true).andThen
    exact fun _ => couples_onRxReadyRead false
  · exact couples_onRxReadyRead notifyNow

/-- What follows the delivery of an event. -/
theorem couples_callback (evt : UartEvent) : Couples held first second (do
    (invoke (.client evt) : AdapterProg App Unit)
    modify fun world => world.observe .callbackReturned) := by
  apply (couples_invoke (.client evt) fun _ => nofun).andThen
  exact fun _ => couples_modify (keeps_of_plain (.mark .callbackReturned rfl))

end Functions

theorem couples (held : List Pointer) (first second : List Obs) :
    (adapterSystem (anything : Policy App)).Couples (coupling held first second) := by
  constructor
  · intro proc left right known assumed
    cases proc with
    | environment => exact (composed held first second).holds_environment.lockstep _ _ known
    | handler handler =>
        exact ((composed held first second).holds_handle handler).lockstep _ _ known
    | userCallback evt => exact ⟨known, rfl, (couples_callback evt).lockstep _ _ assumed⟩
    | client evt => exact ((composed held first second).holds_anyClient evt).lockstep _ _ known
    | rxDisableLoop dev =>
        exact ((composed held first second).holds_rxDisableLoop dev).lockstep _ _ known
    | onRxReadyLoop notifyNow => exact (couples_onRxReadyLoop notifyNow).lockstep _ _ known
    | dropLoop => exact couples_dropLoop.lockstep _ _ known
  · intro proc
    cases proc with
    | environment => exact (composed held first second).holds_environment.resumable
    | handler handler => exact ((composed held first second).holds_handle handler).resumable
    | userCallback evt => exact fun _ => (couples_callback evt).resumable
    | client evt => exact ((composed held first second).holds_anyClient evt).resumable
    | rxDisableLoop dev => exact ((composed held first second).holds_rxDisableLoop dev).resumable
    | onRxReadyLoop notifyNow => exact (couples_onRxReadyLoop notifyNow).resumable
    | dropLoop => exact couples_dropLoop.resumable

end Rejected
end Uart
end NrfExamples
