import NrfExamples.Uart.AdapterRuns

namespace NrfExamples
namespace Uart

open Reentrant

/-!
# Transmission

What transmission should be is easy to say: transfers follow one another, each
of them is accepted, then pushed to the target chunk by chunk from its first
byte on, then ended by one event.  `Transfer` is that history of one transfer.
The results below say that the part of the log that concerns transmission is a
sequence of such histories, the last one perhaps unfinished, and that the four
fields of the transmit half describe exactly the unfinished one.
-/

variable {App : Type}

/-- What the log says about transmission. -/
inductive TxItem
  | accepted (buf : Pointer) (len : Nat)
  | pushed (src : Pointer) (bytes : List UInt8)
  | done (buf : Pointer) (len : Nat)
  | aborted (buf : Pointer) (len : Nat)
  deriving DecidableEq, Repr

/-- A call of `tx` is accepted if it returned 0 and there is something to send. -/
def txItem : Obs -> Option TxItem
  | .returned (.tx buf len _) ret _ => if ret = 0 ∧ len ≠ 0 then some (.accepted buf len) else none
  | .pushed src bytes => some (.pushed src bytes)
  | .event (.txDone buf len) => some (.done buf len)
  | .event (.txAborted buf len) => some (.aborted buf len)
  | _ => none

/-- The transmit history, oldest first. -/
def txTrace (log : List Obs) : List TxItem :=
  log.reverse.filterMap txItem

theorem txTrace_cons (obs : Obs) (log : List Obs) :
    txTrace (obs :: log) = txTrace log ++ (txItem obs).toList := by
  cases item : txItem obs <;> simp [txTrace, List.filterMap_append, item]

/-- Everything the target accepted, in order. -/
def pushedBytes (trace : List TxItem) : List UInt8 :=
  trace.flatMap fun item =>
    match item with
    | .pushed _ bytes => bytes
    | _ => []

/-- The accepted calls, in order. -/
def acceptedCalls (trace : List TxItem) : List (Pointer × Nat) :=
  trace.filterMap fun item =>
    match item with
    | .accepted buf len => some (buf, len)
    | _ => none

/-- The terminal events, in order. -/
def terminalEvents (trace : List TxItem) : List TxItem :=
  trace.filter fun item =>
    match item with
    | .done _ _ | .aborted _ _ => true
    | _ => false

/-! ## The history of one transfer -/

/-- One transfer: its buffer, and the chunks the target accepted so far. -/
structure Transfer where
  buf : Pointer
  len : Nat
  chunks : List (List UInt8)

namespace Transfer

def sent (transfer : Transfer) : Nat :=
  transfer.chunks.flatten.length

/-- The pushes of consecutive chunks, each from where the previous one ended. -/
def pushes (src : Pointer) : List (List UInt8) -> List TxItem
  | [] => []
  | chunk :: chunks => .pushed src chunk :: pushes (src.advance chunk.length) chunks

/-- The history of a transfer that is in progress. -/
def openTrace (transfer : Transfer) : List TxItem :=
  .accepted transfer.buf transfer.len :: pushes transfer.buf transfer.chunks

/-- What was pushed is the beginning of the buffer, and not more than its length. -/
structure Genuine (world : World App) (transfer : Transfer) : Prop where
  hasBuf : transfer.buf.isSome
  nonempty : transfer.len ≠ 0
  bytes : transfer.chunks.flatten = world.bytesAt transfer.buf transfer.sent
  within : transfer.sent ≤ transfer.len
  progress : [] ∉ transfer.chunks

theorem pushes_append (src : Pointer) (chunks : List (List UInt8)) (chunk : List UInt8) :
    pushes src (chunks ++ [chunk]) =
      pushes src chunks ++ [.pushed (src.advance chunks.flatten.length) chunk] := by
  induction chunks generalizing src with
  | nil => simp [pushes]
  | cons head chunks inductionHypothesis => simp [pushes, inductionHypothesis]

theorem pushedBytes_pushes (src : Pointer) (chunks : List (List UInt8)) :
    pushedBytes (pushes src chunks) = chunks.flatten := by
  induction chunks generalizing src with
  | nil => rfl
  | cons chunk chunks inductionHypothesis =>
      simpa [pushes, pushedBytes] using inductionHypothesis (src.advance chunk.length)

end Transfer

/-- A transfer and the event that ended it. -/
structure FinishedTransfer where
  transfer : Transfer
  aborted : Bool

namespace FinishedTransfer

def terminal (finished : FinishedTransfer) : TxItem :=
  if finished.aborted then .aborted finished.transfer.buf finished.transfer.sent
  else .done finished.transfer.buf finished.transfer.sent

def trace (finished : FinishedTransfer) : List TxItem :=
  finished.transfer.openTrace ++ [finished.terminal]

/-- A transfer that was not aborted has been sent in full. -/
structure Exact (world : World App) (finished : FinishedTransfer) : Prop where
  genuine : finished.transfer.Genuine world
  full : finished.aborted = false -> finished.transfer.sent = finished.transfer.len

end FinishedTransfer

/-! ## What a history says -/

section Projections

theorem pushedBytes_append (first second : List TxItem) :
    pushedBytes (first ++ second) = pushedBytes first ++ pushedBytes second :=
  List.flatMap_append

theorem acceptedCalls_append (first second : List TxItem) :
    acceptedCalls (first ++ second) = acceptedCalls first ++ acceptedCalls second :=
  List.filterMap_append

theorem terminalEvents_append (first second : List TxItem) :
    terminalEvents (first ++ second) = terminalEvents first ++ terminalEvents second :=
  List.filter_append _ _

theorem pushedBytes_flatMap {A : Type} (items : List A) (trace : A -> List TxItem) :
    pushedBytes (items.flatMap trace) = items.flatMap fun item => pushedBytes (trace item) :=
  List.flatMap_assoc

theorem acceptedCalls_flatMap {A : Type} (items : List A) (trace : A -> List TxItem) :
    acceptedCalls (items.flatMap trace) = items.flatMap fun item => acceptedCalls (trace item) :=
  List.filterMap_flatMap

theorem terminalEvents_flatMap {A : Type} (items : List A) (trace : A -> List TxItem) :
    terminalEvents (items.flatMap trace) = items.flatMap fun item => terminalEvents (trace item) :=
  List.filter_flatMap

namespace Transfer

theorem acceptedCalls_pushes (src : Pointer) (chunks : List (List UInt8)) :
    acceptedCalls (pushes src chunks) = [] := by
  induction chunks generalizing src with
  | nil => rfl
  | cons chunk chunks inductionHypothesis => exact inductionHypothesis (src.advance chunk.length)

theorem terminalEvents_pushes (src : Pointer) (chunks : List (List UInt8)) :
    terminalEvents (pushes src chunks) = [] := by
  induction chunks generalizing src with
  | nil => rfl
  | cons chunk chunks inductionHypothesis => exact inductionHypothesis (src.advance chunk.length)

@[simp] theorem acceptedCalls_openTrace (transfer : Transfer) :
    acceptedCalls transfer.openTrace = [(transfer.buf, transfer.len)] :=
  congrArg (List.cons _) (acceptedCalls_pushes transfer.buf transfer.chunks)

@[simp] theorem terminalEvents_openTrace (transfer : Transfer) :
    terminalEvents transfer.openTrace = [] :=
  terminalEvents_pushes transfer.buf transfer.chunks

@[simp] theorem pushedBytes_openTrace (transfer : Transfer) :
    pushedBytes transfer.openTrace = transfer.chunks.flatten :=
  pushedBytes_pushes transfer.buf transfer.chunks

end Transfer

namespace FinishedTransfer

@[simp] theorem acceptedCalls_trace (finished : FinishedTransfer) :
    acceptedCalls finished.trace = [(finished.transfer.buf, finished.transfer.len)] := by
  rcases finished with ⟨transfer, aborted⟩
  cases aborted <;> simp [trace, acceptedCalls_append, terminal] <;> rfl

@[simp] theorem terminalEvents_trace (finished : FinishedTransfer) :
    terminalEvents finished.trace = [finished.terminal] := by
  rcases finished with ⟨transfer, aborted⟩
  cases aborted <;> simp [trace, terminalEvents_append, terminal] <;> rfl

@[simp] theorem pushedBytes_trace (finished : FinishedTransfer) :
    pushedBytes finished.trace = finished.transfer.chunks.flatten := by
  rcases finished with ⟨transfer, aborted⟩
  cases aborted <;> simp [trace, pushedBytes_append, terminal] <;> rfl

end FinishedTransfer

end Projections

/-! ## The invariant -/

/-- A call that transmits, from a buffer that is not NULL. -/
def transmits : ApiCall -> Prop
  | .tx buf _ _ => buf.isSome
  | .txAbort => True
  | _ => False

instance (call : ApiCall) : Decidable (transmits call) :=
  match call with
  | .tx buf _ _ => inferInstanceAs (Decidable (buf.isSome = true))
  | .txAbort => .isTrue trivial
  | .rxEnable _ _ _ | .rxBufRsp _ _ | .rxDisable => .isFalse id

/-- The client only transmits. -/
abbrev txOnly : Policy App := .calling fun _ => transmits

/-- The transmit half of the data describes the transfer in progress. -/
def Describes (world : World App) (tx : TxData) : Option Transfer -> Prop
  | none => tx.buf = none ∧ tx.sizeLeft = 0 ∧ tx.enabled = false
  | some transfer => transfer.Genuine world ∧ tx.buf = transfer.buf ∧
      tx.currBuf = transfer.buf.advance transfer.sent ∧
      tx.sizeLeft + transfer.sent = transfer.len ∧ tx.enabled = true

/-- The transmit history consists of whole transfers and the one in progress. -/
structure TxHistory (world : World App) (trace : List TxItem)
    (finished : List FinishedTransfer) (current : Option Transfer) : Prop where
  segments : trace = finished.flatMap FinishedTransfer.trace ++
    current.toList.flatMap Transfer.openTrace
  each : forall item, item ∈ finished -> item.Exact world
  describes : Describes world world.adapter.tx current

/-- Nothing is received, and the log is explained by the state. -/
structure TxInv (world : World App) : Prop where
  disabled : world.adapter.rx.enabled = false
  noBuffer : world.adapter.rx.buf = none
  history : exists finished current,
    TxHistory world (txTrace world.log) finished current

section Frame

variable {world later : World App}

theorem Transfer.Genuine.frame {transfer : Transfer} (genuine : transfer.Genuine world)
    (memory : later.memory = world.memory) : transfer.Genuine later :=
  { genuine with bytes := by rw [World.bytesAt_congr memory]; exact genuine.bytes }

theorem FinishedTransfer.Exact.frame {finished : FinishedTransfer} (holds : finished.Exact world)
    (memory : later.memory = world.memory) : finished.Exact later :=
  { holds with genuine := holds.genuine.frame memory }

theorem Describes.frame {tx : TxData} {current : Option Transfer}
    (describes : Describes world tx current) (memory : later.memory = world.memory) :
    Describes later tx current := by
  cases current with
  | none => exact describes
  | some transfer => exact ⟨describes.1.frame memory, describes.2⟩

/-- While nothing is being sent, there is no transfer in progress. -/
theorem Describes.idle {tx : TxData} {current : Option Transfer}
    (describes : Describes world tx current) (idle : tx.buf = none) : current = none := by
  cases current with
  | none => rfl
  | some transfer =>
      rcases describes with ⟨genuine, buf, _⟩
      exact absurd genuine.hasBuf (by simp [← buf, idle])

/-- A section that leaves transmission alone keeps the invariant. -/
theorem TxInv.frame (holds : TxInv world)
    (enabled : later.adapter.rx.enabled = world.adapter.rx.enabled)
    (buf : later.adapter.rx.buf = world.adapter.rx.buf) (memory : later.memory = world.memory)
    (trace : txTrace later.log = txTrace world.log)
    (tx : forall current, Describes world world.adapter.tx current ->
      Describes world later.adapter.tx current) : TxInv later := by
  rcases holds with ⟨disabled, noBuffer, finished, current, segments, each, describes⟩
  refine ⟨enabled.trans disabled, buf.trans noBuffer, finished, current, ?_⟩
  exact ⟨trace.trans segments, fun item member => (each item member).frame memory,
    (tx current describes).frame memory⟩

/-- An entry in the log that is not about transmission. -/
theorem TxInv.observe (holds : TxInv world) {obs : Obs} (item : txItem obs = none) :
    TxInv (world.observe obs) :=
  holds.frame rfl rfl rfl (by simp [txTrace_cons, item]) fun _ describes => describes

end Frame

/-! ## One lemma for each section that transmits -/

namespace TxInv

variable {world : World App}

/-- A call that is accepted starts a history; any other call changes nothing. -/
theorem tx (holds : TxInv world) (buf : Pointer) (len : Nat) (timeout : Int)
    (present : buf.isSome) :
    TxInv (world.directCall (.tx buf len timeout) (World.tx buf len timeout)) := by
  rcases world.directCall_tx_cases buf len timeout with ⟨ret, empty, same⟩ | ⟨nonempty, idle, same⟩
  · rw [same]
    apply (holds.observe rfl).observe
    simp only [txItem, ite_eq_right_iff, reduceCtorEq, imp_false, not_and, not_not]
    exact empty
  · rw [same]
    rcases holds with ⟨disabled, noBuffer, finished, current, segments, each, describes⟩
    have noTransfer := describes.idle idle
    subst noTransfer
    refine ⟨disabled, noBuffer, finished, some ⟨buf, len, []⟩, ?_, fun item member =>
        (each item member).frame rfl, ?_⟩
    · simp [txTrace_cons, txItem, nonempty, segments, Transfer.openTrace, Transfer.pushes]
    · have genuine : Transfer.Genuine world ⟨buf, len, []⟩ :=
        ⟨present, nonempty, by cases buf <;> rfl, Nat.zero_le _, List.not_mem_nil⟩
      exact ⟨genuine.frame rfl, rfl, by simp [Transfer.sent], by simp [Transfer.sent], rfl⟩

/-- A chunk that the target accepts is the next stretch of the buffer. -/
theorem txReady (holds : TxInv world) (ret : Int) (unfinished : world.adapter.tx.sizeLeft ≠ 0)
    (within : ret ≤ (world.adapter.tx.sizeLeft : Int)) :
    TxInv ((world.assertNoMsg .txCurrBufSet world.adapter.tx.currBuf.isSome).onTxReady ret) := by
  have asserted : TxInv (world.assertNoMsg .txCurrBufSet world.adapter.tx.currBuf.isSome) := by
    cases world.adapter.tx.currBuf.isSome with
    | true => exact holds
    | false => exact holds.observe rfl
  by_cases refused : ret ≤ 0
  · simpa only [World.onTxReady, refused, if_true] using asserted
  rcases holds with ⟨disabled, noBuffer, finished, current, segments, each, describes⟩
  cases current with
  | none => exact absurd describes.2.1 unfinished
  | some transfer =>
      rcases describes with ⟨genuine, buf, currBuf, sizeLeft, enabled⟩
      have present : world.adapter.tx.currBuf.isSome := by
        rw [currBuf, Pointer.isSome_advance]
        exact genuine.hasBuf
      let count := ret.toNat
      let chunk := world.bytesAt world.adapter.tx.currBuf count
      have length : chunk.length = count := World.bytesAt_length _ _ _ present
      have positive : count ≠ 0 := by omega
      have sent : Transfer.sent ⟨transfer.buf, transfer.len, transfer.chunks ++ [chunk]⟩ =
          transfer.sent + count := by
        simp [Transfer.sent, length]
      have extended : Transfer.Genuine world
          ⟨transfer.buf, transfer.len, transfer.chunks ++ [chunk]⟩ := by
        refine ⟨genuine.hasBuf, genuine.nonempty, ?_, ?_, ?_⟩
        · rw [sent, World.bytesAt_add, ← genuine.bytes, ← currBuf]
          simp [chunk]
        · rw [sent]
          change transfer.sent + count ≤ transfer.len
          omega
        · have := genuine.progress
          simp [this, ← List.length_eq_zero_iff, length, positive]
      have same : (world.assertNoMsg .txCurrBufSet world.adapter.tx.currBuf.isSome).onTxReady ret =
          (world.observe (.pushed world.adapter.tx.currBuf chunk)).setTx
            { world.adapter.tx with
              currBuf := world.adapter.tx.currBuf.advance count
              sizeLeft := world.adapter.tx.sizeLeft - count } := by
        simp [World.onTxReady, refused, present, chunk, count]
      rw [same]
      refine ⟨disabled, noBuffer, finished, some _, ?_, fun item member =>
        (each item member).frame rfl, extended.frame rfl, buf, ?_, ?_, enabled⟩
      · simp [txTrace_cons, txItem, segments, Transfer.openTrace, Transfer.pushes_append,
          currBuf, Transfer.sent]
      · simp [sent, currBuf]
      · rw [sent]
        change world.adapter.tx.sizeLeft - count + (transfer.sent + count) = transfer.len
        omega

/-- The event that ends a transfer closes its history. -/
theorem finish (holds : TxInv world) (aborted : Bool) {timer : Option Nat} {evt : UartEvent}
    (busy : world.adapter.tx.buf.isSome)
    (item : txItem (.event evt) = some (if aborted then
        .aborted world.adapter.tx.buf (world.adapter.tx.currBuf.diff world.adapter.tx.buf)
      else .done world.adapter.tx.buf (world.adapter.tx.currBuf.diff world.adapter.tx.buf)))
    (full : aborted = false -> world.adapter.tx.sizeLeft = 0) :
    TxInv ((world.txIdle timer).observe (.event evt)) := by
  rcases holds with ⟨disabled, noBuffer, finished, current, segments, each, describes⟩
  cases current with
  | none => exact absurd busy (by simp [describes.1])
  | some transfer =>
      rcases describes with ⟨genuine, buf, currBuf, sizeLeft, enabled⟩
      have distance : world.adapter.tx.currBuf.diff world.adapter.tx.buf = transfer.sent := by
        rw [currBuf, buf, Pointer.diff_advance_self _ _ genuine.hasBuf]
      refine ⟨disabled, noBuffer, finished ++ [⟨transfer, aborted⟩], none, ?_, ?_, rfl, rfl, rfl⟩
      · rw [distance, buf] at item
        simp [txTrace_cons, item, World.txIdle, segments, FinishedTransfer.trace,
          FinishedTransfer.terminal]
      · intro item member
        rcases List.mem_append.mp member with old | new
        · exact (each item old).frame rfl
        · rw [List.mem_singleton.mp new]
          refine ⟨genuine.frame rfl, fun complete => ?_⟩
          have := full complete
          change transfer.sent = transfer.len
          omega

theorem aborted (holds : TxInv world) {evt : UartEvent} (made : world.txAbort.1 = some evt) :
    TxInv (world.txAbort.2.observe (.event evt)) := by
  by_cases busy : world.adapter.tx.buf.isSome
  · rw [World.txAbort_of_busy busy] at made ⊢
    cases made
    exact holds.finish true busy rfl (by simp)
  · rw [World.txAbort_of_idle (by simpa using busy)] at made
    cases made

theorem notAborted (holds : TxInv world) (made : world.txAbort.1 = none) :
    TxInv world.txAbort.2 := by
  by_cases busy : world.adapter.tx.buf.isSome
  · rw [World.txAbort_of_busy busy] at made
    cases made
  · have idle : world.adapter.tx.buf = none := by simpa using busy
    rw [World.txAbort_of_idle idle]
    refine holds.frame rfl rfl rfl rfl fun current describes => ?_
    have noTransfer := describes.idle idle
    subst noTransfer
    exact ⟨describes.1, describes.2.1, rfl⟩

/-- While a transfer is in progress, the checks of `on_tx_complete` succeed. -/
theorem completeChecks (holds : TxInv world) (busy : world.adapter.tx.buf.isSome) :
    world.completeChecks = world := by
  rcases holds with ⟨_, _, _, current, _, _, describes⟩
  cases current with
  | none => exact absurd busy (by simp [describes.1])
  | some transfer =>
      rcases describes with ⟨genuine, buf, currBuf, _, _⟩
      rcases Option.isSome_iff_exists.mp genuine.hasBuf with ⟨address, same⟩
      simp [World.completeChecks, currBuf, buf, same, Pointer.advance, Pointer.atOrAfter]

theorem completed (holds : TxInv world) {evt : UartEvent}
    (made : world.onTxComplete.1 = some evt) :
    TxInv (world.onTxComplete.2.observe (.event evt)) := by
  by_cases finished : world.adapter.tx.sizeLeft = 0
  · by_cases busy : world.adapter.tx.buf.isSome
    · rw [World.onTxComplete_of_busy finished busy, holds.completeChecks busy] at made ⊢
      cases made
      exact holds.finish false busy rfl fun _ => finished
    · rw [World.onTxComplete_of_idle finished (by simpa using busy)] at made
      cases made
  · rw [World.onTxComplete_of_unfinished finished] at made
    cases made

theorem notCompleted (holds : TxInv world) (made : world.onTxComplete.1 = none) :
    TxInv world.onTxComplete.2 := by
  by_cases finished : world.adapter.tx.sizeLeft = 0
  · by_cases busy : world.adapter.tx.buf.isSome
    · rw [World.onTxComplete_of_busy finished busy] at made
      cases made
    · have idle : world.adapter.tx.buf = none := by simpa using busy
      rw [World.onTxComplete_of_idle finished idle]
      refine holds.frame rfl rfl rfl rfl fun current describes => ?_
      have noTransfer := describes.idle idle
      subst noTransfer
      exact ⟨describes.1, describes.2.1, rfl⟩
  · rw [World.onTxComplete_of_unfinished finished]
    exact holds

/-- Without a receive buffer there is nothing to notify. -/
theorem notifyRxBuffer (holds : TxInv world) : world.notifyRxBuffer = (none, world) := by
  simp [World.notifyRxBuffer, holds.noBuffer]

end TxInv

/-! ## Runs -/

/-- The invariant at every moment, with a context that says whether the loop of
`on_rx_ready` is running or reception is being disabled.  Neither ever happens. -/
def transmission : CallbackInvariant (txOnly : Policy App) Bool where
  Inv := fun receiving world => receiving = false ∧ TxInv world
  idle := false
  inLoop := true
  inCallback := id
  inDisable := fun _ => true
  flushed := id
  tx := fun _ _ buf len timeout holds allowed => ⟨holds.1, holds.2.tx buf len timeout allowed⟩
  rxEnable := fun _ _ _ _ _ _ _ allowed => allowed.elim
  rxBufRsp := fun _ _ _ _ _ _ allowed => allowed.elim
  txAbortCalled := fun _ _ holds _ => ⟨holds.1, holds.2.observe rfl⟩
  txAbortNone := fun _ _ holds made => ⟨holds.1, holds.2.notAborted made⟩
  txAborted := fun _ _ _ holds made => ⟨holds.1, holds.2.aborted made⟩
  returned := fun _ _ call _ _ holds which =>
    ⟨holds.1, holds.2.observe (by rcases which with rfl | rfl <;> rfl)⟩
  leave := fun _ _ _ holds _ => ⟨holds.1, holds.2.observe rfl⟩
  rxDisableBegin := fun _ _ _ allowed => allowed.elim
  rxDisableSwitch := fun _ _ holds _ => absurd holds.1 (by decide)
  rxDisabled := fun _ _ holds _ => absurd holds.1 (by decide)
  notified := fun _ _ _ holds made => by
    rw [holds.2.notifyRxBuffer] at made
    cases made
  notifiedNone := fun _ _ holds _ => by
    rw [holds.2.notifyRxBuffer]
    exact holds
  unflushed := fun _ _ holds => holds
  onRxReadyBegin := fun _ holds enabled => absurd (holds.2.disabled.symm.trans enabled) (by decide)
  switched := fun _ holds _ => absurd holds.1 (by decide)
  switchedNone := fun _ holds _ => absurd holds.1 (by decide)
  requested := fun _ holds => absurd holds.1 (by decide)
  stored := fun _ _ holds _ _ => absurd holds.1 (by decide)
  dropped := fun _ _ holds _ => absurd holds.1 (by decide)
  onRxReadyEnd := fun _ holds => absurd holds.1 (by decide)
  txReady := fun _ ret holds unfinished within => ⟨rfl, holds.2.txReady ret unfinished within⟩
  txCompleted := fun _ _ holds made => ⟨rfl, holds.2.completed made⟩
  txCompletedNone := fun _ holds made => ⟨rfl, holds.2.notCompleted made⟩
  stopped := fun _ _ holds => ⟨rfl, holds.2.observe rfl⟩
  targetData := fun _ _ holds => ⟨rfl, holds.2.frame rfl rfl rfl rfl fun _ same => same⟩
  foreignEvent := fun _ _ holds => ⟨rfl, holds.2.frame rfl rfl rfl rfl fun _ same => same⟩
  txTimer := fun _ holds _ => ⟨rfl, holds.2.frame rfl rfl rfl rfl fun current same => by
    cases current <;> exact same⟩
  rxTimer := fun _ holds _ => ⟨rfl, holds.2.frame rfl rfl rfl rfl fun _ same => same⟩
  elapsed := fun _ _ holds => ⟨rfl, holds.2.frame rfl rfl rfl rfl fun _ same => same⟩

theorem txInv_initial (target : AdapterData) (memory : Nat -> Nat -> UInt8) (app : App) :
    TxInv (World.initial target memory app) :=
  ⟨rfl, rfl, [], none, rfl, by simp, rfl, rfl, rfl⟩

section Histories

variable {world : World App} {trace : List TxItem} {finished : List FinishedTransfer}
  {pending : Option Transfer} (history : TxHistory world trace finished pending)

include history

theorem TxHistory.acceptedCalls_eq : acceptedCalls trace =
    (finished.map FinishedTransfer.transfer ++ pending.toList).map
      fun transfer => (transfer.buf, transfer.len) := by
  rw [history.segments, acceptedCalls_append, acceptedCalls_flatMap, acceptedCalls_flatMap]
  simp [List.map_eq_flatMap, List.flatMap_assoc]

theorem TxHistory.terminalEvents_eq :
    terminalEvents trace = finished.map FinishedTransfer.terminal := by
  rw [history.segments, terminalEvents_append, terminalEvents_flatMap, terminalEvents_flatMap]
  simp [List.map_eq_flatMap]

theorem TxHistory.pushedBytes_eq : pushedBytes trace =
    (finished.map FinishedTransfer.transfer ++ pending.toList).flatMap
      fun transfer => world.bytesAt transfer.buf transfer.sent := by
  have genuine : forall transfer, transfer ∈ finished.map FinishedTransfer.transfer ++
      pending.toList -> transfer.Genuine world := by
    intro transfer member
    rcases List.mem_append.mp member with old | current
    · rcases List.mem_map.mp old with ⟨item, inFinished, rfl⟩
      exact (history.each item inFinished).genuine
    · have describes := history.describes
      rw [Option.mem_toList.mp current] at describes
      exact describes.1
  have chunks : pushedBytes trace =
      (finished.map FinishedTransfer.transfer ++ pending.toList).flatMap
        fun transfer => transfer.chunks.flatten := by
    rw [history.segments, pushedBytes_append, pushedBytes_flatMap, pushedBytes_flatMap]
    simp [List.flatMap_map]
  exact chunks.trans (List.flatMap_congr fun transfer member => (genuine transfer member).bytes)

theorem TxHistory.buf : world.adapter.tx.buf = pending.bind Transfer.buf := by
  have describes := history.describes
  cases pending with
  | none => exact describes.1
  | some transfer => exact describes.2.1

theorem TxHistory.enabled : world.adapter.tx.enabled = world.adapter.tx.buf.isSome := by
  have describes := history.describes
  cases pending with
  | none => rw [describes.1, describes.2.2]; rfl
  | some transfer => rw [describes.2.1, describes.1.hasBuf, describes.2.2.2.2]

end Histories

/-- What it means that transmission is exact in a state, for the transfers that
are finished and the one that is pending. -/
structure ExactTransmission (world : World App) (finished : List FinishedTransfer)
    (pending : Option Transfer) : Prop where
  segments : txTrace world.log =
    finished.flatMap FinishedTransfer.trace ++ pending.toList.flatMap Transfer.openTrace
  each : forall item, item ∈ finished -> item.Exact world
  genuine : forall transfer, transfer ∈ pending -> transfer.Genuine world
  accepted : acceptedCalls (txTrace world.log) =
    (finished.map FinishedTransfer.transfer ++ pending.toList).map
      fun transfer => (transfer.buf, transfer.len)
  ended : terminalEvents (txTrace world.log) = finished.map FinishedTransfer.terminal
  pushed : pushedBytes (txTrace world.log) =
    (finished.map FinishedTransfer.transfer ++ pending.toList).flatMap
      fun transfer => world.bytesAt transfer.buf transfer.sent
  stored : world.adapter.tx.buf = pending.bind Transfer.buf
  enabled : world.adapter.tx.enabled = true <-> world.adapter.tx.buf ≠ none

/-- Transmission is exact.  At every moment at which other code can run, the
accepted calls are those of the finished transfers and of the one stored in
`tx.buf`; each finished transfer has had its one terminal event, with the
number of bytes that were pushed, which is all of them unless it was aborted;
and the target has been given the pushed beginnings of the buffers, in order. -/
theorem transmission_exact {current : AdapterConfig App} (reached : Reached txOnly current)
    (here : Settled current) :
    exists finished pending, ExactTransmission current.state finished pending := by
  rcases transmission.settled (fun target memory app => ⟨rfl, txInv_initial target memory app⟩)
    reached here with ⟨_, _, holds⟩
  rcases holds.history with ⟨finished, pending, history⟩
  refine ⟨finished, pending, history.segments, history.each, ?_, history.acceptedCalls_eq,
    history.terminalEvents_eq, history.pushedBytes_eq, history.buf, ?_⟩
  · rintro transfer rfl
    exact history.describes.1
  · rw [history.enabled]
    cases current.state.adapter.tx.buf <;> simp

/-- Two of three bytes are sent before the timeout, and the client starts
another transfer from inside the callback. -/
def abortedRun : AdapterConfig Unit :=
  scripted txOnly 200 ()
    ([⟨.next, .client (.tx (some ⟨1, 0⟩) 3 100)⟩] ++ irqStarts ++
      [⟨.flag .irqTxReady, true⟩, ⟨.fifoFill 3, (2 : Int)⟩, ⟨.flag .irqTxComplete, true⟩,
        ⟨.errCheck, (0 : Int)⟩, ⟨.next, .txTimeout⟩,
        ⟨.client (.txAborted (some ⟨1, 0⟩) 2), some (.tx (some ⟨2, 0⟩) 1 sysForeverMs)⟩])

theorem abortedRun_exact :
    txTrace abortedRun.state.log =
      [.accepted (some ⟨1, 0⟩) 3, .pushed (some ⟨1, 0⟩) [0, 0], .aborted (some ⟨1, 0⟩) 2,
        .accepted (some ⟨2, 0⟩) 1] ∧
    exists finished pending, ExactTransmission abortedRun.state finished pending :=
  ⟨by decide +kernel, transmission_exact (scripted_reached txOnly 200 () _)
    (.inr ⟨.txAborted (some ⟨1, 0⟩) 2, exists_of_pendingQuery (by decide +kernel)⟩)⟩

end Uart
end NrfExamples
