import NrfExamples.Uart.Representation
import NrfExamples.Uart.Transmit

namespace NrfExamples
namespace Uart

open Reentrant

/-!
# Transmission while data is received

What is known of a client that only transmits stays true of one that receives
as well.  The transmit half never looks at the receive half, so that a section
of transmission commutes with `muted`, which takes the receive half away; and a
section of reception changes nothing that `muted` keeps, apart from memory.
There it writes into the buffers it was given.  A client that transmits from
some blocks and receives into others has its transfers left alone.
-/

variable {App : Type}

/-! ## A world without the receive half -/

namespace World

/-- Nothing has been received, and nothing will be. -/
def muted (world : World App) : World App :=
  { world with adapter := { world.adapter with rx := AdapterData.zeroed.rx } }

section Muted

variable (world : World App)

@[simp] theorem muted_tx : world.muted.adapter.tx = world.adapter.tx := rfl
@[simp] theorem muted_log : world.muted.log = world.log := rfl
@[simp] theorem muted_memory : world.muted.memory = world.memory := rfl

theorem muted_assertNoMsg (what : Assertion) (holds : Bool) :
    (world.assertNoMsg what holds).muted = world.muted.assertNoMsg what holds := by
  cases holds <;> rfl

theorem muted_directCall_tx (buf : Pointer) (len : Nat) (timeout : Int) :
    (world.directCall (.tx buf len timeout) (World.tx buf len timeout)).muted =
      world.muted.directCall (.tx buf len timeout) (World.tx buf len timeout) := by
  unfold directCall tx
  by_cases empty : len = 0
  · simp only [empty, if_true]
    rfl
  by_cases busy : world.adapter.tx.buf.isSome
  · simp only [empty, if_false, observe_adapter, muted_tx, busy, if_true]
    rfl
  · by_cases forever : timeout = sysForeverMs <;>
      simp [empty, busy, forever, muted, setTx, irqTxEnable, observe, kTimerStart]

theorem muted_txAbort : world.muted.txAbort = (world.txAbort.1, world.txAbort.2.muted) := by
  cases buf : world.adapter.tx.buf with
  | none =>
      have idle : world.muted.adapter.tx.buf = none := buf
      rw [txAbort_of_idle buf, txAbort_of_idle idle]
      rfl
  | some address =>
      have busy : world.adapter.tx.buf.isSome := by simp [buf]
      have mutedBusy : world.muted.adapter.tx.buf.isSome := busy
      rw [txAbort_of_busy busy, txAbort_of_busy mutedBusy]
      rfl

theorem muted_completeChecks : world.completeChecks.muted = world.muted.completeChecks := by
  unfold completeChecks
  rw [muted_assertNoMsg, muted_assertNoMsg]
  rfl

theorem muted_onTxComplete :
    world.muted.onTxComplete = (world.onTxComplete.1, world.onTxComplete.2.muted) := by
  by_cases finished : world.adapter.tx.sizeLeft = 0
  · have mutedFinished : world.muted.adapter.tx.sizeLeft = 0 := finished
    cases buf : world.adapter.tx.buf with
    | none =>
        have idle : world.muted.adapter.tx.buf = none := buf
        rw [onTxComplete_of_idle finished buf, onTxComplete_of_idle mutedFinished idle]
        rfl
    | some address =>
        have busy : world.adapter.tx.buf.isSome := by simp [buf]
        have mutedBusy : world.muted.adapter.tx.buf.isSome := busy
        rw [onTxComplete_of_busy finished busy, onTxComplete_of_busy mutedFinished mutedBusy,
          ← muted_completeChecks]
        rfl
  · have mutedUnfinished : world.muted.adapter.tx.sizeLeft ≠ 0 := finished
    rw [onTxComplete_of_unfinished finished, onTxComplete_of_unfinished mutedUnfinished]

theorem muted_onTxReady (ret : Int) : (world.onTxReady ret).muted = world.muted.onTxReady ret := by
  unfold onTxReady
  split <;> rfl

end Muted

end World

/-! ## Blocks for sending, and others -/

/-- The pointer is into one of the blocks. -/
def Pointer.into (blocks : Nat -> Bool) : Pointer -> Bool
  | none => false
  | some address => blocks address.block

@[simp] theorem Pointer.into_advance (blocks : Nat -> Bool) (pointer : Pointer) (count : Nat) :
    (pointer.advance count).into blocks = pointer.into blocks := by
  cases pointer <;> rfl

/-- The client transmits from the blocks `sending` and receives into others,
into buffers that exist and are not empty. -/
def keepsApart (sending : Nat -> Bool) : ApiCall -> Prop
  | .tx buf _ _ => buf.into sending = true
  | .rxEnable buf len _ => buf.isSome ∧ buf.into sending = false ∧ 1 ≤ len
  | .rxBufRsp buf len => buf.isSome ∧ buf.into sending = false ∧ 1 ≤ len
  | .txAbort | .rxDisable => True

instance (sending : Nat -> Bool) (call : ApiCall) : Decidable (keepsApart sending call) :=
  match call with
  | .tx buf _ _ => inferInstanceAs (Decidable (buf.into sending = true))
  | .rxEnable buf len _ | .rxBufRsp buf len =>
      inferInstanceAs (Decidable (buf.isSome = true ∧ buf.into sending = false ∧ 1 ≤ len))
  | .txAbort | .rxDisable => .isTrue trivial

theorem suppliesBuffer_of_keepsApart {sending : Nat -> Bool} {call : ApiCall}
    (apart : keepsApart sending call) : suppliesBuffer call := by
  cases call with
  | rxEnable buf len timeout => exact ⟨apart.1, apart.2.2⟩
  | rxBufRsp buf len => exact ⟨apart.1, apart.2.2⟩
  | _ => trivial

theorem Pointer.isSome_of_into {blocks : Nat -> Bool} {pointer : Pointer}
    (inside : pointer.into blocks = true) : pointer.isSome := by
  cases pointer with
  | none => cases inside
  | some address => rfl

/-- What is stored through a pointer into other blocks cannot be read here. -/
theorem World.bytesAt_storeBytes_of_into (world : World App) {blocks : Nat -> Bool}
    {dest pointer : Pointer} (outside : dest.into blocks = false)
    (inside : pointer.into blocks = true) (bytes : List UInt8) (count : Nat) :
    (world.storeBytes dest bytes).bytesAt pointer count = world.bytesAt pointer count := by
  cases dest with
  | none => rfl
  | some address =>
      cases pointer with
      | none => cases inside
      | some other =>
          refine world.bytesAt_storeBytes_of_ne ?_ bytes count
          intro same
          have both : blocks address.block = true := same ▸ inside
          exact Bool.false_ne_true (outside.symm.trans both)

/-! ## The invariant -/

/-- Entries of the log that are not about transmission. -/
def Obs.isReception : Obs -> Bool
  | .assertFailed what => what.isReceive
  | obs => (txItem obs).isNone

theorem Obs.txItem_of_isReception {obs : Obs} (reception : obs.isReception = true) :
    txItem obs = none := by
  cases obs with
  | assertFailed what => rfl
  | _ => exact Option.isNone_iff_eq_none.mp reception

/-- With reception taken away, the world is one of a client that only transmits;
and reception has no part in the blocks that the transfers are sent from. -/
structure Duplex (sending : Nat -> Bool) (world : World App) : Prop where
  history : TxInv world.muted
  interrupt : world.irq.tx = world.adapter.tx.enabled
  sends : forall call, call ∈ acceptedCalls (txTrace world.log) -> call.1.into sending = true
  buf : world.adapter.rx.buf.into sending = false
  currBuf : world.adapter.rx.currBuf.into sending = false
  nextBuf : world.adapter.rx.nextBuf.into sending = false
  checks : forall what, .assertFailed what ∈ world.log -> what.isReceive = true

namespace Duplex

variable {sending : Nat -> Bool} {world later : World App}

/-- Where the blocks for sending are as before, so are the transfers. -/
theorem history_of_bytes (holds : Duplex sending world)
    (tx : later.adapter.tx = world.adapter.tx)
    (bytes : forall pointer count, pointer.into sending = true ->
      later.bytesAt pointer count = world.bytesAt pointer count)
    (trace : txTrace later.log = txTrace world.log) : TxInv later.muted := by
  rcases holds.history with ⟨_, _, finished, current, history⟩
  have accepted := history.acceptedCalls_eq
  have genuine : forall transfer, transfer ∈ finished.map FinishedTransfer.transfer ++
      current.toList -> transfer.Genuine world.muted -> transfer.Genuine later.muted := by
    intro transfer member genuine
    have sent : (transfer.buf, transfer.len) ∈ acceptedCalls (txTrace world.muted.log) := by
      rw [accepted]
      exact List.mem_map_of_mem member
    have inside := holds.sends _ sent
    exact { genuine with bytes := genuine.bytes.trans (bytes _ _ inside).symm }
  refine ⟨rfl, rfl, finished, current, trace.trans history.segments, ?_, ?_⟩
  · intro item member
    have exact := history.each item member
    have here : item.transfer ∈ finished.map FinishedTransfer.transfer :=
      List.mem_map_of_mem member
    have here := List.mem_append_left current.toList here
    exact ⟨genuine _ here exact.genuine, exact.full⟩
  · have describes := history.describes
    cases current with
    | none => exact (congrArg (fun tx => Describes later.muted tx none) tx).mpr describes
    | some transfer =>
        have here := List.mem_append_right (finished.map FinishedTransfer.transfer)
          (List.mem_singleton.mpr (rfl : transfer = transfer))
        have kept := genuine transfer here describes.1
        exact (congrArg (fun tx => Describes later.muted tx (some transfer)) tx).mpr
          ⟨kept, describes.2⟩

/-- A section that has to do with reception only. -/
theorem reception (holds : Duplex sending world) (tx : later.adapter.tx = world.adapter.tx)
    (irq : later.irq.tx = world.irq.tx)
    (bytes : forall pointer count, pointer.into sending = true ->
      later.bytesAt pointer count = world.bytesAt pointer count)
    (log : exists added, (forall obs, obs ∈ added -> obs.isReception = true) ∧
      later.log = added ++ world.log)
    (buf : later.adapter.rx.buf.into sending = false)
    (currBuf : later.adapter.rx.currBuf.into sending = false)
    (nextBuf : later.adapter.rx.nextBuf.into sending = false) : Duplex sending later := by
  rcases log with ⟨added, about, log⟩
  have trace : txTrace later.log = txTrace world.log := by
    rw [log]
    clear log
    induction added with
    | nil => rfl
    | cons obs added inductionHypothesis =>
        have first := Obs.txItem_of_isReception (about obs List.mem_cons_self)
        have rest := inductionHypothesis fun other member =>
          about other (List.mem_cons_of_mem _ member)
        rw [List.cons_append, txTrace_cons, first, rest]
        exact List.append_nil _
  refine ⟨holds.history_of_bytes tx bytes trace, ?_, ?_, buf, currBuf, nextBuf, ?_⟩
  · rw [tx, irq]
    exact holds.interrupt
  · rw [trace]
    exact holds.sends
  · intro what member
    rw [log] at member
    rcases List.mem_append.mp member with new | old
    · exact about _ new
    · exact holds.checks what old

/-- A section of reception that leaves memory and the buffers alone. -/
theorem plain (holds : Duplex sending world) (tx : later.adapter.tx = world.adapter.tx)
    (irq : later.irq.tx = world.irq.tx) (memory : later.memory = world.memory)
    (log : exists added, (forall obs, obs ∈ added -> obs.isReception = true) ∧
      later.log = added ++ world.log)
    (buf : later.adapter.rx.buf = world.adapter.rx.buf)
    (currBuf : later.adapter.rx.currBuf = world.adapter.rx.currBuf)
    (nextBuf : later.adapter.rx.nextBuf = world.adapter.rx.nextBuf) : Duplex sending later :=
  holds.reception tx irq (fun _ _ _ => World.bytesAt_congr memory _ _) log
    (buf ▸ holds.buf) (currBuf ▸ holds.currBuf) (nextBuf ▸ holds.nextBuf)

theorem observe (holds : Duplex sending world) {obs : Obs} (about : obs.isReception = true) :
    Duplex sending (world.observe obs) :=
  holds.plain rfl rfl rfl ⟨[obs], by simp [about], rfl⟩ rfl rfl rfl

/-- A section that touches neither the log nor transmission nor the buffers. -/
theorem silent (holds : Duplex sending world) (tx : later.adapter.tx = world.adapter.tx)
    (irq : later.irq.tx = world.irq.tx) (memory : later.memory = world.memory)
    (log : later.log = world.log) (buf : later.adapter.rx.buf = world.adapter.rx.buf)
    (currBuf : later.adapter.rx.currBuf = world.adapter.rx.currBuf)
    (nextBuf : later.adapter.rx.nextBuf = world.adapter.rx.nextBuf) : Duplex sending later :=
  holds.plain tx irq memory ⟨[], by simp, log⟩ buf currBuf nextBuf

theorem assertReceive (holds : Duplex sending world) {what : Assertion}
    (receive : what.isReceive = true) (check : Bool) :
    Duplex sending (world.assertNoMsg what check) := by
  cases check with
  | true => exact holds
  | false => exact holds.observe receive

/-- A section that has to do with transmission only. -/
theorem transmission (holds : Duplex sending world) (history : TxInv later.muted)
    (interrupt : later.irq.tx = later.adapter.tx.enabled)
    (rx : later.adapter.rx = world.adapter.rx)
    (sends : forall call, call ∈ acceptedCalls (txTrace later.log) ->
      call ∈ acceptedCalls (txTrace world.log) ∨ call.1.into sending = true)
    (checks : forall what, .assertFailed what ∈ later.log -> .assertFailed what ∈ world.log) :
    Duplex sending later := by
  refine ⟨history, interrupt, ?_, ?_, ?_, ?_, fun what member => holds.checks what (checks what member)⟩
  · intro call member
    rcases sends call member with old | new
    · exact holds.sends call old
    · exact new
  · exact rx ▸ holds.buf
  · exact rx ▸ holds.currBuf
  · exact rx ▸ holds.nextBuf

/-! ### Sections of reception -/

theorem notifyChecks (holds : Duplex sending world) : Duplex sending world.notifyChecks := by
  unfold World.notifyChecks
  split
  · exact (holds.assertReceive rfl _).assertReceive rfl _
  · exact holds

theorem notifyRxBuffer (holds : Duplex sending world) :
    Duplex sending world.notifyRxBuffer.2 := by
  cases pending : world.unnotified with
  | false =>
      rw [World.notifyRxBuffer_of_notified pending]
      exact holds.notifyChecks
  | true =>
      rw [World.notifyRxBuffer_of_unnotified pending]
      have checked := holds.notifyChecks
      exact checked.silent rfl rfl rfl rfl (by simp) (by simp) (by simp)

theorem switchRxBuffer (holds : Duplex sending world) :
    Duplex sending (world.switchRxBuffer .adapter).2 :=
  holds.reception rfl rfl (fun _ _ _ => rfl) ⟨[], by simp, rfl⟩ holds.nextBuf holds.nextBuf rfl

theorem rxEnable (holds : Duplex sending world) (buf : Pointer) (len : Nat) (timeout : Int)
    (outside : buf.into sending = false) :
    Duplex sending (world.directCall (.rxEnable buf len timeout) (World.rxEnable buf len timeout)) :=
  holds.reception rfl rfl (fun _ _ _ => rfl)
    ⟨[.returned _ _ _, .called _], by simp [Obs.isReception, txItem], rfl⟩ rfl rfl outside

theorem rxBufRsp (holds : Duplex sending world) (buf : Pointer) (len : Nat)
    (outside : buf.into sending = false) :
    Duplex sending (world.directCall (.rxBufRsp buf len) (World.rxBufRsp buf len)) := by
  rcases world.directCall_rxBufRsp_cases buf len with ⟨_, same⟩ | ⟨_, same⟩
  · rw [same]
    exact (holds.observe rfl).observe rfl
  · rw [same]
    have called : Duplex sending (world.observe (.called (.rxBufRsp buf len))) := holds.observe rfl
    have checked : Duplex sending ((world.observe (.called (.rxBufRsp buf len))).assertNoMsg
        .rxNextBufLenZero (world.adapter.rx.nextBufLen = 0)) := called.assertReceive rfl _
    have prepared : Duplex sending (((world.observe (.called (.rxBufRsp buf len))).assertNoMsg
        .rxNextBufLenZero (world.adapter.rx.nextBufLen = 0)).setRx
          { world.adapter.rx with nextBuf := buf, nextBufLen := len }) :=
      checked.reception rfl rfl (fun _ _ _ => rfl) ⟨[], by simp, rfl⟩ holds.buf holds.currBuf outside
    exact prepared.observe rfl

theorem onRxReadyBegin (holds : Duplex sending world) : Duplex sending world.onRxReadyBegin := by
  rcases world.onRxReadyBegin_eq with ⟨timer, same⟩
  rw [same]
  have restarted : Duplex sending
      (world.setRx { world.adapter.rx with timeoutTimer := timer }) :=
    holds.silent rfl rfl rfl rfl rfl rfl rfl
  exact restarted.observe rfl

/-- The bytes are stored outside the blocks that transfers are sent from. -/
theorem onRxReadyStore (holds : Duplex sending world) (bytes : List UInt8)
    (fits : bytes.length ≤ world.adapter.rx.sizeLeft) :
    Duplex sending (world.onRxReadyStore bytes) := by
  rw [World.onRxReadyStore_of_fits fits]
  refine holds.reception (by simp) ?_ ?_ ⟨[.stored world.adapter.rx.currBuf bytes],
    by simp [Obs.isReception, txItem], by simp⟩ ?_ ?_ ?_
  · cases world.adapter.rx.currBuf <;> rfl
  · intro pointer count inside
    exact world.bytesAt_storeBytes_of_into holds.currBuf inside bytes count
  · simpa using holds.buf
  · simpa using holds.currBuf
  · simpa using holds.nextBuf

/-! ### Sections of transmission -/

theorem tx (holds : Duplex sending world) (buf : Pointer) (len : Nat) (timeout : Int)
    (inside : buf.into sending = true) :
    Duplex sending (world.directCall (.tx buf len timeout) (World.tx buf len timeout)) := by
  have history := holds.history.tx buf len timeout (Pointer.isSome_of_into inside)
  rw [← World.muted_directCall_tx] at history
  rcases world.directCall_tx_cases buf len timeout with ⟨ret, empty, same⟩ | ⟨nonempty, idle, same⟩
  · have refused : ¬(ret = 0 ∧ len ≠ 0) := fun accepted => accepted.2 (empty accepted.1)
    rw [same] at history ⊢
    refine holds.transmission history holds.interrupt rfl (fun call member => .inl ?_) ?_
    · simpa [txTrace_cons, txItem, refused] using member
    · intro what member
      simpa using member
  · rw [same] at history ⊢
    refine holds.transmission history rfl rfl ?_ ?_
    · intro call member
      have either : call ∈ acceptedCalls (txTrace world.log) ∨ call = (buf, len) := by
        simpa [txTrace_cons, txItem, nonempty, acceptedCalls] using member
      rcases either with old | rfl
      · exact .inl old
      · exact .inr inside
    · intro what member
      simpa using member

/-- An event that ends a transfer, or one that says nothing about it. -/
theorem sends_observe (sending : Nat -> Bool) (later : World App) {obs : Obs}
    (other : acceptedCalls (txItem obs).toList = []) (same : later.log = world.log) :
    forall call, call ∈ acceptedCalls (txTrace (later.observe obs).log) ->
      call ∈ acceptedCalls (txTrace world.log) ∨ call.1.into sending = true := by
  intro call member
  rw [World.observe_log, txTrace_cons, acceptedCalls_append, other, List.append_nil, same] at member
  exact .inl member

theorem txAborted (holds : Duplex sending world) {evt : UartEvent}
    (made : world.txAbort.1 = some evt) :
    Duplex sending (world.txAbort.2.observe (.event evt)) := by
  have closed : TxInv (world.txAbort.2.observe (.event evt)).muted := by
    have history : world.muted.txAbort.1 = some evt ->
        TxInv (world.muted.txAbort.2.observe (.event evt)) := holds.history.aborted
    rw [World.muted_txAbort] at history
    exact history made
  by_cases busy : world.adapter.tx.buf.isSome
  · rw [World.txAbort_of_busy busy] at made closed ⊢
    cases made
    refine holds.transmission closed rfl rfl (sends_observe sending _ rfl rfl) ?_
    intro what member
    simpa [World.txIdle] using member
  · rw [World.txAbort_of_idle (by simpa using busy)] at made
    cases made

theorem notAborted (holds : Duplex sending world) (made : world.txAbort.1 = none) :
    Duplex sending world.txAbort.2 := by
  have history := holds.history.notAborted
  rw [World.muted_txAbort] at history
  have kept : TxInv world.txAbort.2.muted := history made
  by_cases busy : world.adapter.tx.buf.isSome
  · rw [World.txAbort_of_busy busy] at made
    cases made
  · rw [World.txAbort_of_idle (by simpa using busy)] at kept ⊢
    exact holds.transmission kept rfl rfl (fun _ member => .inl member) fun _ member => member

/-- While a transfer is in progress, the checks of `on_tx_complete` succeed. -/
theorem completeChecks (holds : Duplex sending world) (busy : world.adapter.tx.buf.isSome) :
    world.completeChecks.log = world.log := by
  have same := holds.history.completeChecks busy
  rw [← World.muted_completeChecks] at same
  have logs : world.completeChecks.muted.log = world.muted.log := congrArg World.log same
  exact logs

theorem txCompleted (holds : Duplex sending world) {evt : UartEvent}
    (made : world.onTxComplete.1 = some evt) :
    Duplex sending (world.onTxComplete.2.observe (.event evt)) := by
  have closed : TxInv (world.onTxComplete.2.observe (.event evt)).muted := by
    have history : world.muted.onTxComplete.1 = some evt ->
        TxInv (world.muted.onTxComplete.2.observe (.event evt)) := holds.history.completed
    rw [World.muted_onTxComplete] at history
    exact history made
  by_cases finished : world.adapter.tx.sizeLeft = 0
  · by_cases busy : world.adapter.tx.buf.isSome
    · have checked := holds.completeChecks busy
      rw [World.onTxComplete_of_busy finished busy] at made closed ⊢
      cases made
      refine holds.transmission closed rfl (by simp [World.completeChecks, World.txIdle])
        (sends_observe sending _ rfl checked) ?_
      intro what member
      have later : .assertFailed what ∈ world.completeChecks.log := by
        simpa [World.txIdle] using member
      exact checked ▸ later
    · rw [World.onTxComplete_of_idle finished (by simpa using busy)] at made
      cases made
  · rw [World.onTxComplete_of_unfinished finished] at made
    cases made

theorem notCompleted (holds : Duplex sending world) (made : world.onTxComplete.1 = none) :
    Duplex sending world.onTxComplete.2 := by
  have history := holds.history.notCompleted
  rw [World.muted_onTxComplete] at history
  have kept : TxInv world.onTxComplete.2.muted := history made
  by_cases finished : world.adapter.tx.sizeLeft = 0
  · by_cases busy : world.adapter.tx.buf.isSome
    · rw [World.onTxComplete_of_busy finished busy] at made
      cases made
    · rw [World.onTxComplete_of_idle finished (by simpa using busy)] at kept ⊢
      exact holds.transmission kept rfl rfl (fun _ member => .inl member) fun _ member => member
  · rw [World.onTxComplete_of_unfinished finished]
    exact holds

/-- There is a position to read from as long as something is left to be sent. -/
theorem currBuf_present (holds : Duplex sending world)
    (unfinished : world.adapter.tx.sizeLeft ≠ 0) : world.adapter.tx.currBuf.isSome = true := by
  rcases holds.history.history with ⟨_, current, history⟩
  have describes := history.describes
  cases current with
  | none => exact absurd describes.2.1 unfinished
  | some transfer =>
      rcases describes with ⟨genuine, _, currBuf, _⟩
      have same : world.adapter.tx.currBuf = transfer.buf.advance transfer.sent := currBuf
      rw [same, Pointer.isSome_advance]
      exact genuine.hasBuf

theorem txReady (holds : Duplex sending world) (ret : Int)
    (unfinished : world.adapter.tx.sizeLeft ≠ 0)
    (within : ret ≤ (world.adapter.tx.sizeLeft : Int)) :
    Duplex sending
      ((world.assertNoMsg .txCurrBufSet world.adapter.tx.currBuf.isSome).onTxReady ret) := by
  have history := holds.history.txReady ret unfinished within
  rw [World.muted_tx, holds.currBuf_present unfinished, World.assertNoMsg_true,
    ← World.muted_onTxReady] at history
  rw [holds.currBuf_present unfinished, World.assertNoMsg_true]
  by_cases refused : ret ≤ 0
  · have same : world.onTxReady ret = world := if_pos refused
    rw [same]
    exact holds
  · have pushed : world.onTxReady ret =
        (world.observe (.pushed world.adapter.tx.currBuf
          (world.bytesAt world.adapter.tx.currBuf ret.toNat))).setTx
            { world.adapter.tx with
              currBuf := world.adapter.tx.currBuf.advance ret.toNat
              sizeLeft := world.adapter.tx.sizeLeft - ret.toNat } := if_neg refused
    rw [pushed] at history ⊢
    refine holds.transmission history holds.interrupt rfl ?_ ?_
    · exact sends_observe sending world rfl rfl
    · intro what member
      simpa using member

end Duplex

/-! ## Runs -/

/-- The invariant is kept in every context, so that none has to be told apart. -/
def fullDuplex (policy : Policy App) (sending : Nat -> Bool)
    (apart : forall world call, policy.call world call -> keepsApart sending call) :
    CallbackInvariant policy Unit where
  Inv := fun _ => Duplex sending
  idle := ()
  inLoop := ()
  inCallback := id
  inDisable := id
  flushed := id
  tx := fun _ world buf len timeout holds allowed =>
    holds.tx buf len timeout (apart world _ allowed)
  rxEnable := fun _ world buf len timeout _ holds allowed =>
    holds.rxEnable buf len timeout (apart world _ allowed).2.1
  rxBufRsp := fun _ world buf len _ holds allowed =>
    holds.rxBufRsp buf len (apart world _ allowed).2.1
  txAbortCalled := fun _ _ holds _ => holds.observe rfl
  txAbortNone := fun _ _ holds made => holds.notAborted made
  txAborted := fun _ _ _ holds made => holds.txAborted made
  returned := fun _ _ call _ _ holds which =>
    holds.observe (by rcases which with rfl | rfl <;> rfl)
  leave := fun _ _ _ holds _ => holds.observe rfl
  rxDisableBegin := fun _ _ holds _ =>
    holds.plain rfl rfl rfl ⟨[.called .rxDisable], by simp [Obs.isReception, txItem], rfl⟩ rfl rfl rfl
  rxDisableSwitch := fun _ _ holds _ => holds.switchRxBuffer.observe rfl
  rxDisabled := fun _ _ holds _ => holds.observe rfl
  notified := fun _ world evt holds made => by
    rw [World.notifyRxBuffer_of_unnotified (World.notifyRxBuffer_evt made)] at made
    cases made
    exact holds.notifyRxBuffer.observe rfl
  notifiedNone := fun _ _ holds _ => holds.notifyRxBuffer
  unflushed := fun _ _ holds => holds
  onRxReadyBegin := fun _ holds _ => holds.onRxReadyBegin
  switched := fun _ holds _ => holds.switchRxBuffer.observe rfl
  switchedNone := fun _ holds _ => holds.switchRxBuffer
  requested := fun _ holds => holds.observe rfl
  stored := fun _ bytes holds _ fits => holds.onRxReadyStore bytes fits
  dropped := fun _ _ holds _ => holds.observe rfl
  onRxReadyEnd := fun _ holds => holds.observe rfl
  txReady := fun _ ret holds unfinished within => holds.txReady ret unfinished within
  txCompleted := fun _ _ holds made => holds.txCompleted made
  txCompletedNone := fun _ holds made => holds.notCompleted made
  stopped := fun _ _ holds => holds.observe rfl
  targetData := fun _ _ holds => holds.silent rfl rfl rfl rfl rfl rfl rfl
  foreignEvent := fun _ _ holds => holds.silent rfl rfl rfl rfl rfl rfl rfl
  txTimer := fun world holds _ => by
    have history : TxInv world.txTimerExpired.muted :=
      holds.history.frame rfl rfl rfl rfl fun current same => by cases current <;> exact same
    exact holds.transmission history holds.interrupt rfl (fun _ member => .inl member)
      fun _ member => member
  rxTimer := fun _ holds _ => holds.silent rfl rfl rfl rfl rfl rfl rfl
  elapsed := fun _ _ holds => holds.silent rfl rfl rfl rfl rfl rfl rfl

theorem duplex_initial (sending : Nat -> Bool) (target : AdapterData)
    (memory : Nat -> Nat -> UInt8) (app : App) :
    Duplex sending (World.initial target memory app) := by
  have muted : TxInv (World.initial target memory app).muted := txInv_initial target memory app
  refine ⟨muted, rfl, ?_, rfl, rfl, rfl, ?_⟩
  · intro call impossible
    cases impossible
  · intro what impossible
    cases impossible

/-- A history of transfers says all that is meant by exact transmission. -/
theorem TxHistory.exact {world : World App} {finished : List FinishedTransfer}
    {pending : Option Transfer} (history : TxHistory world (txTrace world.log) finished pending) :
    ExactTransmission world finished pending := by
  refine ⟨history.segments, history.each, ?_, history.acceptedCalls_eq, history.terminalEvents_eq,
    history.pushedBytes_eq, history.buf, ?_⟩
  · rintro transfer rfl
    exact history.describes.1
  · rw [history.enabled]
    cases world.adapter.tx.buf <;> simp

theorem Duplex.exact {sending : Nat -> Bool} {world : World App} (holds : Duplex sending world) :
    exists finished pending, ExactTransmission world finished pending := by
  rcases holds.history.history with ⟨finished, pending, segments, each, describes⟩
  have history : TxHistory world (txTrace world.log) finished pending :=
    ⟨segments, fun item member => (each item member).frame rfl, describes.frame rfl⟩
  exact ⟨finished, pending, history.exact⟩

/-- A client may receive while it transmits, as long as it uses different
blocks for the two.  Transmission is as exact as if nothing were received, the
transmit interrupt is enabled exactly while a transfer is stored, and none of
the checks of either half has failed. -/
theorem transmission_undisturbed {policy : Policy App} {sending : Nat -> Bool}
    (apart : forall world call, policy.call world call -> keepsApart sending call)
    {current : AdapterConfig App} (reached : Reached policy current) (here : Settled current) :
    (exists finished pending, ExactTransmission current.state finished pending) ∧
      (current.state.irq.tx = true <-> current.state.adapter.tx.buf ≠ none) ∧
      forall what, .assertFailed what ∉ current.state.log := by
  rcases (fullDuplex policy sending apart).settled (duplex_initial sending) reached here with
    ⟨_, holds⟩
  have supplies : forall world call, policy.call world call -> suppliesBuffer call :=
    fun world call allowed => suppliesBuffer_of_keepsApart (apart world call allowed)
  have received := rxRep_of_reached supplies reached
  have duplex : Duplex sending current.state := holds
  rcases duplex.exact with ⟨finished, pending, exact⟩
  refine ⟨⟨finished, pending, exact⟩, ?_, ?_⟩
  · rw [duplex.interrupt]
    exact exact.enabled
  · intro what member
    have isReceive := duplex.checks what member
    rw [received.checks what member] at isReceive
    cases isReceive

/-- Transmission from the first block, and reception into all others. -/
abbrev firstBlockSends : Policy App := .calling fun _ => keepsApart fun block => block == 1

/-- One interrupt sends the first of two bytes and receives two others. -/
def bothWaysRun : AdapterConfig Unit :=
  scripted firstBlockSends 60 ()
    ([⟨.next, .client (.tx (some ⟨1, 0⟩) 2 sysForeverMs)⟩,
        ⟨.next, .client (.rxEnable (some ⟨2, 0⟩) 4 sysForeverMs)⟩] ++ irqStarts ++
      [⟨.flag .irqTxReady, true⟩, ⟨.fifoFill 2, (1 : Int)⟩, ⟨.flag .irqTxComplete, true⟩,
        ⟨.flag .irqRxReady, true⟩, ⟨.client .rxBufRequest, none⟩, ⟨.fifoRead 4, .ok [7, 8]⟩,
        ⟨.fifoRead 2, .ok []⟩, ⟨.errCheck, (0 : Int)⟩])

theorem bothWaysRun_undisturbed :
    .stored (some ⟨2, 0⟩) [7, 8] ∈ bothWaysRun.state.log ∧
    txTrace bothWaysRun.state.log = [.accepted (some ⟨1, 0⟩) 2, .pushed (some ⟨1, 0⟩) [0]] ∧
    (exists finished pending, ExactTransmission bothWaysRun.state finished pending) ∧
    (bothWaysRun.state.irq.tx = true <-> bothWaysRun.state.adapter.tx.buf ≠ none) ∧
    forall what, .assertFailed what ∉ bothWaysRun.state.log :=
  ⟨by decide +kernel, by decide +kernel,
    transmission_undisturbed (fun _ _ allowed => allowed)
      (scripted_reached firstBlockSends 60 () _) (.inl (exists_of_pendingQuery (by decide +kernel)))⟩

end Uart
end NrfExamples
