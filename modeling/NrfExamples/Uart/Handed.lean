import NrfExamples.Uart.AsyncAdapter

namespace NrfExamples
namespace Uart
namespace Rejected

/-!
# Buffers that have been handed over

Every buffer that the adapter uses, and every one that it reads, writes, reports
or releases, it held from the beginning or has been handed by a call since.
Each section keeps to that, whatever the client does, and leaves the interrupts
of reception enabled while reception is.
-/

variable {App : Type}

/-- The calls that hand over a buffer, and can be rejected. -/
inductive BufferCall
  | tx (buf : Pointer) (len : Nat) (timeout : Int)
  | rxEnable (buf : Pointer) (len : Nat) (timeout : Int)
  | rxBufRsp (buf : Pointer) (len : Nat)
  deriving DecidableEq, Repr

namespace BufferCall

def apiCall : BufferCall -> ApiCall
  | .tx buf len timeout => .tx buf len timeout
  | .rxEnable buf len timeout => .rxEnable buf len timeout
  | .rxBufRsp buf len => .rxBufRsp buf len

def run : BufferCall -> World App -> Int × World App
  | .tx buf len timeout => World.tx buf len timeout
  | .rxEnable buf len timeout => World.rxEnable buf len timeout
  | .rxBufRsp buf len => World.rxBufRsp buf len

end BufferCall

/-- The buffer of a call. -/
def bufferOfCall : ApiCall -> Pointer
  | .tx buf _ _ | .rxEnable buf _ _ | .rxBufRsp buf _ => buf
  | _ => none

/-- The buffer that an event reports or releases. -/
def bufferOfEvent : UartEvent -> Pointer
  | .txDone buf _ | .txAborted buf _ | .rxRdy buf _ _ | .rxBufReleased buf => buf
  | _ => none

/-- The buffer that is read, written, reported or released. -/
def bufferOf : Obs -> Pointer
  | .event evt => bufferOfEvent evt
  | .pushed src _ => src
  | .stored dest _ => dest
  | _ => none

/-- The buffers of the adapter, and the positions in them. -/
def buffersOf (data : AdapterData) : List Pointer :=
  [data.tx.buf, data.tx.currBuf, data.rx.buf, data.rx.currBuf, data.rx.nextBuf]

/-- The pointer is into a block of the adapter, or into one that has been handed
over by a call in the log. -/
def Handed (held : List Pointer) (log : List Obs) (pointer : Pointer) : Prop :=
  forall address, pointer = some address ->
    (exists own, some own ∈ held ∧ own.block = address.block) ∨
    exists call given, .called call ∈ log ∧ bufferOfCall call = some given ∧
      given.block = address.block

/-- The interrupts are as `rx_enable` leaves them, and every buffer has been
handed over. -/
structure Sound (held : List Pointer) (world : World App) : Prop where
  irq : world.adapter.rx.enabled = true -> world.irq.rx = true ∧ world.irq.err = true
  buffers : forall pointer, pointer ∈ buffersOf world.adapter -> Handed held world.log pointer
  log : forall obs, obs ∈ world.log -> Handed held world.log (bufferOf obs)

section Frame

variable {held : List Pointer} {world later : World App} {log longer : List Obs}

@[simp] theorem handed_none : Handed held log none :=
  fun _ absent => nomatch absent

theorem Handed.mono {pointer : Pointer} (handed : Handed held log pointer) (kept : log ⊆ longer) :
    Handed held longer pointer := by
  intro address present
  rcases handed address present with own | ⟨call, given, member, same⟩
  · exact .inl own
  · exact .inr ⟨call, given, kept member, same⟩

theorem Handed.advance {pointer : Pointer} (handed : Handed held log pointer) (count : Nat) :
    Handed held log (pointer.advance count) := by
  intro address present
  cases pointer with
  | none => cases present
  | some start =>
      cases present
      exact handed start rfl

/-- A section that adds entries about known buffers, and keeps to these. -/
theorem Sound.frame (sound : Sound held world) (added : List Obs)
    (log : later.log = added ++ world.log)
    (irq : later.adapter.rx.enabled = true -> later.irq.rx = true ∧ later.irq.err = true)
    (known : forall pointer, pointer ∈ buffersOf later.adapter -> Handed held later.log pointer)
    (entries : forall obs, obs ∈ added -> Handed held later.log (bufferOf obs)) :
    Sound held later where
  irq := irq
  buffers := known
  log obs member := by
    rw [log] at member
    rcases List.mem_append.mp member with new | old
    · exact entries obs new
    · apply (sound.log obs old).mono
      rw [log]
      exact List.subset_append_right added world.log

/-- A section that leaves the log alone. -/
theorem Sound.silent (sound : Sound held world) (log : later.log = world.log)
    (irq : later.adapter.rx.enabled = true -> later.irq.rx = true ∧ later.irq.err = true)
    (known : forall pointer, pointer ∈ buffersOf later.adapter -> Handed held world.log pointer) :
    Sound held later := by
  apply sound.frame [] log irq
  · rw [log]
    exact known
  · intro obs member
    cases member

theorem Sound.observe (sound : Sound held world) {obs : Obs}
    (known : Handed held world.log (bufferOf obs)) : Sound held (world.observe obs) := by
  refine sound.frame [obs] rfl sound.irq ?_ ?_
  · exact fun pointer member => (sound.buffers pointer member).mono (List.subset_cons_self _ _)
  · intro entry member
    rw [List.mem_singleton.mp member]
    exact known.mono (List.subset_cons_self _ _)

theorem Sound.assertNoMsg (sound : Sound held world) (what : Assertion) (holds : Bool) :
    Sound held (world.assertNoMsg what holds) := by
  cases holds with
  | true => exact sound
  | false => exact sound.observe handed_none

theorem Sound.setTx (sound : Sound held world) {tx : TxData} (buf : Handed held world.log tx.buf)
    (currBuf : Handed held world.log tx.currBuf) : Sound held (world.setTx tx) := by
  refine sound.silent rfl sound.irq ?_
  have known := sound.buffers
  simp only [buffersOf, List.forall_mem_cons] at known ⊢
  exact ⟨buf, currBuf, known.2.2⟩

theorem Sound.setRx (sound : Sound held world) {rx : RxData}
    (enabled : rx.enabled = world.adapter.rx.enabled) (buf : Handed held world.log rx.buf)
    (currBuf : Handed held world.log rx.currBuf) (nextBuf : Handed held world.log rx.nextBuf) :
    Sound held (world.setRx rx) := by
  refine sound.silent rfl (fun set => sound.irq (enabled ▸ set)) ?_
  have known := sound.buffers
  simp only [buffersOf, List.forall_mem_cons] at known ⊢
  exact ⟨known.1, known.2.1, buf, currBuf, nextBuf, known.2.2.2.2.2⟩

section Own

variable (sound : Sound held world)

include sound

theorem Sound.txBuf : Handed held world.log world.adapter.tx.buf :=
  sound.buffers _ (by simp [buffersOf])

theorem Sound.txCurrBuf : Handed held world.log world.adapter.tx.currBuf :=
  sound.buffers _ (by simp [buffersOf])

theorem Sound.rxBuf : Handed held world.log world.adapter.rx.buf :=
  sound.buffers _ (by simp [buffersOf])

theorem Sound.rxCurrBuf : Handed held world.log world.adapter.rx.currBuf :=
  sound.buffers _ (by simp [buffersOf])

theorem Sound.rxNextBuf : Handed held world.log world.adapter.rx.nextBuf :=
  sound.buffers _ (by simp [buffersOf])

/-- The timers hold no buffers. -/
theorem Sound.txTimer (timer : Option Nat) :
    Sound held (world.setTx { world.adapter.tx with timeoutTimer := timer }) :=
  sound.setTx sound.txBuf sound.txCurrBuf

theorem Sound.rxTimer (timer : Option Nat) :
    Sound held (world.setRx { world.adapter.rx with timeoutTimer := timer }) :=
  sound.setRx rfl sound.rxBuf sound.rxCurrBuf sound.rxNextBuf

/-- Nor do the interrupt of transmission and the memory. -/
theorem Sound.irqTx (enabled : Bool) :
    Sound held { world with irq := { world.irq with tx := enabled } } :=
  sound.silent rfl sound.irq sound.buffers

theorem Sound.storeBytes (pointer : Pointer) (bytes : List UInt8) :
    Sound held (world.storeBytes pointer bytes) := by
  cases pointer with
  | none => exact sound
  | some address => exact sound.silent rfl sound.irq sound.buffers

theorem Sound.notifyChecks : Sound held world.notifyChecks := by
  unfold World.notifyChecks
  split
  · exact (sound.assertNoMsg _ _).assertNoMsg _ _
  · exact sound

theorem Sound.completeChecks : Sound held world.completeChecks :=
  (sound.assertNoMsg _ _).assertNoMsg _ _

theorem Sound.notifyRxBuffer : Sound held world.notifyRxBuffer.2 := by
  have checked := sound.notifyChecks
  cases pending : world.unnotified with
  | false =>
      rw [World.notifyRxBuffer_of_notified pending]
      exact checked
  | true =>
      rw [World.notifyRxBuffer_of_unnotified pending]
      apply checked.setRx
      · rw [World.notifyChecks_adapter]
      · simpa using checked.rxBuf
      · simpa using checked.rxCurrBuf
      · simpa using checked.rxNextBuf

theorem Sound.txIdle (timer : Option Nat) : Sound held (world.txIdle timer) := by
  refine sound.silent rfl sound.irq ?_
  have known := sound.buffers
  simp only [buffersOf, List.forall_mem_cons] at known ⊢
  exact ⟨handed_none, handed_none, known.2.2⟩

theorem Sound.txAbort : Sound held world.txAbort.2 := by
  cases buf : world.adapter.tx.buf with
  | none =>
      rw [World.txAbort_of_idle buf]
      apply Sound.irqTx
      exact sound.setTx sound.txBuf sound.txCurrBuf
  | some address =>
      rw [World.txAbort_of_busy (by simp [buf])]
      exact sound.txIdle none

theorem Sound.onTxComplete : Sound held world.onTxComplete.2 := by
  by_cases finished : world.adapter.tx.sizeLeft = 0
  · cases buf : world.adapter.tx.buf with
    | none =>
        rw [World.onTxComplete_of_idle finished buf]
        apply Sound.irqTx
        exact sound.setTx sound.txBuf sound.txCurrBuf
    | some address =>
        rw [World.onTxComplete_of_busy finished (by simp [buf])]
        exact sound.completeChecks.txIdle _
  · rw [World.onTxComplete_of_unfinished finished]
    exact sound

theorem Sound.switchRxBuffer (dev : Device) : Sound held (world.switchRxBuffer dev).2 := by
  cases dev with
  | adapter =>
      have next := sound.rxNextBuf
      exact sound.setRx rfl next next handed_none
  | target => exact sound.silent rfl sound.irq sound.buffers

theorem Sound.rxDisable (dev : Device) : Sound held (world.rxDisable dev) := by
  cases dev with
  | adapter => exact sound.silent rfl (fun enabled => nomatch enabled) sound.buffers
  | target => exact sound.silent rfl sound.irq sound.buffers

theorem Sound.onTxReady (ret : Int) : Sound held (world.onTxReady ret) := by
  by_cases nothing : ret ≤ 0
  · rw [World.onTxReady, if_pos nothing]
    exact sound
  · rw [World.onTxReady, if_neg nothing]
    have pushed : Sound held (world.observe (.pushed world.adapter.tx.currBuf
        (world.bytesAt world.adapter.tx.currBuf ret.toNat))) := sound.observe sound.txCurrBuf
    exact pushed.setTx pushed.txBuf (pushed.txCurrBuf.advance _)

theorem Sound.onRxReadyBegin : Sound held world.onRxReadyBegin := by
  rcases World.onRxReadyBegin_eq world with ⟨timer, same⟩
  rw [same]
  exact (sound.rxTimer timer).observe handed_none

theorem Sound.onRxReadyStore (bytes : List UInt8) : Sound held (world.onRxReadyStore bytes) := by
  have stored : Sound held (world.observe (.stored world.adapter.rx.currBuf bytes)) :=
    sound.observe sound.rxCurrBuf
  have checked := (stored.storeBytes world.adapter.rx.currBuf bytes).assertNoMsg .rxSizeLeft
    (bytes.length ≤ world.adapter.rx.sizeLeft)
  apply checked.setRx
  · simp
  · simpa using checked.rxBuf
  · have current := checked.rxCurrBuf
    simp only [World.assertNoMsg_adapter, World.storeBytes_adapter,
      World.observe_adapter] at current
    exact current.advance bytes.length
  · simpa using checked.rxNextBuf

theorem Sound.run (call : BufferCall)
    (known : Handed held world.log (bufferOfCall call.apiCall)) :
    Sound held (call.run world).2 := by
  cases call with
  | tx buf len timeout =>
      have filled : Sound held (world.setTx { world.adapter.tx with
          buf := buf, currBuf := buf, sizeLeft := len, enabled := true }).irqTxEnable :=
        (sound.setTx known known).irqTx true
      change Sound held (World.tx buf len timeout world).2
      unfold World.tx
      split
      · exact sound
      split
      · exact sound
      split
      · exact filled.txTimer _
      · exact filled
  | rxEnable buf len timeout =>
      refine sound.silent rfl (fun _ => ⟨rfl, rfl⟩) ?_
      have own := sound.buffers
      simp only [buffersOf, List.forall_mem_cons] at own ⊢
      exact ⟨own.1, own.2.1, handed_none, handed_none, known, own.2.2.2.2.2⟩
  | rxBufRsp buf len =>
      change Sound held (World.rxBufRsp buf len world).2
      unfold World.rxBufRsp
      dsimp only
      split
      · exact sound
      · have checked := sound.assertNoMsg .rxNextBufLenZero (world.adapter.rx.nextBufLen = 0)
        apply checked.setRx
        · simp
        · simpa using checked.rxBuf
        · simpa using checked.rxCurrBuf
        · rw [World.assertNoMsg_log]
          split
          · exact known
          · exact known.mono (List.subset_cons_self _ _)

end Own

end Frame

end Rejected
end Uart
end NrfExamples
