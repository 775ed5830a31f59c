import NrfExamples.Traces.Machine
import NrfExamples.Uart.BridgeTransmit

namespace NrfExamples
namespace Uart
namespace Aborts

open Traces

/-!
# Transfers that are aborted

`uart_cb` starts an aborted transfer again behind the bytes that were sent.  Two
static variables say where: `aborted_buf` is the buffer, and `aborted_len` the
number of its bytes that were sent in all attempts.  They are reset when a
transfer is done.

The UART is the one that `uart_tx` promises.  It may abort a transfer at any
time, after any number of its bytes, and does nothing for a transfer of length
0.  If an abort reports the last byte of a buffer, then such a transfer is what
`uart_cb` starts, so no `UART_TX_DONE` follows.
-/

/-! ## The UART -/

/-- A transfer in flight. -/
structure Transfer where
  start : Address
  len : Nat
  deriving DecidableEq, Repr

/-- `uart_tx`: what it returns, and the transfer in flight afterwards. -/
def uartTx (inFlight : Option Transfer) (start : Address) (len : Nat) : Int × Option Transfer :=
  if len = 0 then (0, inFlight)
  else if inFlight.isSome then (-EBUSY, inFlight)
  else (0, some ⟨start, len⟩)

/-! ## The bridge and what it sends -/

/-- The data of `main.c`, the memory and the UART.  The other fields are not in the
source: the buffer that was last handed to `uart_tx` and is not complete, its bytes
at that time, those of them that have been sent since, and the buffers that have
been freed. -/
structure Sending where
  bridge : Bridge
  memory : Nat -> Nat -> UInt8
  inFlight : Option Transfer
  current : Option Address
  expected : List UInt8
  transmitted : List UInt8
  freed : List Address

/-- What happens: `uart_init` or `bt_receive_cb` hands a new buffer to `uart_tx`, which
accepts it; or one is put on the FIFO; or the transfer in flight ends, after `count`
bytes or all. -/
inductive Event
  | uartTx (block : Nat) (bytes : List UInt8)
  | fifoPut (block : Nat) (bytes : List UInt8)
  | aborted (count : Nat)
  | done
  deriving DecidableEq, Repr

namespace Sending

variable (state : Sending)

def bytesAt (start : Address) (count : Nat) : List UInt8 :=
  (List.range count).map fun i => state.memory start.block (start.offset + i)

/-- `data[0..len)` -/
def chunk (buf : Address) : List UInt8 :=
  state.bytesAt buf (state.bridge.len buf)

/-- A new buffer with these bytes. -/
def fill (block : Nat) (bytes : List UInt8) : Sending :=
  { state with
    bridge := (state.bridge.allocate ⟨block, 0⟩).setLen ⟨block, 0⟩ bytes.length
    memory := Function.update state.memory block fun i => bytes.getD i (state.memory block i) }

/-- `uart_tx(uart, buf->data, buf->len, SYS_FOREVER_MS)` -/
def begin (buf : Address) : Sending :=
  let answer := Aborts.uartTx state.inFlight buf (state.bridge.len buf)
  let state := { state with inFlight := answer.2 }
  if answer.1 = 0 then
    { state with current := some buf, expected := state.chunk buf, transmitted := [] }
  else state

def putTx (buf : Address) : Sending :=
  { state with bridge := state.bridge.putTx buf }

/-- The bytes that the transfer in flight has sent when this happens. -/
def attempt (event : Event) : List UInt8 :=
  match event, state.inFlight with
  | .aborted count, some transfer => state.bytesAt transfer.start count
  | .done, some transfer => state.bytesAt transfer.start transfer.len
  | _, _ => []

/-- The transfer ends early, and `uart_cb` runs for its `UART_TX_ABORTED`. -/
def txAborted (count : Nat) : Sending :=
  match state.inFlight with
  | none => state
  | some transfer =>
      let bridge := state.bridge.txAborted (some transfer.start) count
      let transmitted := state.transmitted ++ state.attempt (.aborted count)
      let state :=
        { state with bridge := bridge, inFlight := none, transmitted := transmitted }
      match bridge.abortedBuf with
      | none => state
      | some buf =>
          let rest : Address := { buf with offset := buf.offset + bridge.abortedLen }
          { state with
            inFlight := (Aborts.uartTx state.inFlight rest (bridge.remainingLen buf)).2 }

/-- The transfer is complete, and `uart_cb` runs for its `UART_TX_DONE`. -/
def txDone : Sending :=
  match state.inFlight with
  | none => state
  | some transfer =>
      let done := state.bridge.txDone (some transfer.start) transfer.len
      let freed := if transfer.len = 0 then [] else [state.bridge.abortedBuf.getD transfer.start]
      let transmitted := state.transmitted ++ state.attempt .done
      let state :=
        { state with
          bridge := done.2
          inFlight := none
          current := none
          transmitted := transmitted
          freed := state.freed ++ freed }
      match done.1 with
      | none => state
      | some buf => state.begin buf

end Sending

/-- The buffer that is noted as freed is the one that `uart_cb` frees. -/
theorem live_freeSent (bridge : Bridge) (buf : Address) :
    (bridge.freeSent buf).live = bridge.live.erase (bridge.abortedBuf.getD buf) := by
  unfold Bridge.freeSent
  cases bridge.abortedBuf with
  | none => rfl
  | some aborted => rfl

def step (state : Sending) : Event -> Sending
  | .uartTx block bytes => (state.fill block bytes).begin ⟨block, 0⟩
  | .fifoPut block bytes => (state.fill block bytes).putTx ⟨block, 0⟩
  | .aborted count => state.txAborted count
  | .done => state.txDone

/-- A chunk has 1 to 65535 bytes, `k_malloc` returns a new block, and `uart_tx`
accepts a chunk only if no transfer is in flight. -/
def CanHappen (state : Sending) : Event -> Prop
  | .uartTx block bytes => state.inFlight = none ∧ ⟨block, 0⟩ ∉ state.bridge.live ∧
      bytes.length ≠ 0 ∧ bytes.length < 2 ^ 16
  | .fifoPut block bytes => ⟨block, 0⟩ ∉ state.bridge.live ∧
      bytes.length ≠ 0 ∧ bytes.length < 2 ^ 16
  | .aborted count => exists transfer, state.inFlight = some transfer ∧ count ≤ transfer.len
  | .done => state.inFlight ≠ none

/-- Nothing has been sent yet; `live` holds the buffers for reception. -/
def initial (len : Address -> Nat) (live : List Address) (memory : Nat -> Nat -> UInt8) :
    Sending where
  bridge := { Bridge.initial len with live := live }
  memory := memory
  inFlight := none
  current := none
  expected := []
  transmitted := []
  freed := []

def sender (len : Address -> Nat) (live : List Address) (memory : Nat -> Nat -> UInt8) :
    Machine Sending Event where
  start := initial len live memory
  step := step
  possible := CanHappen

/-! ## What resuming is for -/

/-- The buffer has been freed, the variables are reset, and the next buffer, if there
is one, is being sent. -/
structure Finished (before after : Sending) : Prop where
  freed : exists buf, before.current = some buf ∧ after.freed = before.freed ++ [buf]
  abortedBuf : after.bridge.abortedBuf = none
  abortedLen : after.bridge.abortedLen = 0
  next : match before.bridge.fifoUartTxData with
    | [] => after.inFlight = none
    | buf :: rest => after.bridge.fifoUartTxData = rest ∧ after.current = some buf ∧
        after.inFlight = some ⟨buf, before.bridge.len buf⟩

/-- At the end of a transfer the bytes sent in all attempts are the first ones of the
buffer, and after `UART_TX_DONE` all of them.  Just when they are all of them, the
buffer is finished. -/
structure Sent (before : Sending) (event : Event) (after : Sending) : Prop where
  inOrder : before.transmitted ++ before.attempt event <+: before.expected
  complete : event = .done -> before.transmitted ++ before.attempt event = before.expected
  finished : before.transmitted ++ before.attempt event = before.expected -> Finished before after
  unfinished : before.transmitted ++ before.attempt event ≠ before.expected ->
    after.freed = before.freed

/-- What the event does to the buffer that is being sent; nothing else frees one. -/
def Resumes (state : Sending) (event : Event) : Prop :=
  match event with
  | .uartTx _ _ | .fifoPut _ _ => (step state event).freed = state.freed
  | .aborted _ | .done => Sent state event (step state event)

/-- The event is not an abort that reports the whole transfer. -/
def Unfinished (state : Sending) (event : Event) : Prop :=
  forall transfer, state.inFlight = some transfer -> event ≠ .aborted transfer.len

/-! ## Where a buffer stands -/

/-- So many bytes of this buffer have been sent, and the others are in flight. -/
structure Attempting (state : Sending) (buf : Address) (sent : Nat) : Prop where
  less : sent < state.bridge.len buf
  expected : state.expected = state.chunk buf
  transmitted : state.transmitted = state.expected.take sent
  inFlight : state.inFlight =
    some ⟨{ buf with offset := buf.offset + sent }, state.bridge.len buf - sent⟩
  abortedLen : state.bridge.abortedLen = sent
  abortedBuf : state.bridge.abortedBuf = some buf ∨ (state.bridge.abortedBuf = none ∧ sent = 0)

structure Idle (state : Sending) : Prop where
  inFlight : state.inFlight = none
  abortedBuf : state.bridge.abortedBuf = none
  abortedLen : state.bridge.abortedLen = 0

def Stands (state : Sending) : Prop :=
  match state.current with
  | none => Idle state
  | some buf => exists sent, Attempting state buf sent

/-- The buffers that hold chunks. -/
def Sending.held (state : Sending) : List Address :=
  state.current.toList ++ state.bridge.fifoUartTxData

/-- The buffers with chunks are different allocated blocks, none of them empty. -/
structure Held (state : Sending) : Prop where
  distinct : state.held.Nodup
  live : state.held ⊆ state.bridge.live
  whole : forall buf, buf ∈ state.held -> buf.offset = 0
  lens : forall buf, buf ∈ state.held ->
    state.bridge.len buf ≠ 0 ∧ state.bridge.len buf < 2 ^ 16

structure SendInv (state : Sending) : Prop where
  stands : Stands state
  held : Held state

section Steps

variable {state : Sending} {buf : Address} {sent : Nat}

theorem bytesAt_length (state : Sending) (start : Address) (count : Nat) :
    (state.bytesAt start count).length = count := by
  unfold Sending.bytesAt
  rw [List.length_map, List.length_range]

/-- Behind the bytes that were sent come those that follow. -/
theorem take_append_bytesAt (state : Sending) (start : Address) {sent count len : Nat}
    (within : sent + count ≤ len) :
    (state.bytesAt start len).take sent ++
        state.bytesAt { start with offset := start.offset + sent } count =
      (state.bytesAt start len).take (sent + count) := by
  have next : state.bytesAt { start with offset := start.offset + sent } count =
      ((state.bytesAt start len).drop sent).take count := by
    apply List.ext_getElem
    · rw [bytesAt_length, List.length_take, List.length_drop, bytesAt_length]
      omega
    · intro i _ _
      simp [Sending.bytesAt, Nat.add_assoc]
  rw [next, List.take_add]

theorem Attempting.length (attempting : Attempting state buf sent) :
    state.expected.length = state.bridge.len buf := by
  rw [attempting.expected]
  exact bytesAt_length state buf _

/-- What an abort has reported, it has sent in order. -/
theorem Attempting.attempt_aborted (attempting : Attempting state buf sent) {count : Nat}
    (within : sent + count ≤ state.bridge.len buf) :
    state.transmitted ++ state.attempt (.aborted count) = state.expected.take (sent + count) := by
  unfold Sending.attempt
  rw [attempting.transmitted, attempting.inFlight, attempting.expected]
  exact take_append_bytesAt state buf within

theorem Attempting.attempt_done (attempting : Attempting state buf sent) :
    state.transmitted ++ state.attempt .done = state.expected := by
  have whole : sent + (state.bridge.len buf - sent) = state.bridge.len buf :=
    Nat.add_sub_cancel' (Nat.le_of_lt attempting.less)
  have all := attempting.attempt_aborted (Nat.le_of_eq whole)
  rw [whole, List.take_of_length_le (Nat.le_of_eq attempting.length)] at all
  refine Eq.trans ?_ all
  unfold Sending.attempt
  rw [attempting.inFlight]

/-! ### A new chunk -/

/-- Other chunks are not affected by a new buffer. -/
theorem chunk_fill_of_ne (bytes : List UInt8) {block : Nat} (differs : buf ≠ ⟨block, 0⟩)
    (whole : buf.offset = 0) : (state.fill block bytes).chunk buf = state.chunk buf := by
  have otherBlock : buf.block ≠ block := by
    intro same
    apply differs
    rw [← same, ← whole]
  unfold Sending.chunk Sending.bytesAt Sending.fill Bridge.setLen Bridge.allocate
  simp only [Function.update_of_ne differs, Function.update_of_ne otherBlock]

theorem len_fill_of_ne (bytes : List UInt8) {block : Nat} (differs : buf ≠ ⟨block, 0⟩) :
    (state.fill block bytes).bridge.len buf = state.bridge.len buf :=
  Function.update_of_ne differs _ _

theorem len_fill {block : Nat} {bytes : List UInt8} (short : bytes.length < 2 ^ 16) :
    (state.fill block bytes).bridge.len ⟨block, 0⟩ = bytes.length := by
  change Function.update state.bridge.len ⟨block, 0⟩ (bytes.length % 2 ^ 16) ⟨block, 0⟩ = _
  rw [Function.update_self, Nat.mod_eq_of_lt short]

theorem Held.same (held : Held state) {later : Sending} (members : later.held = state.held)
    (len : later.bridge.len = state.bridge.len) (live : later.bridge.live = state.bridge.live) :
    Held later := by
  rcases held with ⟨distinct, allocated, whole, lens⟩
  rw [← members] at distinct allocated whole lens
  rw [← live] at allocated
  rw [← len] at lens
  exact ⟨distinct, allocated, whole, lens⟩

/-- A new buffer joins those that hold chunks. -/
theorem Held.add (held : Held state) {block : Nat} {bytes : List UInt8}
    (fresh : ⟨block, 0⟩ ∉ state.bridge.live) (nonempty : bytes.length ≠ 0)
    (short : bytes.length < 2 ^ 16) {later : Sending}
    (members : later.held.Perm (⟨block, 0⟩ :: state.held))
    (len : later.bridge.len = (state.fill block bytes).bridge.len)
    (live : later.bridge.live = ⟨block, 0⟩ :: state.bridge.live) : Held later where
  distinct := members.nodup_iff.mpr
    (List.nodup_cons.mpr ⟨fun member => fresh (held.live member), held.distinct⟩)
  live := by
    intro other member
    rw [live]
    rcases List.mem_cons.mp (members.subset member) with rfl | old
    · exact List.mem_cons_self
    · exact List.mem_cons_of_mem _ (held.live old)
  whole := by
    intro other member
    rcases List.mem_cons.mp (members.subset member) with rfl | old
    · rfl
    · exact held.whole other old
  lens := by
    intro other member
    rw [len]
    rcases List.mem_cons.mp (members.subset member) with rfl | old
    · rw [len_fill short]
      exact ⟨nonempty, short⟩
    · rw [len_fill_of_ne bytes (ne_of_mem_of_not_mem (held.live old) fresh)]
      exact held.lens other old

theorem begin_of_idle (idle : state.inFlight = none) (nonempty : state.bridge.len buf ≠ 0) :
    state.begin buf =
      { state with
        inFlight := some ⟨buf, state.bridge.len buf⟩
        current := some buf
        expected := state.chunk buf
        transmitted := [] } := by
  unfold Sending.begin Aborts.uartTx
  rw [idle, if_neg nonempty]
  rfl

theorem freed_begin (state : Sending) (buf : Address) :
    (state.begin buf).freed = state.freed := by
  unfold Sending.begin
  dsimp only
  split
  · rfl
  · rfl

/-- A chunk that begins is in flight as a whole. -/
theorem stands_begin (idle : Idle state) (nonempty : state.bridge.len buf ≠ 0) :
    Stands (state.begin buf) := by
  rw [begin_of_idle idle.inFlight nonempty]
  refine ⟨0, Nat.pos_of_ne_zero nonempty, rfl, rfl, rfl, idle.abortedLen, ?_⟩
  exact .inr ⟨idle.abortedBuf, rfl⟩

theorem SendInv.idle (holds : SendInv state) (idle : state.inFlight = none) :
    state.current = none ∧ Idle state := by
  have stands := holds.stands
  unfold Stands at stands
  cases sending : state.current with
  | none =>
      rw [sending] at stands
      exact ⟨rfl, stands⟩
  | some buf =>
      rw [sending] at stands
      rcases stands with ⟨sent, attempting⟩
      cases idle.symm.trans attempting.inFlight

theorem SendInv.uartTx (holds : SendInv state) {block : Nat} {bytes : List UInt8}
    (possible : CanHappen state (.uartTx block bytes)) :
    SendInv (step state (.uartTx block bytes)) := by
  rcases possible with ⟨free, fresh, nonempty, short⟩
  rcases holds.idle free with ⟨notSending, idle⟩
  have filledIdle : Idle (state.fill block bytes) :=
    ⟨idle.inFlight, idle.abortedBuf, idle.abortedLen⟩
  have filled : (state.fill block bytes).bridge.len ⟨block, 0⟩ ≠ 0 := by
    rw [len_fill short]
    exact nonempty
  constructor
  · exact stands_begin filledIdle filled
  · change Held ((state.fill block bytes).begin ⟨block, 0⟩)
    rw [begin_of_idle filledIdle.inFlight filled]
    apply holds.held.add fresh nonempty short
    · unfold Sending.held
      rw [notSending]
      exact List.Perm.refl _
    · rfl
    · rfl

/-- The transfer in flight goes on while a chunk is put on the FIFO. -/
theorem SendInv.fifoPut (holds : SendInv state) {block : Nat} {bytes : List UInt8}
    (possible : CanHappen state (.fifoPut block bytes)) :
    SendInv (step state (.fifoPut block bytes)) := by
  rcases possible with ⟨fresh, nonempty, short⟩
  constructor
  · have stands := holds.stands
    unfold Stands at *
    change match state.current with
      | none => Idle (step state (.fifoPut block bytes))
      | some buf => exists sent, Attempting (step state (.fifoPut block bytes)) buf sent
    cases sending : state.current with
    | none =>
        rw [sending] at stands
        exact ⟨stands.inFlight, stands.abortedBuf, stands.abortedLen⟩
    | some buf =>
        rw [sending] at stands
        rcases stands with ⟨sent, attempting⟩
        have member : buf ∈ state.held := by
          unfold Sending.held
          rw [sending]
          exact List.mem_append_left _ (List.mem_singleton.mpr rfl)
        have differs : buf ≠ ⟨block, 0⟩ := ne_of_mem_of_not_mem (holds.held.live member) fresh
        have sameLen : (step state (.fifoPut block bytes)).bridge.len buf = state.bridge.len buf :=
          len_fill_of_ne bytes differs
        have sameChunk : (step state (.fifoPut block bytes)).chunk buf = state.chunk buf :=
          chunk_fill_of_ne bytes differs (holds.held.whole buf member)
        refine ⟨sent, ?_, ?_, attempting.transmitted, ?_, attempting.abortedLen,
          attempting.abortedBuf⟩
        · rw [sameLen]
          exact attempting.less
        · rw [sameChunk]
          exact attempting.expected
        · rw [sameLen]
          exact attempting.inFlight
  · have joins : (step state (.fifoPut block bytes)).held = state.held ++ [⟨block, 0⟩] :=
      (List.append_assoc _ _ _).symm
    apply holds.held.add fresh nonempty short
    · rw [joins]
      exact List.perm_append_singleton _ _
    · rfl
    · rfl

/-! ### The end of a transfer -/

/-- The buffer is freed under the address from which it was sent first. -/
theorem freeSent_of_attempting (attempting : Attempting state buf sent) :
    state.bridge.abortedBuf.getD { buf with offset := buf.offset + sent } = buf ∧
    state.bridge.freeSent { buf with offset := buf.offset + sent } =
      { state.bridge with
        abortedBuf := none
        abortedLen := 0
        live := state.bridge.live.erase buf } := by
  unfold Bridge.freeSent
  rcases attempting.abortedBuf with aborted | ⟨notAborted, rfl⟩
  · rw [aborted]
    exact ⟨rfl, rfl⟩
  · have noLen : state.bridge.abortedLen = 0 := attempting.abortedLen
    rw [notAborted]
    refine ⟨rfl, ?_⟩
    simp only [Bridge.kFree, notAborted, noLen, Nat.add_zero]

/-- The state after `UART_TX_DONE`, before the next buffer is sent. -/
def Sending.finish (state : Sending) (buf : Address) : Sending :=
  { state with
    bridge := { state.bridge with
      abortedBuf := none
      abortedLen := 0
      live := state.bridge.live.erase buf }
    inFlight := none
    current := none
    transmitted := state.transmitted ++ state.attempt .done
    freed := state.freed ++ [buf] }

theorem txDone_of_attempting (attempting : Attempting state buf sent) :
    state.txDone = match state.bridge.fifoUartTxData with
      | [] => state.finish buf
      | next :: rest =>
          { state.finish buf with
            bridge := { (state.finish buf).bridge with fifoUartTxData := rest } }.begin next := by
  have more : state.bridge.len buf - sent ≠ 0 := Nat.sub_ne_zero_of_lt attempting.less
  rcases freeSent_of_attempting attempting with ⟨same, frees⟩
  unfold Sending.txDone Bridge.txDone
  simp only [attempting.inFlight, if_neg more, same, frees]
  unfold Bridge.getTx Sending.finish
  cases queue : state.bridge.fifoUartTxData with
  | nil => simp only [queue]
  | cons next rest => rfl

theorem Held.of_sends (held : Held state) (sending : state.current = some buf) :
    (buf ∉ state.bridge.fifoUartTxData ∧ state.bridge.fifoUartTxData.Nodup) ∧
      buf ∈ state.bridge.live ∧ state.bridge.fifoUartTxData ⊆ state.bridge.live := by
  have distinct := held.distinct
  have live := held.live
  unfold Sending.held at distinct live
  rw [sending] at distinct live
  refine ⟨List.nodup_cons.mp distinct, ?_, ?_⟩
  · exact live List.mem_cons_self
  · exact fun other member => live (List.mem_cons_of_mem buf member)

/-- The other chunks are held on. -/
theorem Held.finish (held : Held state) (sending : state.current = some buf) :
    Held (state.finish buf) := by
  rcases held.of_sends sending with ⟨⟨alone, distinct⟩, _, live⟩
  have others : forall other, other ∈ (state.finish buf).held -> other ∈ state.held :=
    fun other member => List.mem_append_right _ member
  refine ⟨distinct, fun other member => ?_,
    fun other member => held.whole other (others other member),
    fun other member => held.lens other (others other member)⟩
  have differs : other ≠ buf := ne_of_mem_of_not_mem member alone
  exact (List.mem_erase_of_ne differs).mpr (live member)

/-- The buffer is finished, and the first one on the FIFO takes its place. -/
theorem SendInv.txDone (held : Held state) (sending : state.current = some buf)
    (attempting : Attempting state buf sent) :
    SendInv state.txDone ∧ Finished state state.txDone := by
  have finished := held.finish sending
  have idle : Idle (state.finish buf) := ⟨rfl, rfl, rfl⟩
  rw [txDone_of_attempting attempting]
  cases queue : state.bridge.fifoUartTxData with
  | nil =>
      refine ⟨⟨idle, finished⟩, ⟨buf, sending, rfl⟩, rfl, rfl, ?_⟩
      rw [queue]
      rfl
  | cons next rest =>
      have queued : next ∈ (state.finish buf).held := by
        change next ∈ state.bridge.fifoUartTxData
        rw [queue]
        exact List.mem_cons_self
      have nonempty := (finished.lens next queued).1
      dsimp only
      generalize free : ({ state.finish buf with
        bridge := { (state.finish buf).bridge with fifoUartTxData := rest } } : Sending) = taken
      have takenIdle : Idle taken := by
        rw [← free]
        exact ⟨rfl, rfl, rfl⟩
      have takenLen : taken.bridge.len next ≠ 0 := by
        rw [← free]
        exact nonempty
      have begins := begin_of_idle takenIdle.inFlight takenLen
      refine ⟨⟨stands_begin takenIdle takenLen, ?_⟩, ?_⟩
      · rw [begins]
        apply finished.same
        · rw [← free]
          change [next] ++ rest = state.bridge.fifoUartTxData
          exact queue.symm
        · rw [← free]
        · rw [← free]
      · rw [begins]
        refine ⟨⟨buf, sending, ?_⟩, takenIdle.abortedBuf, takenIdle.abortedLen, ?_⟩
        · rw [← free]
          rfl
        · rw [queue, ← free]
          exact ⟨rfl, rfl, rfl⟩

/-! ### The end of an attempt -/

theorem txAborted_of_attempting (attempting : Attempting state buf sent)
    (short : state.bridge.len buf < 2 ^ 16) {count : Nat}
    (within : sent + count ≤ state.bridge.len buf) :
    state.txAborted count = { state with
      bridge := { state.bridge with
        abortedBuf := some buf
        abortedLen := sent + count }
      inFlight := (uartTx none { buf with offset := buf.offset + (sent + count) }
        (state.bridge.len buf - (sent + count))).2
      transmitted := state.transmitted ++ state.attempt (.aborted count) } := by
  have first : state.bridge.abortedBuf.or
      (some { buf with offset := buf.offset + sent }) = some buf := by
    rcases attempting.abortedBuf with aborted | ⟨notAborted, rfl⟩
    · rw [aborted]
      rfl
    · rw [notAborted]
      rfl
  have total : (state.bridge.abortedLen + count) % 2 ^ 32 = sent + count := by
    rw [attempting.abortedLen]
    exact Nat.mod_eq_of_lt (by omega)
  have remaining : (state.bridge.len buf + (2 ^ 32 - (sent + count))) % 2 ^ 32 =
      state.bridge.len buf - (sent + count) := by
    omega
  unfold Sending.txAborted Bridge.txAborted Bridge.remainingLen
  simp only [attempting.inFlight, first, total, remaining]

theorem freed_txAborted (attempting : Attempting state buf sent)
    (short : state.bridge.len buf < 2 ^ 16) {count : Nat}
    (within : sent + count ≤ state.bridge.len buf) :
    (state.txAborted count).freed = state.freed := by
  rw [txAborted_of_attempting attempting short within]

/-- If no bytes remain, then nothing is in flight: the FIFO waits, and the variables stay
set. -/
theorem txAborted_of_whole (attempting : Attempting state buf sent)
    (short : state.bridge.len buf < 2 ^ 16) {count : Nat}
    (whole : sent + count = state.bridge.len buf) :
    (state.txAborted count).inFlight = none ∧
      (state.txAborted count).bridge.fifoUartTxData = state.bridge.fifoUartTxData ∧
      (state.txAborted count).bridge.abortedBuf = some buf := by
  rw [txAborted_of_attempting attempting short (Nat.le_of_eq whole), whole, Nat.sub_self]
  exact ⟨rfl, rfl, rfl⟩

/-- The next `UART_TX_DONE` frees the buffer that was aborted, whichever was sent. -/
theorem freed_txDone_of_aborted {transfer : Transfer} (flight : state.inFlight = some transfer)
    (nonempty : transfer.len ≠ 0) (aborted : state.bridge.abortedBuf = some buf) :
    state.txDone.freed = state.freed ++ [buf] := by
  unfold Sending.txDone
  rw [flight]
  dsimp only
  rw [if_neg nonempty, aborted]
  split
  · rfl
  · rw [freed_begin]
    rfl

/-- While bytes remain, they are in flight again. -/
theorem SendInv.txAborted (held : Held state) (sending : state.current = some buf)
    (attempting : Attempting state buf sent) (short : state.bridge.len buf < 2 ^ 16) {count : Nat}
    (more : sent + count < state.bridge.len buf) : SendInv (state.txAborted count) := by
  have remain : state.bridge.len buf - (sent + count) ≠ 0 := Nat.sub_ne_zero_of_lt more
  have transmitted := attempting.attempt_aborted (Nat.le_of_lt more)
  rw [txAborted_of_attempting attempting short (Nat.le_of_lt more)]
  constructor
  · unfold Stands
    dsimp only
    rw [sending]
    refine ⟨sent + count, more, attempting.expected, transmitted, ?_, rfl, .inl rfl⟩
    unfold Aborts.uartTx
    rw [if_neg remain]
    rfl
  · exact held.same rfl rfl rfl

theorem SendInv.sending (holds : SendInv state) (busy : state.inFlight ≠ none) :
    exists buf sent, state.current = some buf ∧ Attempting state buf sent ∧
      state.bridge.len buf < 2 ^ 16 := by
  have stands := holds.stands
  have lens := holds.held.lens
  unfold Stands at stands
  unfold Sending.held at lens
  cases sending : state.current with
  | none =>
      rw [sending] at stands
      exact absurd stands.inFlight busy
  | some buf =>
      rw [sending] at stands lens
      rcases stands with ⟨sent, attempting⟩
      exact ⟨buf, sent, rfl, attempting, (lens buf List.mem_cons_self).2⟩

/-- The bytes that remain have been sent if the abort reports the whole transfer. -/
theorem Attempting.unfinished_iff (attempting : Attempting state buf sent) {count : Nat}
    (within : sent + count ≤ state.bridge.len buf) :
    Unfinished state (.aborted count) <-> sent + count < state.bridge.len buf := by
  have less := attempting.less
  unfold Unfinished
  rw [attempting.inFlight]
  constructor
  · intro unfinished
    have differs : count ≠ state.bridge.len buf - sent := by
      intro same
      exact unfinished _ rfl (congrArg Event.aborted same)
    omega
  · rintro more _ ⟨⟩ same
    have same : count = state.bridge.len buf - sent := Event.aborted.inj same
    omega

theorem Attempting.sent_aborted_iff (attempting : Attempting state buf sent)
    (short : state.bridge.len buf < 2 ^ 16) {count : Nat}
    (within : sent + count ≤ state.bridge.len buf) :
    Sent state (.aborted count) (state.txAborted count) <->
      sent + count < state.bridge.len buf := by
  have transmitted := attempting.attempt_aborted within
  have freed := freed_txAborted attempting short within
  have length := attempting.length
  constructor
  · intro isSent
    apply Nat.lt_of_le_of_ne within
    intro all
    rw [all, ← length, List.take_length] at transmitted
    rcases (isSent.finished transmitted).freed with ⟨_, _, more⟩
    rw [freed] at more
    have longer := congrArg List.length more
    rw [List.length_append, List.length_singleton] at longer
    omega
  · intro more
    refine ⟨?_, nofun, fun all => ?_, fun _ => freed⟩
    · rw [transmitted]
      exact List.take_prefix _ _
    · have lengths := congrArg List.length (transmitted.symm.trans all)
      rw [List.length_take] at lengths
      omega

end Steps

/-! ## Every run -/

section Runs

variable {state : Sending} {event : Event}

theorem sendInv_initial (len : Address -> Nat) (live : List Address)
    (memory : Nat -> Nat -> UInt8) : SendInv (initial len live memory) where
  stands := ⟨rfl, rfl, rfl⟩
  held := ⟨List.nodup_nil, List.nil_subset _, nofun, nofun⟩

theorem possible_of_aborted {count : Nat} (possible : CanHappen state (.aborted count)) :
    state.inFlight ≠ none := by
  rcases possible with ⟨transfer, here, _⟩
  rw [here]
  exact Option.some_ne_none transfer

theorem Attempting.within {buf : Address} {sent count : Nat}
    (attempting : Attempting state buf sent) (possible : CanHappen state (.aborted count)) :
    sent + count ≤ state.bridge.len buf := by
  have less := attempting.less
  rcases possible with ⟨transfer, here, within⟩
  cases here.symm.trans attempting.inFlight
  dsimp only at within
  omega

theorem sendInv_step (holds : SendInv state) (possible : CanHappen state event)
    (unfinished : Unfinished state event) : SendInv (step state event) := by
  cases event with
  | uartTx block bytes => exact holds.uartTx possible
  | fifoPut block bytes => exact holds.fifoPut possible
  | aborted count =>
      rcases holds.sending (possible_of_aborted possible) with
        ⟨buf, sent, sending, attempting, short⟩
      have more := (attempting.unfinished_iff (attempting.within possible)).mp unfinished
      exact SendInv.txAborted holds.held sending attempting short more
  | done =>
      rcases holds.sending possible with ⟨buf, sent, sending, attempting, _⟩
      exact (SendInv.txDone holds.held sending attempting).1

/-- An event does what resuming is for, unless it is an abort that reports the whole
transfer. -/
theorem resumes_iff_unfinished (holds : SendInv state) (possible : CanHappen state event) :
    Resumes state event <-> Unfinished state event := by
  cases event with
  | uartTx block bytes => exact iff_of_true (freed_begin _ _) fun _ _ => nofun
  | fifoPut block bytes => exact iff_of_true rfl fun _ _ => nofun
  | aborted count =>
      rcases holds.sending (possible_of_aborted possible) with ⟨buf, sent, _, attempting, short⟩
      have within := attempting.within possible
      rw [attempting.unfinished_iff within]
      exact attempting.sent_aborted_iff short within
  | done =>
      rcases holds.sending possible with ⟨buf, sent, sending, attempting, _⟩
      have all := attempting.attempt_done
      have finished := (SendInv.txDone holds.held sending attempting).2
      have inOrder : state.transmitted ++ state.attempt .done <+: state.expected :=
        ⟨[], (List.append_nil _).trans all⟩
      apply iff_of_true
      · exact ⟨inOrder, fun _ => all, fun _ => finished, fun differs => absurd all differs⟩
      · exact fun _ _ => nofun

instance (state : Sending) (event : Event) : Decidable (CanHappen state event) :=
  match event with
  | .uartTx _ _ => inferInstanceAs (Decidable (_ ∧ _ ∧ _ ∧ _))
  | .fifoPut _ _ => inferInstanceAs (Decidable (_ ∧ _ ∧ _))
  | .aborted count =>
      match flight : state.inFlight with
      | none => .isFalse fun ⟨_, here, _⟩ => nomatch flight.symm.trans here
      | some transfer => decidable_of_iff (count ≤ transfer.len)
          ⟨fun within => ⟨transfer, flight, within⟩,
            fun ⟨_, here, within⟩ => Option.some.inj (flight.symm.trans here) ▸ within⟩
  | .done => inferInstanceAs (Decidable (state.inFlight ≠ none))

instance (state : Sending) (event : Event) : Decidable (Unfinished state event) :=
  match flight : state.inFlight with
  | none => .isTrue fun _ here => nomatch flight.symm.trans here
  | some transfer => decidable_of_iff (event ≠ .aborted transfer.len)
      ⟨fun differs _ here => Option.some.inj (flight.symm.trans here) ▸ differs,
        fun unfinished => unfinished transfer flight⟩

instance {len : Address -> Nat} {live : List Address} {memory : Nat -> Nat -> UInt8}
    (events : List Event) : Decidable ((sender len live memory).Allowed events) :=
  inferInstanceAs (Decidable ((sender len live memory).Each CanHappen events))

/-- No buffer is allocated. -/
abbrev plainSender : Machine Sending Event :=
  sender (fun _ => 0) [] fun _ _ => 0

/-- The first buffer is aborted before its first byte and after one byte. -/
def resumedEvents : List Event :=
  [.uartTx 1 [97, 98, 13], .fifoPut 2 [99], .aborted 0, .aborted 1, .done, .done]

/-- The first buffer is aborted after its last byte. -/
def lostEvents : List Event :=
  [.uartTx 1 [97], .aborted 1, .uartTx 2 [98], .done]

end Runs

/-! ## The adapter -/

section Adapter

variable {App : Type} {world : World App} {transfer : Transfer}

/-- The transfer that the adapter has accepted. -/
def transferOf (world : World App) : Option Transfer :=
  world.adapter.tx.buf.map fun buf =>
    ⟨buf, world.adapter.tx.currBuf.diff (some buf) + world.adapter.tx.sizeLeft⟩

theorem isSome_transferOf (world : World App) :
    (transferOf world).isSome = world.adapter.tx.buf.isSome := by
  unfold transferOf
  rw [Option.isSome_map]

/-- A transfer that has just been accepted. -/
theorem transferOf_accepted {start : Address} (buf : world.adapter.tx.buf = some start)
    (currBuf : world.adapter.tx.currBuf = some start) :
    transferOf world = some ⟨start, world.adapter.tx.sizeLeft⟩ := by
  unfold transferOf
  rw [buf, currBuf, Option.map_some, Pointer.diff_self, Nat.zero_add]

/-- `tx` of the adapter does what `uart_tx` promises. -/
theorem tx_eq_uartTx (world : World App) (start : Address) (len : Nat) (timeout : Int) :
    (world.tx (some start) len timeout).1 = (uartTx (transferOf world) start len).1 ∧
      transferOf (world.tx (some start) len timeout).2 =
        (uartTx (transferOf world) start len).2 := by
  unfold World.tx uartTx
  rw [isSome_transferOf]
  by_cases empty : len = 0
  · rw [if_pos empty, if_pos empty]
    exact ⟨rfl, rfl⟩
  · rw [if_neg empty, if_neg empty]
    by_cases busy : world.adapter.tx.buf.isSome = true
    · rw [if_pos busy, if_pos busy]
      exact ⟨rfl, rfl⟩
    · rw [if_neg busy, if_neg busy]
      dsimp only
      split
      · exact ⟨rfl, transferOf_accepted rfl rfl⟩
      · exact ⟨rfl, transferOf_accepted rfl rfl⟩

/-- `tx_abort` reports at most the length of the transfer, and ends it. -/
theorem txAbort_reports (here : transferOf world = some transfer) :
    transferOf world.txAbort.2 = none ∧ exists count, count ≤ transfer.len ∧
      world.txAbort.1 = some (.txAborted (some transfer.start) count) := by
  unfold transferOf at here
  rcases Option.map_eq_some_iff.mp here with ⟨buf, accepted, rfl⟩
  have busy : world.adapter.tx.buf.isSome = true := by
    rw [accepted]
    rfl
  constructor
  · unfold transferOf
    rw [World.txAbort_buf]
    rfl
  · refine ⟨_, Nat.le_add_right _ _, ?_⟩
    rw [World.txAbort_of_busy busy, accepted]

/-- `on_tx_complete` reports the full length, and ends the transfer. -/
theorem onTxComplete_reports (here : transferOf world = some transfer)
    (complete : world.adapter.tx.sizeLeft = 0) :
    transferOf world.onTxComplete.2 = none ∧
      world.onTxComplete.1 = some (.txDone (some transfer.start) transfer.len) := by
  unfold transferOf at here
  rcases Option.map_eq_some_iff.mp here with ⟨buf, accepted, rfl⟩
  have busy : world.adapter.tx.buf.isSome = true := by
    rw [accepted]
    rfl
  rw [World.onTxComplete_of_busy complete busy, accepted, complete]
  exact ⟨rfl, rfl⟩

end Adapter

end Aborts
end Uart
end NrfExamples
