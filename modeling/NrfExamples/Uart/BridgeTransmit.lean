import NrfExamples.Uart.Bridge

namespace NrfExamples
namespace Uart

open Reentrant

/-!
# From Bluetooth to the UART

`bt_receive_cb` cuts a packet into chunks and hands each to `uart_tx`, or puts
it on `fifo_uart_tx_data` if the UART is busy.  `uart_cb` takes the next chunk
from there when a transfer is done, and an interrupt can bring that about
between any two calls of `bt_receive_cb`.  Between the refusal of a chunk and
its `k_fifo_put` this is one moment too early if the FIFO is empty: nothing is
left that would start the chunk.

The UART is the one `uart_tx` promises: one transfer at a time, and an error
while it lasts.
-/

/-! ## Chunks -/

/-- The bytes that a chunk takes from a packet at `pos`.  The last byte of the
buffer, after `tx_data_size`, is kept for a line feed. -/
def chunkSize (cfg : BridgeConfig) (packet : List UInt8) (pos : Nat) : Nat :=
  if cfg.uartBufSize - 1 < packet.length - pos then cfg.uartBufSize - 1 else packet.length - pos

/-- The chunk that is made of a packet at `pos`: a line feed is added at the end
of a packet that ends in a carriage return. -/
def chunkBytes (cfg : BridgeConfig) (packet : List UInt8) (pos : Nat) : List UInt8 :=
  (packet.drop pos).take (chunkSize cfg packet pos) ++
    if pos + chunkSize cfg packet pos = packet.length ∧ packet.getLast? = some 13 then [10] else []

theorem chunkSize_bounds (cfg : BridgeConfig) {packet : List UInt8} {pos : Nat}
    (within : pos < packet.length) :
    0 < chunkSize cfg packet pos ∧ chunkSize cfg packet pos < cfg.uartBufSize ∧
      pos + chunkSize cfg packet pos ≤ packet.length := by
  have room := cfg.room
  unfold chunkSize
  split <;> omega

theorem chunkBytes_ne_nil (cfg : BridgeConfig) {packet : List UInt8} {pos : Nat}
    (within : pos < packet.length) : (chunkBytes cfg packet pos).length ≠ 0 := by
  rcases chunkSize_bounds cfg within with ⟨positive, _, inside⟩
  unfold chunkBytes
  rw [List.length_append, List.length_take, List.length_drop]
  omega

/-- What has been copied to the beginning of an array can be read from there. -/
theorem map_range_getD (bytes : List UInt8) (old : Nat -> UInt8) :
    (List.range bytes.length).map (fun i => bytes.getD i (old i)) = bytes := by
  apply List.ext_getElem (by simp)
  intro i within _
  have inside : i < bytes.length := by simpa using within
  simp [inside]

theorem map_range_update (count : Nat) (old : Nat -> UInt8) (byte : UInt8) :
    (List.range (count + 1)).map (Function.update old count byte) =
      (List.range count).map old ++ [byte] := by
  rw [List.range_succ, List.map_append]
  refine congrArg₂ _ (List.map_congr_left fun i member => ?_) ?_
  · have before : i < count := List.mem_range.mp member
    exact Function.update_of_ne (by omega) _ _
  · simp

/-! ## The data and its sections -/

/-- The data of `main.c` with the `data` arrays, and a UART with at most one
transfer in flight.  `produced` and `started` are not in the source: the chunks
in the order in which they were made, and in which their transfers started. -/
structure Link where
  bridge : Bridge
  data : Address -> Nat -> UInt8
  inFlight : Option (Address × Nat)
  produced : List (List UInt8)
  started : List (List UInt8)

namespace Link

variable (link : Link)

def bytes (buf : Address) (len : Nat) : List UInt8 :=
  (List.range len).map (link.data buf)

/-- `data[0..len)` -/
def chunk (buf : Address) : List UInt8 :=
  link.bytes buf (link.bridge.len buf)

def mapBridge (run : Bridge -> Bridge) : Link :=
  { link with bridge := run link.bridge }

/-- `memcpy(buf->data, bytes, n)` -/
def memcpy (buf : Address) (bytes : List UInt8) : Link :=
  { link with data := Function.update link.data buf fun i => bytes.getD i (link.data buf i) }

/-- `buf->data[index] = byte` -/
def putByte (buf : Address) (index : Nat) (byte : UInt8) : Link :=
  { link with data := Function.update link.data buf (Function.update (link.data buf) index byte) }

/-- `uart_tx` of a UART that takes one transfer at a time. -/
def uartTx (buf : Address) (len : Nat) : Int × Link :=
  match link.inFlight with
  | some _ => (-EBUSY, link)
  | none => (0, { link with
      inFlight := some (buf, len)
      started := link.started ++ [link.bytes buf len] })

/-- The transfer in flight ends, and `uart_cb` runs for its `UART_TX_DONE`. -/
def uartTxDone : Link :=
  match link.inFlight with
  | none => link
  | some (sent, len) =>
      let done := link.bridge.txDone (some sent) len
      let link := { link with inFlight := none, bridge := done.2 }
      match done.1 with
      | none => link
      | some buf => (link.uartTx buf (link.bridge.len buf)).2

/-- The body of the loop of `bt_receive_cb` between `k_malloc` and `uart_tx`,
with the new `pos`. -/
def fill (cfg : BridgeConfig) (packet : List UInt8) (pos : Nat) (tx : Address) : Nat × Link :=
  let link := link.mapBridge fun bridge => bridge.setLen tx (chunkSize cfg packet pos)
  let link := link.memcpy tx ((packet.drop pos).take (link.bridge.len tx))
  let pos := (pos + link.bridge.len tx) % 2 ^ 16
  let link :=
    if pos = packet.length ∧ packet.getLast? = some 13 then
      (link.putByte tx (link.bridge.len tx) 10).mapBridge fun bridge =>
        bridge.setLen tx (bridge.len tx + 1)
    else link
  (pos, { link with produced := link.produced ++ [link.chunk tx] })

/-- Filling a chunk changes its own buffer only, and moves `pos` on. -/
theorem fill_spec (link : Link) (cfg : BridgeConfig) {packet : List UInt8} {pos : Nat}
    (within : pos < packet.length) (short : packet.length < 2 ^ 16) (tx : Address) :
    (link.fill cfg packet pos tx).1 = pos + chunkSize cfg packet pos ∧
      exists data, (List.range (chunkBytes cfg packet pos).length).map data =
          chunkBytes cfg packet pos ∧ (link.fill cfg packet pos tx).2 = { link with
        bridge := { link.bridge with
          len := Function.update link.bridge.len tx (chunkBytes cfg packet pos).length }
        data := Function.update link.data tx data
        produced := link.produced ++ [chunkBytes cfg packet pos] } := by
  rcases chunkSize_bounds cfg within with ⟨positive, fits, inside⟩
  have holds := cfg.lenHolds
  have small : chunkSize cfg packet pos % 2 ^ 16 = chunkSize cfg packet pos :=
    Nat.mod_eq_of_lt (by omega)
  have noWrap : (pos + chunkSize cfg packet pos) % 2 ^ 16 = pos + chunkSize cfg packet pos :=
    Nat.mod_eq_of_lt (by omega)
  have oneMore : (chunkSize cfg packet pos + 1) % 2 ^ 16 = chunkSize cfg packet pos + 1 :=
    Nat.mod_eq_of_lt (by omega)
  have copied : ((packet.drop pos).take (chunkSize cfg packet pos)).length =
      chunkSize cfg packet pos := by
    rw [List.length_take, List.length_drop]
    omega
  have read := map_range_getD ((packet.drop pos).take (chunkSize cfg packet pos)) (link.data tx)
  rw [copied] at read
  unfold fill chunkBytes
  simp only [mapBridge, memcpy, putByte, Bridge.setLen, Function.update_self, small, noWrap]
  refine ⟨trivial, ?_⟩
  by_cases last : pos + chunkSize cfg packet pos = packet.length ∧ packet.getLast? = some 13
  · refine ⟨Function.update (fun i => ((packet.drop pos).take (chunkSize cfg packet pos)).getD i
      (link.data tx i)) (chunkSize cfg packet pos) 10, ?_, ?_⟩
    · simp only [if_pos last, List.length_append, copied, List.length_singleton, map_range_update,
        read]
    · simp only [if_pos last, chunk, bytes, Function.update_self, Function.update_idem, oneMore,
        map_range_update, read, List.length_append, copied, List.length_singleton]
  · refine ⟨fun i => ((packet.drop pos).take (chunkSize cfg packet pos)).getD i (link.data tx i),
      ?_, ?_⟩
    · simp only [if_neg last, List.append_nil, copied, read]
    · simp only [if_neg last, chunk, bytes, Function.update_self, read, List.append_nil, copied]

end Link

/-! ## Programs -/

/-- What happens next, memory for a chunk, and whether a transfer ends between
two calls of `bt_receive_cb`.  `refused` is set right after `uart_tx` has
refused a chunk. -/
inductive LinkQuery
  | next
  | kMalloc
  | txDone (refused : Bool)
  deriving DecidableEq, Repr

/-- Either a packet is received or the transfer in flight ends. -/
abbrev LinkAnswer : LinkQuery -> Type
  | .next => Option (List UInt8)
  | .kMalloc => Option Nat
  | .txDone _ => Bool

inductive LinkProc
  | environment
  | btReceiveCb (packet : List UInt8)
  | btReceiveLoop (packet : List UInt8) (pos : Nat)
  | interrupts (refused : Bool)
  deriving DecidableEq, Repr

abbrev linkInterface : Interface where
  State := Link
  Query := LinkQuery
  Answer := LinkAnswer
  Proc := LinkProc
  Result := fun _ => Unit

abbrev LinkProg := Prog linkInterface

namespace LinkProg

abbrev modify (run : Link -> Link) : LinkProg Unit := Prog.modify run
abbrev perform {A : Type} (run : Link -> A × Link) : LinkProg A := Prog.perform run
abbrev ask (query : LinkQuery) : LinkProg (LinkAnswer query) :=
  Prog.question (I := linkInterface) query
abbrev invoke (proc : LinkProc) : LinkProg Unit := Prog.invoke (I := linkInterface) proc

/-- `k_malloc(sizeof(*tx))` -/
def kMalloc : LinkProg Pointer := do
  let block <- (ask .kMalloc : LinkProg (Option Nat))
  match block with
  | none => pure none
  | some block => do
      modify fun link => link.mapBridge fun bridge => bridge.allocate ⟨block, 0⟩
      pure (some ⟨block, 0⟩)

end LinkProg

open LinkProg

/-- Any number of transfers end at this point. -/
def interrupts (refused : Bool) : LinkProg Unit := do
  let now <- (ask (.txDone refused) : LinkProg Bool)
  if now = true then
    modify Link.uartTxDone
    invoke (.interrupts refused)

/-- The loop of `bt_receive_cb`. -/
def btReceiveLoop (cfg : BridgeConfig) (packet : List UInt8) (pos : Nat) : LinkProg Unit :=
  if pos = packet.length then pure ()
  else do
    invoke (.interrupts false)
    let tx <- LinkProg.kMalloc
    match tx with
    | none => pure ()
    | some tx => do
        invoke (.interrupts false)
        let pos <- perform fun link => link.fill cfg packet pos tx
        invoke (.interrupts false)
        let err <- perform fun link => link.uartTx tx (link.bridge.len tx)
        if err ≠ 0 then
          invoke (.interrupts true)
          modify fun link => link.mapBridge fun bridge => bridge.putTx tx
        invoke (.btReceiveLoop packet pos)

/-- Packets are received one after the other, and transfers end at any time. -/
def linkEnvironment : LinkProg Unit := do
  let next <- (ask .next : LinkProg (Option (List UInt8)))
  match next with
  | none => modify Link.uartTxDone
  | some packet => invoke (.btReceiveCb packet)
  invoke .environment

def linkBody (cfg : BridgeConfig) : (proc : LinkProc) -> LinkProg Unit
  | .environment => linkEnvironment
  | .btReceiveCb packet => btReceiveLoop cfg packet 0
  | .btReceiveLoop packet pos => btReceiveLoop cfg packet pos
  | .interrupts refused => interrupts refused

/-- Allocation succeeds and a packet has a `uint16_t` length.  If `prompt` is
set, no transfer ends while a refused chunk is not yet on an empty FIFO. -/
def linkSystem (cfg : BridgeConfig) (prompt : Bool) : System linkInterface where
  body := linkBody cfg
  permitted := fun query link answer =>
    match query, answer with
    | .next, none => link.inFlight.isSome
    | .next, some packet => packet.length < 2 ^ 16
    | .kMalloc, none => False
    | .kMalloc, some block => ⟨block, 0⟩ ∉ link.bridge.live
    | .txDone _, false => True
    | .txDone refused, true => link.inFlight.isSome ∧
        (prompt = true -> refused = true -> link.bridge.fifoUartTxData ≠ [])

/-- After `uart_init`: the welcome message may be in flight. -/
def Link.initial (greeting : Option Address) (others : List Address) (len : Address -> Nat)
    (data : Address -> Nat -> UInt8) : Link where
  bridge := { Bridge.initial len with live := greeting.toList ++ others }
  data := data
  inFlight := greeting.map fun buf => (buf, welcome.length)
  produced := []
  started := []

abbrev LinkConfig := Config linkInterface Unit

/-- The configurations of all runs. -/
def LinkReached (cfg : BridgeConfig) (prompt : Bool) (current : LinkConfig) : Prop :=
  exists greeting others len data, (linkSystem cfg prompt).Reachable
    ⟨Link.initial greeting others len data, linkEnvironment⟩ current

/-! ## What holds at each point -/

/-- Where the chunk is that `bt_receive_cb` is working on. -/
structure InWork where
  filled : Option Address
  allocated : Option Address

/-- The buffers of the chunks that have not been sent. -/
def Link.held (work : InWork) (link : Link) : List Address :=
  (link.inFlight.map Prod.fst).toList ++
    (link.bridge.fifoUartTxData ++ (work.filled.toList ++ work.allocated.toList))

/-- The chunks that have started, those on the FIFO, and the one in work are the
chunks that have been made, in order; and the FIFO is empty when nothing is in
flight. -/
structure LinkInv (work : InWork) (link : Link) : Prop where
  order : link.started ++ (link.bridge.fifoUartTxData ++ work.filled.toList).map link.chunk =
    link.produced
  busy : link.inFlight = none -> link.bridge.fifoUartTxData = []
  distinct : (link.held work).Nodup
  live : link.held work ⊆ link.bridge.live
  lens : forall buf, buf ∈ link.bridge.fifoUartTxData ++ work.filled.toList ->
    link.bridge.len buf ≠ 0
  flight : forall buf len, link.inFlight = some (buf, len) -> len ≠ 0
  notAborted : link.bridge.abortedBuf = none

namespace LinkInv

variable {work : InWork} {link : Link} {tx : Address}

/-- The end of a transfer starts the first chunk of the FIFO, if there is one. -/
theorem uartTxDone (holds : LinkInv work link) :
    LinkInv work link.uartTxDone ∧ (link.bridge.fifoUartTxData ≠ [] -> link.inFlight.isSome ->
      link.uartTxDone.inFlight.isSome) := by
  unfold Link.uartTxDone
  cases flight : link.inFlight with
  | none => exact ⟨holds, fun _ impossible => nomatch impossible⟩
  | some transfer =>
      rcases transfer with ⟨sent, len⟩
      have some : len ≠ 0 := holds.flight sent len flight
      have distinct := holds.distinct
      have live := holds.live
      unfold Link.held at distinct live
      rw [flight] at distinct live
      change (sent :: (link.bridge.fifoUartTxData ++
        (work.filled.toList ++ work.allocated.toList))).Nodup at distinct
      rcases List.nodup_cons.mp distinct with ⟨alone, others⟩
      have kept : link.bridge.fifoUartTxData ++ (work.filled.toList ++ work.allocated.toList) ⊆
          (link.bridge.kFree sent).live := by
        intro buf member
        refine (List.mem_erase_of_ne (ne_of_mem_of_not_mem member alone)).mpr (live ?_)
        exact List.mem_cons_of_mem sent member
      dsimp only
      rw [link.bridge.txDone_of_notAborted holds.notAborted sent some]
      cases queue : link.bridge.fifoUartTxData with
      | nil =>
          rw [(link.bridge.kFree sent).getTx_nil queue]
          refine ⟨⟨holds.order, fun _ => queue, others, kept, holds.lens,
            (fun _ _ impossible => nomatch impossible), holds.notAborted⟩, ?_⟩
          exact fun nonempty => absurd rfl nonempty
      | cons buf rest =>
          rw [(link.bridge.kFree sent).getTx_cons queue]
          rw [queue] at others kept
          have lens := holds.lens
          have order := holds.order
          rw [queue] at lens order
          refine ⟨⟨?_, (fun impossible => nomatch impossible), others, kept, ?_, ?_,
            holds.notAborted⟩, fun _ _ => rfl⟩
          · refine Eq.trans ?_ order
            exact List.append_assoc _ _ _
          · exact fun other member => lens other (List.mem_cons_of_mem buf member)
          · rintro _ _ ⟨⟩
            exact lens buf List.mem_cons_self

theorem allocate (holds : LinkInv ⟨none, none⟩ link) {buf : Address}
    (fresh : buf ∉ link.bridge.live) :
    LinkInv ⟨none, some buf⟩ (link.mapBridge fun bridge => bridge.allocate buf) := by
  have before : (link.held ⟨none, none⟩) ++ [buf] =
      (link.mapBridge fun bridge => bridge.allocate buf).held ⟨none, some buf⟩ := by
    simp [Link.held, Link.mapBridge, Bridge.allocate]
  refine ⟨holds.order, holds.busy, ?_, ?_, holds.lens, holds.flight, holds.notAborted⟩
  · rw [← before]
    have absent : buf ∉ link.held ⟨none, none⟩ := fun member => fresh (holds.live member)
    refine List.nodup_append.mpr ⟨holds.distinct, by simp, ?_⟩
    intro other member new inNew
    rw [List.mem_singleton.mp inNew]
    exact ne_of_mem_of_not_mem member absent
  · rw [← before]
    intro other member
    rcases List.mem_append.mp member with old | new
    · exact List.mem_cons_of_mem _ (holds.live old)
    · rw [List.mem_singleton.mp new]
      exact List.mem_cons_self

/-- The chunk that has been made comes after all those before. -/
theorem fill (holds : LinkInv ⟨none, some tx⟩ link) (cfg : BridgeConfig) {packet : List UInt8}
    {pos : Nat} (within : pos < packet.length) (short : packet.length < 2 ^ 16) :
    LinkInv ⟨some tx, none⟩ (link.fill cfg packet pos tx).2 := by
  rcases link.fill_spec cfg within short tx with ⟨_, data, read, result⟩
  have notQueued : tx ∉ link.bridge.fifoUartTxData := by
    have parts := (List.nodup_append.mp (List.nodup_append.mp holds.distinct).2.1).2.2
    exact fun member => parts tx member tx List.mem_cons_self rfl
  have sameHeld : (link.fill cfg packet pos tx).2.held ⟨some tx, none⟩ =
      link.held ⟨none, some tx⟩ := by
    rw [result]
    rfl
  have others : link.bridge.fifoUartTxData.map (link.fill cfg packet pos tx).2.chunk =
      link.bridge.fifoUartTxData.map link.chunk := by
    apply List.map_congr_left
    intro other member
    have differs : other ≠ tx := ne_of_mem_of_not_mem member notQueued
    rw [result]
    unfold Link.chunk Link.bytes
    simp only [Function.update_of_ne differs]
  have own : (link.fill cfg packet pos tx).2.chunk tx = chunkBytes cfg packet pos := by
    rw [result]
    unfold Link.chunk Link.bytes
    simp only [Function.update_self, read]
  refine ⟨?_, ?_, sameHeld ▸ holds.distinct, ?_, ?_, ?_, ?_⟩
  · have before : link.started ++ link.bridge.fifoUartTxData.map link.chunk = link.produced := by
      simpa using holds.order
    have queue : (link.fill cfg packet pos tx).2.bridge.fifoUartTxData =
        link.bridge.fifoUartTxData := by rw [result]
    have produced : (link.fill cfg packet pos tx).2.produced =
        link.produced ++ [chunkBytes cfg packet pos] := by rw [result]
    have started : (link.fill cfg packet pos tx).2.started = link.started := by rw [result]
    rw [produced, queue, started, ← before, List.map_append, others, List.append_assoc]
    simp [own]
  · rw [result]
    exact holds.busy
  · rw [sameHeld, result]
    exact holds.live
  · rw [result]
    intro other member
    rcases List.mem_append.mp member with queued | made
    · have differs : other ≠ tx := ne_of_mem_of_not_mem queued notQueued
      have positive := holds.lens other (List.mem_append_left _ queued)
      simp only [Function.update_of_ne differs]
      exact positive
    · rw [List.mem_singleton.mp made]
      simp only [Function.update_self]
      exact chunkBytes_ne_nil cfg within
  · rw [result]
    exact holds.flight
  · rw [result]
    exact holds.notAborted

/-- An idle UART has an empty FIFO behind it, so the chunk starts in its turn; a
busy one refuses it. -/
theorem uartTx (holds : LinkInv ⟨some tx, none⟩ link) :
    ((link.uartTx tx (link.bridge.len tx)).1 = 0 ∧
      LinkInv ⟨none, none⟩ (link.uartTx tx (link.bridge.len tx)).2) ∨
    ((link.uartTx tx (link.bridge.len tx)).1 ≠ 0 ∧ link.inFlight.isSome ∧
      (link.uartTx tx (link.bridge.len tx)).2 = link) := by
  have refuses : -EBUSY ≠ 0 := by decide
  unfold Link.uartTx
  cases flight : link.inFlight with
  | some transfer => exact .inr ⟨refuses, rfl, rfl⟩
  | none =>
      have empty := holds.busy flight
      have order := holds.order
      have distinct := holds.distinct
      have live := holds.live
      unfold Link.held at distinct live
      rw [flight, empty] at distinct live
      rw [empty] at order
      refine .inl ⟨rfl, ?_, fun _ => empty, ?_, ?_, ?_, ?_, holds.notAborted⟩
      · change link.started ++ [link.chunk tx] ++
          (link.bridge.fifoUartTxData ++ []).map link.chunk = link.produced
        rw [empty]
        exact (List.append_nil _).trans order
      · unfold Link.held
        change ([tx] ++ (link.bridge.fifoUartTxData ++ [])).Nodup
        rw [empty]
        exact distinct
      · unfold Link.held
        change [tx] ++ (link.bridge.fifoUartTxData ++ []) ⊆ link.bridge.live
        rw [empty]
        exact live
      · intro buf member
        exact holds.lens buf (List.mem_append_left _ (by simpa using member))
      · rintro _ _ ⟨⟩
        exact holds.lens tx (List.mem_append_right _ List.mem_cons_self)

/-- While a transfer is in flight, a refused chunk can wait on the FIFO. -/
theorem putTx (holds : LinkInv ⟨some tx, none⟩ link) (busy : link.inFlight.isSome) :
    LinkInv ⟨none, none⟩ (link.mapBridge fun bridge => bridge.putTx tx) := by
  have sameHeld : (link.mapBridge fun bridge => bridge.putTx tx).held ⟨none, none⟩ =
      link.held ⟨some tx, none⟩ := by
    simp [Link.held, Link.mapBridge, Bridge.putTx]
  refine ⟨?_, ?_, sameHeld ▸ holds.distinct, sameHeld ▸ holds.live, ?_, holds.flight,
    holds.notAborted⟩
  · refine Eq.trans ?_ holds.order
    change link.started ++ (link.bridge.fifoUartTxData ++ [tx] ++ []).map link.chunk = _
    rw [List.append_nil]
    rfl
  · intro idle
    change link.inFlight = none at idle
    rw [idle] at busy
    cases busy
  · intro buf member
    exact holds.lens buf (by simpa [Link.mapBridge, Bridge.putTx] using member)

theorem initial (greeting : Option Address) (others : List Address) (len : Address -> Nat)
    (data : Address -> Nat -> UInt8) :
    LinkInv ⟨none, none⟩ (Link.initial greeting others len data) := by
  have held : (Link.initial greeting others len data).held ⟨none, none⟩ = greeting.toList := by
    cases greeting <;> rfl
  refine ⟨rfl, fun _ => rfl, ?_, ?_, fun _ none => absurd none List.not_mem_nil, ?_, rfl⟩
  · rw [held]
    cases greeting <;> simp
  · rw [held]
    exact List.subset_append_left _ _
  · intro buf size same
    cases greeting with
    | none => cases same
    | some sent =>
        cases same
        exact Nat.succ_ne_zero 37

end LinkInv

/-! ## Runs -/

section Runs

variable (cfg : BridgeConfig)

/-- What is in work is the same before and after the transfers that end at a
point.  Right after a refusal the UART stays busy, because such a transfer
leaves the next one behind. -/
def linkContract : Contract linkInterface where
  Ghost := fun _ => InWork
  always := fun link => exists work, LinkInv work link
  asked := fun query link =>
    match query with
    | .next => LinkInv ⟨none, none⟩ link
    | _ => True
  pre := fun proc work link =>
    match proc with
    | .environment => LinkInv ⟨none, none⟩ link
    | .btReceiveCb packet => LinkInv ⟨none, none⟩ link ∧ packet.length < 2 ^ 16
    | .btReceiveLoop packet pos => LinkInv ⟨none, none⟩ link ∧ packet.length < 2 ^ 16 ∧
        pos ≤ packet.length
    | .interrupts refused => LinkInv work link ∧ (refused = true -> link.inFlight.isSome)
  post := fun proc work _ link =>
    match proc with
    | .environment => True
    | .btReceiveCb _ | .btReceiveLoop _ _ => LinkInv ⟨none, none⟩ link
    | .interrupts refused => LinkInv work link ∧ (refused = true -> link.inFlight.isSome)

variable {cfg}
variable {work : InWork} {link : Link}

/-- What a program needs under this contract, in a run in which no transfer ends
too early. -/
abbrev LinkSafe (cfg : BridgeConfig) {A : Type} (program : LinkProg A) (goal : A -> Link -> Prop)
    (link : Link) : Prop :=
  Prog.Safe (linkSystem cfg true) linkContract program goal link

theorem safe_interrupts (refused : Bool) (holds : LinkInv work link)
    (busy : refused = true -> link.inFlight.isSome) :
    LinkSafe cfg (interrupts refused) (fun _ later => LinkInv work later ∧
      (refused = true -> later.inFlight.isSome)) link := by
  unfold LinkSafe interrupts
  simp only [Prog.safe_monadBind, Prog.question, Prog.safe_ask, Prog.safe_ret, Prog.safe_ite,
    Prog.safe_modify, Prog.safe_pure, Prog.invoke, Prog.safe_call]
  refine ⟨trivial, fun now allowed => ⟨fun isNow => ?_, fun _ => ⟨holds, busy⟩⟩⟩
  rw [isNow] at allowed
  rcases holds.uartTxDone with ⟨kept, next⟩
  refine ⟨⟨_, kept⟩, work, ⟨kept, fun isRefused => ?_⟩, fun _ _ _ promised => promised⟩
  exact next (allowed.2 rfl isRefused) allowed.1

theorem safe_linkMalloc {goal : Pointer -> Link -> Prop} (holds : LinkInv ⟨none, none⟩ link)
    (continues : forall tx, LinkInv ⟨none, some tx⟩
      (link.mapBridge fun bridge => bridge.allocate tx) ->
        goal (some tx) (link.mapBridge fun bridge => bridge.allocate tx)) :
    LinkSafe cfg LinkProg.kMalloc goal link := by
  unfold LinkSafe LinkProg.kMalloc
  simp only [Prog.safe_monadBind, Prog.question, Prog.safe_ask, Prog.safe_ret]
  refine ⟨trivial, fun answer allowed => ?_⟩
  cases answer with
  | none => exact allowed.elim
  | some block =>
      have allocated := holds.allocate allowed
      simp only [Prog.safe_monadBind, Prog.safe_modify, Prog.safe_pure]
      exact ⟨⟨_, allocated⟩, continues _ allocated⟩

/-- One turn of the loop hands over one chunk, wherever transfers end in it. -/
theorem safe_btReceiveLoop {packet : List UInt8} {pos : Nat} (holds : LinkInv ⟨none, none⟩ link)
    (short : packet.length < 2 ^ 16) (within : pos ≤ packet.length) :
    LinkSafe cfg (btReceiveLoop cfg packet pos) (fun _ => LinkInv ⟨none, none⟩) link := by
  unfold LinkSafe btReceiveLoop
  simp only [Prog.safe_ite, Prog.safe_pure, Prog.safe_monadBind, Prog.invoke, Prog.safe_call,
    Prog.safe_ret]
  refine ⟨fun _ => holds, fun unfinished => ?_⟩
  have more : pos < packet.length := by omega
  have notRefused (link : Link) : false = true -> link.inFlight.isSome :=
    fun impossible => absurd impossible Bool.false_ne_true
  refine ⟨⟨none, none⟩, ⟨holds, notRefused _⟩, fun _ first _ kept => ?_⟩
  apply safe_linkMalloc kept.1
  intro tx allocated
  simp only [Prog.safe_ite, Prog.safe_monadBind, Prog.safe_call, Prog.safe_ret,
    Prog.safe_perform, Prog.safe_modify]
  refine ⟨⟨none, some tx⟩, ⟨allocated, notRefused _⟩, fun _ second _ kept => ?_⟩
  have filled := kept.1.fill cfg more short
  have next := (second.fill_spec cfg more short tx).1
  have inside := (chunkSize_bounds cfg more).2.2
  refine ⟨⟨_, filled⟩, ⟨some tx, none⟩, ⟨filled, notRefused _⟩, fun _ third _ kept => ?_⟩
  rcases kept.1.uartTx with ⟨accepted, started⟩ | ⟨refused, busy, same⟩
  · refine ⟨⟨_, started⟩, fun impossible => absurd accepted impossible, fun _ => ?_⟩
    refine ⟨⟨none, none⟩, ⟨started, short, ?_⟩, fun _ _ _ promised => promised⟩
    rw [next]
    exact inside
  · rw [same]
    refine ⟨⟨_, kept.1⟩, fun _ => ?_, fun impossible => absurd refused impossible⟩
    refine ⟨⟨some tx, none⟩, ⟨kept.1, fun _ => busy⟩, fun _ fourth _ kept => ?_⟩
    have waiting := kept.1.putTx (kept.2 rfl)
    refine ⟨⟨_, waiting⟩, ⟨none, none⟩, ⟨waiting, short, ?_⟩, fun _ _ _ promised => promised⟩
    rw [next]
    exact inside

theorem safe_linkEnvironment (holds : LinkInv ⟨none, none⟩ link) :
    LinkSafe cfg linkEnvironment (fun _ _ => True) link := by
  unfold LinkSafe linkEnvironment
  simp only [Prog.safe_monadBind, Prog.question, Prog.safe_ask, Prog.safe_ret]
  refine ⟨holds, fun next allowed => ?_⟩
  cases next with
  | none =>
      have done := holds.uartTxDone.1
      simp only [Prog.safe_monadBind, Prog.safe_modify, Prog.invoke, Prog.safe_call, Prog.safe_ret]
      exact ⟨⟨_, done⟩, ⟨none, none⟩, done, fun _ _ _ _ => trivial⟩
  | some packet =>
      simp only [Prog.safe_monadBind, Prog.invoke, Prog.safe_call, Prog.safe_ret]
      refine ⟨⟨none, none⟩, ⟨holds, allowed⟩, fun _ later _ kept => ?_⟩
      exact ⟨⟨none, none⟩, kept, fun _ _ _ _ => trivial⟩

theorem link_honours : (linkSystem cfg true).Honours linkContract := by
  intro proc work link _ assumed
  cases proc with
  | environment => exact safe_linkEnvironment assumed
  | btReceiveCb packet => exact safe_btReceiveLoop assumed.1 assumed.2 (Nat.zero_le _)
  | btReceiveLoop packet pos => exact safe_btReceiveLoop assumed.1 assumed.2.1 assumed.2.2
  | interrupts refused => exact safe_interrupts refused assumed.1 assumed.2

end Runs

/-- No packet is being received: the environment chooses what comes next. -/
def BetweenPackets (current : LinkConfig) : Prop :=
  exists next, current.prog = .ask .next next

/-- The chunks start in the order in which they are made, each once, and none is
left behind when the UART is idle. -/
structure InOrder (current : LinkConfig) : Prop where
  order : current.state.started <+: current.state.produced
  complete : BetweenPackets current ->
    current.state.started ++ current.state.bridge.fifoUartTxData.map current.state.chunk =
      current.state.produced
  notStranded : BetweenPackets current -> current.state.inFlight = none ->
    current.state.bridge.fifoUartTxData = []

/-- If no transfer ends while a refused chunk is not yet on an empty FIFO, the
chunks are sent in order and none is stranded. -/
theorem chunks_inOrder {cfg : BridgeConfig} {current : LinkConfig}
    (reached : LinkReached cfg true current) : InOrder current := by
  rcases reached with ⟨greeting, others, len, data, reachable⟩
  have initially := LinkInv.initial greeting others len data
  have safe : LinkSafe cfg linkEnvironment (fun _ _ => True) _ := safe_linkEnvironment initially
  have between : BetweenPackets current -> LinkInv ⟨none, none⟩ current.state := by
    rintro ⟨next, here⟩
    exact System.asked_of_reachable reachable link_honours ⟨_, initially⟩ safe here
  refine ⟨?_, fun here => ?_, fun here => (between here).busy⟩
  · rcases System.always_of_reachable reachable link_honours ⟨_, initially⟩ safe with ⟨_, holds⟩
    exact ⟨_, holds.order⟩
  · have order := (between here).order
    rwa [Option.toList_none, List.append_nil] at order

/-! ## Two runs -/

instance (cfg : BridgeConfig) (prompt : Bool) (query : LinkQuery) (link : Link)
    (answer : LinkAnswer query) : Decidable ((linkSystem cfg prompt).permitted query link answer) :=
  match query, answer with
  | .next, none => inferInstanceAs (Decidable (link.inFlight.isSome = true))
  | .next, some packet => inferInstanceAs (Decidable (packet.length < 2 ^ 16))
  | .kMalloc, none => .isFalse id
  | .kMalloc, some _ => inferInstanceAs (Decidable (¬_))
  | .txDone _, false => .isTrue trivial
  | .txDone refused, true => inferInstanceAs (Decidable (link.inFlight.isSome = true ∧
      (prompt = true -> refused = true -> link.bridge.fifoUartTxData ≠ [])))

def linkScripted (prompt : Bool) (fuel : Nat) (script : List (Sigma LinkAnswer)) : LinkConfig :=
  (linkSystem defaultConfig prompt).play (I := linkInterface) fuel script
    ⟨Link.initial none [] (fun _ => 0) (fun _ _ => 0), linkEnvironment⟩

theorem linkScripted_reached (prompt : Bool) (fuel : Nat) (script : List (Sigma LinkAnswer)) :
    LinkReached defaultConfig prompt (linkScripted prompt fuel script) :=
  ⟨_, _, _, _, (linkSystem defaultConfig prompt).play_reachable fuel script _⟩

/-- A packet of one chunk, with no interrupt before `uart_tx`. -/
def packetAnswers (packet : List UInt8) (block : Nat) : List (Sigma LinkAnswer) :=
  [⟨.next, some packet⟩, ⟨.txDone false, false⟩, ⟨.kMalloc, some block⟩, ⟨.txDone false, false⟩,
    ⟨.txDone false, false⟩]

/-- The second packet finds the UART busy; the transfer of the first ends after
the chunk is on the FIFO. -/
def queuedRun : LinkConfig :=
  linkScripted true 100 (packetAnswers [97, 13] 1 ++ packetAnswers [98] 2 ++
    [⟨.txDone true, false⟩, ⟨.next, none⟩])

theorem queuedRun_inOrder :
    queuedRun.state.started = [[97, 13, 10], [98]] ∧ InOrder queuedRun :=
  ⟨by decide +kernel, chunks_inOrder (linkScripted_reached true 100 _)⟩

/-- The transfer of the first ends just before the chunk is on the FIFO. -/
def strandedRun : LinkConfig :=
  linkScripted false 100 (packetAnswers [97] 1 ++ packetAnswers [98] 2 ++
    [⟨.txDone true, true⟩, ⟨.txDone true, false⟩])

/-- Without the condition a chunk stays behind an idle UART. -/
theorem not_chunks_inOrder :
    ¬ forall cfg (current : LinkConfig), LinkReached cfg false current -> InOrder current := by
  intro claim
  have inOrder := claim defaultConfig strandedRun (linkScripted_reached false 100 _)
  have between : BetweenPackets strandedRun := exists_of_pendingQuery (by decide +kernel)
  have empty := inOrder.notStranded between (by decide +kernel)
  exact absurd empty (by decide +kernel)

end Uart
end NrfExamples
