import NrfExamples.Uart.BridgeTransmit

namespace NrfExamples
namespace Uart

open Reentrant

/-!
# How a packet is split

`bt_receive_cb` by itself.  What `k_malloc` and `uart_tx` return is left open, and
so is what interrupts do meanwhile, except that they leave the new buffer alone.
Every value that is stored in a `uint16_t` is noted before it is cut to 16 bits.

The chunks depend on the packet and on the size of the buffers only: they are
the same here and in the runs of `linkSystem`.
-/

/-! ## The chunks of a packet -/

/-- The chunks that a packet has from `pos` on. -/
def chunksFrom (cfg : BridgeConfig) (packet : List UInt8) (pos : Nat) : List (List UInt8) :=
  if _within : pos < packet.length then
    chunkBytes cfg packet pos :: chunksFrom cfg packet (pos + chunkSize cfg packet pos)
  else []
termination_by packet.length - pos
decreasing_by
  have bounds := chunkSize_bounds cfg _within
  omega

/-- What is sent for a packet: a line feed follows a carriage return at the end. -/
def withLineFeed (packet : List UInt8) : List UInt8 :=
  packet ++ if packet.getLast? = some 13 then [10] else []

section Chunks

variable (cfg : BridgeConfig) {packet : List UInt8} {pos : Nat}

theorem chunksFrom_of_within (within : pos < packet.length) :
    chunksFrom cfg packet pos =
      chunkBytes cfg packet pos :: chunksFrom cfg packet (pos + chunkSize cfg packet pos) := by
  rw [chunksFrom, dif_pos within]

theorem chunksFrom_of_end (ended : packet.length ≤ pos) : chunksFrom cfg packet pos = [] := by
  rw [chunksFrom, dif_neg (Nat.not_lt.mpr ended)]

/-- A chunk that is not the last is a piece of the packet. -/
theorem chunkBytes_of_more (more : pos + chunkSize cfg packet pos ≠ packet.length) :
    chunkBytes cfg packet pos = (packet.drop pos).take (chunkSize cfg packet pos) := by
  unfold chunkBytes
  rw [if_neg (fun last => more last.1), List.append_nil]

/-- The last chunk takes what remains, and the line feed if there is one. -/
theorem chunkBytes_of_last (last : pos + chunkSize cfg packet pos = packet.length) :
    chunkBytes cfg packet pos =
      packet.drop pos ++ if packet.getLast? = some 13 then [10] else [] := by
  have everything : (packet.drop pos).take (chunkSize cfg packet pos) = packet.drop pos := by
    apply List.take_of_length_le
    rw [List.length_drop]
    omega
  unfold chunkBytes
  rw [everything]
  simp only [last, true_and]

/-- Nothing is lost, added or moved between two chunks. -/
theorem chunksFrom_flatten (within : pos < packet.length) :
    (chunksFrom cfg packet pos).flatten =
      packet.drop pos ++ if packet.getLast? = some 13 then [10] else [] := by
  induction pos using chunksFrom.induct cfg packet with
  | case1 pos _ inductionHypothesis =>
      rw [chunksFrom_of_within cfg within, List.flatten_cons]
      have inside := (chunkSize_bounds cfg within).2.2
      by_cases last : pos + chunkSize cfg packet pos = packet.length
      · rw [chunkBytes_of_last cfg last, chunksFrom_of_end cfg (Nat.le_of_eq last.symm),
          List.flatten_nil, List.append_nil]
      · have more : pos + chunkSize cfg packet pos < packet.length :=
          Nat.lt_of_le_of_ne inside last
        rw [chunkBytes_of_more cfg last, inductionHypothesis more, ← List.append_assoc,
          ← List.drop_drop, List.take_append_drop]
  | case2 pos ended => exact absurd within ended

theorem chunks_flatten : (chunksFrom cfg packet 0).flatten = withLineFeed packet := by
  unfold withLineFeed
  cases packet with
  | nil =>
      rw [chunksFrom_of_end cfg (Nat.le_refl 0)]
      rfl
  | cons byte rest =>
      rw [chunksFrom_flatten cfg (Nat.succ_pos rest.length), List.drop_zero]

theorem chunkBytes_length_le (within : pos < packet.length) :
    (chunkBytes cfg packet pos).length ≤ cfg.uartBufSize := by
  have fits := (chunkSize_bounds cfg within).2.1
  unfold chunkBytes
  rw [List.length_append, List.length_take]
  split
  · rw [List.length_singleton]
    omega
  · rw [List.length_nil]
    omega

/-- No chunk is empty, and each fits its buffer. -/
theorem chunksFrom_lengths (chunk : List UInt8) (member : chunk ∈ chunksFrom cfg packet pos) :
    1 ≤ chunk.length ∧ chunk.length ≤ cfg.uartBufSize := by
  induction pos using chunksFrom.induct cfg packet with
  | case1 pos within inductionHypothesis =>
      rw [chunksFrom_of_within cfg within] at member
      rcases List.mem_cons.mp member with rfl | later
      · constructor
        · exact Nat.pos_of_ne_zero (chunkBytes_ne_nil cfg within)
        · exact chunkBytes_length_le cfg within
      · exact inductionHypothesis later
  | case2 pos ended =>
      rw [chunksFrom_of_end cfg (Nat.not_lt.mp ended)] at member
      exact absurd member List.not_mem_nil

end Chunks

/-! ## The function by itself -/

/-- Who gets a chunk: `uart_tx`, or `fifo_uart_tx_data` if `uart_tx` refuses it. -/
inductive Taker
  | uartTx
  | fifoUartTxData
  deriving DecidableEq, Repr

structure Handover where
  taker : Taker
  chunk : List UInt8
  deriving DecidableEq, Repr

/-- What one turn of the loop meets: the results of `k_malloc` and of `uart_tx`, and
what interrupts do before the buffer is filled and after. -/
structure Turn where
  kMalloc : Option Nat
  err : Int
  before : Link -> Link
  between : Link -> Link
  apart : forall block, kMalloc = some block -> forall link,
    (between link).chunk ⟨block, 0⟩ = link.chunk ⟨block, 0⟩

/-- The data, the variable `pos`, the chunks that have been handed over, and the
values that have been stored in a `uint16_t`. -/
structure Receiving where
  link : Link
  pos : Nat
  handed : List Handover
  stored : List Nat

namespace Receiving

variable (state : Receiving)

def onLink (run : Link -> Link) : Receiving :=
  { state with link := run state.link }

def len (tx : Address) : Nat :=
  state.link.bridge.len tx

/-- `tx->len = value` -/
def setLen (tx : Address) (value : Nat) : Receiving :=
  { state with
    link := state.link.mapBridge fun bridge => bridge.setLen tx value
    stored := state.stored ++ [value] }

/-- `pos = value` -/
def setPos (value : Nat) : Receiving :=
  { state with
    pos := value % 2 ^ 16
    stored := state.stored ++ [value] }

/-- The bytes of a chunk, and the new `pos`. -/
def copyChunk (cfg : BridgeConfig) (packet : List UInt8) (tx : Address) : Receiving :=
  let state := state.setLen tx (chunkSize cfg packet state.pos)
  let state := state.onLink fun link => link.memcpy tx ((packet.drop state.pos).take (state.len tx))
  state.setPos (state.pos + state.len tx)

/-- The line feed, if the packet ends here and in a carriage return. -/
def appendLf (packet : List UInt8) (tx : Address) : Receiving :=
  if state.pos = packet.length ∧ packet.getLast? = some 13 then
    let state := state.onLink fun link => link.putByte tx (state.len tx) 10
    state.setLen tx (state.len tx + 1)
  else state

/-- The body of the loop between `k_malloc` and `uart_tx`. -/
def fill (cfg : BridgeConfig) (packet : List UInt8) (tx : Address) : Receiving :=
  (state.copyChunk cfg packet tx).appendLf packet tx

/-- `uart_tx`, and `k_fifo_put` after an error. -/
def handOver (tx : Address) (err : Int) : Receiving :=
  let taker := if err = 0 then Taker.uartTx else Taker.fifoUartTxData
  let state := { state with handed := state.handed ++ [⟨taker, state.link.chunk tx⟩] }
  if err ≠ 0 then state.onLink fun link => link.mapBridge fun bridge => bridge.putTx tx
  else state

/-- A turn of the loop in which `k_malloc` has returned a buffer. -/
def turn (cfg : BridgeConfig) (packet : List UInt8) (turn : Turn) (tx : Address) : Receiving :=
  let state := state.onLink fun link => link.mapBridge fun bridge => bridge.allocate tx
  let state := (state.fill cfg packet tx).onLink turn.between
  state.handOver tx turn.err

end Receiving

/-- The loop of `bt_receive_cb` from its turn number `index` on. -/
def receiveLoop (cfg : BridgeConfig) (packet : List UInt8) (turns : Nat -> Turn) :
    (fuel index : Nat) -> Receiving -> Option Receiving
  | 0, _, _ => none
  | fuel + 1, index, state =>
      if state.pos = packet.length then some state
      else
        let state := state.onLink (turns index).before
        match (turns index).kMalloc with
        | none => some state
        | some block =>
            receiveLoop cfg packet turns fuel (index + 1)
              (state.turn cfg packet (turns index) ⟨block, 0⟩)

/-- `bt_receive_cb` -/
def receiveCb (cfg : BridgeConfig) (packet : List UInt8) (turns : Nat -> Turn) (link : Link) :
    Option Receiving :=
  receiveLoop cfg packet turns (packet.length + 1) 0 ⟨link, 0, [], [0]⟩

/-! ## What is handed over -/

/-- All chunks are handed over if no allocation fails, and otherwise those before
the first one that does. -/
structure HandedOver (fails : Nat -> Prop) (chunks handed : List (List UInt8)) : Prop where
  complete : (forall k, ¬ fails k) -> handed = chunks
  first : forall k, fails k -> (forall earlier, earlier < k -> ¬ fails earlier) ->
    handed = chunks.take k

namespace HandedOver

variable {fails : Nat -> Prop} {chunks handed : List (List UInt8)}

theorem ended : HandedOver fails [] [] where
  complete := fun _ => rfl
  first := fun _ _ _ => List.take_nil.symm

theorem failed (now : fails 0) : HandedOver fails chunks [] where
  complete := fun never => absurd now (never 0)
  first := by
    intro k _ earlier
    cases k with
    | zero => rfl
    | succ k => exact absurd now (earlier 0 (Nat.succ_pos k))

theorem turn (chunk : List UInt8) (notNow : ¬ fails 0)
    (rest : HandedOver (fun k => fails (k + 1)) chunks handed) :
    HandedOver fails (chunk :: chunks) (chunk :: handed) where
  complete := fun never => congrArg (chunk :: ·) (rest.complete fun k => never (k + 1))
  first := by
    intro k here earlier
    cases k with
    | zero => exact absurd here notNow
    | succ k =>
        rw [List.take_succ_cons]
        have before : handed = chunks.take k :=
          rest.first k here fun other less => earlier (other + 1) (Nat.succ_lt_succ less)
        rw [before]

end HandedOver

/-! ## One turn -/

section Loop

variable {cfg : BridgeConfig} {packet : List UInt8} {state : Receiving} {tx : Address}

/-- No value that has been stored is too large for a `uint16_t`. -/
def Receiving.Unwrapped (state : Receiving) : Prop :=
  forall value, value ∈ state.stored -> value < 2 ^ 16

namespace Receiving

theorem Unwrapped.store (unwrapped : state.Unwrapped) {later : Receiving} {value : Nat}
    (stored : later.stored = state.stored ++ [value]) (small : value < 2 ^ 16) :
    later.Unwrapped := by
  intro other member
  rw [stored] at member
  rcases List.mem_append.mp member with old | new
  · exact unwrapped other old
  · rw [List.mem_singleton.mp new]
    exact small

/-- The length that `tx` gets is that of the chunk without a line feed. -/
theorem len_copyChunk (small : chunkSize cfg packet state.pos < 2 ^ 16) :
    (state.copyChunk cfg packet tx).len tx = chunkSize cfg packet state.pos := by
  change Function.update state.link.bridge.len tx (chunkSize cfg packet state.pos % 2 ^ 16) tx = _
  rw [Function.update_self, Nat.mod_eq_of_lt small]

theorem Unwrapped.copyChunk (unwrapped : state.Unwrapped) (tx : Address)
    (within : state.pos < packet.length) (short : packet.length < 2 ^ 16) :
    (state.copyChunk cfg packet tx).Unwrapped := by
  have inside := (chunkSize_bounds cfg within).2.2
  have small : chunkSize cfg packet state.pos < 2 ^ 16 := by omega
  have size : (state.setLen tx (chunkSize cfg packet state.pos)).len tx =
      chunkSize cfg packet state.pos := len_copyChunk small
  have next : state.pos + (state.setLen tx (chunkSize cfg packet state.pos)).len tx < 2 ^ 16 := by
    omega
  have filled : (state.setLen tx (chunkSize cfg packet state.pos)).Unwrapped :=
    unwrapped.store rfl small
  exact filled.store rfl next

/-- Also with a line feed in a full buffer nothing is cut. -/
theorem Unwrapped.fill (unwrapped : state.Unwrapped) (tx : Address)
    (within : state.pos < packet.length) (short : packet.length < 2 ^ 16) :
    (state.fill cfg packet tx).Unwrapped := by
  have copied : (state.copyChunk cfg packet tx).Unwrapped := unwrapped.copyChunk tx within short
  have fits := (chunkSize_bounds cfg within).2.1
  have holds := cfg.lenHolds
  have size : (state.copyChunk cfg packet tx).len tx = chunkSize cfg packet state.pos :=
    len_copyChunk (by omega)
  unfold Receiving.fill appendLf
  split
  · have oneMore : (state.copyChunk cfg packet tx).len tx + 1 < 2 ^ 16 := by omega
    exact copied.store rfl oneMore
  · exact copied

/-- The buffer is filled as it is in the runs of `linkSystem`. -/
theorem fill_eq (cfg : BridgeConfig) (packet : List UInt8) (state : Receiving) (tx : Address) :
    (state.fill cfg packet tx).pos = (state.link.fill cfg packet state.pos tx).1 ∧
    (state.fill cfg packet tx).link =
      { (state.link.fill cfg packet state.pos tx).2 with produced := state.link.produced } ∧
    (state.fill cfg packet tx).handed = state.handed := by
  unfold fill appendLf copyChunk Link.fill
  simp only [setLen, onLink, setPos, len, Link.mapBridge, Bridge.setLen, Link.memcpy,
    Function.update_self]
  split
  · exact ⟨rfl, rfl, rfl⟩
  · exact ⟨rfl, rfl, rfl⟩

theorem fill_spec (cfg : BridgeConfig) (state : Receiving) (tx : Address)
    (within : state.pos < packet.length) (short : packet.length < 2 ^ 16) :
    (state.fill cfg packet tx).pos = state.pos + chunkSize cfg packet state.pos ∧
    (state.fill cfg packet tx).link.chunk tx = chunkBytes cfg packet state.pos ∧
    (state.fill cfg packet tx).handed = state.handed := by
  rcases fill_eq cfg packet state tx with ⟨pos, link, handed⟩
  rcases state.link.fill_spec cfg within short tx with ⟨next, data, read, result⟩
  refine ⟨pos.trans next, ?_, handed⟩
  rw [link, result]
  unfold Link.chunk Link.bytes
  simp only [Function.update_self, read]

theorem handOver_spec (state : Receiving) (tx : Address) (err : Int) :
    (state.handOver tx err).pos = state.pos ∧ (state.handOver tx err).stored = state.stored ∧
    (state.handOver tx err).handed.map Handover.chunk =
      state.handed.map Handover.chunk ++ [state.link.chunk tx] := by
  unfold handOver
  dsimp only
  split
  · exact ⟨rfl, rfl, List.map_append⟩
  · exact ⟨rfl, rfl, List.map_append⟩

/-- A turn hands over the next chunk. -/
theorem turn_spec (cfg : BridgeConfig) (state : Receiving) (turn : Turn) {block : Nat}
    (allocates : turn.kMalloc = some block) (within : state.pos < packet.length)
    (short : packet.length < 2 ^ 16) (unwrapped : state.Unwrapped) :
    (state.turn cfg packet turn ⟨block, 0⟩).pos = state.pos + chunkSize cfg packet state.pos ∧
    (state.turn cfg packet turn ⟨block, 0⟩).Unwrapped ∧
    (state.turn cfg packet turn ⟨block, 0⟩).handed.map Handover.chunk =
      state.handed.map Handover.chunk ++ [chunkBytes cfg packet state.pos] := by
  let start := state.onLink fun link => link.mapBridge fun bridge => bridge.allocate ⟨block, 0⟩
  have startUnwrapped : start.Unwrapped := unwrapped
  have filled : (start.fill cfg packet ⟨block, 0⟩).Unwrapped :=
    startUnwrapped.fill ⟨block, 0⟩ within short
  rcases fill_spec cfg start ⟨block, 0⟩ within short with ⟨pos, chunk, before⟩
  rcases handOver_spec ((start.fill cfg packet ⟨block, 0⟩).onLink turn.between) ⟨block, 0⟩ turn.err
    with ⟨samePos, sameStored, handed⟩
  have whole : (turn.between (start.fill cfg packet ⟨block, 0⟩).link).chunk ⟨block, 0⟩ =
      chunkBytes cfg packet state.pos := (turn.apart block allocates _).trans chunk
  refine ⟨samePos.trans pos, ?_, ?_⟩
  · intro value member
    exact filled value (sameStored ▸ member)
  · refine handed.trans ?_
    change (start.fill cfg packet ⟨block, 0⟩).handed.map Handover.chunk ++ [_] = _
    rw [before, ← whole]
    rfl

end Receiving

/-! ## The loop -/

/-- The allocation of turn `index + k` fails. -/
def failsFrom (turns : Nat -> Turn) (index : Nat) : Nat -> Prop :=
  fun k => (turns (index + k)).kMalloc = none

theorem failsFrom_succ (turns : Nat -> Turn) (index : Nat) :
    (fun k => failsFrom turns index (k + 1)) = failsFrom turns (index + 1) := by
  funext k
  unfold failsFrom
  rw [Nat.add_right_comm, Nat.add_assoc]

/-- With enough fuel the loop ends.  The induction is on the fuel; `pos` is at most
the length of the packet, and the bytes that remain are fewer than the fuel. -/
theorem receiveLoop_spec (turns : Nat -> Turn) (short : packet.length < 2 ^ 16) (fuel index : Nat)
    (state : Receiving) (within : state.pos ≤ packet.length)
    (enough : packet.length - state.pos < fuel) (unwrapped : state.Unwrapped) :
    exists final handed, receiveLoop cfg packet turns fuel index state = some final ∧
      final.Unwrapped ∧ final.handed.map Handover.chunk =
        state.handed.map Handover.chunk ++ handed ∧
      HandedOver (failsFrom turns index) (chunksFrom cfg packet state.pos) handed := by
  induction fuel generalizing index state with
  | zero => exact absurd enough (Nat.not_lt_zero _)
  | succ fuel inductionHypothesis =>
      unfold receiveLoop
      by_cases ended : state.pos = packet.length
      · rw [if_pos ended, chunksFrom_of_end cfg (Nat.le_of_eq ended.symm)]
        exact ⟨state, [], rfl, unwrapped, (List.append_nil _).symm, .ended⟩
      · have more : state.pos < packet.length := Nat.lt_of_le_of_ne within ended
        rw [if_neg ended]
        dsimp only
        cases allocates : (turns index).kMalloc with
        | none =>
            exact ⟨_, [], rfl, unwrapped, (List.append_nil _).symm, .failed allocates⟩
        | some block =>
            rcases Receiving.turn_spec cfg (state.onLink (turns index).before) (turns index)
              allocates more short unwrapped with ⟨moved, stillUnwrapped, before⟩
            have positive := (chunkSize_bounds cfg more).1
            have inside := (chunkSize_bounds cfg more).2.2
            dsimp only
            generalize (state.onLink (turns index).before).turn cfg packet (turns index)
              ⟨block, 0⟩ = next at *
            change next.pos = state.pos + chunkSize cfg packet state.pos at moved
            change next.handed.map Handover.chunk =
              state.handed.map Handover.chunk ++ [chunkBytes cfg packet state.pos] at before
            have nextWithin : next.pos ≤ packet.length := by omega
            have nextEnough : packet.length - next.pos < fuel := by omega
            rcases inductionHypothesis (index + 1) next nextWithin nextEnough stillUnwrapped with
              ⟨final, handed, returns, finalUnwrapped, after, rest⟩
            rw [moved, ← failsFrom_succ] at rest
            rw [before, List.append_assoc] at after
            rw [chunksFrom_of_within cfg more]
            have succeeds : ¬ failsFrom turns index 0 := by
              unfold failsFrom
              rw [Nat.add_zero, allocates]
              exact Option.some_ne_none block
            exact ⟨final, _, returns, finalUnwrapped, after, rest.turn _ succeeds⟩

end Loop

/-! ## Every packet -/

/-- The chunks make up the packet with its line feed, and each fits a buffer. -/
structure Splits (cfg : BridgeConfig) (packet : List UInt8) (chunks : List (List UInt8)) :
    Prop where
  contents : chunks.flatten = withLineFeed packet
  lengths : forall chunk, chunk ∈ chunks -> 1 ≤ chunk.length ∧ chunk.length ≤ cfg.uartBufSize

theorem chunksFrom_splits (cfg : BridgeConfig) (packet : List UInt8) :
    Splits cfg packet (chunksFrom cfg packet 0) where
  contents := chunks_flatten cfg
  lengths := chunksFrom_lengths cfg

theorem receiveCb_spec (cfg : BridgeConfig) {packet : List UInt8} (short : packet.length < 2 ^ 16)
    (turns : Nat -> Turn) (link : Link) :
    exists final, receiveCb cfg packet turns link = some final ∧
      HandedOver (fun k => (turns k).kMalloc = none) (chunksFrom cfg packet 0)
        (final.handed.map Handover.chunk) ∧ final.Unwrapped := by
  have unwrapped : (⟨link, 0, [], [0]⟩ : Receiving).Unwrapped := by
    intro value member
    rw [List.mem_singleton.mp member]
    decide
  rcases receiveLoop_spec turns short (packet.length + 1) 0 ⟨link, 0, [], [0]⟩ (Nat.zero_le _)
    (Nat.lt_succ_self _) unwrapped with
    ⟨final, handed, returns, finalUnwrapped, after, handedOver⟩
  have fails : failsFrom turns 0 = fun k => (turns k).kMalloc = none := by
    funext k
    unfold failsFrom
    rw [Nat.zero_add]
  have all : final.handed.map Handover.chunk = handed := after
  rw [fails, ← all] at handedOver
  exact ⟨final, returns, handedOver, finalUnwrapped⟩

/-- Every call of `bt_receive_cb` returns; it hands over the same chunks, up to the
first allocation that fails, and no `uint16_t` wraps. -/
theorem receiveCb_splits (cfg : BridgeConfig) {packet : List UInt8}
    (short : packet.length < 2 ^ 16) :
    exists chunks, Splits cfg packet chunks ∧ forall (turns : Nat -> Turn) (link : Link),
      exists final, receiveCb cfg packet turns link = some final ∧
        HandedOver (fun k => (turns k).kMalloc = none) chunks (final.handed.map Handover.chunk) ∧
        final.Unwrapped :=
  ⟨_, chunksFrom_splits cfg packet, receiveCb_spec cfg short⟩

/-- Buffers of two bytes, one of which is kept for the line feed. -/
def tightConfig : BridgeConfig where
  uartBufSize := 2
  uartWaitForRx := 50000
  firstWaitForRx := 50
  room := by decide
  lenHolds := by decide

/-- The first chunk finds the UART idle, the others find it busy. -/
def busyTurns (index : Nat) : Turn where
  kMalloc := some index
  err := if index = 0 then 0 else -EBUSY
  before := id
  between := id
  apart := fun _ _ _ => rfl

/-- The line feed fills the last buffer. -/
theorem crPacket_splits :
    (receiveCb tightConfig [97, 13] busyTurns
      (Link.initial none [] (fun _ => 0) (fun _ _ => 0))).map Receiving.handed =
        some [⟨.uartTx, [97]⟩, ⟨.fifoUartTxData, [13, 10]⟩] ∧
    exists chunks, Splits tightConfig [97, 13] chunks ∧ forall (turns : Nat -> Turn) (link : Link),
      exists final, receiveCb tightConfig [97, 13] turns link = some final ∧
        HandedOver (fun k => (turns k).kMalloc = none) chunks (final.handed.map Handover.chunk) ∧
        final.Unwrapped :=
  ⟨by decide +kernel, receiveCb_splits tightConfig (by decide)⟩

/-! ## The same chunks in the runs of the system -/

section Runs

variable {cfg : BridgeConfig} {prompt : Bool} {packet : List UInt8} {link : Link}

/-- The ghost is what has been produced when the procedure returns. -/
def producedContract (cfg : BridgeConfig) : Contract linkInterface where
  Ghost := fun _ => List (List UInt8)
  always := fun _ => True
  asked := fun _ _ => True
  pre := fun proc ghost link =>
    match proc with
    | .environment => False
    | .btReceiveCb packet => packet.length < 2 ^ 16 ∧
        link.produced ++ chunksFrom cfg packet 0 = ghost
    | .btReceiveLoop packet pos => packet.length < 2 ^ 16 ∧ pos ≤ packet.length ∧
        link.produced ++ chunksFrom cfg packet pos = ghost
    | .interrupts _ => link.produced = ghost
  post := fun _ ghost _ link => link.produced = ghost

theorem produced_uartTx (buf : Address) (len : Nat) :
    (link.uartTx buf len).2.produced = link.produced := by
  unfold Link.uartTx
  cases link.inFlight with
  | none => rfl
  | some transfer => rfl

theorem produced_uartTxDone : link.uartTxDone.produced = link.produced := by
  unfold Link.uartTxDone
  cases link.inFlight with
  | none => rfl
  | some transfer =>
      dsimp only
      cases (link.bridge.txDone (some transfer.1) transfer.2).1 with
      | none => rfl
      | some buf => rw [produced_uartTx]

/-- What a program needs under this contract. -/
abbrev Produces (cfg : BridgeConfig) (prompt : Bool) {A : Type} (program : LinkProg A)
    (goal : A -> Link -> Prop) (link : Link) : Prop :=
  Prog.Safe (linkSystem cfg prompt) (producedContract cfg) program goal link

theorem produces_interrupts (refused : Bool) :
    Produces cfg prompt (interrupts refused) (fun _ later => later.produced = link.produced)
      link := by
  unfold Produces interrupts
  simp only [Prog.safe_monadBind, Prog.question, Prog.safe_ask, Prog.safe_ret, Prog.safe_ite,
    Prog.safe_modify, Prog.safe_pure, Prog.invoke, Prog.safe_call]
  refine ⟨trivial, fun now _ => ⟨fun _ => ⟨trivial, link.produced, ?_⟩, fun _ => ?_⟩⟩
  · exact ⟨produced_uartTxDone, fun _ _ _ promised => promised⟩
  · trivial

/-- A turn produces the next chunk, and the following ones produce the rest. -/
theorem produces_btReceiveLoop {pos : Nat} (within : pos ≤ packet.length)
    (short : packet.length < 2 ^ 16) :
    Produces cfg prompt (btReceiveLoop cfg packet pos)
      (fun _ later => later.produced = link.produced ++ chunksFrom cfg packet pos) link := by
  unfold Produces btReceiveLoop LinkProg.kMalloc
  simp only [Prog.safe_ite, Prog.safe_pure, Prog.safe_monadBind, Prog.invoke, Prog.safe_call,
    Prog.safe_ret, Prog.question, Prog.safe_ask]
  refine ⟨fun ended => ?_, fun unfinished => ?_⟩
  · rw [chunksFrom_of_end cfg (Nat.le_of_eq ended.symm), List.append_nil]
  · have more : pos < packet.length := Nat.lt_of_le_of_ne within unfinished
    refine ⟨link.produced, rfl, fun _ first _ before => ⟨trivial, fun answer allowed => ?_⟩⟩
    cases answer with
    | none => exact allowed.elim
    | some block =>
        simp only [Prog.safe_monadBind, Prog.safe_modify, Prog.safe_pure, Prog.safe_ite,
          Prog.safe_call, Prog.safe_ret, Prog.safe_perform]
        refine ⟨trivial, link.produced, before, fun _ second _ before => ?_⟩
        rcases second.fill_spec cfg more short ⟨block, 0⟩ with ⟨next, data, _, result⟩
        have filled : (second.fill cfg packet pos ⟨block, 0⟩).2.produced =
            link.produced ++ [chunkBytes cfg packet pos] := by
          rw [result, ← before]
        have nextWithin : (second.fill cfg packet pos ⟨block, 0⟩).1 ≤ packet.length := by
          rw [next]
          exact (chunkSize_bounds cfg more).2.2
        have rest : link.produced ++ [chunkBytes cfg packet pos] ++
            chunksFrom cfg packet (pos + chunkSize cfg packet pos) =
              link.produced ++ chunksFrom cfg packet pos := by
          rw [chunksFrom_of_within cfg more, List.append_assoc, List.singleton_append]
        refine ⟨trivial, _, filled, fun _ third _ before => ⟨trivial, fun _ => ?_, fun _ => ?_⟩⟩
        · refine ⟨_, produced_uartTx _ _, fun _ fourth _ same => ?_⟩
          refine ⟨trivial, _, ⟨short, nextWithin, ?_⟩, fun _ _ _ promised => promised⟩
          change fourth.produced ++ _ = _
          rw [same, before, next, rest]
        · refine ⟨_, ⟨short, nextWithin, ?_⟩, fun _ _ _ promised => promised⟩
          rw [produced_uartTx, before, next, rest]

theorem produced_honours : (linkSystem cfg prompt).Honours (producedContract cfg) := by
  intro proc ghost link _ assumed
  cases proc with
  | environment => exact assumed.elim
  | btReceiveCb packet =>
      rcases assumed with ⟨short, rfl⟩
      exact produces_btReceiveLoop (Nat.zero_le _) short
  | btReceiveLoop packet pos =>
      rcases assumed with ⟨short, within, rfl⟩
      exact produces_btReceiveLoop within short
  | interrupts refused =>
      have before : link.produced = ghost := assumed
      rw [← before]
      exact produces_interrupts refused

/-- A run in which transfers end and start between any two calls produces the chunks
that `bt_receive_cb` hands over by itself. -/
theorem produced_eq_handed {turns : Nat -> Turn} {later other : Link} {final : Receiving}
    (short : packet.length < 2 ^ 16)
    (runs : (linkSystem cfg prompt).Reachable ⟨link, btReceiveLoop cfg packet 0⟩ ⟨later, .ret ()⟩)
    (returns : receiveCb cfg packet turns other = some final)
    (allocates : forall k, (turns k).kMalloc ≠ none) :
    later.produced = link.produced ++ final.handed.map Handover.chunk := by
  have safe : Produces cfg prompt (btReceiveLoop cfg packet 0)
      (fun _ later => later.produced = link.produced ++ chunksFrom cfg packet 0) link :=
    produces_btReceiveLoop (Nat.zero_le _) short
  have produced := (runs.safe produced_honours trivial safe).2
  rcases receiveCb_spec cfg short turns other with ⟨_, same, handedOver, _⟩
  cases returns.symm.trans same
  rw [handedOver.complete allocates]
  exact produced

end Runs

end Uart
end NrfExamples
