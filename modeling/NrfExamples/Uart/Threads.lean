import Mathlib.Data.List.GetD
import NrfExamples.Traces.Machine
import NrfExamples.Uart.BridgeTransmit
import NrfExamples.Uart.Starving

namespace NrfExamples
namespace Uart

open Reentrant Traces

/-!
# The threads of the bridge

Beside the interrupts, `uart_work_handler` runs on the system work queue,
`ble_write_thread` in a thread of its own, and `bt_receive_cb` in the receive thread
of the Bluetooth stack.  Each is given by where it stands between two statements,
and interrupts come in at any such point, one handler after the other.  The threads
take turns in any order.

`k_malloc` fails exactly when the heap is full.  What `bt_nus_send` returns makes no
difference: the buffer is freed in any case.
-/

/-- Where `uart_work_handler` stands; it begins with `k_malloc` and ends with
`uart_rx_enable` or with `k_work_reschedule`. -/
inductive WorkAt
  | idle
  | entered
  | allocated (buf : Address)
  | cleared (buf : Address)
  | failed
  deriving DecidableEq, Repr

/-- Where the loop of `ble_write_thread` stands: in `k_fifo_get`, before `bt_nus_send`,
or before `k_free`. -/
inductive WriterAt
  | waiting
  | sending (buf : Address)
  | freeing (buf : Address)
  deriving DecidableEq, Repr

/-- Where the loop of `bt_receive_cb` stands: at its condition, after `k_malloc`,
before `uart_tx`, or before `k_fifo_put`. -/
inductive ReceiverAt
  | idle
  | turning (packet : List UInt8) (pos : Nat)
  | filling (packet : List UInt8) (pos : Nat) (tx : Address)
  | offering (packet : List UInt8) (pos : Nat) (tx : Address)
  | refused (packet : List UInt8) (pos : Nat) (tx : Address)
  deriving DecidableEq, Repr

namespace World

variable (world : World Bridge)

/-- What `k_malloc` can return. -/
def Mallocs (capacity : Nat) : Option Nat -> Prop
  | none => capacity ≤ world.app.live.length
  | some block => world.app.live.length < capacity ∧ ⟨block, 0⟩ ∉ world.app.live

instance (capacity : Nat) (block : Option Nat) : Decidable (world.Mallocs capacity block) :=
  match block with
  | none => inferInstanceAs (Decidable (_ ≤ _))
  | some _ => inferInstanceAs (Decidable (_ ∧ _))

/-- The body of the loop of `bt_receive_cb` between `k_malloc` and `uart_tx`, with the
new `pos`. -/
def fill (cfg : BridgeConfig) (packet : List UInt8) (pos : Nat) (tx : Address) :
    Nat × World Bridge :=
  let world := world.mapApp fun bridge => bridge.setLen tx (chunkSize cfg packet pos)
  let world := world.storeBytes (some tx) ((packet.drop pos).take (world.app.len tx))
  let pos := (pos + world.app.len tx) % 2 ^ 16
  let world :=
    if pos = packet.length ∧ packet.getLast? = some 13 then
      (world.storeBytes (some { tx with offset := tx.offset + world.app.len tx }) [10]).mapApp
        fun bridge => bridge.setLen tx (bridge.len tx + 1)
    else world
  (pos, world)

end World

/-- The next statement of `uart_work_handler`, with what `k_malloc` returns. -/
def uartWorkHandler (cfg : BridgeConfig) (block : Option Nat) (world : World Bridge) :
    WorkAt -> WorkAt × World Bridge
  | .idle =>
      if world.app.uartWork = true then
        (.entered, world.mapApp fun bridge => { bridge with uartWork := false })
      else (.idle, world)
  | .entered =>
      match block with
      | none => (.failed, world)
      | some block => (.allocated ⟨block, 0⟩, world.mapApp fun bridge => bridge.allocate ⟨block, 0⟩)
  | .allocated buf => (.cleared buf, world.mapApp fun bridge => bridge.setLen buf 0)
  | .cleared buf => (.idle, world.directCall (.rxEnable (some buf) cfg.uartBufSize cfg.uartWaitForRx)
      (World.rxEnable (some buf) cfg.uartBufSize cfg.uartWaitForRx))
  | .failed => (.idle, world.mapApp Bridge.reschedule)

/-- The next statement of `bt_receive_cb`, with what `k_malloc` returns. -/
def btReceiveCb (cfg : BridgeConfig) (block : Option Nat) (world : World Bridge) :
    ReceiverAt -> ReceiverAt × World Bridge
  | .idle => (.idle, world)
  | .turning packet pos =>
      if pos ≠ packet.length then
        match block with
        | none => (.idle, world)
        | some block => (.filling packet pos ⟨block, 0⟩,
            world.mapApp fun bridge => bridge.allocate ⟨block, 0⟩)
      else (.idle, world)
  | .filling packet pos tx =>
      let filled := world.fill cfg packet pos tx
      (.offering packet filled.1 tx, filled.2)
  | .offering packet pos tx =>
      let call := ApiCall.tx (some tx) (world.app.len tx) sysForeverMs
      let run : World Bridge -> Int × World Bridge :=
        World.tx (some tx) (world.app.len tx) sysForeverMs
      if (run (world.observe (.called call))).1 ≠ 0 then
        (.refused packet pos tx, world.directCall call run)
      else (.turning packet pos, world.directCall call run)
  | .refused packet pos tx =>
      (.turning packet pos, world.mapApp fun bridge => bridge.putTx tx)

/-- The program: its data, where the threads stand, and what `bt_nus_send` has been
given, oldest first. -/
structure Board where
  world : World Bridge
  work : WorkAt
  writer : WriterAt
  receiver : ReceiverAt
  sent : List (List UInt8)

/-- The next statement of `ble_write_thread`. -/
def bleWriteThread (board : Board) : Board :=
  match board.writer with
  | .waiting =>
      match board.world.app.fifoUartRxData with
      | [] => board
      | buf :: rest =>
          { board with
            writer := .sending buf
            world := board.world.mapApp fun bridge => { bridge with fifoUartRxData := rest } }
  | .sending buf =>
      { board with
        writer := .freeing buf
        sent := board.sent ++ [board.world.data buf] }
  | .freeing buf =>
      { board with
        writer := .waiting
        world := board.world.mapApp fun bridge => bridge.kFree buf }

/-- What happens next: a handler runs and leaves a world behind, a thread goes on, or
the Bluetooth stack has received a packet. -/
inductive BoardEvent
  | interrupt (handler : Handler) (later : World Bridge)
  | work (block : Option Nat)
  | write
  | packet (packet : List UInt8)
  | receive (block : Option Nat)

def Board.step (cfg : BridgeConfig) (board : Board) : BoardEvent -> Board
  | .interrupt _ later => { board with world := later }
  | .work block =>
      let next := uartWorkHandler cfg block board.world board.work
      { board with work := next.1, world := next.2 }
  | .write => bleWriteThread board
  | .packet packet => { board with receiver := .turning packet 0 }
  | .receive block =>
      let next := btReceiveCb cfg block board.world board.receiver
      { board with receiver := next.1, world := next.2 }

/-- A handler fires and can leave this world behind; `k_malloc` gives what it can; the
Bluetooth stack waits until `bt_receive_cb` has returned. -/
def Board.possible (cfg : BridgeConfig) (capacity : Nat) (board : Board) : BoardEvent -> Prop
  | .interrupt handler later => Fires board.world handler ∧
      (heapSystem cfg capacity).Reachable (I := adapterInterface Bridge) (A := Unit)
        ⟨board.world, handle handler⟩ ⟨later, .ret ()⟩
  | .work block => board.work = .entered -> board.world.Mallocs capacity block
  | .write => True
  | .packet packet => board.receiver = .idle ∧ packet.length < 2 ^ 16
  | .receive block => board.world.Mallocs capacity block

/-- The bridge from the end of `uart_init` on. -/
def bridge (cfg : BridgeConfig) (capacity : Nat) (start : World Bridge) :
    Machine Board BoardEvent where
  start := ⟨start, .idle, .waiting, .idle, []⟩
  step := Board.step cfg
  possible := Board.possible cfg capacity

/-- `uart_init` has succeeded. -/
def Initialised (cfg : BridgeConfig) (capacity : Nat) (start : World Bridge) : Prop :=
  exists target memory len, (heapSystem cfg capacity).Reachable (I := adapterInterface Bridge)
    (A := Int) ⟨World.initial target memory (Bridge.initial len), uartInit cfg⟩ ⟨start, .ret 0⟩

/-! ## What the threads hold -/

def WorkAt.hands : WorkAt -> List Address
  | .allocated buf | .cleared buf => [buf]
  | .idle | .entered | .failed => []

def WriterAt.hands : WriterAt -> List Address
  | .sending buf | .freeing buf => [buf]
  | .waiting => []

def ReceiverAt.hands : ReceiverAt -> List Address
  | .filling _ _ tx | .offering _ _ tx | .refused _ _ tx => [tx]
  | .idle | .turning _ _ => []

/-- The bytes that `ble_write_thread` has taken and not yet sent. -/
def WriterAt.pending (data : Address -> List UInt8) : WriterAt -> List UInt8
  | .sending buf => data buf
  | .waiting | .freeing _ => []

/-- A position inside the packet, and before its end while a chunk is made. -/
def ReceiverAt.Within : ReceiverAt -> Prop
  | .idle => True
  | .turning packet pos | .offering packet pos _ | .refused packet pos _ =>
      packet.length < 2 ^ 16 ∧ pos ≤ packet.length
  | .filling packet pos _ => packet.length < 2 ^ 16 ∧ pos < packet.length

/-- A buffer that is about to be handed to the UART for sending is not empty. -/
def ReceiverAt.Offers (content : Address -> List UInt8) : ReceiverAt -> Prop
  | .offering _ _ tx | .refused _ _ tx => content tx ≠ []
  | .idle | .turning _ _ | .filling _ _ _ => True

def WorkAt.Cleared (content : Address -> List UInt8) : WorkAt -> Prop
  | .cleared buf => content buf = []
  | .idle | .entered | .allocated _ | .failed => True

/-- Reception is enabled, or `uart_work_handler` is to run, or it is running. -/
def Alert (world : World Bridge) : WorkAt -> Prop
  | .idle => Running world ∨ Stalled world ∧ world.app.uartWork = true
  | .entered | .allocated _ | .cleared _ | .failed => Stalled world ∧ world.app.uartWork = false

namespace Board

def hands (board : Board) : List Address :=
  board.work.hands ++ board.writer.hands ++ board.receiver.hands

/-- Who holds the buffers and what is in them, between the statements of the threads. -/
structure Fine (cfg : BridgeConfig) (board : Board) : Prop where
  alert : Alert board.world board.work
  within : board.receiver.Within
  shares : exists content, Shares cfg ⟨board.hands, content,
      board.sent.flatten ++ board.writer.pending content⟩ .nothing board.world ∧
    board.work.Cleared content ∧ board.receiver.Offers content

end Board

/-! ## Filling a chunk -/

section Fill

variable {cfg : BridgeConfig} {world : World Bridge} {packet : List UInt8} {pos : Nat} {tx : Address}

/-- Bytes stored behind others are stored with them. -/
theorem World.storeBytes_behind (world : World Bridge) (address : Address) (count : Nat)
    (bytes : List UInt8) :
    world.storeBytes (some { address with offset := address.offset + count }) bytes =
      world.storeBytes (some address) (world.bytesAt (some address) count ++ bytes) := by
  have length := World.bytesAt_length world (some address) count rfl
  unfold World.storeBytes
  dsimp only
  congr 1
  funext block offset
  by_cases sameBlock : block = address.block
  · by_cases before : offset < address.offset
    · rw [if_neg (fun both => by omega), if_neg (fun both => by omega)]
    · by_cases inside : offset < address.offset + count
      · rw [if_neg (fun both => by omega), if_pos ⟨sameBlock, Nat.not_lt.mp before⟩,
          List.getD_append _ _ _ _ (by omega)]
        have place : offset - address.offset < count := by omega
        simp only [World.bytesAt, List.getD_eq_getElem?_getD, List.getElem?_map,
          List.getElem?_range place, Option.map_some, Option.getD_some, sameBlock]
        congr 1
        omega
      · rw [if_pos ⟨sameBlock, Nat.not_lt.mp inside⟩, if_pos ⟨sameBlock, Nat.not_lt.mp before⟩,
          List.getD_append_right _ _ _ _ (by omega), length]
        congr 1
        omega
  · rw [if_neg (fun both => sameBlock both.1), if_neg (fun both => sameBlock both.1)]

/-- The copy of a chunk, without the line feed. -/
def World.copyChunk (world : World Bridge) (cfg : BridgeConfig) (packet : List UInt8) (pos : Nat)
    (tx : Address) : World Bridge :=
  (world.mapApp fun bridge => bridge.setLen tx (chunkSize cfg packet pos)).storeBytes (some tx)
    ((packet.drop pos).take (chunkSize cfg packet pos))

theorem World.fill_eq (world : World Bridge) (cfg : BridgeConfig) (tx : Address)
    (within : pos < packet.length)
    (short : packet.length < 2 ^ 16) :
    (world.fill cfg packet pos tx).1 = pos + chunkSize cfg packet pos ∧
      ((world.fill cfg packet pos tx).2 = world.copyChunk cfg packet pos tx ∨
        exists bytes, (world.fill cfg packet pos tx).2 =
          ((world.copyChunk cfg packet pos tx).storeBytes (some tx) bytes).mapApp fun bridge =>
            bridge.setLen tx (chunkSize cfg packet pos + 1)) := by
  rcases chunkSize_bounds cfg within with ⟨positive, fits, inside⟩
  have holds := cfg.lenHolds
  have small : chunkSize cfg packet pos % 2 ^ 16 = chunkSize cfg packet pos :=
    Nat.mod_eq_of_lt (by omega)
  have noWrap : (pos + chunkSize cfg packet pos) % 2 ^ 16 = pos + chunkSize cfg packet pos :=
    Nat.mod_eq_of_lt (by omega)
  have len : (world.mapApp fun bridge =>
      bridge.setLen tx (chunkSize cfg packet pos)).app.len tx = chunkSize cfg packet pos :=
    (Function.update_self _ _ _).trans small
  have copied : (world.copyChunk cfg packet pos tx).app.len tx = chunkSize cfg packet pos := len
  unfold World.fill
  dsimp only
  rw [len]
  change ((pos + (world.copyChunk cfg packet pos tx).app.len tx) % 2 ^ 16 = _ ∧ _)
  rw [copied, noWrap]
  refine ⟨rfl, ?_⟩
  split
  · right
    refine ⟨(world.copyChunk cfg packet pos tx).bytesAt (some tx)
      (chunkSize cfg packet pos) ++ [10], ?_⟩
    rw [← World.storeBytes_behind]
    exact congrArg (fun count => ((world.copyChunk cfg packet pos tx).storeBytes
      (some { tx with offset := tx.offset + count }) [10]).mapApp fun bridge =>
        bridge.setLen tx (count + 1)) copied
  · left
    rfl

/-- A chunk is made in its own buffer, is not empty, and moves `pos` on. -/
theorem Shares.fill {hands : List Address} {content : Address -> List UInt8} {taken : List UInt8}
    (shares : Shares cfg ⟨tx :: hands, content, taken⟩ .nothing world)
    (within : pos < packet.length) (short : packet.length < 2 ^ 16) :
    SameSide world (world.fill cfg packet pos tx).2 ∧
      exists chunk, chunk ≠ [] ∧ Shares cfg ⟨tx :: hands, Function.update content tx chunk, taken⟩
        .nothing (world.fill cfg packet pos tx).2 := by
  rcases chunkSize_bounds cfg within with ⟨positive, fits, inside⟩
  have holds := cfg.lenHolds
  have nonempty : forall (filled : World Bridge) (count : Nat), 0 < count -> count < 2 ^ 16 ->
      filled.app.len tx = count % 2 ^ 16 -> filled.data tx ≠ [] := by
    intro filled count some small len nil
    have length := World.bytesAt_length filled (.some tx) (filled.app.len tx) rfl
    have empty : (filled.data tx).length = 0 := by rw [nil]; rfl
    rw [len, Nat.mod_eq_of_lt small] at length
    unfold World.data at empty
    rw [len, Nat.mod_eq_of_lt small] at empty
    omega
  have copied := (shares.handSetLen (chunkSize cfg packet pos)).handStore
    ((packet.drop pos).take (chunkSize cfg packet pos))
  rw [Function.update_idem] at copied
  rcases (world.fill_eq cfg tx within short).2 with same | ⟨bytes, same⟩
  · rw [same]
    refine ⟨⟨rfl, rfl, rfl⟩, _, ?_, copied⟩
    exact nonempty _ (chunkSize cfg packet pos) positive (by omega) (Function.update_self _ _ _)
  · rw [same]
    have stored := (copied.handStore bytes).handSetLen (chunkSize cfg packet pos + 1)
    rw [Function.update_idem, Function.update_idem] at stored
    refine ⟨⟨rfl, rfl, rfl⟩, _, ?_, stored⟩
    exact nonempty _ (chunkSize cfg packet pos + 1) (by omega) (by omega)
      (Function.update_self _ _ _)

end Fill

/-! ## What each statement keeps -/

section Statements

variable {cfg : BridgeConfig} {capacity : Nat} {world later : World Bridge}
variable {content : Address -> List UInt8} {buf : Address} {bytes : List UInt8}

theorem Alert.same {work : WorkAt} (alert : Alert world work) (same : SameSide world later) :
    Alert later work := by
  cases work with
  | idle =>
      rcases alert with running | ⟨stalled, waits⟩
      · exact .inl (same.running running)
      · exact .inr ⟨same.stalled stalled, same.work.trans waits⟩
  | _ => exact ⟨same.stalled alert.1, same.work.trans alert.2⟩

theorem WriterAt.pending_update {writer : WriterAt} (buf : Address) (bytes : List UInt8)
    (absent : buf ∉ writer.hands) :
    writer.pending (Function.update content buf bytes) = writer.pending content := by
  cases writer with
  | sending held => exact Function.update_of_ne (fun same => absent (by simp [hands, same])) _ _
  | _ => rfl

theorem WorkAt.cleared_update {work : WorkAt} (absent : buf ∉ work.hands)
    (cleared : work.Cleared content) : work.Cleared (Function.update content buf bytes) := by
  cases work with
  | cleared held =>
      change Function.update content buf bytes held = []
      rw [Function.update_of_ne (fun same => absent (by simp [hands, same]))]
      exact cleared
  | _ => trivial

theorem ReceiverAt.offers_update {receiver : ReceiverAt} (absent : buf ∉ receiver.hands)
    (offers : receiver.Offers content) : receiver.Offers (Function.update content buf bytes) := by
  cases receiver with
  | offering packet pos held | refused packet pos held =>
      change Function.update content buf bytes held ≠ []
      rw [Function.update_of_ne (fun same => absent (by simp [hands, same]))]
      exact offers
  | _ => trivial

theorem Shares.length_content {hands : List Address} {taken : List UInt8} {transit : InTransit}
    (shares : Shares cfg ⟨buf :: hands, content, taken⟩ transit world) :
    (content buf).length = world.app.len buf := by
  have same := shares.untouched buf List.mem_cons_self
  have inData : (world.data buf).length = world.app.len buf := World.bytesAt_length _ _ _ rfl
  rw [same] at inData
  exact inData

theorem mallocs_fresh {block : Nat} (mallocs : world.Mallocs capacity (some block)) :
    (⟨block, 0⟩ : Address) ∉ world.app.live :=
  mallocs.2

namespace Board.Fine

variable {board : Board}

/-- A handler begins where reception is. -/
theorem followed (fine : board.Fine cfg) : Followed board.world board.world := by
  have alert := fine.alert
  cases work : board.work with
  | idle =>
      rw [work] at alert
      rcases alert with running | ⟨stalled, _⟩
      · exact .inl ⟨running, .inl running⟩
      · exact .inr ⟨stalled, stalled, rfl⟩
  | _ =>
      rw [work] at alert
      exact .inr ⟨alert.1, alert.1, rfl⟩

/-- The handlers leave the hands of the threads alone. -/
theorem interrupt (fine : board.Fine cfg) {handler : Handler} (fires : Fires board.world handler)
    (ran : (heapSystem cfg capacity).Reachable (I := adapterInterface Bridge) (A := Unit)
      ⟨board.world, handle handler⟩ ⟨later, .ret ()⟩) :
    Board.Fine cfg { board with world := later } := by
  rcases fine.shares with ⟨content, shares, cleared, offers⟩
  have kept := (System.Reachable.safe ran heap_honours ⟨_, shares⟩
    (heapSafe_handle handler shares fine.followed fires)).2
  have exclusive : Running board.world -> ¬ Stalled board.world := by
    intro running stalled
    have enabled := running.enabled
    rw [stalled.disabled] at enabled
    cases enabled
  refine ⟨?_, fine.within, content, kept.1, cleared, offers⟩
  have alert := fine.alert
  change Alert later board.work
  cases work : board.work with
  | idle =>
      rw [work] at alert
      rcases alert with running | ⟨stalled, waits⟩
      · rcases kept.2 with ⟨_, after⟩ | ⟨stalled, _⟩
        · exact after
        · exact absurd stalled (exclusive running)
      · rcases kept.2 with ⟨running, _⟩ | ⟨_, still, same⟩
        · exact absurd stalled (exclusive running)
        · exact .inr ⟨still, same.trans waits⟩
  | _ =>
      rw [work] at alert
      rcases kept.2 with ⟨running, _⟩ | ⟨_, still, same⟩
      · exact absurd alert.1 (exclusive running)
      · exact ⟨still, same.trans alert.2⟩

/-- The next statement of `uart_work_handler`. -/
theorem work (fine : board.Fine cfg) {block : Option Nat}
    (mallocs : board.work = .entered -> board.world.Mallocs capacity block) :
    Board.Fine cfg (board.step cfg (.work block)) := by
  rcases board with ⟨world, work, writer, receiver, sent⟩
  rcases fine with ⟨alert, within, content, shares, cleared, offers⟩
  change Alert world work at alert
  change Shares cfg ⟨work.hands ++ writer.hands ++ receiver.hands, content,
    sent.flatten ++ writer.pending content⟩ .nothing world at shares
  cases work with
  | idle =>
      change Board.Fine cfg ⟨(uartWorkHandler cfg block world .idle).2,
        (uartWorkHandler cfg block world .idle).1, writer, receiver, sent⟩
      unfold uartWorkHandler
      by_cases waits : world.app.uartWork = true
      · rw [if_pos waits]
        refine ⟨?_, within, content, shares.flags _ false, trivial, offers⟩
        rcases alert with running | ⟨stalled, _⟩
        · rw [running.noWork] at waits
          cases waits
        · exact ⟨⟨stalled.disabled, stalled.noBuf, stalled.noNext⟩, rfl⟩
      · rw [if_neg waits]
        exact ⟨alert, within, content, shares, cleared, offers⟩
  | entered =>
      have mallocs := mallocs rfl
      cases block with
      | none => exact ⟨alert, within, content, shares, trivial, offers⟩
      | some block =>
          have fresh := mallocs_fresh mallocs
          have allocated := shares.handAllocate fresh rfl
          have absent : (⟨block, 0⟩ : Address) ∉ writer.hands ++ receiver.hands :=
            (allocated.inHand).2.1
          rw [List.mem_append, not_or] at absent
          rw [← WriterAt.pending_update ⟨block, 0⟩ (world.data ⟨block, 0⟩)
            absent.1] at allocated
          exact ⟨⟨⟨alert.1.disabled, alert.1.noBuf, alert.1.noNext⟩, alert.2⟩, within, _,
            allocated, trivial, ReceiverAt.offers_update absent.2 offers⟩
  | allocated buf =>
      have absent : buf ∉ writer.hands ++ receiver.hands := shares.inHand.2.1
      rw [List.mem_append, not_or] at absent
      have emptied := shares.handSetLen 0
      rw [← WriterAt.pending_update buf ((world.mapApp fun bridge =>
        bridge.setLen buf 0).data buf) absent.1] at emptied
      refine ⟨⟨⟨alert.1.disabled, alert.1.noBuf, alert.1.noNext⟩, alert.2⟩, within, _, emptied, ?_,
        ReceiverAt.offers_update absent.2 offers⟩
      change Function.update content buf _ buf = []
      rw [Function.update_self]
      have zero : (world.mapApp fun bridge => bridge.setLen buf 0).app.len buf = 0 :=
        Function.update_self _ _ _
      unfold World.data
      rw [zero]
      rfl
  | cleared buf =>
      have empty : world.app.len buf = 0 := by
        rw [← shares.length_content]
        exact congrArg List.length cleared
      have called : Shares cfg ⟨writer.hands ++ receiver.hands, content,
          sent.flatten ++ writer.pending content⟩ ⟨[], [buf], 0⟩ (world.observe
            (.called (.rxEnable (some buf) cfg.uartBufSize cfg.uartWaitForRx))) :=
        shares.handOver.observe rfl
      have enabled := called.rxEnable cfg.uartWaitForRx alert.1.noBuf alert.1.noNext empty
      exact ⟨.inl ⟨rfl, rfl, alert.2⟩, within, content, enabled.observe rfl, trivial, offers⟩
  | failed =>
      have waiting : Shares cfg ⟨writer.hands ++ receiver.hands, content,
          sent.flatten ++ writer.pending content⟩ .nothing (world.mapApp Bridge.reschedule) :=
        shares.flags _ true
      exact ⟨.inr ⟨⟨alert.1.disabled, alert.1.noBuf, alert.1.noNext⟩, rfl⟩, within, content, waiting,
        trivial, offers⟩

/-- The next statement of `ble_write_thread`. -/
theorem write (fine : board.Fine cfg) : Board.Fine cfg (bleWriteThread board) := by
  rcases board with ⟨world, work, writer, receiver, sent⟩
  rcases fine with ⟨alert, within, content, shares, cleared, offers⟩
  change Alert world work at alert
  change Shares cfg ⟨work.hands ++ writer.hands ++ receiver.hands, content,
    sent.flatten ++ writer.pending content⟩ .nothing world at shares
  cases writer with
  | waiting =>
      unfold bleWriteThread
      dsimp only
      split
      · exact ⟨alert, within, content, shares, cleared, offers⟩
      · rename_i buf rest waiting
        have taken := shares.handTake waiting
        have absent : buf ∉ work.hands ++ [] ++ receiver.hands := taken.inHand.2.1
        rw [List.append_nil, List.mem_append, not_or] at absent
        have ordered := taken.rearrange (work.hands ++ [buf] ++ receiver.hands) (by
          simp only [WriterAt.hands, List.append_nil, List.append_assoc]
          exact List.perm_middle.symm)
        refine ⟨alert.same ⟨rfl, rfl, rfl⟩, within, Function.update content buf (world.data buf), ?_,
          WorkAt.cleared_update absent.1 cleared, ReceiverAt.offers_update absent.2 offers⟩
        have pending : WriterAt.pending (Function.update content buf (world.data buf))
            (.sending buf) = world.data buf := Function.update_self _ _ _
        change Shares cfg ⟨_, _, sent.flatten ++ WriterAt.pending _ (.sending buf)⟩ .nothing _
        rw [pending]
        change Shares cfg ⟨_, _, sent.flatten ++ [] ++ world.data buf⟩ .nothing _ at ordered
        rw [List.append_nil] at ordered
        exact ordered
  | sending buf =>
      refine ⟨alert, within, content, ?_, cleared, offers⟩
      change Shares cfg ⟨work.hands ++ [buf] ++ receiver.hands, content,
        (sent ++ [world.data buf]).flatten ++ []⟩ .nothing world
      have same : world.data buf = content buf := shares.untouched buf (by simp [WriterAt.hands])
      rw [List.flatten_append, List.flatten_singleton, List.append_nil, same]
      exact shares
  | freeing buf =>
      have ordered := shares.rearrange (buf :: (work.hands ++ receiver.hands)) (by
        change (work.hands ++ [buf] ++ receiver.hands).Perm _
        rw [List.append_assoc]
        exact List.perm_middle)
      refine ⟨alert.same ⟨rfl, rfl, rfl⟩, within, content, ?_, cleared, offers⟩
      change Shares cfg ⟨work.hands ++ [] ++ receiver.hands, content, sent.flatten ++ []⟩ .nothing
        (world.mapApp fun bridge => bridge.kFree buf)
      rw [List.append_nil work.hands]
      exact ordered.handFree

/-- A packet arrives while `bt_receive_cb` is not running. -/
theorem packet (fine : board.Fine cfg) {packet : List UInt8} (idle : board.receiver = .idle)
    (short : packet.length < 2 ^ 16) : Board.Fine cfg (board.step cfg (.packet packet)) := by
  rcases board with ⟨world, work, writer, receiver, sent⟩
  rcases fine with ⟨alert, _, content, shares, cleared, _⟩
  cases idle
  exact ⟨alert, ⟨short, Nat.zero_le _⟩, content, shares, cleared, trivial⟩

/-- `uart_tx` of a chunk is accepted, or it is refused and changes nothing. -/
theorem tx_cases (world : World Bridge) {len : Nat} (some : len ≠ 0) (tx : Address) :
    (world.adapter.tx.buf = none ∧ (world.tx (.some tx) len sysForeverMs).1 = 0) ∨
      world.tx (.some tx) len sysForeverMs = (-EBUSY, world) := by
  unfold World.tx
  rw [if_neg some]
  cases busy : world.adapter.tx.buf with
  | none =>
      left
      simp
  | some other =>
      right
      simp

section Receive

variable {work : WorkAt} {writer : WriterAt} {sent : List (List UInt8)}
variable {packet : List UInt8} {pos : Nat} {tx : Address} {block : Option Nat}

/-- The condition of the loop, and `k_malloc`. -/
theorem turning (fine : Board.Fine cfg ⟨world, work, writer, .turning packet pos, sent⟩)
    (mallocs : world.Mallocs capacity block) :
    Board.Fine cfg ⟨(btReceiveCb cfg block world (.turning packet pos)).2, work, writer,
      (btReceiveCb cfg block world (.turning packet pos)).1, sent⟩ := by
  rcases fine with ⟨alert, within, content, shares, cleared, offers⟩
  change Alert world work at alert
  unfold btReceiveCb
  dsimp only
  by_cases more : pos ≠ packet.length
  · rw [if_pos more]
    cases block with
    | none => exact ⟨alert, trivial, content, shares, cleared, trivial⟩
    | some block =>
        have fresh := mallocs_fresh mallocs
        have allocated := shares.handAllocate fresh rfl
        have absent : (⟨block, 0⟩ : Address) ∉ work.hands ++ writer.hands ++ [] :=
          allocated.inHand.2.1
        rw [List.append_nil, List.mem_append, not_or] at absent
        have ordered := allocated.rearrange (work.hands ++ writer.hands ++ [⟨block, 0⟩]) (by
          simp only [Board.hands, ReceiverAt.hands, List.append_nil]
          exact (List.perm_append_singleton _ _).symm)
        rw [← WriterAt.pending_update ⟨block, 0⟩ (world.data ⟨block, 0⟩) absent.2] at ordered
        exact ⟨alert.same ⟨rfl, rfl, rfl⟩, ⟨within.1, Nat.lt_of_le_of_ne within.2 more⟩, _, ordered,
          WorkAt.cleared_update absent.1 cleared, trivial⟩
  · rw [if_neg more]
    exact ⟨alert, trivial, content, shares, cleared, trivial⟩

/-- A chunk is made. -/
theorem filling (fine : Board.Fine cfg ⟨world, work, writer, .filling packet pos tx, sent⟩) :
    Board.Fine cfg ⟨(world.fill cfg packet pos tx).2, work, writer,
      .offering packet (world.fill cfg packet pos tx).1 tx, sent⟩ := by
  rcases fine with ⟨alert, within, content, shares, cleared, _⟩
  change Alert world work at alert
  have first := List.perm_append_singleton tx (work.hands ++ writer.hands)
  have owned := shares.rearrange _ first
  have absent : tx ∉ work.hands ++ writer.hands := owned.inHand.2.1
  rw [List.mem_append, not_or] at absent
  rcases owned.fill within.2 within.1 with ⟨side, chunk, some, filled⟩
  have ordered := filled.rearrange _ first.symm
  rw [← WriterAt.pending_update tx chunk absent.2] at ordered
  have moved := (world.fill_eq cfg tx within.2 within.1).1
  refine ⟨alert.same side, ⟨within.1, ?_⟩, _, ordered, WorkAt.cleared_update absent.1 cleared, ?_⟩
  · rw [moved]
    exact (chunkSize_bounds cfg within.2).2.2
  · change Function.update content tx chunk tx ≠ []
    rw [Function.update_self]
    exact some

/-- `uart_tx` takes the chunk, or the chunk stays in hand. -/
theorem offering (fine : Board.Fine cfg ⟨world, work, writer, .offering packet pos tx, sent⟩) :
    Board.Fine cfg ⟨(btReceiveCb cfg block world (.offering packet pos tx)).2, work, writer,
      (btReceiveCb cfg block world (.offering packet pos tx)).1, sent⟩ := by
  rcases fine with ⟨alert, within, content, shares, cleared, offers⟩
  change Alert world work at alert
  have owned := shares.rearrange _ (List.perm_append_singleton tx (work.hands ++ writer.hands))
  have some : world.app.len tx ≠ 0 := by
    rw [← owned.length_content]
    exact fun zero => offers (List.length_eq_zero_iff.mp zero)
  unfold btReceiveCb
  dsimp only
  rcases tx_cases (world.observe
    (.called (.tx (.some tx) (world.app.len tx) sysForeverMs))) some tx with
    ⟨idle, accepted⟩ | busy
  · rw [if_neg (not_not_intro accepted)]
    have called : Shares cfg ⟨work.hands ++ writer.hands, content,
        sent.flatten ++ writer.pending content⟩ ⟨[], [tx], 0⟩ (world.observe
          (.called (.tx (.some tx) (world.app.len tx) sysForeverMs))) :=
      owned.handOver.observe rfl
    have sending := called.tx some idle
    refine ⟨alert.same (sameSide_tx world some tx), within, content, ?_, cleared, trivial⟩
    change Shares cfg ⟨work.hands ++ writer.hands ++ [], content, _⟩ .nothing _
    rw [List.append_nil]
    exact sending.observe rfl
  · have refusedIt : (World.tx (.some tx) (world.app.len tx) sysForeverMs (world.observe
        (.called (.tx (.some tx) (world.app.len tx) sysForeverMs)))).1 ≠ 0 := by
      rw [busy]
      change -EBUSY ≠ 0
      decide
    rw [if_pos refusedIt]
    unfold World.directCall
    dsimp only
    rw [busy]
    exact ⟨alert.same ⟨rfl, rfl, rfl⟩, within, content,
      Shares.observe (shares.observe rfl) rfl, cleared, offers⟩

/-- The chunk that was refused waits on `fifo_uart_tx_data`. -/
theorem refused (fine : Board.Fine cfg ⟨world, work, writer, .refused packet pos tx, sent⟩) :
    Board.Fine cfg ⟨world.mapApp fun bridge => bridge.putTx tx, work, writer,
      .turning packet pos, sent⟩ := by
  rcases fine with ⟨alert, within, content, shares, cleared, offers⟩
  change Alert world work at alert
  have owned := shares.rearrange _ (List.perm_append_singleton tx (work.hands ++ writer.hands))
  have positive : 0 < world.app.len tx := by
    rw [← owned.length_content]
    exact List.length_pos_iff.mpr offers
  refine ⟨alert.same ⟨rfl, rfl, rfl⟩, within, content, ?_, cleared, trivial⟩
  change Shares cfg ⟨work.hands ++ writer.hands ++ [], content, _⟩ .nothing
    (world.mapApp fun bridge => bridge.putTx tx)
  rw [List.append_nil]
  exact owned.handPutTx positive

/-- The next statement of `bt_receive_cb`. -/
theorem receive (fine : board.Fine cfg) (mallocs : board.world.Mallocs capacity block) :
    Board.Fine cfg (board.step cfg (.receive block)) := by
  rcases board with ⟨world, work, writer, receiver, sent⟩
  cases receiver with
  | idle => exact fine
  | turning packet pos => exact fine.turning mallocs
  | filling packet pos tx => exact fine.filling
  | offering packet pos tx => exact fine.offering
  | refused packet pos tx => exact fine.refused

end Receive

end Board.Fine

end Statements

/-! ## `uart_init` -/

section Init

variable {cfg : BridgeConfig} {capacity : Nat} {world : World Bridge}

/-- At the beginning the threads have nothing. -/
abbrev Threads.nothing : Threads := ⟨[], fun _ => [], []⟩

theorem shares_initial (target : AdapterData) (memory : Nat -> Nat -> UInt8)
    (len : Address -> Nat) :
    Shares cfg .nothing .nothing (World.initial target memory (Bridge.initial len)) where
  reception := ⟨[], [], bridgeRep_initial target memory len, .refl [], rfl⟩
  distinct := List.nodup_nil
  whole := fun _ none => absurd none List.not_mem_nil
  untouched := fun _ none => absurd none List.not_mem_nil
  filled := fun _ none => absurd none List.not_mem_nil
  noTimer := rfl

/-- The adapter is idle, so it accepts the welcome message and the first buffer. -/
theorem heapSafe_uartInitEnable {rx tx : Address}
    (shares : Shares cfg .nothing ⟨[], [tx, rx], 0⟩ world) (unused : world.adapter = .zeroed)
    (noWork : world.app.uartWork = false) (some : world.app.len tx ≠ 0)
    (empty : world.app.len rx = 0) :
    HeapSafe cfg capacity .nothing (uartInitEnable cfg rx tx)
      (fun _ later => Shares cfg .nothing .nothing later ∧ Running later) world := by
  have noTx : world.adapter.tx.buf = none := congrArg (fun data => data.tx.buf) unused
  have noBuf : world.adapter.rx.buf = none := congrArg (fun data => data.rx.buf) unused
  have noNext : world.adapter.rx.nextBuf = none := congrArg (fun data => data.rx.nextBuf) unused
  unfold HeapSafe uartInitEnable
  simp only [Prog.safe_monadBind, Prog.safe_get]
  have called : Shares cfg .nothing ⟨[], [tx, rx], 0⟩
      (world.observe (.called (.tx (.some tx) (world.app.len tx) sysForeverMs))) :=
    shares.observe rfl
  have sending := called.tx some noTx
  have result : World.tx (.some tx) (world.app.len tx) sysForeverMs
      (world.observe (.called (.tx (.some tx) (world.app.len tx) sysForeverMs))) =
        (0, ((world.observe (.called (.tx (.some tx) (world.app.len tx) sysForeverMs))).setTx
          { world.adapter.tx with
            buf := .some tx, currBuf := .some tx, sizeLeft := world.app.len tx,
            enabled := true }).irqTxEnable) := by
    simp [World.tx, some, noTx]
  refine ⟨⟨_, shares⟩, heapSafe_directCall rfl shares sending ?_⟩
  have side := sameSide_tx world some tx
  have sameApp : (world.directCall (.tx (.some tx) (world.app.len tx) sysForeverMs)
      (World.tx (.some tx) (world.app.len tx) sysForeverMs)).app = world.app := by
    unfold World.directCall
    rw [result]
    rfl
  have returned : Shares cfg .nothing ⟨[], [rx], 0⟩ (world.directCall
      (.tx (.some tx) (world.app.len tx) sysForeverMs)
      (World.tx (.some tx) (world.app.len tx) sysForeverMs)) := sending.observe rfl
  have accepted : (World.tx (.some tx) (world.app.len tx) sysForeverMs (world.observe
      (.called (.tx (.some tx) (world.app.len tx) sysForeverMs)))).1 = 0 :=
    congrArg Prod.fst result
  rw [accepted]
  generalize world.directCall (.tx (.some tx) (world.app.len tx) sysForeverMs)
    (World.tx (.some tx) (world.app.len tx) sysForeverMs) = between at returned side sameApp
  simp only [Prog.safe_ite, Prog.safe_monadBind]
  refine ⟨fun impossible => absurd rfl impossible, fun _ => ?_⟩
  have called : Shares cfg .nothing ⟨[], [rx], 0⟩ (between.observe
      (.called (.rxEnable (.some rx) cfg.uartBufSize cfg.firstWaitForRx))) := returned.observe rfl
  have stillNoBuf := (congrArg RxData.buf side.rx).trans noBuf
  have stillNoNext := (congrArg RxData.nextBuf side.rx).trans noNext
  have enabled := called.rxEnable cfg.firstWaitForRx stillNoBuf stillNoNext
    ((congrArg (fun bridge => bridge.len rx) sameApp).trans empty)
  refine heapSafe_directCall rfl returned enabled ?_
  have accepted : (World.rxEnable (.some rx) cfg.uartBufSize cfg.firstWaitForRx (between.observe
      (.called (.rxEnable (.some rx) cfg.uartBufSize cfg.firstWaitForRx)))).1 = 0 :=
    (World.rxEnable_eq_zero_iff _ _ _ _).mpr ⟨stillNoBuf, stillNoNext⟩
  rw [accepted]
  simp only [Prog.safe_ite, Prog.safe_pure]
  exact ⟨fun impossible => absurd rfl impossible,
    fun _ => ⟨enabled.observe rfl, rfl, rfl,
      (congrArg Bridge.uartWork sameApp).trans noWork⟩⟩

/-- Where `uart_init` succeeds, reception is enabled. -/
theorem heapSafe_uartInit (shares : Shares cfg .nothing .nothing world)
    (unused : world.adapter = .zeroed) (noWork : world.app.uartWork = false) :
    HeapSafe cfg capacity .nothing (uartInit cfg)
      (fun err later => err = 0 -> Shares cfg .nothing .nothing later ∧ Running later) world := by
  have failed : -ENOMEM ≠ 0 := by decide
  unfold HeapSafe uartInit
  simp only [Prog.safe_monadBind]
  refine heapSafe_kMalloc shares (Nat.zero_le 1) ?_ fun _ zero => absurd zero failed
  intro rx _ allocated
  simp only [Prog.safe_monadBind, Prog.safe_modify]
  have emptied := allocated.setLen_inHand List.mem_cons_self 0
  refine ⟨⟨_, emptied⟩, heapSafe_kMalloc emptied (Nat.le_refl 1) ?_ fun _ => ?_⟩
  · intro tx _ both
    simp only [Prog.safe_monadBind, Prog.safe_modify, Prog.safe_ite, Prog.safe_pure]
    have differs : rx ≠ tx := by
      have distinct := both.custody.nodup_iff.mp both.distinct
      have apart := (List.nodup_append.mp distinct).2.1
      exact fun same => (List.nodup_cons.mp apart).1 (List.mem_singleton.mpr same.symm)
    have printed := both.storeBytes List.mem_cons_self (printed cfg.uartBufSize)
    refine ⟨⟨_, printed⟩, fun _ => ⟨?_, fun zero => absurd zero failed⟩, fun _ => ?_⟩
    · exact ⟨_, (printed.permute (List.Perm.swap rx tx [])).kFree.kFree⟩
    · have ready := printed.setLen_inHand List.mem_cons_self welcome.length
      refine ⟨⟨_, ready⟩, Prog.Safe.mono
        (heapSafe_uartInitEnable ready unused noWork ?_ ?_) fun _ _ done _ => done⟩
      · intro zero
        change Function.update _ tx (welcome.length % 2 ^ 16) tx = 0 at zero
        rw [Function.update_self, welcome_length] at zero
        cases zero
      · exact (Function.update_of_ne differs _ _).trans (Function.update_self _ _ _)
  · simp only [Prog.safe_monadBind, Prog.safe_modify, Prog.safe_pure]
    exact ⟨⟨_, emptied.kFree⟩, fun zero => absurd zero failed⟩

end Init

end Uart
end NrfExamples
