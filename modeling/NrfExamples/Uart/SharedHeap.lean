import NrfExamples.Uart.BridgeReceive

namespace NrfExamples
namespace Uart

open Reentrant

/-!
# Reception on a shared heap

`BridgeRep` describes a bridge in which only reception and the welcome message use
the heap, and nothing but `uart_cb` takes from the FIFOs.  The threads of `main.c`
use the heap too: `ble_write_thread` empties `fifo_uart_rx_data`, `bt_receive_cb`
fills `fifo_uart_tx_data`, and `uart_work_handler` allocates for `uart_cb`.

What is left when the buffers of the others are taken away looks like a bridge of
its own, with a shorter heap, nothing to send, and a log of the bytes that nobody
has taken yet.  `Shares` says so, and each section of the adapter and of `uart_cb`
keeps it because it does the same to both.
-/

/-- The bytes that have been stored in a buffer, in order. -/
def storedBytes : List Obs -> List UInt8
  | [] => []
  | .stored _ bytes :: log => storedBytes log ++ bytes
  | _ :: log => storedBytes log

/-- Entries for which nothing is stored. -/
def Obs.storesNothing : Obs -> Bool
  | .stored _ _ => false
  | _ => true

theorem storedBytes_cons {obs : Obs} (nothing : obs.storesNothing = true) (log : List Obs) :
    storedBytes (obs :: log) = storedBytes log := by
  cases obs with
  | stored dest bytes => cases nothing
  | _ => rfl

/-- The world as reception sees it. -/
def World.reception (world : World Bridge) (live : List Address) (log : List Obs) : World Bridge :=
  { world with
    log := log
    app := { world.app with live := live, fifoUartTxData := [] } }

/-- What the threads have: buffers in hand with their contents, and the received bytes
that they have taken. -/
structure Threads where
  hands : List Address
  content : Address -> List UInt8
  taken : List UInt8

/-- The buffers held by the adapter, the FIFOs and the threads. -/
def World.owners (world : World Bridge) (threads : Threads) : List Address :=
  world.holders ++ world.app.fifoUartTxData ++ threads.hands

/-- Reception has the heap to itself but for what the threads and `fifo_uart_tx_data`
hold, and leaves alone what the threads hold; nothing that waits to be sent is empty,
and no transfer has a timeout. -/
structure Shares (cfg : BridgeConfig) (threads : Threads) (transit : InTransit)
    (world : World Bridge) : Prop where
  reception : exists live log, BridgeRep cfg transit (world.reception live log) ∧
    world.app.live.Perm (threads.hands ++ world.app.fifoUartTxData ++ live) ∧
    threads.taken ++ readFromTarget log = storedBytes world.log
  distinct : world.app.live.Nodup
  whole : forall buf, buf ∈ world.app.live -> buf.offset = 0
  untouched : forall buf, buf ∈ threads.hands -> world.data buf = threads.content buf
  filled : forall buf, buf ∈ world.app.fifoUartTxData -> 0 < world.app.len buf
  noTimer : world.adapter.tx.timeoutTimer = none

namespace Shares

variable {cfg : BridgeConfig} {threads : Threads} {transit other : InTransit}
variable {world later : World Bridge} {buf : Address}

/-! ## Sections that leave the heap alone -/

/-- A section that reception sees in the same way, which neither allocates nor stores. -/
theorem lift (shares : Shares cfg threads transit world) (live : later.app.live = world.app.live)
    (queue : later.app.fifoUartTxData = world.app.fifoUartTxData)
    (memory : later.memory = world.memory)
    (len : forall buf, buf ∈ world.app.fifoUartTxData ∨ buf ∈ threads.hands ->
      later.app.len buf = world.app.len buf)
    (stored : storedBytes later.log = storedBytes world.log)
    (timer : later.adapter.tx.timeoutTimer = world.adapter.tx.timeoutTimer)
    (same : forall live log, world.app.live.Perm
        (threads.hands ++ world.app.fifoUartTxData ++ live) ->
      BridgeRep cfg transit (world.reception live log) ->
        BridgeRep cfg other (later.reception live log)) :
    Shares cfg threads other later := by
  rcases shares.reception with ⟨rest, log, rep, custody, bytes⟩
  constructor
  · refine ⟨rest, log, same rest log custody rep, ?_, ?_⟩
    · rw [live, queue]
      exact custody
    · rw [stored]
      exact bytes
  · rw [live]
    exact shares.distinct
  · rw [live]
    exact shares.whole
  · intro buf member
    rw [← shares.untouched buf member]
    unfold World.data
    rw [len buf (.inr member)]
    exact World.bytesAt_congr memory _ _
  · rw [queue]
    intro buf member
    rw [len buf (.inl member)]
    exact shares.filled buf member
  · rw [timer]
    exact shares.noTimer

/-- A section that changes nothing but the log. -/
theorem observe (shares : Shares cfg threads transit world) {obs : Obs}
    (nothing : obs.storesNothing = true) : Shares cfg threads transit (world.observe obs) :=
  shares.lift rfl rfl rfl (fun _ _ => rfl) (storedBytes_cons nothing _) rfl fun _ _ _ rep => rep

theorem current (shares : Shares cfg threads transit world) :
    CurrentUse cfg world.app.len transit.uncounted world.adapter.rx := by
  rcases shares.reception with ⟨live, log, rep, _, _⟩
  exact rep.current

theorem next (shares : Shares cfg threads transit world) :
    NextUse cfg world.app.len world.adapter.rx := by
  rcases shares.reception with ⟨live, log, rep, _, _⟩
  exact rep.next

theorem notAborted (shares : Shares cfg threads transit world) :
    world.app.abortedBuf = none := by
  rcases shares.reception with ⟨live, log, rep, _, _⟩
  exact rep.notAborted

theorem assertNoMsg (shares : Shares cfg threads transit world) (what : Assertion) (holds : Bool) :
    Shares cfg threads transit (world.assertNoMsg what holds) := by
  cases holds with
  | true => exact shares
  | false => exact shares.observe rfl

theorem notifyChecks (shares : Shares cfg threads transit world) : world.notifyChecks = world := by
  rcases shares.current with ⟨none, _⟩ | ⟨_, stored, notified, _, last, curr, order, _, _⟩
  · exact World.notifyChecks_of_none none
  · exact World.notifyChecks_of_advance last curr order

/-- The timer, the timeout and the flag of reception. -/
theorem setRx (shares : Shares cfg threads transit world) (rx : RxData)
    (same : SameBuffers (world.setRx rx) world) : Shares cfg threads transit (world.setRx rx) :=
  shares.lift rfl rfl rfl (fun _ _ => rfl) rfl rfl fun _ _ _ rep => rep.setRx same

theorem setTx (shares : Shares cfg threads transit world) {tx : TxData} (sending : SendUse tx)
    (same : tx.buf = world.adapter.tx.buf)
    (timer : tx.timeoutTimer = world.adapter.tx.timeoutTimer) :
    Shares cfg threads transit (world.setTx tx) :=
  shares.lift rfl rfl rfl (fun _ _ => rfl) rfl timer fun _ _ _ rep => rep.setTx sending same

theorem elapse (shares : Shares cfg threads transit world) (ticks : Nat) :
    Shares cfg threads transit (world.elapse ticks) :=
  shares.lift rfl rfl rfl (fun _ _ => rfl) rfl rfl fun _ _ _ rep =>
    rep.frame rfl rfl (.of_eq rfl) rep.sending rfl rfl rfl

theorem irq (shares : Shares cfg threads transit world) (irq : IrqEnables) :
    Shares cfg threads transit { world with irq := irq } :=
  shares.lift rfl rfl rfl (fun _ _ => rfl) rfl rfl fun _ _ _ rep =>
    rep.frame rfl rfl (.of_eq rfl) rep.sending rfl rfl rfl

theorem flags (shares : Shares cfg threads transit world) (disableReq uartWork : Bool) :
    Shares cfg threads transit (world.mapApp fun bridge =>
      { bridge with disableReq := disableReq, uartWork := uartWork }) :=
  shares.lift rfl rfl rfl (fun _ _ => rfl) rfl rfl fun _ _ _ rep =>
    ⟨rep.current, rep.next, rep.sending, rep.custody, rep.distinct, rep.whole, rep.bytes,
      rep.noDrop, rep.lens, rep.fits, rep.nothingToSend, rep.notAborted, rep.few⟩

/-! ## Who holds what -/

/-- Reception holds each of its buffers once, and none of the others'. -/
theorem split (shares : Shares cfg threads transit world) :
    exists live log, BridgeRep cfg transit (world.reception live log) ∧
      world.app.live.Perm (threads.hands ++ world.app.fifoUartTxData ++ live) ∧
      threads.taken ++ readFromTarget log = storedBytes world.log ∧
      (threads.hands ++ world.app.fifoUartTxData ++ live).Nodup := by
  rcases shares.reception with ⟨live, log, rep, custody, bytes⟩
  exact ⟨live, log, rep, custody, bytes, custody.nodup_iff.mp shares.distinct⟩

/-- Each allocated buffer has exactly one owner. -/
theorem custody (shares : Shares cfg threads transit world) :
    world.app.live.Perm (world.owners threads ++ transit.released ++ transit.apart) := by
  rcases shares.reception with ⟨live, log, rep, custody, _⟩
  have held : live.Perm (world.holders ++ transit.released ++ transit.apart) := rep.custody
  have swapped : (threads.hands ++ world.app.fifoUartTxData ++ world.holders).Perm
      (world.owners threads) := by
    unfold World.owners
    rw [List.append_assoc world.holders]
    exact List.perm_append_comm.trans (List.perm_append_comm.append_left _)
  have whole := (swapped.append_right transit.released).append_right transit.apart
  refine (custody.trans (held.append_left _)).trans (List.Perm.trans (List.Perm.of_eq ?_) whole)
  simp only [List.append_assoc]

/-! ## Sections of `uart_cb` -/

/-- A successful `k_malloc` of `uart_cb`. -/
theorem allocate (shares : Shares cfg threads transit world) (buf : Address)
    (fresh : buf ∉ world.app.live) (aligned : buf.offset = 0)
    (room : (transit.released ++ buf :: transit.apart).length ≤ 2) :
    Shares cfg threads { transit with apart := buf :: transit.apart }
      (world.mapApp fun bridge => bridge.allocate buf) := by
  rcases shares.reception with ⟨live, log, rep, custody, bytes⟩
  constructor
  · refine ⟨buf :: live, log, ?_, (custody.cons buf).trans List.perm_middle.symm, bytes⟩
    have notHeld : buf ∉ live := fun member => fresh (custody.mem_iff.mpr (by simp [member]))
    exact rep.allocate notHeld aligned room
  · exact List.nodup_cons.mpr ⟨fresh, shares.distinct⟩
  · intro other member
    rcases List.mem_cons.mp member with rfl | old
    · exact aligned
    · exact shares.whole other old
  · exact shares.untouched
  · exact shares.filled
  · exact shares.noTimer

/-- A buffer that reception gives up leaves the heap. -/
theorem erase {live : List Address} {buf : Address}
    (custody : world.app.live.Perm (threads.hands ++ world.app.fifoUartTxData ++ live))
    (distinct : world.app.live.Nodup) (held : buf ∈ live) :
    (world.app.live.erase buf).Perm
      (threads.hands ++ world.app.fifoUartTxData ++ live.erase buf) := by
  have disjoint := (List.nodup_append.mp (custody.nodup_iff.mp distinct)).2.2
  have absent : buf ∉ threads.hands ++ world.app.fifoUartTxData :=
    fun member => disjoint buf member buf held rfl
  have erased := custody.erase buf
  rw [List.erase_append_right _ absent] at erased
  exact erased

theorem kFree {released rest : List Address} {buf : Address} {uncounted : Nat}
    (shares : Shares cfg threads ⟨released, buf :: rest, uncounted⟩ world) :
    Shares cfg threads ⟨released, rest, uncounted⟩
      (world.mapApp fun bridge => bridge.kFree buf) := by
  rcases shares.reception with ⟨live, log, rep, custody, bytes⟩
  have held : buf ∈ live := rep.custody.mem_iff.mpr (by simp)
  constructor
  · exact ⟨live.erase buf, log, rep.kFree, erase custody shares.distinct held, bytes⟩
  · exact shares.distinct.erase buf
  · exact fun other member => shares.whole other (List.mem_of_mem_erase member)
  · exact shares.untouched
  · exact shares.filled
  · exact shares.noTimer

/-- The buffers that wait to be sent are not among those of reception. -/
theorem not_waiting (shares : Shares cfg threads transit world) (buf : Address)
    (held : buf ∈ world.holders ++ transit.released ++ transit.apart) :
    buf ∉ world.app.fifoUartTxData ∧ buf ∉ threads.hands := by
  rcases shares.split with ⟨live, log, rep, custody, _, nodup⟩
  have isHeld : buf ∈ live := rep.custody.mem_iff.mpr held
  have disjoint := (List.nodup_append.mp nodup).2.2
  constructor
  · exact fun member => disjoint buf (List.mem_append_right _ member) buf isHeld rfl
  · exact fun member => disjoint buf (List.mem_append_left _ member) buf isHeld rfl

/-- Two buffers in use that lie in one block are the same. -/
theorem eq_of_block (shares : Shares cfg threads transit world) (buf other : Address)
    (held : buf ∈ world.holders ++ transit.released ++ transit.apart)
    (inHand : other ∈ threads.hands) (same : other.block = buf.block) : other = buf := by
  have isLive : buf ∈ world.app.live := by
    rw [shares.custody.mem_iff]
    simp only [World.owners, List.mem_append] at held ⊢
    tauto
  have otherLive : other ∈ world.app.live := by
    rw [shares.custody.mem_iff]
    simp [World.owners, inHand]
  have offsets := (shares.whole other otherLive).trans (shares.whole buf isLive).symm
  cases other
  cases buf
  cases same
  cases offsets
  rfl

/-- `buf->len = len` for a buffer that has just been allocated. -/
theorem setLen_inHand (shares : Shares cfg threads transit world) {buf : Address}
    (inHand : buf ∈ transit.apart) (len : Nat) :
    Shares cfg threads transit (world.mapApp fun bridge => bridge.setLen buf len) := by
  have absent := shares.not_waiting buf (by simp [inHand])
  refine shares.lift rfl rfl rfl (fun other member => ?_) rfl rfl fun _ _ _ rep =>
    rep.setLen_inHand inHand len
  apply Function.update_of_ne
  rintro rfl
  exact member.elim absent.1 absent.2

theorem permute {released apart other : List Address} {uncounted : Nat}
    (shares : Shares cfg threads ⟨released, apart, uncounted⟩ world) (same : apart.Perm other) :
    Shares cfg threads ⟨released, other, uncounted⟩ world :=
  shares.lift rfl rfl rfl (fun _ _ => rfl) rfl rfl fun _ _ _ rep => rep.permute same

/-- Reported bytes are on their way until `uart_cb` has counted them. -/
theorem notified {released apart : List Address}
    (shares : Shares cfg threads ⟨released, apart, 0⟩ world) (pending : world.unnotified = true) :
    Shares cfg threads
      ⟨released, apart, world.adapter.rx.currBuf.diff world.adapter.rx.lastNotifyBuf⟩
      world.notifyRxBuffer.2 := by
  rw [World.notifyRxBuffer_of_unnotified pending, shares.notifyChecks]
  refine shares.lift rfl rfl rfl (fun _ _ => rfl) rfl rfl fun live log _ rep => ?_
  have later := rep.notified pending
  have reported : (world.reception live log).notifyRxBuffer = _ :=
    World.notifyRxBuffer_of_unnotified pending
  rw [reported, rep.notifyChecks] at later
  exact later

/-- When there is nothing to report, everything has been reported. -/
theorem allNotified (shares : Shares cfg threads transit world)
    (nothing : world.unnotified = false) : world.allNotified := by
  rcases shares.reception with ⟨live, log, rep, _, _⟩
  exact rep.allNotified nothing

theorem rxRdy_reception (buf : Address) (count : Nat) (live : List Address) (log : List Obs) :
    (world.rxRdy buf count).2.reception live log =
      ((world.reception live log).rxRdy buf count).2 := by
  unfold World.rxRdy
  dsimp only [World.reception, World.mapApp, Bridge.setLen]
  split
  · rfl
  · split <;> rfl

/-- What counting does besides adding to a `len`. -/
theorem rxRdy_cases (world : World Bridge) (buf : Address) (count : Nat) :
    (world.rxRdy buf count).2 =
        world.mapApp (fun bridge => bridge.setLen buf (bridge.len buf + count)) ∨
      (world.rxRdy buf count).2 = world.mapApp (fun bridge =>
        { bridge.setLen buf (bridge.len buf + count) with disableReq := true }) := by
  unfold World.rxRdy
  dsimp only
  split
  · exact .inl rfl
  · split
    · exact .inr rfl
    · exact .inl rfl

/-- `uart_cb` adds the reported bytes to the `len` of the current buffer. -/
theorem rxRdy {buf : Address} {count : Nat} (shares : Shares cfg threads ⟨[], [], count⟩ world)
    (same : world.adapter.rx.buf = some buf) :
    Shares cfg threads .nothing (world.rxRdy buf count).2 := by
  have absent := shares.not_waiting buf (by simp [World.holders, same])
  have kept : (world.rxRdy buf count).2.app.live = world.app.live ∧
      (world.rxRdy buf count).2.app.fifoUartTxData = world.app.fifoUartTxData ∧
      (world.rxRdy buf count).2.log = world.log ∧
      (world.rxRdy buf count).2.adapter = world.adapter ∧
      (world.rxRdy buf count).2.memory = world.memory ∧
      forall other, other ≠ buf ->
        (world.rxRdy buf count).2.app.len other = world.app.len other := by
    rcases rxRdy_cases world buf count with result | result
    · rw [result]
      exact ⟨rfl, rfl, rfl, rfl, rfl, fun other differs => Function.update_of_ne differs _ _⟩
    · rw [result]
      exact ⟨rfl, rfl, rfl, rfl, rfl, fun other differs => Function.update_of_ne differs _ _⟩
  rcases kept with ⟨live, queue, log, adapter, memory, len⟩
  refine shares.lift live queue memory (fun other member => len other ?_)
    (congrArg storedBytes log) ?_ ?_
  · rintro rfl
    exact member.elim absent.1 absent.2
  · rw [adapter]
  · intro rest entries _ rep
    rw [rxRdy_reception]
    exact rep.rxRdy same

/-- The released buffer carries the bytes that have been reported of it. -/
theorem switchRxBuffer (shares : Shares cfg threads .nothing world)
    (notified : world.allNotified) :
    Shares cfg threads ⟨world.adapter.rx.buf.toList, [], 0⟩ (world.switchRxBuffer .adapter).2 :=
  shares.lift rfl rfl rfl (fun _ _ => rfl) rfl rfl fun _ _ _ rep => rep.switchRxBuffer notified

/-- A released buffer with bytes goes to the end of the FIFO; an empty one is freed. -/
theorem rxBufReleased {buf : Address} (shares : Shares cfg threads ⟨[buf], [], 0⟩ world) :
    Shares cfg threads .nothing (world.mapApp fun bridge => bridge.rxBufReleased buf) := by
  by_cases filled : 0 < world.app.len buf
  · have result : forall seen : World Bridge, 0 < seen.app.len buf ->
        (seen.mapApp fun bridge => bridge.rxBufReleased buf) = seen.mapApp fun bridge =>
          { bridge with fifoUartRxData := bridge.fifoUartRxData ++ [buf] } := by
      intro seen positive
      simp [World.mapApp, Bridge.rxBufReleased, positive]
    rw [result world filled]
    refine shares.lift rfl rfl rfl (fun _ _ => rfl) rfl rfl fun live log _ rep => ?_
    have later := rep.rxBufReleased
    rw [result (world.reception live log) filled] at later
    exact later
  · have result : forall seen : World Bridge, ¬ 0 < seen.app.len buf ->
        (seen.mapApp fun bridge => bridge.rxBufReleased buf) =
          seen.mapApp fun bridge => bridge.kFree buf := by
      intro seen empty
      simp [World.mapApp, Bridge.rxBufReleased, empty]
    rcases shares.reception with ⟨live, log, rep, custody, bytes⟩
    have held : buf ∈ live := rep.custody.mem_iff.mpr (by simp)
    have later := rep.rxBufReleased
    rw [result (world.reception live log) filled] at later
    rw [result world filled]
    constructor
    · exact ⟨live.erase buf, log, later, erase custody shares.distinct held, bytes⟩
    · exact shares.distinct.erase buf
    · exact fun other member => shares.whole other (List.mem_of_mem_erase member)
    · exact shares.untouched
    · exact shares.filled
    · exact shares.noTimer

/-- A buffer is handed to an adapter that holds none. -/
theorem rxEnable {released rest : List Address} {buf : Address} {uncounted : Nat}
    (shares : Shares cfg threads ⟨released, buf :: rest, uncounted⟩ world) (timeout : Int)
    (noBuf : world.adapter.rx.buf = none) (noNext : world.adapter.rx.nextBuf = none)
    (empty : world.app.len buf = 0) :
    Shares cfg threads ⟨released, rest, uncounted⟩
      (world.rxEnable (some buf) cfg.uartBufSize timeout).2 :=
  shares.lift rfl rfl rfl (fun _ _ => rfl) rfl rfl fun _ _ _ rep =>
    (rep.rxEnable timeout noBuf noNext empty).2

/-- A buffer is handed to an adapter that has none prepared. -/
theorem rxBufRsp {released rest : List Address} {buf : Address} {uncounted : Nat}
    (shares : Shares cfg threads ⟨released, buf :: rest, uncounted⟩ world)
    (noNext : world.adapter.rx.nextBuf = none) (empty : world.app.len buf = 0) :
    (world.rxBufRsp (some buf) cfg.uartBufSize).2 = world.setRx
        { world.adapter.rx with nextBuf := some buf, nextBufLen := cfg.uartBufSize } ∧
      Shares cfg threads ⟨released, rest, uncounted⟩
        (world.rxBufRsp (some buf) cfg.uartBufSize).2 := by
  have zero : world.adapter.rx.nextBufLen = 0 := by
    rcases shares.next with ⟨_, zero⟩ | ⟨next, same, _⟩
    · exact zero
    · rw [noNext] at same
      cases same
  have result : forall seen : World Bridge, seen.adapter = world.adapter ->
      (seen.rxBufRsp (some buf) cfg.uartBufSize).2 = seen.setRx
        { seen.adapter.rx with nextBuf := some buf, nextBufLen := cfg.uartBufSize } := by
    intro seen same
    simp [World.rxBufRsp, same, noNext, zero]
  rw [result world rfl]
  refine ⟨rfl, shares.lift rfl rfl rfl (fun _ _ => rfl) rfl rfl fun live log _ rep => ?_⟩
  have later := (rep.rxBufRsp noNext empty).2
  rw [result (world.reception live log) rfl] at later
  exact later

/-- Bytes that fit are added to the current buffer. -/
theorem onRxReadyStore (shares : Shares cfg threads .nothing world) (bytes : List UInt8)
    (room : world.adapter.rx.sizeLeft ≠ 0) (fits : bytes.length ≤ world.adapter.rx.sizeLeft) :
    Shares cfg threads .nothing (world.onRxReadyStore bytes) := by
  rcases shares.reception with ⟨live, log, rep, custody, taken⟩
  have later := rep.onRxReadyStore bytes room fits
  have stored : (world.reception live log).onRxReadyStore bytes = _ :=
    World.onRxReadyStore_of_fits fits
  rw [World.onRxReadyStore_of_fits fits]
  rw [stored] at later
  have present : exists address, world.adapter.rx.currBuf = some address ∧
      exists buf, world.adapter.rx.buf = some buf ∧ address.block = buf.block := by
    rcases rep.current with ⟨_, full⟩ | ⟨buf, stored, _, same, _, curr, _⟩
    · exact absurd full room
    · have place : world.adapter.rx.currBuf = world.adapter.rx.buf.advance stored := curr
      have isBuf : world.adapter.rx.buf = some buf := same
      rw [place, isBuf]
      exact ⟨_, rfl, buf, rfl, rfl⟩
  rcases present with ⟨address, place, currentPlace⟩
  have samePlace : (world.reception live log).adapter.rx.currBuf = some address := place
  rw [samePlace] at later
  rw [place]
  constructor
  · refine ⟨live, .stored (some address) bytes :: log, later, custody, ?_⟩
    change threads.taken ++ (readFromTarget log ++ bytes) = storedBytes world.log ++ bytes
    rw [← taken, List.append_assoc]
  · exact shares.distinct
  · exact shares.whole
  · intro other member
    rw [← shares.untouched other member]
    refine World.bytesAt_storeBytes_of_ne world (fun sameBlock => ?_) bytes _
    rcases currentPlace with ⟨buf, isCurrent, block⟩
    have notHand := (shares.not_waiting buf (by simp [World.holders, isCurrent])).2
    apply notHand
    rw [← shares.eq_of_block _ other (by simp [World.holders, isCurrent]) member
      (sameBlock.trans block)]
    exact member
  · exact shares.filled
  · exact shares.noTimer

/-! ## Transmission -/

/-- A buffer in hand is handed to an adapter that sends nothing. -/
theorem tx {released rest : List Address} {buf : Address} {uncounted : Nat}
    (shares : Shares cfg threads ⟨released, buf :: rest, uncounted⟩ world) {len : Nat}
    (some : len ≠ 0) (idle : world.adapter.tx.buf = none) :
    Shares cfg threads ⟨released, rest, uncounted⟩
      (world.tx (.some buf) len sysForeverMs).2 := by
  have result : forall seen : World Bridge, seen.adapter = world.adapter ->
      (seen.tx (.some buf) len sysForeverMs).2 = (seen.setTx
        { seen.adapter.tx with
          buf := .some buf, currBuf := .some buf, sizeLeft := len, enabled := true }).irqTxEnable := by
    intro seen same
    simp [World.tx, some, same, idle]
  rw [result world rfl]
  refine shares.lift rfl rfl rfl (fun _ _ => rfl) rfl rfl fun live log _ rep => ?_
  have later := (rep.tx some idle).2.2.2
  rw [result (world.reception live log) rfl] at later
  exact later

theorem onTxReady (shares : Shares cfg threads transit world) (ret : Int) :
    Shares cfg threads transit (world.onTxReady ret) := by
  unfold World.onTxReady
  by_cases nothing : ret ≤ 0
  · rw [if_pos nothing]
    exact shares
  · rw [if_neg nothing]
    refine shares.lift rfl rfl rfl (fun _ _ => rfl) (storedBytes_cons rfl _) rfl
      fun live log _ rep => ?_
    have later := rep.onTxReady ret
    unfold World.onTxReady at later
    rw [if_neg nothing] at later
    exact later.frame rfl rfl (.of_eq rfl) later.sending rfl
      (readFromTarget_cons (rfl : Obs.readsNothing (.pushed _ _) = true) _).symm
      (dropReads_cons (rfl : Obs.readsNothing (.pushed _ _) = true) _).symm

/-- A completion gives the buffer that has been sent to `uart_cb`. -/
theorem onTxComplete (shares : Shares cfg threads .nothing world) :
    world.onTxComplete.2.adapter.rx = world.adapter.rx ∧
      ((world.onTxComplete.1 = none ∧ Shares cfg threads .nothing world.onTxComplete.2) ∨
        exists buf len, world.onTxComplete.1 = some (.txDone (some buf) len) ∧ 0 < len ∧
          world.onTxComplete.2.adapter.tx.buf = none ∧
          Shares cfg threads ⟨[], [buf], 0⟩ world.onTxComplete.2) := by
  by_cases finished : world.adapter.tx.sizeLeft = 0
  · cases busy : world.adapter.tx.buf with
    | none =>
        rw [World.onTxComplete_of_idle finished busy]
        refine ⟨rfl, .inl ⟨rfl, ?_⟩⟩
        refine shares.lift rfl rfl rfl (fun _ _ => rfl) rfl rfl fun live log _ rep => ?_
        exact rep.frame rfl rfl (.of_eq rfl) (.inl busy) rfl rfl rfl
    | some buf =>
        have checked : Shares cfg threads .nothing world.completeChecks :=
          (shares.assertNoMsg _ _).assertNoMsg _ _
        have sameAdapter : world.completeChecks.adapter = world.adapter := by
          simp [World.completeChecks]
        have sameRx : world.completeChecks.adapter.rx = world.adapter.rx :=
          congrArg AdapterData.rx sameAdapter
        have sameTimer : world.adapter.tx.timeoutTimer =
            world.completeChecks.adapter.tx.timeoutTimer := by
          rw [sameAdapter]
        have stillBusy : world.completeChecks.adapter.tx.buf = some buf := by
          rw [sameAdapter]
          exact busy
        rw [World.onTxComplete_of_busy finished (by simp [busy]), busy]
        refine ⟨sameRx, .inr ⟨buf, world.adapter.tx.currBuf.diff (some buf), rfl, ?_, rfl, ?_⟩⟩
        · rcases shares.reception with ⟨live, log, rep, _, _⟩
          rcases rep.sending with idle | ⟨sent, curr, some⟩
          · have notBusy : world.adapter.tx.buf = none := idle
            rw [notBusy] at busy
            cases busy
          · have place : world.adapter.tx.currBuf = world.adapter.tx.buf.advance sent := curr
            have positive : 0 < sent + world.adapter.tx.sizeLeft := some
            rw [place, busy, Pointer.diff_advance_self _ _ rfl]
            omega
        · exact checked.lift rfl rfl rfl (fun _ _ => rfl) rfl sameTimer fun live log _ rep =>
            rep.txIdle stillBusy _
  · rw [World.onTxComplete_of_unfinished finished]
    exact ⟨rfl, .inl ⟨rfl, shares⟩⟩

/-- The next buffer that waits to be sent is taken into hand. -/
theorem getTx {rest : List Address} {buf : Address} (shares : Shares cfg threads .nothing world)
    (waiting : world.app.fifoUartTxData = buf :: rest) :
    Shares cfg threads ⟨[], [buf], 0⟩
        (world.mapApp fun bridge => { bridge with fifoUartTxData := rest }) ∧
      0 < world.app.len buf := by
  have positive := shares.filled buf (by rw [waiting]; exact List.mem_cons_self)
  rcases shares.split with ⟨live, log, rep, custody, bytes, nodup⟩
  rw [waiting] at custody nodup
  have notHeld : buf ∉ live :=
    fun member => (List.nodup_append.mp nodup).2.2 buf
      (List.mem_append_right _ List.mem_cons_self) buf member rfl
  have isLive : buf ∈ world.app.live := custody.mem_iff.mpr (by simp)
  refine ⟨?_, positive⟩
  constructor
  · refine ⟨buf :: live, log, rep.allocate notHeld (shares.whole buf isLive) (by simp), ?_, bytes⟩
    apply custody.trans
    change (threads.hands ++ buf :: rest ++ live).Perm (threads.hands ++ rest ++ buf :: live)
    refine (List.perm_middle.append_right live).trans ?_
    exact List.Perm.trans (List.Perm.of_eq rfl) List.perm_middle.symm
  · exact shares.distinct
  · exact shares.whole
  · exact shares.untouched
  · intro other member
    exact shares.filled other (by rw [waiting]; exact List.mem_cons_of_mem _ member)
  · exact shares.noTimer

/-! ## Sections of the threads -/

/-- What is written to a buffer that has just been allocated. -/
theorem storeBytes (shares : Shares cfg threads transit world) (held : buf ∈ transit.apart)
    (bytes : List UInt8) : Shares cfg threads transit (world.storeBytes (some buf) bytes) := by
  rcases shares.reception with ⟨live, log, rep, custody, taken⟩
  constructor
  · exact ⟨live, log, rep.storeBytes held bytes, custody, taken⟩
  · exact shares.distinct
  · exact shares.whole
  · intro other member
    rw [← shares.untouched other member]
    refine World.bytesAt_storeBytes_of_ne world (fun sameBlock => ?_) bytes _
    have same := shares.eq_of_block buf other (by simp [held]) member sameBlock
    rw [same] at member
    exact (shares.not_waiting buf (by simp [held])).2 member
  · exact shares.filled
  · exact shares.noTimer

section Hands

variable {hands : List Address} {content : Address -> List UInt8} {taken : List UInt8}

/-- One more buffer in hand, with what it contains. -/
theorem content_update {data : Address -> List UInt8}
    (untouched : forall other, other ∈ hands -> data other = content other) (other : Address)
    (member : other ∈ buf :: hands) : data other = Function.update content buf (data buf) other := by
  by_cases same : other = buf
  · rw [same, Function.update_self]
  · rw [Function.update_of_ne same]
    exact untouched other (List.mem_of_ne_of_mem same member)

/-- A successful `k_malloc` of a thread. -/
theorem handAllocate (shares : Shares cfg ⟨hands, content, taken⟩ transit world)
    (fresh : buf ∉ world.app.live) (aligned : buf.offset = 0) :
    Shares cfg ⟨buf :: hands, Function.update content buf (world.data buf), taken⟩ transit
      (world.mapApp fun bridge => bridge.allocate buf) := by
  rcases shares.reception with ⟨live, log, rep, custody, bytes⟩
  constructor
  · exact ⟨live, log, rep, custody.cons buf, bytes⟩
  · exact List.nodup_cons.mpr ⟨fresh, shares.distinct⟩
  · intro other member
    rcases List.mem_cons.mp member with rfl | old
    · exact aligned
    · exact shares.whole other old
  · exact content_update shares.untouched
  · exact shares.filled
  · exact shares.noTimer

theorem handFree (shares : Shares cfg ⟨buf :: hands, content, taken⟩ transit world) :
    Shares cfg ⟨hands, content, taken⟩ transit
      (world.mapApp fun bridge => bridge.kFree buf) := by
  rcases shares.reception with ⟨live, log, rep, custody, bytes⟩
  constructor
  · refine ⟨live, log, rep, ?_, bytes⟩
    have erased := custody.erase buf
    rw [List.cons_append, List.cons_append, List.erase_cons_head] at erased
    exact erased
  · exact shares.distinct.erase buf
  · exact fun other member => shares.whole other (List.mem_of_mem_erase member)
  · exact fun other member => shares.untouched other (List.mem_cons_of_mem _ member)
  · exact shares.filled
  · exact shares.noTimer

/-- The hands of the threads have no order. -/
theorem rearrange (shares : Shares cfg ⟨hands, content, taken⟩ transit world)
    (other : List Address) (same : hands.Perm other) :
    Shares cfg ⟨other, content, taken⟩ transit world := by
  rcases shares.reception with ⟨live, log, rep, custody, bytes⟩
  constructor
  · exact ⟨live, log, rep, custody.trans ((same.append_right _).append_right _), bytes⟩
  · exact shares.distinct
  · exact shares.whole
  · exact fun buf member => shares.untouched buf (same.mem_iff.mpr member)
  · exact shares.filled
  · exact shares.noTimer

/-- What a thread has in hand nobody else holds. -/
theorem inHand (shares : Shares cfg ⟨buf :: hands, content, taken⟩ transit world) :
    buf ∈ world.app.live ∧ buf ∉ hands ∧ exists live log,
      BridgeRep cfg transit (world.reception live log) ∧ buf ∉ live ∧
        world.app.live.Perm (hands ++ world.app.fifoUartTxData ++ buf :: live) ∧
        taken ++ readFromTarget log = storedBytes world.log := by
  rcases shares.split with ⟨live, log, rep, custody, bytes, nodup⟩
  have alone : buf ∉ hands ++ world.app.fifoUartTxData ++ live := (List.nodup_cons.mp nodup).1
  simp only [List.mem_append, not_or] at alone
  rcases alone with ⟨⟨notHand, _⟩, notHeld⟩
  refine ⟨custody.mem_iff.mpr (by simp), notHand, live, log, rep, notHeld, ?_, bytes⟩
  exact custody.trans List.perm_middle.symm

/-- A thread gives a buffer to reception. -/
theorem handOver (shares : Shares cfg ⟨buf :: hands, content, taken⟩ .nothing world) :
    Shares cfg ⟨hands, content, taken⟩ ⟨[], [buf], 0⟩ world := by
  rcases shares.inHand with ⟨isLive, _, live, log, rep, notHeld, custody, bytes⟩
  constructor
  · exact ⟨buf :: live, log, rep.allocate notHeld (shares.whole buf isLive) (by simp), custody,
      bytes⟩
  · exact shares.distinct
  · exact shares.whole
  · exact fun other member => shares.untouched other (List.mem_cons_of_mem _ member)
  · exact shares.filled
  · exact shares.noTimer

/-- And it gets one back. -/
theorem handBack (shares : Shares cfg ⟨hands, content, taken⟩ ⟨[], [buf], 0⟩ world) :
    Shares cfg ⟨buf :: hands, Function.update content buf (world.data buf), taken⟩ .nothing
      world := by
  rcases shares.reception with ⟨live, log, rep, custody, bytes⟩
  have held : buf ∈ live := rep.custody.mem_iff.mpr (by simp)
  constructor
  · refine ⟨live.erase buf, log, rep.kFree, ?_, bytes⟩
    have split := custody.trans ((List.perm_cons_erase held).append_left _)
    exact split.trans List.perm_middle
  · exact shares.distinct
  · exact shares.whole
  · exact content_update shares.untouched
  · exact shares.filled
  · exact shares.noTimer

/-- `buf->len = len` by a thread. -/
theorem handSetLen (shares : Shares cfg ⟨buf :: hands, content, taken⟩ .nothing world)
    (len : Nat) :
    Shares cfg ⟨buf :: hands, Function.update content buf
        ((world.mapApp fun bridge => bridge.setLen buf len).data buf), taken⟩ .nothing
      (world.mapApp fun bridge => bridge.setLen buf len) :=
  (shares.handOver.setLen_inHand List.mem_cons_self len).handBack

/-- A thread writes to a buffer. -/
theorem handStore (shares : Shares cfg ⟨buf :: hands, content, taken⟩ .nothing world)
    (bytes : List UInt8) :
    Shares cfg ⟨buf :: hands, Function.update content buf
        ((world.storeBytes (some buf) bytes).data buf), taken⟩ .nothing
      (world.storeBytes (some buf) bytes) :=
  (shares.handOver.storeBytes List.mem_cons_self bytes).handBack

/-- `k_fifo_put(&fifo_uart_tx_data, buf)` -/
theorem handPutTx (shares : Shares cfg ⟨buf :: hands, content, taken⟩ .nothing world)
    (filled : 0 < world.app.len buf) :
    Shares cfg ⟨hands, content, taken⟩ .nothing
      (world.mapApp fun bridge => bridge.putTx buf) := by
  rcases shares.inHand with ⟨_, _, live, log, rep, _, custody, bytes⟩
  constructor
  · refine ⟨live, log, rep, ?_, bytes⟩
    change world.app.live.Perm (hands ++ (world.app.fifoUartTxData ++ [buf]) ++ live)
    apply custody.trans
    simp only [List.append_assoc, List.singleton_append]
    exact .refl _
  · exact shares.distinct
  · exact shares.whole
  · exact fun other member => shares.untouched other (List.mem_cons_of_mem _ member)
  · intro other member
    rcases List.mem_append.mp member with old | new
    · exact shares.filled other old
    · rw [List.mem_singleton.mp new]
      exact filled
  · exact shares.noTimer

/-- `k_fifo_get(&fifo_uart_rx_data, ..)`: the thread takes the buffer and its bytes. -/
theorem handTake {rest : List Address}
    (shares : Shares cfg ⟨hands, content, taken⟩ .nothing world)
    (waiting : world.app.fifoUartRxData = buf :: rest) :
    Shares cfg ⟨buf :: hands, Function.update content buf (world.data buf),
        taken ++ world.data buf⟩ .nothing
      (world.mapApp fun bridge => { bridge with fifoUartRxData := rest }) := by
  rcases shares.split with ⟨live, log, rep, custody, bytes, nodup⟩
  have holders : (world.reception live log).holders = world.adapter.rx.buf.toList ++
      world.adapter.rx.nextBuf.toList ++ world.adapter.tx.buf.toList ++ buf :: rest :=
    congrArg (world.adapter.rx.buf.toList ++ world.adapter.rx.nextBuf.toList ++
      world.adapter.tx.buf.toList ++ ·) waiting
  have held : live.Perm (buf :: (world.adapter.rx.buf.toList ++
      world.adapter.rx.nextBuf.toList ++ world.adapter.tx.buf.toList ++ rest)) := by
    have owned := rep.custody
    simp only [holders, List.append_nil] at owned
    exact owned.trans List.perm_middle
  have isHeld : buf ∈ live := held.mem_iff.mpr List.mem_cons_self
  have queued : (world.reception live log).queuedBytes =
      world.data buf ++ rest.flatMap world.data := by
    have all : (world.reception live log).queuedBytes =
        world.app.fifoUartRxData.flatMap world.data := rfl
    rw [all, waiting, List.flatMap_cons]
  have read : readFromTarget log =
      world.data buf ++ (rest.flatMap world.data ++ world.currentBytes) := by
    have total : (world.reception live log).queuedBytes ++ [] ++ world.currentBytes =
        readFromTarget log := rep.bytes
    rw [← total, queued, List.append_nil, List.append_assoc]
  constructor
  · refine ⟨live.erase buf, [.stored none (rest.flatMap world.data ++ world.currentBytes)],
      ?_, ?_, ?_⟩
    · refine ⟨rep.current, rep.next, rep.sending, ?_, rep.distinct.erase buf, ?_, ?_, rfl, ?_,
        rep.fits, rfl, rep.notAborted, Nat.zero_le 2⟩
      · have erased := held.erase buf
        rw [List.erase_cons_head] at erased
        apply erased.trans
        simp [World.holders, World.reception, World.mapApp]
      · exact fun other member => rep.whole other (List.mem_of_mem_erase member)
      · change rest.flatMap world.data ++ [] ++ world.currentBytes = _
        rw [List.append_nil]
        exact (List.nil_append _).symm
      · intro other member
        apply rep.lens other
        change other ∈ world.app.fifoUartRxData
        rw [waiting]
        exact List.mem_cons_of_mem _ member
    · have split := custody.trans ((List.perm_cons_erase isHeld).append_left _)
      exact split.trans List.perm_middle
    · change taken ++ world.data buf ++ ([] ++ (rest.flatMap world.data ++ world.currentBytes)) =
        storedBytes world.log
      rw [← bytes, read, List.nil_append, List.append_assoc]
  · exact shares.distinct
  · exact shares.whole
  · exact content_update shares.untouched
  · exact shares.filled
  · exact shares.noTimer

end Hands

/-- The bytes that the threads have taken, those in the FIFO and those in the current
buffer are the bytes that have been stored. -/
theorem bytes (shares : Shares cfg threads .nothing world) :
    threads.taken ++ world.queuedBytes ++ world.currentBytes = storedBytes world.log := by
  rcases shares.reception with ⟨live, log, rep, _, bytes⟩
  have total : world.queuedBytes ++ [] ++ world.currentBytes = readFromTarget log := rep.bytes
  rw [← bytes, ← total, List.append_nil, List.append_assoc]

end Shares

end Uart
end NrfExamples
