import Mathlib.Data.List.Perm.Basic
import NrfExamples.Uart.Bridge
import NrfExamples.Uart.Representation

namespace NrfExamples
namespace Uart

/-!
# The buffers of the bridge and their contents

`BridgeRep` says who holds each allocated buffer, how much of it has been
filled, reported and counted, and that the bytes read from the target are those
in the FIFO and in the current buffer.  It holds between any two sections of
the three layers.  What is on its way between them is `InTransit`.
-/

/-- The bytes read from the target, in order, with and without room for them. -/
def readFromTarget : List Obs -> List UInt8
  | [] => []
  | .stored _ bytes :: log => readFromTarget log ++ bytes
  | .dropped bytes :: log => readFromTarget log ++ bytes
  | _ :: log => readFromTarget log

/-- The reads on the drop path. -/
def dropReads : List Obs -> List (List UInt8)
  | [] => []
  | .dropped bytes :: log => bytes :: dropReads log
  | _ :: log => dropReads log

/-- Entries for which nothing is read from the target. -/
def Obs.readsNothing : Obs -> Bool
  | .stored _ _ | .dropped _ => false
  | _ => true

theorem readFromTarget_cons {obs : Obs} (nothing : obs.readsNothing = true) (log : List Obs) :
    readFromTarget (obs :: log) = readFromTarget log := by
  cases obs with
  | stored dest bytes => cases nothing
  | dropped bytes => cases nothing
  | _ => rfl

theorem dropReads_cons {obs : Obs} (nothing : obs.readsNothing = true) (log : List Obs) :
    dropReads (obs :: log) = dropReads log := by
  cases obs with
  | dropped bytes => cases nothing
  | _ => rfl

namespace World

variable (world : World Bridge)

/-- `data[0..len)` -/
def data (buf : Address) : List UInt8 :=
  world.bytesAt (some buf) (world.app.len buf)

/-- The bytes of the items on `fifo_uart_rx_data`. -/
def queuedBytes : List UInt8 :=
  world.app.fifoUartRxData.flatMap world.data

/-- The bytes held in the adapter's current receive buffer. -/
def currentBytes : List UInt8 :=
  world.bytesAt world.adapter.rx.buf (world.adapter.rx.currBuf.diff world.adapter.rx.buf)

/-- The buffers held by the adapter and by the FIFO. -/
def holders : List Address :=
  world.adapter.rx.buf.toList ++ world.adapter.rx.nextBuf.toList ++
    world.adapter.tx.buf.toList ++ world.app.fifoUartRxData

/-- No stored byte is waiting to be reported. -/
def allNotified : Prop :=
  world.adapter.rx.buf.isSome -> world.adapter.rx.lastNotifyBuf = world.adapter.rx.currBuf

end World

/-- What a running function holds: buffers that have been released with their
bytes, buffers without received bytes, and the bytes of the current buffer that
have been reported and not yet been added to its `len`. -/
structure InTransit where
  released : List Address
  apart : List Address
  uncounted : Nat

/-- Nothing is on its way. -/
abbrev InTransit.nothing : InTransit := ⟨[], [], 0⟩

/-- The current buffer, filled up to `stored` and reported up to `notified`. -/
def CurrentUse (cfg : BridgeConfig) (len : Address -> Nat) (uncounted : Nat) (rx : RxData) : Prop :=
  (rx.buf = none ∧ rx.sizeLeft = 0) ∨
    exists buf stored notified, rx.buf = some buf ∧
      rx.lastNotifyBuf = rx.buf.advance notified ∧ rx.currBuf = rx.buf.advance stored ∧
      notified ≤ stored ∧ stored + rx.sizeLeft = cfg.uartBufSize ∧ len buf + uncounted = notified

/-- The prepared buffer is empty and has its full length. -/
def NextUse (cfg : BridgeConfig) (len : Address -> Nat) (rx : RxData) : Prop :=
  (rx.nextBuf = none ∧ rx.nextBufLen = 0) ∨
    exists buf, rx.nextBuf = some buf ∧ rx.nextBufLen = cfg.uartBufSize ∧ len buf = 0

/-- A transfer in progress, of at least one byte. -/
def SendUse (tx : TxData) : Prop :=
  tx.buf = none ∨ exists sent, tx.currBuf = tx.buf.advance sent ∧ 0 < sent + tx.sizeLeft

structure BridgeRep (cfg : BridgeConfig) (transit : InTransit) (world : World Bridge) : Prop where
  current : CurrentUse cfg world.app.len transit.uncounted world.adapter.rx
  next : NextUse cfg world.app.len world.adapter.rx
  sending : SendUse world.adapter.tx
  custody : world.app.live.Perm (world.holders ++ transit.released ++ transit.apart)
  distinct : world.app.live.Nodup
  whole : forall buf, buf ∈ world.app.live -> buf.offset = 0
  bytes : world.queuedBytes ++ transit.released.flatMap world.data ++ world.currentBytes =
    readFromTarget world.log
  noDrop : dropReads world.log = []
  lens : forall buf, buf ∈ world.app.fifoUartRxData ->
    1 ≤ world.app.len buf ∧ world.app.len buf ≤ cfg.uartBufSize
  fits : forall buf, buf ∈ transit.released -> world.app.len buf ≤ cfg.uartBufSize
  nothingToSend : world.app.fifoUartTxData = []
  notAborted : world.app.abortedBuf = none
  few : (transit.released ++ transit.apart).length ≤ 2

namespace BridgeRep

variable {cfg : BridgeConfig} {transit : InTransit} {world later : World Bridge}

/-! ## Sections that leave the buffers alone -/

theorem frame (rep : BridgeRep cfg transit world) (app : later.app = world.app)
    (memory : later.memory = world.memory) (rx : SameBuffers later world)
    (sending : SendUse later.adapter.tx) (tx : later.adapter.tx.buf = world.adapter.tx.buf)
    (reads : readFromTarget later.log = readFromTarget world.log)
    (drops : dropReads later.log = dropReads world.log) : BridgeRep cfg transit later := by
  rcases rx with ⟨timeout, timer, enabled, rx⟩
  have data : later.data = world.data := by
    funext buf
    unfold World.data
    rw [app]
    exact World.bytesAt_congr memory _ _
  have currentBytes : later.currentBytes = world.currentBytes := by
    unfold World.currentBytes
    rw [rx]
    exact World.bytesAt_congr memory _ _
  have queued : later.queuedBytes = world.queuedBytes := by
    unfold World.queuedBytes
    rw [app, data]
  have holders : later.holders = world.holders := by
    unfold World.holders
    rw [rx, tx, app]
  refine ⟨?_, ?_, sending, ?_, ?_, ?_, ?_, drops.trans rep.noDrop, ?_, ?_, ?_, ?_, rep.few⟩
  · rw [rx, app]
    exact rep.current
  · rw [rx, app]
    exact rep.next
  · rw [holders, app]
    exact rep.custody
  · rw [app]
    exact rep.distinct
  · rw [app]
    exact rep.whole
  · rw [queued, data, currentBytes, reads]
    exact rep.bytes
  · rw [app]
    exact rep.lens
  · rw [app]
    exact rep.fits
  · rw [app]
    exact rep.nothingToSend
  · rw [app]
    exact rep.notAborted

theorem observe (rep : BridgeRep cfg transit world) {obs : Obs}
    (nothing : obs.readsNothing = true) : BridgeRep cfg transit (world.observe obs) :=
  rep.frame rfl rfl (.of_eq rfl) rep.sending rfl (readFromTarget_cons nothing _)
    (dropReads_cons nothing _)

theorem called (rep : BridgeRep cfg transit world) (call : ApiCall) :
    BridgeRep cfg transit (world.observe (.called call)) :=
  rep.observe rfl

theorem assertNoMsg (rep : BridgeRep cfg transit world) (what : Assertion) (holds : Bool) :
    BridgeRep cfg transit (world.assertNoMsg what holds) := by
  cases holds with
  | true => exact rep
  | false => exact rep.observe rfl

/-- The checks of `notify_rx_buffer` succeed. -/
theorem notifyChecks (rep : BridgeRep cfg transit world) : world.notifyChecks = world := by
  rcases rep.current with ⟨none, _⟩ | ⟨_, stored, notified, _, last, curr, order, _, _⟩
  · exact World.notifyChecks_of_none none
  · exact World.notifyChecks_of_advance last curr order

theorem setRx (rep : BridgeRep cfg transit world) {rx : RxData}
    (same : SameBuffers (world.setRx rx) world) : BridgeRep cfg transit (world.setRx rx) :=
  rep.frame rfl rfl same rep.sending rfl rfl rfl

theorem setTx (rep : BridgeRep cfg transit world) {tx : TxData} (sending : SendUse tx)
    (same : tx.buf = world.adapter.tx.buf) : BridgeRep cfg transit (world.setTx tx) :=
  rep.frame rfl rfl (.of_eq rfl) sending same rfl rfl

/-- Nobody holds a buffer twice. -/
theorem nodup (rep : BridgeRep cfg transit world) :
    (world.holders ++ transit.released ++ transit.apart).Nodup :=
  rep.custody.nodup_iff.mp rep.distinct

/-- Nobody else holds the current buffer. -/
theorem current_alone (rep : BridgeRep cfg transit world) {buf : Address}
    (same : world.adapter.rx.buf = some buf) :
    world.adapter.rx.nextBuf ≠ some buf ∧ buf ∉ world.app.fifoUartRxData ∧
      buf ∉ transit.released ∧ buf ∉ transit.apart := by
  have held := rep.nodup
  unfold World.holders at held
  rw [same] at held
  change (buf :: (world.adapter.rx.nextBuf.toList ++ world.adapter.tx.buf.toList ++
    world.app.fifoUartRxData ++ transit.released ++ transit.apart)).Nodup at held
  have alone := (List.nodup_cons.mp held).1
  simp only [List.mem_append, not_or] at alone
  rcases alone with ⟨⟨⟨⟨notNext, _⟩, notQueued⟩, notReleased⟩, notApart⟩
  refine ⟨?_, notQueued, notReleased, notApart⟩
  intro next
  rw [next] at notNext
  exact notNext List.mem_cons_self

/-- Nobody else holds a buffer that a function has in hand. -/
theorem apart_alone (rep : BridgeRep cfg transit world) {buf : Address}
    (inHand : buf ∈ transit.apart) :
    world.adapter.rx.buf ≠ some buf ∧ world.adapter.rx.nextBuf ≠ some buf ∧
      buf ∉ world.app.fifoUartRxData ∧ buf ∉ transit.released := by
  have disjoint := (List.nodup_append.mp rep.nodup).2.2
  have alone : buf ∉ world.holders ++ transit.released :=
    fun member => disjoint buf member buf inHand rfl
  simp only [World.holders, List.mem_append, not_or] at alone
  rcases alone with ⟨⟨⟨⟨notCurrent, notNext⟩, _⟩, notQueued⟩, notReleased⟩
  refine ⟨?_, ?_, notQueued, notReleased⟩
  · intro current
    rw [current] at notCurrent
    exact notCurrent List.mem_cons_self
  · intro next
    rw [next] at notNext
    exact notNext List.mem_cons_self

/-! ## Allocation -/

theorem fewer {released rest : List Address} {buf : Address}
    (few : (released ++ buf :: rest).length ≤ 2) : (released ++ rest).length ≤ 2 := by
  simp only [List.length_append, List.length_cons] at few ⊢
  omega

theorem allocate (rep : BridgeRep cfg transit world) {buf : Address} (fresh : buf ∉ world.app.live)
    (aligned : buf.offset = 0) (room : (transit.released ++ buf :: transit.apart).length ≤ 2) :
    BridgeRep cfg { transit with apart := buf :: transit.apart }
      (world.mapApp fun bridge => bridge.allocate buf) := by
  refine ⟨rep.current, rep.next, rep.sending, ?_, ?_, ?_, rep.bytes, rep.noDrop, rep.lens,
    rep.fits, rep.nothingToSend, rep.notAborted, room⟩
  · exact (rep.custody.cons buf).trans List.perm_middle.symm
  · exact List.nodup_cons.mpr ⟨fresh, rep.distinct⟩
  · intro other member
    rcases List.mem_cons.mp member with rfl | old
    · exact aligned
    · exact rep.whole other old

theorem kFree {released rest : List Address} {buf : Address} {uncounted : Nat}
    (rep : BridgeRep cfg ⟨released, buf :: rest, uncounted⟩ world) :
    BridgeRep cfg ⟨released, rest, uncounted⟩ (world.mapApp fun bridge => bridge.kFree buf) := by
  refine ⟨rep.current, rep.next, rep.sending, ?_, rep.distinct.erase buf, ?_, rep.bytes,
    rep.noDrop, rep.lens, rep.fits, rep.nothingToSend, rep.notAborted, fewer rep.few⟩
  · have first := (rep.custody.trans List.perm_middle).erase buf
    rw [List.erase_cons_head] at first
    exact first
  · intro other member
    exact rep.whole other (List.mem_of_mem_erase member)

/-- The buffers in hand have no order. -/
theorem permute {released apart other : List Address} {uncounted : Nat}
    (rep : BridgeRep cfg ⟨released, apart, uncounted⟩ world) (same : apart.Perm other) :
    BridgeRep cfg ⟨released, other, uncounted⟩ world :=
  { rep with
    custody := rep.custody.trans (same.append_left _)
    few := (same.append_left released).length_eq ▸ rep.few }

/-- The `len` of a buffer matters only to those who hold it. -/
theorem setLen (rep : BridgeRep cfg transit world) (buf : Address) (len : Nat)
    {uncounted : Nat} (disableReq : Bool) (notQueued : buf ∉ world.app.fifoUartRxData)
    (notReleased : buf ∉ transit.released) (notNext : world.adapter.rx.nextBuf ≠ some buf)
    (current : CurrentUse cfg (Function.update world.app.len buf (len % 2 ^ 16)) uncounted
      world.adapter.rx) :
    BridgeRep cfg { transit with uncounted := uncounted } (world.mapApp fun bridge =>
      { bridge.setLen buf len with disableReq := disableReq }) := by
  have data : forall other, other ≠ buf -> (world.mapApp fun bridge =>
      { bridge.setLen buf len with disableReq := disableReq }).data other = world.data other := by
    intro other differs
    have same : Function.update world.app.len buf (len % 2 ^ 16) other = world.app.len other :=
      Function.update_of_ne differs _ _
    exact congrArg (world.bytesAt (some other)) same
  have flat : forall list : List Address, buf ∉ list ->
      list.flatMap (world.mapApp fun bridge =>
        { bridge.setLen buf len with disableReq := disableReq }).data =
      list.flatMap world.data := by
    intro list absent
    exact List.flatMap_congr fun other member => data other (ne_of_mem_of_not_mem member absent)
  have unchanged : forall list : List Address, buf ∉ list -> forall other, other ∈ list ->
      Function.update world.app.len buf (len % 2 ^ 16) other = world.app.len other :=
    fun list absent other member =>
      Function.update_of_ne (ne_of_mem_of_not_mem member absent) _ _
  refine ⟨current, ?_, rep.sending, rep.custody, rep.distinct, rep.whole, ?_, rep.noDrop, ?_, ?_,
    rep.nothingToSend, rep.notAborted, rep.few⟩
  · rcases rep.next with none | ⟨next, same, size, empty⟩
    · exact .inl none
    · refine .inr ⟨next, same, size, ?_⟩
      have differs : next ≠ buf := fun equal => notNext (equal ▸ same)
      exact (Function.update_of_ne differs _ _).trans empty
  · have queued := flat world.app.fifoUartRxData notQueued
    have released := flat transit.released notReleased
    have before := rep.bytes
    unfold World.queuedBytes at before ⊢
    exact (congrArg₂ (fun first second => first ++ second ++ world.currentBytes)
      queued released).trans before
  · intro other member
    have bounds := rep.lens other member
    rw [← unchanged _ notQueued other member] at bounds
    exact bounds
  · intro other member
    have bound := rep.fits other member
    rw [← unchanged _ notReleased other member] at bound
    exact bound

/-- `buf->len = len` for a buffer that has just been allocated. -/
theorem setLen_inHand (rep : BridgeRep cfg transit world) {buf : Address}
    (inHand : buf ∈ transit.apart) (len : Nat) :
    BridgeRep cfg transit (world.mapApp fun bridge => bridge.setLen buf len) := by
  rcases rep.apart_alone inHand with ⟨notCurrent, notNext, notQueued, notReleased⟩
  apply rep.setLen buf len world.app.disableReq notQueued notReleased notNext
  rcases rep.current with none | ⟨current, stored, notified, same, last, curr, order, size, counted⟩
  · exact .inl none
  · have differs : current ≠ buf := fun equal => notCurrent (equal ▸ same)
    refine .inr ⟨current, stored, notified, same, last, curr, order, size, ?_⟩
    rw [Function.update_of_ne differs]
    exact counted

/-! ## Reception -/

/-- Reported bytes are on their way until `uart_cb` has counted them. -/
theorem notified {released apart : List Address}
    (rep : BridgeRep cfg ⟨released, apart, 0⟩ world) (pending : world.unnotified = true) :
    BridgeRep cfg
      ⟨released, apart, world.adapter.rx.currBuf.diff world.adapter.rx.lastNotifyBuf⟩
      world.notifyRxBuffer.2 := by
  have present := (Bool.and_eq_true_iff.mp pending).1
  rw [World.notifyRxBuffer_of_unnotified pending, rep.notifyChecks]
  refine ⟨?_, rep.next, rep.sending, rep.custody, rep.distinct, rep.whole, rep.bytes, rep.noDrop,
    rep.lens, rep.fits, rep.nothingToSend, rep.notAborted, rep.few⟩
  rcases rep.current with ⟨none, _⟩ | ⟨buf, stored, notified, same, last, curr, order, size, counted⟩
  · rw [none] at present
    cases present
  · refine .inr ⟨buf, stored, stored, same, curr, curr, Nat.le_refl stored, size, ?_⟩
    rw [last, curr, Pointer.diff_advance _ _ _ present]
    change world.app.len buf + (stored - notified) = stored
    change world.app.len buf + 0 = notified at counted
    omega

/-- When there is nothing to report, everything has been reported. -/
theorem allNotified (rep : BridgeRep cfg transit world) (nothing : world.unnotified = false) :
    world.allNotified := by
  intro present
  rcases rep.current with ⟨none, _⟩ | ⟨buf, stored, notified, same, last, curr, order, _, _⟩
  · rw [none] at present
    cases present
  · have notAfter : world.adapter.rx.currBuf.after world.adapter.rx.lastNotifyBuf = false := by
      simpa [World.unnotified, present] using nothing
    rw [last, curr, same] at notAfter ⊢
    have atMost : stored ≤ notified := by simpa [Pointer.after, Pointer.advance] using notAfter
    rw [Nat.le_antisymm atMost order]

/-- `uart_cb` adds the reported bytes to the `len` of the current buffer. -/
theorem rxRdy {buf : Address} {count : Nat} (rep : BridgeRep cfg ⟨[], [], count⟩ world)
    (same : world.adapter.rx.buf = some buf) :
    BridgeRep cfg .nothing (world.rxRdy buf count).2 := by
  rcases rep.current_alone same with ⟨notNext, notQueued, _⟩
  have counted : forall disableReq, BridgeRep cfg .nothing (world.mapApp fun bridge =>
      { bridge.setLen buf (bridge.len buf + count) with disableReq := disableReq }) := by
    intro disableReq
    refine rep.setLen buf (world.app.len buf + count) disableReq notQueued List.not_mem_nil
      notNext ?_
    rcases rep.current with
      ⟨none, _⟩ | ⟨current, stored, notified, isCurrent, last, curr, order, size, sum⟩
    · rw [none] at same
      cases same
    · rw [isCurrent] at same
      cases same
      refine .inr ⟨buf, stored, notified, isCurrent, last, curr, order, size, ?_⟩
      change world.app.len buf + count = notified at sum
      have holds := cfg.lenHolds
      have below : world.app.len buf + count < 2 ^ 16 := by omega
      rw [Function.update_self, Nat.mod_eq_of_lt below]
      exact sum
  unfold World.rxRdy
  dsimp only
  split
  · exact counted _
  · split
    · exact counted true
    · exact counted _

/-- When everything has been reported and counted, the `len` of the current
buffer is what has been stored in it. -/
theorem current_counted (rep : BridgeRep cfg .nothing world) (notified : world.allNotified)
    {buf : Address} (same : world.adapter.rx.buf = some buf) :
    world.data buf = world.currentBytes ∧ world.app.len buf ≤ cfg.uartBufSize := by
  rcases rep.current with
    ⟨none, _⟩ | ⟨current, stored, reported, isCurrent, last, curr, order, size, sum⟩
  · rw [none] at same
    cases same
  · rw [isCurrent] at same
    cases same
    have present : world.adapter.rx.buf.isSome := by simp [isCurrent]
    have reached := notified present
    rw [last, curr] at reached
    have len : world.app.len buf = stored :=
      Eq.trans sum (Pointer.advance_injective present reached)
    unfold World.data World.currentBytes
    rw [curr, Pointer.diff_advance_self _ _ present, isCurrent, len]
    exact ⟨rfl, by omega⟩

theorem rxDisabled (rep : BridgeRep cfg transit world) :
    BridgeRep cfg transit (world.mapApp Bridge.rxDisabled) :=
  ⟨rep.current, rep.next, rep.sending, rep.custody, rep.distinct, rep.whole, rep.bytes, rep.noDrop,
    rep.lens, rep.fits, rep.nothingToSend, rep.notAborted, rep.few⟩

/-- The released buffer carries the bytes that have been reported of it. -/
theorem switchRxBuffer (rep : BridgeRep cfg .nothing world) (notified : world.allNotified) :
    BridgeRep cfg ⟨world.adapter.rx.buf.toList, [], 0⟩ (world.switchRxBuffer .adapter).2 := by
  have moved : (world.holders ++ [] ++ []).Perm
      ((world.switchRxBuffer .adapter).2.holders ++ world.adapter.rx.buf.toList ++ []) := by
    simp only [World.holders, World.switchRxBuffer, World.accessDevData_adapter,
      World.setDevData_adapter_adapter, Option.toList_none, List.append_nil]
    rw [List.append_assoc, List.append_assoc]
    exact List.perm_append_comm.trans (List.Perm.of_eq (by simp [World.setDevData]))
  have fresh : (world.switchRxBuffer .adapter).2.currentBytes = [] := by
    unfold World.currentBytes
    simp [World.switchRxBuffer]
  refine ⟨?_, .inl ⟨rfl, rfl⟩, rep.sending, rep.custody.trans moved, rep.distinct, rep.whole, ?_,
    rep.noDrop, rep.lens, ?_, rep.nothingToSend, rep.notAborted, ?_⟩
  · rcases rep.next with ⟨none, size⟩ | ⟨buf, same, size, empty⟩
    · exact .inl ⟨none, size⟩
    · refine .inr ⟨buf, 0, 0, same, (Pointer.advance_zero _).symm, (Pointer.advance_zero _).symm,
        Nat.le_refl 0, ?_, empty⟩
      change 0 + world.adapter.rx.nextBufLen = cfg.uartBufSize
      omega
  · rw [fresh, List.append_nil]
    refine Eq.trans ?_ rep.bytes
    cases same : world.adapter.rx.buf with
    | none => simp [World.currentBytes, same]; rfl
    | some buf =>
        have carried := (rep.current_counted notified same).1
        simp only [Option.toList_some, List.flatMap_cons, List.flatMap_nil, List.append_nil]
        exact congrArg (world.queuedBytes ++ ·) carried
  · intro buf member
    exact (rep.current_counted notified (Option.mem_toList.mp member)).2
  · cases world.adapter.rx.buf <;> simp

/-- A released buffer with bytes goes to the end of the FIFO; an empty one is freed. -/
theorem rxBufReleased {buf : Address} (rep : BridgeRep cfg ⟨[buf], [], 0⟩ world) :
    BridgeRep cfg .nothing (world.mapApp fun bridge => bridge.rxBufReleased buf) := by
  have held : world.app.live.Perm (world.holders ++ [buf]) := by simpa using rep.custody
  have carried : world.queuedBytes ++ world.data buf ++ world.currentBytes =
      readFromTarget world.log := by simpa using rep.bytes
  have fits := rep.fits buf List.mem_cons_self
  by_cases filled : 0 < world.app.len buf
  · have result : (world.mapApp fun bridge => bridge.rxBufReleased buf) =
        world.mapApp fun bridge =>
          { bridge with fifoUartRxData := bridge.fifoUartRxData ++ [buf] } := by
      simp [World.mapApp, Bridge.rxBufReleased, filled]
    rw [result]
    refine ⟨rep.current, rep.next, rep.sending, ?_, rep.distinct, rep.whole, ?_, rep.noDrop, ?_,
      fun _ none => absurd none List.not_mem_nil, rep.nothingToSend, rep.notAborted, by simp⟩
    · refine held.trans (List.Perm.of_eq ?_)
      simp [World.holders, World.mapApp]
    · refine Eq.trans ?_ carried
      change (world.app.fifoUartRxData ++ [buf]).flatMap world.data ++ [] ++
        world.currentBytes = _
      simp [World.queuedBytes]
    · intro other member
      rcases List.mem_append.mp member with old | new
      · exact rep.lens other old
      · rw [List.mem_singleton.mp new]
        exact ⟨filled, fits⟩
  · have result : (world.mapApp fun bridge => bridge.rxBufReleased buf) =
        world.mapApp fun bridge => bridge.kFree buf := by
      simp [World.mapApp, Bridge.rxBufReleased, filled]
    have empty : world.data buf = [] := by
      have zero : world.app.len buf = 0 := Nat.eq_zero_of_not_pos filled
      simp [World.data, zero]
    have apart : BridgeRep cfg ⟨[], [buf], 0⟩ world := by
      refine ⟨rep.current, rep.next, rep.sending, ?_, rep.distinct, rep.whole, ?_, rep.noDrop,
        rep.lens, fun _ none => absurd none List.not_mem_nil, rep.nothingToSend, rep.notAborted,
        by simp⟩
      · simpa using held
      · rw [empty] at carried
        exact carried
    rw [result]
    exact apart.kFree

/-- A buffer is handed to an adapter that holds none. -/
theorem rxEnable {released rest : List Address} {buf : Address} {uncounted : Nat}
    (rep : BridgeRep cfg ⟨released, buf :: rest, uncounted⟩ world) (timeout : Int)
    (noBuf : world.adapter.rx.buf = none) (noNext : world.adapter.rx.nextBuf = none)
    (empty : world.app.len buf = 0) :
    (world.rxEnable (some buf) cfg.uartBufSize timeout).1 = 0 ∧
      BridgeRep cfg ⟨released, rest, uncounted⟩
        (world.rxEnable (some buf) cfg.uartBufSize timeout).2 := by
  refine ⟨(World.rxEnable_eq_zero_iff _ _ _ _).mpr ⟨noBuf, noNext⟩, .inl ⟨rfl, rfl⟩,
    .inr ⟨buf, rfl, rfl, empty⟩, rep.sending, ?_, rep.distinct, rep.whole, ?_, rep.noDrop,
    rep.lens, rep.fits, rep.nothingToSend, rep.notAborted, fewer rep.few⟩
  · have held := rep.custody
    simp only [World.holders, noBuf, noNext, Option.toList_none, List.nil_append] at held
    refine held.trans (List.perm_middle.trans (List.Perm.of_eq ?_))
    simp [World.holders, World.rxEnable]
  · refine Eq.trans ?_ rep.bytes
    have none : world.currentBytes = [] := by simp [World.currentBytes, noBuf]
    rw [none]
    rfl

/-- A buffer is handed to an adapter that has none prepared. -/
theorem rxBufRsp {released rest : List Address} {buf : Address} {uncounted : Nat}
    (rep : BridgeRep cfg ⟨released, buf :: rest, uncounted⟩ world)
    (noNext : world.adapter.rx.nextBuf = none) (empty : world.app.len buf = 0) :
    (world.rxBufRsp (some buf) cfg.uartBufSize).2.adapter.rx =
        { world.adapter.rx with nextBuf := some buf, nextBufLen := cfg.uartBufSize } ∧
      BridgeRep cfg ⟨released, rest, uncounted⟩
        (world.rxBufRsp (some buf) cfg.uartBufSize).2 := by
  have zero : world.adapter.rx.nextBufLen = 0 := by
    rcases rep.next with ⟨_, zero⟩ | ⟨next, same, _⟩
    · exact zero
    · rw [noNext] at same
      cases same
  have result : (world.rxBufRsp (some buf) cfg.uartBufSize).2 =
      world.setRx { world.adapter.rx with nextBuf := some buf, nextBufLen := cfg.uartBufSize } := by
    simp [World.rxBufRsp, noNext, zero]
  rw [result]
  refine ⟨rfl, rep.current, .inr ⟨buf, rfl, rfl, empty⟩, rep.sending, ?_, rep.distinct, rep.whole,
    rep.bytes, rep.noDrop, rep.lens, rep.fits, rep.nothingToSend, rep.notAborted, fewer rep.few⟩
  have held := rep.custody
  simp only [World.holders, noNext, Option.toList_none, List.append_nil] at held
  refine held.trans (List.perm_middle.trans ?_)
  have moved : (world.adapter.rx.buf.toList ++ buf ::
      (world.adapter.tx.buf.toList ++ world.app.fifoUartRxData ++ released ++ rest)).Perm
      (buf :: (world.adapter.rx.buf.toList ++
        (world.adapter.tx.buf.toList ++ world.app.fifoUartRxData ++ released ++ rest))) :=
    List.perm_middle
  simpa [World.holders] using moved.symm

/-- Bytes stored in a buffer do not change the contents of others. -/
theorem flatMap_storeBytes (rep : BridgeRep cfg transit world) (address : Address)
    {buf : Address} (held : buf ∈ world.app.live) (inside : address.block = buf.block)
    (bytes : List UInt8) {others : List Address} (live : others ⊆ world.app.live) (absent : buf ∉ others) :
    others.flatMap (world.storeBytes (some address) bytes).data = others.flatMap world.data := by
  apply List.flatMap_congr
  intro other member
  have differs : other.block ≠ address.block := by
    intro same
    rw [inside] at same
    have offsets : other.offset = buf.offset :=
      (rep.whole other (live member)).trans (rep.whole buf held).symm
    have equal : other = buf := by
      cases other
      cases buf
      cases same
      cases offsets
      rfl
    rw [equal] at member
    exact absent member
  exact World.bytesAt_storeBytes_of_ne world differs bytes (world.app.len other)

theorem live_of_holders (rep : BridgeRep cfg transit world) {buf : Address}
    (held : buf ∈ world.holders ++ transit.released ++ transit.apart) : buf ∈ world.app.live :=
  rep.custody.mem_iff.mpr held

/-- Bytes that fit are added to the current buffer. -/
theorem onRxReadyStore (rep : BridgeRep cfg .nothing world) (bytes : List UInt8)
    (room : world.adapter.rx.sizeLeft ≠ 0) (fits : bytes.length ≤ world.adapter.rx.sizeLeft) :
    BridgeRep cfg .nothing (world.onRxReadyStore bytes) := by
  rcases rep.current with ⟨_, full⟩ | ⟨buf, stored, notified, same, last, curr, order, size, counted⟩
  · exact absurd full room
  have present : world.adapter.rx.buf.isSome := by simp [same]
  have place : world.adapter.rx.currBuf = some { buf with offset := buf.offset + stored } := by
    rw [curr, same]
    rfl
  have held : buf ∈ world.app.live := rep.live_of_holders (by simp [World.holders, same])
  have queued : world.app.fifoUartRxData.flatMap
      (world.storeBytes (some { buf with offset := buf.offset + stored }) bytes).data =
        world.queuedBytes := by
    refine rep.flatMap_storeBytes { buf with offset := buf.offset + stored } held rfl bytes ?_
      (rep.current_alone same).2.1
    intro other member
    exact rep.live_of_holders (by simp [World.holders, member])
  have written := world.bytesAt_storeBytes world.adapter.rx.buf stored bytes
  rw [if_pos present, ← curr, place] at written
  rw [World.onRxReadyStore_of_fits fits, place]
  refine ⟨?_, rep.next, rep.sending, rep.custody, rep.distinct, rep.whole, ?_, rep.noDrop,
    rep.lens, rep.fits, rep.nothingToSend, rep.notAborted, rep.few⟩
  · refine .inr ⟨buf, stored + bytes.length, notified, same, last, ?_, ?_, ?_, counted⟩
    · change Pointer.advance (some { buf with offset := buf.offset + stored }) bytes.length =
        world.adapter.rx.buf.advance (stored + bytes.length)
      rw [← place, curr, Pointer.advance_advance]
    · omega
    · change stored + bytes.length + (world.adapter.rx.sizeLeft - bytes.length) = cfg.uartBufSize
      omega
  · have before : world.queuedBytes ++ world.bytesAt world.adapter.rx.buf stored =
        readFromTarget world.log := by
      have total := rep.bytes
      unfold World.currentBytes at total
      rw [curr, Pointer.diff_advance_self _ _ present] at total
      simpa using total
    have filled : (Pointer.advance (some { buf with offset := buf.offset + stored })
        bytes.length).diff world.adapter.rx.buf = stored + bytes.length := by
      rw [← place, curr, Pointer.advance_advance, Pointer.diff_advance_self _ _ present]
    change world.app.fifoUartRxData.flatMap
        (world.storeBytes (some { buf with offset := buf.offset + stored }) bytes).data ++ [] ++
      (world.storeBytes (some { buf with offset := buf.offset + stored }) bytes).bytesAt
        world.adapter.rx.buf ((Pointer.advance (some { buf with offset := buf.offset + stored })
          bytes.length).diff world.adapter.rx.buf) = readFromTarget world.log ++ bytes
    rw [queued, filled, written, ← before]
    simp

/-- What is written to a buffer in hand changes no received byte. -/
theorem storeBytes (rep : BridgeRep cfg transit world) {buf : Address}
    (inHand : buf ∈ transit.apart) (bytes : List UInt8) :
    BridgeRep cfg transit (world.storeBytes (some buf) bytes) := by
  have held : buf ∈ world.app.live := rep.live_of_holders (by simp [inHand])
  rcases rep.apart_alone inHand with ⟨notCurrent, _, notQueued, notReleased⟩
  have queued : world.app.fifoUartRxData.flatMap (world.storeBytes (some buf) bytes).data =
      world.queuedBytes := by
    refine rep.flatMap_storeBytes buf held rfl bytes ?_ notQueued
    intro other member
    exact rep.live_of_holders (by simp [World.holders, member])
  have released : transit.released.flatMap (world.storeBytes (some buf) bytes).data =
      transit.released.flatMap world.data := by
    refine rep.flatMap_storeBytes buf held rfl bytes ?_ notReleased
    intro other member
    exact rep.live_of_holders (by simp [member])
  have current : (world.storeBytes (some buf) bytes).currentBytes = world.currentBytes := by
    unfold World.currentBytes
    rw [World.storeBytes_adapter]
    cases same : world.adapter.rx.buf with
    | none => rfl
    | some other =>
        refine World.bytesAt_storeBytes_of_ne world ?_ bytes _
        have otherHeld : other ∈ world.app.live :=
          rep.live_of_holders (by simp [World.holders, same])
        intro block
        refine notCurrent (same.trans (congrArg some ?_))
        have offsets := (rep.whole other otherHeld).trans (rep.whole buf held).symm
        cases other
        cases buf
        cases block
        cases offsets
        rfl
  refine ⟨rep.current, rep.next, rep.sending, rep.custody, rep.distinct, rep.whole, ?_, rep.noDrop,
    rep.lens, rep.fits, rep.nothingToSend, rep.notAborted, rep.few⟩
  rw [released, current]
  exact (congrArg (fun first => first ++ transit.released.flatMap world.data ++
    world.currentBytes) queued).trans rep.bytes

/-! ## Transmission -/

/-- A buffer in hand is handed to an adapter that sends nothing. -/
theorem tx {released rest : List Address} {buf : Address} {uncounted : Nat}
    (rep : BridgeRep cfg ⟨released, buf :: rest, uncounted⟩ world) {len : Nat} (some : len ≠ 0)
    (idle : world.adapter.tx.buf = none) :
    (world.tx (.some buf) len sysForeverMs).1 = 0 ∧
      (world.tx (.some buf) len sysForeverMs).2.adapter.rx = world.adapter.rx ∧
      (world.tx (.some buf) len sysForeverMs).2.app = world.app ∧
      BridgeRep cfg ⟨released, rest, uncounted⟩
        (world.tx (.some buf) len sysForeverMs).2 := by
  have result : world.tx (.some buf) len sysForeverMs = (0, (world.setTx
      { world.adapter.tx with
        buf := .some buf, currBuf := .some buf, sizeLeft := len, enabled := true }).irqTxEnable) := by
    simp [World.tx, some, idle]
  rw [result]
  refine ⟨rfl, rfl, rfl, rep.current, rep.next, ?_, ?_, rep.distinct, rep.whole, rep.bytes,
    rep.noDrop, rep.lens, rep.fits, rep.nothingToSend, rep.notAborted, fewer rep.few⟩
  · refine .inr ⟨0, (Pointer.advance_zero _).symm, ?_⟩
    change 0 < 0 + len
    omega
  · have held := rep.custody
    simp only [World.holders, idle, Option.toList_none, List.append_nil] at held
    refine held.trans (List.perm_middle.trans ?_)
    have moved : (world.adapter.rx.buf.toList ++ world.adapter.rx.nextBuf.toList ++ buf ::
        (world.app.fifoUartRxData ++ released ++ rest)).Perm
        (buf :: (world.adapter.rx.buf.toList ++ world.adapter.rx.nextBuf.toList ++
          (world.app.fifoUartRxData ++ released ++ rest))) := List.perm_middle
    simpa [World.holders, World.irqTxEnable] using moved.symm

theorem onTxReady (rep : BridgeRep cfg transit world) (ret : Int) :
    BridgeRep cfg transit (world.onTxReady ret) := by
  unfold World.onTxReady
  split
  · exact rep
  · refine BridgeRep.setTx (rep.observe rfl) ?_ rfl
    rcases rep.sending with none | ⟨sent, curr, some⟩
    · exact .inl none
    · refine .inr ⟨sent + ret.toNat, ?_, ?_⟩
      · change world.adapter.tx.currBuf.advance ret.toNat =
          world.adapter.tx.buf.advance (sent + ret.toNat)
        rw [curr, Pointer.advance_advance]
      · change 0 < sent + ret.toNat + (world.adapter.tx.sizeLeft - ret.toNat)
        omega

/-- The buffer of a transfer that has ended is in hand. -/
theorem txIdle {buf : Address} (rep : BridgeRep cfg .nothing world)
    (busy : world.adapter.tx.buf = some buf) (timer : Option Nat) :
    BridgeRep cfg ⟨[], [buf], 0⟩ (world.txIdle timer) := by
  refine ⟨rep.current, rep.next, .inl rfl, ?_, rep.distinct, rep.whole, rep.bytes, rep.noDrop,
    rep.lens, rep.fits, rep.nothingToSend, rep.notAborted, by simp⟩
  have held := rep.custody
  simp only [World.holders, busy, Option.toList_some, List.append_assoc,
    List.singleton_append] at held
  have moved : (world.adapter.rx.buf.toList ++ world.adapter.rx.nextBuf.toList ++ buf ::
      world.app.fifoUartRxData).Perm (world.adapter.rx.buf.toList ++
        world.adapter.rx.nextBuf.toList ++ world.app.fifoUartRxData ++ [buf]) :=
    List.perm_middle.trans (List.perm_append_singleton buf _).symm
  apply held.trans
  simpa [World.holders, World.txIdle] using moved

/-- A completion gives the buffer that has been sent to `uart_cb`. -/
theorem onTxComplete (rep : BridgeRep cfg .nothing world) :
    world.onTxComplete.2.adapter.rx = world.adapter.rx ∧
      ((world.onTxComplete.1 = none ∧ BridgeRep cfg .nothing world.onTxComplete.2) ∨
        exists buf len, world.onTxComplete.1 = some (.txDone (some buf) len) ∧ 0 < len ∧
          BridgeRep cfg ⟨[], [buf], 0⟩ world.onTxComplete.2) := by
  by_cases finished : world.adapter.tx.sizeLeft = 0
  · cases busy : world.adapter.tx.buf with
    | none =>
        rw [World.onTxComplete_of_idle finished busy]
        refine ⟨rfl, .inl ⟨rfl, ?_⟩⟩
        exact rep.frame rfl rfl (.of_eq rfl) (.inl busy) rfl rfl rfl
    | some buf =>
        have checked : BridgeRep cfg .nothing world.completeChecks :=
          (rep.assertNoMsg _ _).assertNoMsg _ _
        have sameAdapter : world.completeChecks.adapter = world.adapter := by
          simp [World.completeChecks]
        have sameRx : world.completeChecks.adapter.rx = world.adapter.rx :=
          congrArg AdapterData.rx sameAdapter
        rw [World.onTxComplete_of_busy finished (by simp [busy])]
        refine ⟨sameRx, .inr ⟨buf, world.adapter.tx.currBuf.diff (some buf), ?_, ?_, ?_⟩⟩
        · rw [busy]
        · rcases rep.sending with none | ⟨sent, curr, some⟩
          · rw [none] at busy
            cases busy
          · rw [curr, busy, Pointer.diff_advance_self _ _ rfl]
            omega
        · refine checked.txIdle ?_ _
          rw [sameAdapter]
          exact busy
  · rw [World.onTxComplete_of_unfinished finished]
    exact ⟨rfl, .inl ⟨rfl, rep⟩⟩

/-- With nothing waiting to be sent, `uart_cb` only frees the buffer. -/
theorem txDone (rep : BridgeRep cfg transit world) (buf : Address) {len : Nat} (some : 0 < len) :
    (world.onApp fun bridge => bridge.txDone (.some buf) len) =
      (none, world.mapApp fun bridge => bridge.kFree buf) := by
  have notZero : len ≠ 0 := by omega
  have result : world.app.txDone (.some buf) len = (none, world.app.kFree buf) := by
    rw [world.app.txDone_of_notAborted rep.notAborted buf notZero]
    exact Bridge.getTx_nil _ rep.nothingToSend
  unfold World.onApp World.mapApp
  dsimp only
  rw [result]

end BridgeRep

end Uart
end NrfExamples
