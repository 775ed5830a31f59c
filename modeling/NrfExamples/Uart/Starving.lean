import NrfExamples.Uart.SharedHeap

namespace NrfExamples
namespace Uart

open Reentrant

/-!
# When there is no memory

The heap has room for a fixed number of buffers, and `k_malloc` fails exactly when
it is full.  At a `UART_RX_BUF_REQUEST` this costs no more than the bytes that come
in while no buffer is prepared.  At a `UART_RX_DISABLED` reception stays disabled
until `uart_work_handler` finds memory.  Then no buffer is left in the adapter, and
none gets there behind the back of `uart_work_handler`: `on_rx_ready` may still ask
for one, but nothing has been freed since the last allocation failed.
-/

/-- The adapter with `uart_cb` as its client, on a heap with room for `capacity`
buffers, as long as `uart_err_check` reports no error. -/
def heapSystem (cfg : BridgeConfig) (capacity : Nat) : System (adapterInterface Bridge) where
  body := body (some (uartCb cfg))
  permitted := fun query world answer =>
    match query, answer with
    | .next, _ => False
    | .errCheck, err => err ≤ 0
    | .fifoFill size, ret => ret ≤ (size : Int)
    | .fifoRead size, .ok bytes => bytes.length ≤ size
    | .fifoRead _, .error err => err < 0
    | .kMalloc, none => capacity ≤ world.app.live.length
    | .kMalloc, some block =>
        world.app.live.length < capacity ∧ ⟨block, 0⟩ ∉ world.app.live
    | _, _ => True

/-- Which handlers can run: a timer expires only if it has been started. -/
def Fires (world : World Bridge) : Handler -> Prop
  | .txTimeout => world.adapter.tx.timeoutTimer.isSome
  | .client _ => False
  | .uartIrq | .rxTimeout | .elapse _ => True

/-! ## What holds around the calls -/

/-- Reception is enabled. -/
structure Running (world : World Bridge) : Prop where
  enabled : world.adapter.rx.enabled = true
  irq : world.irq.rx = true
  noWork : world.app.uartWork = false

/-- Reception is disabled, and the adapter has no receive buffer. -/
structure Stalled (world : World Bridge) : Prop where
  disabled : world.adapter.rx.enabled = false
  noBuf : world.adapter.rx.buf = none
  noNext : world.adapter.rx.nextBuf = none

/-- Reception waits for `uart_work_handler`, and there is still no memory. -/
structure Starved (capacity : Nat) (world : World Bridge) : Prop where
  stalled : Stalled world
  work : world.app.uartWork = true
  full : capacity ≤ world.app.live.length

/-- What reception looks like from outside is as before. -/
structure SameSide (before world : World Bridge) : Prop where
  rx : world.adapter.rx = before.adapter.rx
  irq : world.irq.rx = before.irq.rx
  work : world.app.uartWork = before.app.uartWork

/-- What reception has come to since a handler was entered. -/
def Followed (before world : World Bridge) : Prop :=
  (Running before ∧ (Running world ∨ Stalled world ∧ world.app.uartWork = true)) ∨
    Stalled before ∧ Stalled world ∧ world.app.uartWork = before.app.uartWork

section Contract

variable (cfg : BridgeConfig) (capacity : Nat) (threads : Threads)

/-- Where `on_rx_ready` goes on. -/
def Serving (world : World Bridge) : Prop :=
  Shares cfg threads .nothing world ∧ (Running world ∨ Starved capacity world)

/-- While `rx_disable` is on its way. -/
structure TurningOff (world : World Bridge) : Prop where
  shares : Shares cfg threads .nothing world
  disabled : world.adapter.rx.enabled = false
  noWork : world.app.uartWork = false
  notified : world.allNotified
  inOrder : world.adapter.rx.buf = none -> world.adapter.rx.nextBuf = none

/-- What `uart_cb` finds when it is given an event. -/
def Given (evt : UartEvent) (before world : World Bridge) : Prop :=
  match evt with
  | .txDone buf len => exists sent, buf = some sent ∧ 0 < len ∧ world.adapter.tx.buf = none ∧
      Shares cfg threads ⟨[], [sent], 0⟩ world ∧ SameSide before world
  | .rxRdy buf _ len => exists current, buf = some current ∧
      world.adapter.rx.buf = some current ∧ Shares cfg threads ⟨[], [], len⟩ world ∧
      world.allNotified ∧ Running world
  | .rxBufRequest => Serving cfg capacity threads world ∧ world.adapter.rx.nextBuf = none ∧
      SameSide before world
  | .rxBufReleased buf => exists released, buf = some released ∧
      Shares cfg threads ⟨[released], [], 0⟩ world ∧ SameSide before world
  | .rxDisabled => Shares cfg threads .nothing world ∧ Stalled world ∧
      world.app.uartWork = false
  | .txAborted _ _ | .rxStopped _ => False

/-- What `uart_cb` leaves behind. -/
def Left (evt : UartEvent) (before world : World Bridge) : Prop :=
  match evt with
  | .txDone _ _ | .rxBufReleased _ => Shares cfg threads .nothing world ∧ SameSide before world
  | .rxRdy _ _ _ => Serving cfg capacity threads world ∧ world.allNotified
  | .rxBufRequest => Serving cfg capacity threads world ∧
      world.adapter.rx.sizeLeft = before.adapter.rx.sizeLeft
  | .rxDisabled => Serving cfg capacity threads world ∧ world.adapter.rx.buf = none
  | .txAborted _ _ | .rxStopped _ => False

/-- The ghost of a call is the world in which it was made. -/
def heapContract : Contract (adapterInterface Bridge) where
  Ghost := fun _ => World Bridge
  always := fun world => exists transit, Shares cfg threads transit world
  asked := fun _ _ => True
  pre := fun proc before world =>
    match proc with
    | .onRxReadyLoop _ => Shares cfg threads .nothing world ∧ Running world
    | .dropLoop => Serving cfg capacity threads world
    | .handler handler => Shares cfg threads .nothing world ∧ Followed before world ∧
        Fires world handler
    | .userCallback evt => Given cfg capacity threads evt before world
    | .rxDisableLoop .adapter => TurningOff cfg threads world
    | .environment | .client _ | .rxDisableLoop .target => False
  post := fun proc before _ world =>
    match proc with
    | .handler _ => Shares cfg threads .nothing world ∧ Followed before world
    | .onRxReadyLoop _ | .dropLoop => Serving cfg capacity threads world
    | .userCallback evt => Left cfg capacity threads evt before world
    | .rxDisableLoop .adapter => Shares cfg threads .nothing world ∧ Stalled world ∧
        world.app.uartWork = false
    | .environment | .client _ | .rxDisableLoop .target => True

/-- What a program needs under this contract. -/
abbrev HeapSafe {A : Type} (program : AdapterProg Bridge A) (goal : A -> World Bridge -> Prop)
    (world : World Bridge) : Prop :=
  Prog.Safe (heapSystem cfg capacity) (heapContract cfg capacity threads) program goal world

end Contract

variable {cfg : BridgeConfig} {capacity : Nat} {threads : Threads} {before world : World Bridge}

theorem SameSide.refl (world : World Bridge) : SameSide world world :=
  ⟨rfl, rfl, rfl⟩

theorem SameSide.observe (same : SameSide before world) (obs : Obs) :
    SameSide before (world.observe obs) :=
  ⟨same.rx, same.irq, same.work⟩

/-- `uart_tx` is nothing to reception, whether it is accepted or not. -/
theorem sameSide_tx (world : World Bridge) {len : Nat} (some : len ≠ 0) (buf : Address) :
    SameSide world (world.directCall (.tx (.some buf) len sysForeverMs)
      (World.tx (.some buf) len sysForeverMs)) := by
  unfold World.directCall World.tx
  rw [if_neg some]
  split
  · exact ⟨rfl, rfl, rfl⟩
  · rw [if_neg (not_not_intro rfl)]
    exact ⟨rfl, rfl, rfl⟩

theorem SameSide.running (same : SameSide before world) (running : Running before) :
    Running world where
  enabled := by rw [same.rx]; exact running.enabled
  irq := by rw [same.irq]; exact running.irq
  noWork := by rw [same.work]; exact running.noWork

theorem SameSide.stalled (same : SameSide before world) (stalled : Stalled before) :
    Stalled world where
  disabled := by rw [same.rx]; exact stalled.disabled
  noBuf := by rw [same.rx]; exact stalled.noBuf
  noNext := by rw [same.rx]; exact stalled.noNext

theorem Followed.same (followed : Followed before world) {later : World Bridge}
    (same : SameSide world later) : Followed before later := by
  rcases followed with ⟨ran, running | ⟨stalled, work⟩⟩ | ⟨stood, stalled, work⟩
  · exact .inl ⟨ran, .inl (same.running running)⟩
  · exact .inl ⟨ran, .inr ⟨same.stalled stalled, same.work.trans work⟩⟩
  · exact .inr ⟨stood, same.stalled stalled, same.work.trans work⟩

theorem Serving.observe (serving : Serving cfg capacity threads world) {obs : Obs}
    (nothing : obs.storesNothing = true) :
    Serving cfg capacity threads (world.observe obs) := by
  refine ⟨serving.1.observe nothing, ?_⟩
  rcases serving.2 with ⟨enabled, irq, noWork⟩ | ⟨⟨disabled, noBuf, noNext⟩, work, full⟩
  · exact .inl ⟨enabled, irq, noWork⟩
  · exact .inr ⟨⟨disabled, noBuf, noNext⟩, work, full⟩

theorem Given.shares {evt : UartEvent} (given : Given cfg capacity threads evt before world) :
    exists transit, Shares cfg threads transit world := by
  cases evt with
  | txDone buf len =>
      rcases given with ⟨sent, _, _, _, shares, _⟩
      exact ⟨_, shares⟩
  | rxRdy buf offset len =>
      rcases given with ⟨current, _, _, shares, _⟩
      exact ⟨_, shares⟩
  | rxBufReleased buf =>
      rcases given with ⟨released, _, shares, _⟩
      exact ⟨_, shares⟩
  | rxBufRequest => exact ⟨_, given.1.1⟩
  | rxDisabled => exact ⟨_, given.1⟩
  | txAborted buf len => exact given.elim
  | rxStopped reason => exact given.elim

theorem Given.observe {evt : UartEvent} (given : Given cfg capacity threads evt before world)
    {obs : Obs} (nothing : obs.storesNothing = true) :
    Given cfg capacity threads evt before (world.observe obs) := by
  cases evt with
  | txDone buf len =>
      rcases given with ⟨sent, isSent, some, idle, shares, same⟩
      exact ⟨sent, isSent, some, idle, shares.observe nothing, same.observe obs⟩
  | rxRdy buf offset len =>
      rcases given with ⟨current, same, isCurrent, shares, notified, running⟩
      exact ⟨current, same, isCurrent, shares.observe nothing, notified,
        running.enabled, running.irq, running.noWork⟩
  | rxBufReleased buf =>
      rcases given with ⟨released, isReleased, shares, same⟩
      exact ⟨released, isReleased, shares.observe nothing, same.observe obs⟩
  | rxBufRequest => exact ⟨given.1.observe nothing, given.2.1, given.2.2.observe obs⟩
  | rxDisabled =>
      rcases given with ⟨shares, ⟨disabled, noBuf, noNext⟩, noWork⟩
      exact ⟨shares.observe nothing, ⟨disabled, noBuf, noNext⟩, noWork⟩
  | txAborted buf len => exact given.elim
  | rxStopped reason => exact given.elim

theorem Left.shares {evt : UartEvent} (left : Left cfg capacity threads evt before world) :
    Shares cfg threads .nothing world := by
  cases evt with
  | txDone buf len => exact left.1
  | rxRdy buf offset len => exact left.1.1
  | rxBufReleased buf => exact left.1
  | rxBufRequest => exact left.1.1
  | rxDisabled => exact left.1.1
  | txAborted buf len => exact left.elim
  | rxStopped reason => exact left.elim

theorem Left.observe {evt : UartEvent} (left : Left cfg capacity threads evt before world)
    {obs : Obs} (nothing : obs.storesNothing = true) :
    Left cfg capacity threads evt before (world.observe obs) := by
  cases evt with
  | txDone buf len => exact ⟨left.1.observe nothing, left.2.observe obs⟩
  | rxRdy buf offset len => exact ⟨left.1.observe nothing, left.2⟩
  | rxBufReleased buf => exact ⟨left.1.observe nothing, left.2.observe obs⟩
  | rxBufRequest => exact ⟨left.1.observe nothing, left.2⟩
  | rxDisabled => exact ⟨left.1.observe nothing, left.2⟩
  | txAborted buf len => exact left.elim
  | rxStopped reason => exact left.elim

/-! ## `uart_cb` -/

section Client

/-- `k_malloc` in `uart_cb` gives a free block, or the heap is full. -/
theorem heapSafe_kMalloc {goal : Pointer -> World Bridge -> Prop} {transit : InTransit}
    (shares : Shares cfg threads transit world)
    (room : (transit.released ++ transit.apart).length ≤ 1)
    (gives : forall buf, world.app.live.length < capacity ->
      Shares cfg threads { transit with apart := buf :: transit.apart }
        (world.mapApp fun bridge => bridge.allocate buf) ->
      goal (some buf) (world.mapApp fun bridge => bridge.allocate buf))
    (fails : capacity ≤ world.app.live.length -> goal none world) :
    HeapSafe cfg capacity threads kMalloc goal world := by
  unfold HeapSafe kMalloc
  simp only [Prog.safe_monadBind, Prog.question, Prog.safe_ask, Prog.safe_ret]
  refine ⟨trivial, fun answer allowed => ?_⟩
  cases answer with
  | none => exact fails allowed
  | some block =>
      have stillFew : (transit.released ++ ⟨block, 0⟩ :: transit.apart).length ≤ 2 := by
        simp only [List.length_append, List.length_cons] at room ⊢
        omega
      have allocated := shares.allocate ⟨block, 0⟩ allowed.2 rfl stillFew
      simp only [Prog.safe_monadBind, Prog.safe_modify, Prog.safe_pure]
      exact ⟨⟨_, allocated⟩, gives _ allowed.1 allocated⟩

/-- A call of the interface that never reaches `uart_cb`. -/
theorem heapSafe_directCall {call : ApiCall} {goal : Int -> World Bridge -> Prop}
    {run : World Bridge -> Int × World Bridge} (direct : driverApi call = AdapterProg.perform run)
    {before after : InTransit} (shares : Shares cfg threads before world)
    (later : Shares cfg threads after (run (world.observe (.called call))).2)
    (continues : goal (run (world.observe (.called call))).1 (world.directCall call run)) :
    HeapSafe cfg capacity threads (apiCall call) goal world := by
  unfold HeapSafe apiCall
  rw [direct]
  simp only [Prog.safe_monadBind, Prog.safe_modify, Prog.safe_perform, Prog.safe_pure]
  exact ⟨⟨_, shares.observe rfl⟩, ⟨_, later⟩, ⟨_, later.observe rfl⟩, continues⟩

theorem heapSafe_rxDisable (shares : Shares cfg threads .nothing world)
    (notified : world.allNotified)
    (inOrder : world.adapter.rx.buf = none -> world.adapter.rx.nextBuf = none)
    (noWork : world.app.uartWork = false) :
    HeapSafe cfg capacity threads (apiCall .rxDisable)
      (fun _ later => Serving cfg capacity threads later ∧ later.adapter.rx.buf = none) world := by
  have called : Shares cfg threads .nothing (world.observe (.called .rxDisable)) :=
    shares.observe rfl
  have begun : Shares cfg threads .nothing
      ((world.observe (.called .rxDisable)).rxDisable .adapter) :=
    (called.setRx { world.adapter.rx with enabled := false } ⟨_, _, false, rfl⟩).irq
      { world.irq with rx := false, err := false }
  unfold HeapSafe apiCall driverApi rxDisable userCallback
  simp only [Prog.safe_monadBind, Prog.safe_modify, Prog.safe_pure, Prog.invoke, Prog.safe_call,
    Prog.safe_ret]
  refine ⟨⟨_, called⟩, ⟨_, begun⟩, world, ⟨begun, rfl, noWork, notified, inOrder⟩, ?_⟩
  intro _ disabled _ emptied
  refine ⟨disabled, emptied, ?_⟩
  intro _ later _ left
  exact ⟨⟨_, left.1.1.observe rfl⟩, left.1.observe rfl, left.2⟩

/-- `uart_tx` of a buffer in hand, when nothing is being sent. -/
theorem heapSafe_tx {buf : Address} {len : Nat} (shares : Shares cfg threads ⟨[], [buf], 0⟩ world)
    (some : len ≠ 0) (idle : world.adapter.tx.buf = none) (same : SameSide before world) :
    HeapSafe cfg capacity threads (apiCall (.tx (.some buf) len sysForeverMs))
      (fun _ later => Shares cfg threads .nothing later ∧ SameSide before later) world := by
  have called : Shares cfg threads ⟨[], [buf], 0⟩
      (world.observe (.called (.tx (.some buf) len sysForeverMs))) := shares.observe rfl
  have sending := called.tx some idle
  have kept := sameSide_tx world some buf
  exact heapSafe_directCall rfl shares sending
    ⟨sending.observe rfl, kept.rx.trans same.rx, kept.irq.trans same.irq, kept.work.trans same.work⟩

/-- After a completion the buffer that has been sent is freed, and the next one that
waits is taken. -/
theorem Shares.txDone {sent : Address} {len : Nat}
    (shares : Shares cfg threads ⟨[], [sent], 0⟩ world) (some : 0 < len) :
    ((world.onApp fun bridge => bridge.txDone (.some sent) len) =
        (none, world.mapApp fun bridge => bridge.kFree sent) ∧
      Shares cfg threads .nothing (world.mapApp fun bridge => bridge.kFree sent)) ∨
    exists buf rest, (world.onApp fun bridge => bridge.txDone (.some sent) len) =
        (.some buf, (world.mapApp fun bridge => bridge.kFree sent).mapApp fun bridge =>
          { bridge with fifoUartTxData := rest }) ∧
      Shares cfg threads ⟨[], [buf], 0⟩
        ((world.mapApp fun bridge => bridge.kFree sent).mapApp fun bridge =>
          { bridge with fifoUartTxData := rest }) ∧ 0 < world.app.len buf := by
  have freed := shares.kFree
  have done := world.app.txDone_of_notAborted shares.notAborted sent (Nat.ne_of_gt some)
  unfold World.onApp World.mapApp
  dsimp only
  rw [done]
  cases waiting : world.app.fifoUartTxData with
  | nil =>
      left
      have empty : (world.app.kFree sent).fifoUartTxData = [] := waiting
      rw [Bridge.getTx_nil _ empty]
      exact ⟨rfl, freed⟩
  | cons buf rest =>
      right
      have queue : (world.app.kFree sent).fifoUartTxData = buf :: rest := waiting
      rw [Bridge.getTx_cons _ queue]
      exact ⟨buf, rest, rfl, freed.getTx waiting⟩

/-- `UART_TX_DONE` -/
theorem heapSafe_txDone {buf : Pointer} {len : Nat}
    (given : Given cfg capacity threads (.txDone buf len) before world) :
    HeapSafe cfg capacity threads (uartCb cfg (.txDone buf len))
      (fun _ => Left cfg capacity threads (.txDone buf len) before) world := by
  unfold HeapSafe uartCb
  rcases given with ⟨sent, rfl, some, idle, shares, same⟩
  simp only [Prog.safe_monadBind, Prog.safe_perform]
  rcases shares.txDone some with ⟨result, freed⟩ | ⟨buf, rest, result, taken, filled⟩
  · rw [result]
    simp only [Prog.safe_pure]
    exact ⟨⟨_, freed⟩, freed, same.rx, same.irq, same.work⟩
  · rw [result]
    simp only [Prog.safe_monadBind, Prog.safe_get]
    exact ⟨⟨_, taken⟩, ⟨_, taken⟩, heapSafe_tx taken (Nat.ne_of_gt filled) idle
      ⟨same.rx, same.irq, same.work⟩⟩

/-- `UART_RX_RDY` -/
theorem heapSafe_rxRdy {buf : Pointer} {offset len : Nat}
    (given : Given cfg capacity threads (.rxRdy buf offset len) before world) :
    HeapSafe cfg capacity threads (uartCb cfg (.rxRdy buf offset len))
      (fun _ => Left cfg capacity threads (.rxRdy buf offset len) before) world := by
  unfold HeapSafe uartCb
  rcases given with ⟨current, rfl, isCurrent, shares, notified, running⟩
  have counted := shares.rxRdy isCurrent
  have adapter := world.rxRdy_adapter current len
  have sides : (world.rxRdy current len).2.irq = world.irq ∧
      (world.rxRdy current len).2.app.uartWork = world.app.uartWork := by
    rcases Shares.rxRdy_cases world current len with result | result
    · rw [result]
      exact ⟨rfl, rfl⟩
    · rw [result]
      exact ⟨rfl, rfl⟩
  have stillNotified : (world.rxRdy current len).2.allNotified := by
    unfold World.allNotified
    rw [adapter]
    exact notified
  simp only [Prog.safe_monadBind, Prog.safe_perform, Prog.safe_ite, Prog.safe_pure]
  refine ⟨⟨_, counted⟩, fun _ => ?_, fun _ => ⟨⟨counted, .inl ?_⟩, stillNotified⟩⟩
  · refine Prog.Safe.mono (heapSafe_rxDisable counted stillNotified ?_ ?_) ?_
    · intro none
      rw [adapter, isCurrent] at none
      cases none
    · rw [sides.2]
      exact running.noWork
    · intro _ later disabled
      refine ⟨disabled.1, fun present => ?_⟩
      rw [disabled.2] at present
      cases present
  · constructor
    · rw [adapter]
      exact running.enabled
    · rw [sides.1]
      exact running.irq
    · rw [sides.2]
      exact running.noWork

/-- `UART_RX_BUF_REQUEST` -/
theorem heapSafe_rxBufRequest
    (given : Given cfg capacity threads .rxBufRequest before world) :
    HeapSafe cfg capacity threads (uartCb cfg .rxBufRequest)
      (fun _ => Left cfg capacity threads .rxBufRequest before) world := by
  unfold HeapSafe uartCb
  rcases given with ⟨⟨shares, mode⟩, noNext, same⟩
  simp only [Prog.safe_monadBind]
  apply heapSafe_kMalloc shares (Nat.zero_le 1)
  · intro buf room allocated
    have running : Running world := by
      rcases mode with running | starved
      · exact running
      · exact absurd room (Nat.not_lt.mpr starved.full)
    simp only [Prog.safe_monadBind, Prog.safe_modify]
    have emptied := allocated.setLen_inHand List.mem_cons_self 0
    have called := emptied.observe
      (rfl : Obs.storesNothing (.called (.rxBufRsp (some buf) cfg.uartBufSize)) = true)
    rcases called.rxBufRsp noNext (Function.update_self _ _ _) with ⟨result, responded⟩
    refine ⟨⟨_, emptied⟩, heapSafe_directCall rfl emptied responded ?_⟩
    refine ⟨⟨responded.observe rfl, .inl ⟨?_, ?_, ?_⟩⟩, ?_⟩
    · exact (congrArg (fun later => later.adapter.rx.enabled) result).trans running.enabled
    · exact (congrArg (fun later => later.irq.rx) result).trans running.irq
    · exact (congrArg (fun later => later.app.uartWork) result).trans running.noWork
    · exact (congrArg (fun later => later.adapter.rx.sizeLeft) result).trans
        (congrArg RxData.sizeLeft same.rx)
  · intro _
    exact ⟨⟨shares, mode⟩, congrArg RxData.sizeLeft same.rx⟩

/-- `UART_RX_BUF_RELEASED` -/
theorem heapSafe_rxBufReleased {buf : Pointer}
    (given : Given cfg capacity threads (.rxBufReleased buf) before world) :
    HeapSafe cfg capacity threads (uartCb cfg (.rxBufReleased buf))
      (fun _ => Left cfg capacity threads (.rxBufReleased buf) before) world := by
  unfold HeapSafe uartCb
  rcases given with ⟨released, rfl, shares, same⟩
  have kept := shares.rxBufReleased
  refine ⟨⟨_, kept⟩, kept, same.rx, same.irq, ?_⟩
  have sameWork : (world.app.rxBufReleased released).uartWork = world.app.uartWork := by
    unfold Bridge.rxBufReleased
    split <;> rfl
  exact sameWork.trans same.work

/-- `UART_RX_DISABLED` -/
theorem heapSafe_rxDisabled
    (given : Given cfg capacity threads .rxDisabled before world) :
    HeapSafe cfg capacity threads (uartCb cfg .rxDisabled)
      (fun _ => Left cfg capacity threads .rxDisabled before) world := by
  unfold HeapSafe uartCb
  rcases given with ⟨shares, stalled, noWork⟩
  have requested : Shares cfg threads .nothing (world.mapApp Bridge.rxDisabled) :=
    shares.flags false world.app.uartWork
  simp only [Prog.safe_monadBind, Prog.safe_modify]
  refine ⟨⟨_, requested⟩, heapSafe_kMalloc requested (Nat.zero_le 1) ?_ ?_⟩
  · intro buf _ allocated
    simp only [Prog.safe_monadBind, Prog.safe_modify]
    have emptied := allocated.setLen_inHand List.mem_cons_self 0
    have called := emptied.observe (rfl : Obs.storesNothing
      (.called (.rxEnable (some buf) cfg.uartBufSize cfg.uartWaitForRx)) = true)
    have enabled := called.rxEnable cfg.uartWaitForRx stalled.noBuf stalled.noNext
      (Function.update_self _ _ _)
    refine ⟨⟨_, emptied⟩, heapSafe_directCall rfl emptied enabled ?_⟩
    exact ⟨⟨enabled.observe rfl, .inl ⟨rfl, rfl, noWork⟩⟩, rfl⟩
  · intro full
    have waiting : Shares cfg threads .nothing
        ((world.mapApp Bridge.rxDisabled).mapApp Bridge.reschedule) :=
      requested.flags _ true
    simp only [Prog.safe_modify]
    exact ⟨⟨_, waiting⟩, ⟨waiting, .inr ⟨⟨stalled.disabled, stalled.noBuf, stalled.noNext⟩, rfl,
      full⟩⟩, stalled.noBuf⟩

theorem heapSafe_uartCb (evt : UartEvent) (given : Given cfg capacity threads evt before world) :
    HeapSafe cfg capacity threads (uartCb cfg evt)
      (fun _ => Left cfg capacity threads evt before) world := by
  cases evt with
  | txDone buf len => exact heapSafe_txDone given
  | rxRdy buf offset len => exact heapSafe_rxRdy given
  | rxBufRequest => exact heapSafe_rxBufRequest given
  | rxBufReleased buf => exact heapSafe_rxBufReleased given
  | rxDisabled => exact heapSafe_rxDisabled given
  | txAborted buf len => exact given.elim
  | rxStopped reason => exact given.elim

end Client

/-! ## The adapter, with `uart_cb` as its client -/

section Adapter

theorem heapSafe_userCallback (evt : UartEvent) (before : World Bridge)
    (given : Given cfg capacity threads evt before world) :
    HeapSafe cfg capacity threads (userCallback .adapter evt)
      (fun _ => Left cfg capacity threads evt before) world :=
  ⟨before, given, fun _ _ _ promised => promised⟩

/-- `notify_rx_buffer` while reception is enabled: afterwards nothing is waiting, and
reception is enabled again or starves. -/
theorem heapSafe_notifyRxBuffer (shares : Shares cfg threads .nothing world)
    (running : Running world) :
    HeapSafe cfg capacity threads notifyRxBuffer
      (fun _ later => Serving cfg capacity threads later ∧ later.allNotified) world := by
  unfold HeapSafe notifyRxBuffer
  simp only [Prog.safe_monadBind, Prog.safe_perform]
  cases pending : world.unnotified with
  | true =>
      have present := (Bool.and_eq_true_iff.mp pending).1
      have reported := shares.notified pending
      rw [World.notifyRxBuffer_of_unnotified pending, shares.notifyChecks] at reported ⊢
      rcases Option.isSome_iff_exists.mp present with ⟨current, same⟩
      refine ⟨⟨_, reported⟩, Prog.Safe.mono (heapSafe_userCallback _ world ?_) ?_⟩
      · exact ⟨current, same, same, reported, fun _ => rfl, running.enabled, running.irq,
          running.noWork⟩
      · exact fun _ later left => left
  | false =>
      rw [World.notifyRxBuffer_of_notified pending, shares.notifyChecks]
      exact ⟨⟨_, shares⟩, ⟨shares, .inl running⟩, shares.allNotified pending⟩

/-- Without a current buffer there is nothing to report. -/
theorem heapSafe_notifyNothing (shares : Shares cfg threads .nothing world)
    (noBuf : world.adapter.rx.buf = none) {goal : Unit -> World Bridge -> Prop}
    (continues : goal () world) :
    HeapSafe cfg capacity threads notifyRxBuffer goal world := by
  have nothing : world.unnotified = false := by simp [World.unnotified, noBuf]
  unfold HeapSafe notifyRxBuffer
  simp only [Prog.safe_monadBind, Prog.safe_perform]
  rw [World.notifyRxBuffer_of_notified nothing, shares.notifyChecks]
  exact ⟨⟨_, shares⟩, continues⟩

/-- `switch_rx_buffer` up to the request: the buffer that was replaced, if there
was one, has gone to the FIFO or has been freed. -/
theorem heapSafe_switchRxBuffer (shares : Shares cfg threads .nothing world)
    (notified : world.allNotified) {requestNew : Bool} {goal : Unit -> World Bridge -> Prop}
    (continues : forall later, Shares cfg threads .nothing later ->
      SameSide (world.switchRxBuffer .adapter).2 later ->
      (world.adapter.rx.buf = none -> later = (world.switchRxBuffer .adapter).2) ->
        HeapSafe cfg capacity threads
          (if requestNew = true then notifyRxBufferReq .adapter else pure ()) goal later) :
    HeapSafe cfg capacity threads (switchRxBuffer .adapter requestNew) goal world := by
  have switched := shares.switchRxBuffer notified
  unfold HeapSafe switchRxBuffer
  simp only [Prog.safe_monadBind, Prog.safe_perform]
  refine ⟨⟨_, switched⟩, ?_⟩
  have old : (world.switchRxBuffer .adapter).1 = world.adapter.rx.buf := rfl
  rw [old]
  cases same : world.adapter.rx.buf with
  | none =>
      rw [same] at switched
      exact continues _ switched (.refl _) fun _ => rfl
  | some released =>
      rw [same] at switched
      rw [if_pos Option.isSome_some]
      refine Prog.Safe.andThen (heapSafe_userCallback (.rxBufReleased (some released))
        (world.switchRxBuffer .adapter).2 ⟨released, rfl, switched, .refl _⟩) ?_
      intro _ later left
      refine continues later left.1 left.2 fun none => ?_
      rw [same] at none
      cases none

/-- In the loop of `on_rx_ready` the prepared buffer, if there is one, becomes the
current one, and another one is asked for. -/
theorem heapSafe_switchRequest (serving : Serving cfg capacity threads world)
    (notified : world.allNotified) :
    HeapSafe cfg capacity threads (switchRxBuffer .adapter true)
      (fun _ later => Serving cfg capacity threads later ∧
        (later.adapter.rx.sizeLeft ≠ 0 -> Running later)) world := by
  apply heapSafe_switchRxBuffer serving.1 notified
  intro later shares same unchanged
  rw [if_pos rfl]
  have sizeLeft : later.adapter.rx.sizeLeft = world.adapter.rx.nextBufLen :=
    congrArg RxData.sizeLeft same.rx
  have mode : Running later ∨ Starved capacity later := by
    rcases serving.2 with running | starved
    · left
      apply same.running
      exact ⟨running.enabled, running.irq, running.noWork⟩
    · right
      rw [unchanged starved.stalled.noBuf]
      exact ⟨⟨starved.stalled.disabled, starved.stalled.noNext, rfl⟩, starved.work, starved.full⟩
  refine Prog.Safe.mono (heapSafe_userCallback .rxBufRequest later ⟨⟨shares, mode⟩, ?_, .refl _⟩) ?_
  · exact congrArg RxData.nextBuf same.rx
  · intro _ last left
    refine ⟨left.1, fun room => ?_⟩
    rcases left.1.2 with running | starved
    · exact running
    · rcases left.1.1.current with ⟨_, full⟩ | ⟨buf, _, _, present, _⟩
      · exact absurd full room
      · rw [starved.stalled.noBuf] at present
        cases present

/-- In the loop of `rx_disable` no other buffer is asked for. -/
theorem heapSafe_switchDisable (turning : TurningOff cfg threads world) :
    HeapSafe cfg capacity threads (switchRxBuffer .adapter false)
      (fun _ => TurningOff cfg threads) world := by
  apply heapSafe_switchRxBuffer turning.shares turning.notified
  intro later shares same _
  rw [if_neg Bool.false_ne_true]
  refine ⟨shares, ?_, ?_, fun _ => ?_, fun _ => ?_⟩
  · exact (congrArg RxData.enabled same.rx).trans turning.disabled
  · exact same.work.trans turning.noWork
  · rw [same.rx]
    rfl
  · rw [same.rx]
    rfl

theorem heapSafe_rxDisableLoop (turning : TurningOff cfg threads world) :
    HeapSafe cfg capacity threads (rxDisableLoop .adapter)
      (fun _ later => Shares cfg threads .nothing later ∧ Stalled later ∧
        later.app.uartWork = false) world := by
  unfold HeapSafe rxDisableLoop
  simp only [Prog.safe_monadBind, Prog.safe_get, Prog.safe_ite, Prog.safe_pure]
  refine ⟨⟨_, turning.shares⟩, fun _ => ?_, fun absent => ?_⟩
  · apply Prog.Safe.mono (heapSafe_switchDisable turning)
    exact fun _ later kept => ⟨later, kept, fun _ _ _ promised => promised⟩
  · have noBuf : world.adapter.rx.buf = none := by simpa [World.accessDevData] using absent
    exact ⟨turning.shares, ⟨turning.disabled, noBuf, turning.inOrder noBuf⟩, turning.noWork⟩

theorem heapSafe_dropLoop (serving : Serving cfg capacity threads world) :
    HeapSafe cfg capacity threads dropLoop (fun _ => Serving cfg capacity threads) world := by
  unfold HeapSafe dropLoop
  simp only [Prog.safe_monadBind, Prog.safe_modify, Prog.safe_ite, Prog.safe_pure, Prog.safe_ask,
    Prog.safe_ret, Prog.safe_call, Prog.question, Prog.invoke]
  refine ⟨trivial, fun ret _ => ?_⟩
  have dropped := serving.observe (rfl : Obs.storesNothing (.dropped (readBytes ret)) = true)
  exact ⟨⟨_, dropped.1⟩, fun _ => ⟨world, dropped, fun _ _ _ promised => promised⟩,
    fun _ => dropped⟩

theorem readBytes_length_of_heap {size : Nat} {ret : Except Int (List UInt8)}
    (allowed : (heapSystem cfg capacity).permitted (.fifoRead size) world ret) :
    (readBytes ret).length ≤ size := by
  cases ret with
  | ok bytes => exact allowed
  | error err => exact Nat.zero_le _

/-- One read of `on_rx_ready`: into the current buffer, or to nowhere. -/
theorem heapSafe_onRxReadyRead (notifyNow : Bool) (serving : Serving cfg capacity threads world)
    (enabled : world.adapter.rx.sizeLeft ≠ 0 -> Running world) :
    HeapSafe cfg capacity threads (onRxReadyRead notifyNow)
      (fun _ => Serving cfg capacity threads) world := by
  unfold HeapSafe onRxReadyRead
  simp only [Prog.safe_monadBind, Prog.safe_get, Prog.safe_ite, Prog.safe_modify,
    Prog.safe_pure, Prog.safe_ret, Prog.safe_ask, Prog.safe_call, Prog.question, Prog.invoke]
  refine ⟨⟨_, serving.1⟩, fun _ => ⟨world, serving, fun _ _ _ promised => promised⟩,
    fun room => ⟨trivial, fun ret allowed => ?_⟩⟩
  have fits := readBytes_length_of_heap allowed
  have stored := serving.1.onRxReadyStore (readBytes ret) room fits
  have running : Running (world.onRxReadyStore (readBytes ret)) := by
    have before := enabled room
    rw [World.onRxReadyStore_of_fits fits]
    refine ⟨before.enabled, ?_, ?_⟩
    · cases world.adapter.rx.currBuf <;> exact before.irq
    · cases world.adapter.rx.currBuf <;> exact before.noWork
  exact ⟨⟨_, stored⟩, ⟨_, stored⟩,
    fun _ => ⟨world, ⟨stored, running⟩, fun _ _ _ promised => promised⟩,
    fun _ => ⟨stored, .inl running⟩⟩

theorem heapSafe_onRxReadyLoop (notifyNow : Bool) (shares : Shares cfg threads .nothing world)
    (running : Running world) :
    HeapSafe cfg capacity threads (onRxReadyLoop notifyNow)
      (fun _ => Serving cfg capacity threads) world := by
  unfold HeapSafe onRxReadyLoop
  simp only [Prog.safe_monadBind, Prog.safe_get, Prog.safe_ite]
  refine ⟨⟨_, shares⟩, fun _ => ?_, fun _ => ?_⟩
  · apply Prog.Safe.mono (heapSafe_notifyRxBuffer shares running)
    intro _ later flushed
    apply Prog.Safe.andThen (heapSafe_switchRequest flushed.1 flushed.2)
    exact fun _ last switched => heapSafe_onRxReadyRead false switched.1 switched.2
  · exact heapSafe_onRxReadyRead notifyNow ⟨shares, .inl running⟩ fun _ => running

theorem heapSafe_onRxReady (shares : Shares cfg threads .nothing world)
    (running : Running world) :
    HeapSafe cfg capacity threads onRxReady (fun _ => Serving cfg capacity threads) world := by
  have begun : Shares cfg threads .nothing world.onRxReadyBegin ∧
      Running world.onRxReadyBegin := by
    rcases world.onRxReadyBegin_eq with ⟨timer, same⟩
    rw [same]
    constructor
    · exact Shares.observe (shares.setRx _ ⟨_, timer, _, rfl⟩) rfl
    · exact ⟨running.enabled, running.irq, running.noWork⟩
  unfold HeapSafe onRxReady
  simp only [Prog.safe_monadBind, Prog.safe_modify, Prog.safe_ite, Prog.safe_pure,
    Prog.safe_ret, Prog.safe_call, Prog.invoke]
  refine ⟨⟨_, begun.1⟩, world, begun, fun notifyNow later _ promised => ?_⟩
  have ended := promised.observe (rfl : Obs.storesNothing (.rxLoop false) = true)
  refine ⟨⟨_, ended.1⟩, fun _ => ?_, fun _ => ended⟩
  rcases ended.2 with running | starved
  · exact Prog.Safe.mono (heapSafe_notifyRxBuffer ended.1 running) fun _ last flushed => flushed.1
  · apply heapSafe_notifyNothing ended.1 starved.stalled.noBuf
    exact ended

theorem heapSafe_onTxReady (shares : Shares cfg threads .nothing world)
    (followed : Followed before world) :
    HeapSafe cfg capacity threads onTxReady
      (fun _ later => Shares cfg threads .nothing later ∧ Followed before later) world := by
  unfold HeapSafe onTxReady
  simp only [Prog.safe_monadBind, Prog.safe_get, Prog.safe_ite, Prog.safe_modify, Prog.safe_pure,
    Prog.safe_ret, Prog.safe_ask, Prog.question]
  refine ⟨⟨_, shares⟩, fun _ => ?_, fun _ => ⟨shares, followed⟩⟩
  have checked := shares.assertNoMsg .txCurrBufSet world.adapter.tx.currBuf.isSome
  refine ⟨⟨_, checked⟩, trivial, fun ret _ => ?_⟩
  have filled := checked.onTxReady ret
  refine ⟨⟨_, filled⟩, filled, followed.same ⟨?_, ?_, ?_⟩⟩
  · rw [World.onTxReady_rx, World.assertNoMsg_adapter]
  · unfold World.onTxReady
    split
    · rw [World.assertNoMsg_irq]
    · exact congrArg IrqEnables.rx (World.assertNoMsg_irq _ _ _)
  · unfold World.onTxReady
    split
    · rw [World.assertNoMsg_app]
    · exact congrArg Bridge.uartWork (World.assertNoMsg_app _ _ _)

theorem heapSafe_onTxComplete (shares : Shares cfg threads .nothing world)
    (followed : Followed before world) :
    HeapSafe cfg capacity threads onTxComplete
      (fun _ later => Shares cfg threads .nothing later ∧ Followed before later) world := by
  have same : SameSide world world.onTxComplete.2 := by
    have other : world.onTxComplete.2.irq.rx = world.irq.rx ∧
        world.onTxComplete.2.app = world.app := by
      by_cases finished : world.adapter.tx.sizeLeft = 0
      · cases busy : world.adapter.tx.buf with
        | none =>
            rw [World.onTxComplete_of_idle finished busy]
            exact ⟨rfl, rfl⟩
        | some buf =>
            rw [World.onTxComplete_of_busy finished (by simp [busy])]
            simp [World.txIdle, World.completeChecks]
      · rw [World.onTxComplete_of_unfinished finished]
        exact ⟨rfl, rfl⟩
    exact ⟨(shares.onTxComplete).1, other.1, congrArg Bridge.uartWork other.2⟩
  have kept := followed.same same
  rcases shares.onTxComplete with ⟨_, ⟨none, later⟩ | ⟨buf, len, some, positive, idle, later⟩⟩
  · unfold HeapSafe onTxComplete
    simp only [Prog.safe_monadBind, Prog.safe_perform]
    rw [none]
    exact ⟨⟨_, later⟩, later, kept⟩
  · unfold HeapSafe onTxComplete
    simp only [Prog.safe_monadBind, Prog.safe_perform]
    rw [some]
    refine ⟨⟨_, later⟩, Prog.Safe.mono (heapSafe_userCallback (.txDone (.some buf) len)
      world.onTxComplete.2 ⟨buf, rfl, positive, idle, later, .refl _⟩) ?_⟩
    exact fun _ last left => ⟨left.1, kept.same left.2⟩

theorem heapSafe_uartIrqHandler (shares : Shares cfg threads .nothing world)
    (followed : Followed before world) :
    HeapSafe cfg capacity threads uartIrqHandler
      (fun _ later => Shares cfg threads .nothing later ∧ Followed before later) world := by
  refine safe_uartIrqHandler_of_parts ?_ ?_ ?_ ?_ ?_ ?_ ?_ ⟨shares, followed⟩
  · exact fun _ kept => ⟨_, kept.1⟩
  · exact fun _ _ _ => trivial
  · exact fun _ _ => trivial
  · exact fun _ kept => heapSafe_onTxReady kept.1 kept.2
  · exact fun _ kept => heapSafe_onTxComplete kept.1 kept.2
  · intro later kept enabled
    rcases kept.2 with ⟨ran, running | ⟨stalled, _⟩⟩ | ⟨_, stalled, _⟩
    · apply Prog.Safe.mono (heapSafe_onRxReady kept.1 running)
      intro _ last serving
      refine ⟨serving.1, .inl ⟨ran, ?_⟩⟩
      rcases serving.2 with running | starved
      · exact .inl running
      · exact .inr ⟨starved.stalled, starved.work⟩
    · rw [stalled.disabled] at enabled
      cases enabled
    · rw [stalled.disabled] at enabled
      cases enabled
  · intro _ rxErr _ allowed positive
    exact absurd positive (Int.not_lt.mpr allowed)

theorem heapSafe_rxTimeout (shares : Shares cfg threads .nothing world)
    (followed : Followed before world) :
    HeapSafe cfg capacity threads rxTimeout
      (fun _ later => Shares cfg threads .nothing later ∧ Followed before later) world := by
  have expired : Shares cfg threads .nothing world.rxTimerExpired :=
    shares.setRx _ ⟨_, none, _, rfl⟩
  unfold HeapSafe rxTimeout
  simp only [Prog.safe_monadBind, Prog.safe_modify]
  refine ⟨⟨_, expired⟩, ?_⟩
  have stays : forall stalled : Stalled world, Stalled world.rxTimerExpired :=
    fun stalled => ⟨stalled.disabled, stalled.noBuf, stalled.noNext⟩
  rcases followed with ⟨ran, running | ⟨stalled, work⟩⟩ | ⟨stood, stalled, work⟩
  · have still : Running world.rxTimerExpired :=
      ⟨running.enabled, running.irq, running.noWork⟩
    apply Prog.Safe.mono (heapSafe_notifyRxBuffer expired still)
    intro _ later flushed
    refine ⟨flushed.1.1, .inl ⟨ran, ?_⟩⟩
    rcases flushed.1.2 with running | starved
    · exact .inl running
    · exact .inr ⟨starved.stalled, starved.work⟩
  · apply heapSafe_notifyNothing expired stalled.noBuf
    exact ⟨expired, .inl ⟨ran, .inr ⟨stays stalled, work⟩⟩⟩
  · apply heapSafe_notifyNothing expired stalled.noBuf
    exact ⟨expired, .inr ⟨stood, stays stalled, work⟩⟩

theorem heapSafe_handle (handler : Handler) (shares : Shares cfg threads .nothing world)
    (followed : Followed before world) (fires : Fires world handler) :
    HeapSafe cfg capacity threads (handle handler)
      (fun _ later => Shares cfg threads .nothing later ∧ Followed before later) world := by
  cases handler with
  | uartIrq => exact heapSafe_uartIrqHandler shares followed
  | txTimeout =>
      change world.adapter.tx.timeoutTimer.isSome = true at fires
      rw [shares.noTimer] at fires
      cases fires
  | rxTimeout => exact heapSafe_rxTimeout shares followed
  | client call => exact fires.elim
  | elapse ticks =>
      have later := shares.elapse ticks
      exact ⟨⟨_, later⟩, later, followed.same ⟨rfl, rfl, rfl⟩⟩

theorem heap_honours :
    (heapSystem cfg capacity).Honours (heapContract cfg capacity threads) := by
  intro proc before world _ assumed
  cases proc with
  | environment => exact assumed.elim
  | handler handler => exact heapSafe_handle handler assumed.1 assumed.2.1 assumed.2.2
  | userCallback evt =>
      have given := Given.observe assumed (rfl : Obs.storesNothing (.event evt) = true)
      refine (Prog.safe_bind _ _ _ _).mpr ⟨given.shares, ?_⟩
      apply Prog.Safe.andThen (heapSafe_uartCb evt given)
      intro _ later left
      exact ⟨⟨_, left.shares.observe rfl⟩, left.observe rfl⟩
  | client evt => exact assumed.elim
  | rxDisableLoop dev =>
      cases dev with
      | adapter => exact heapSafe_rxDisableLoop assumed
      | target => exact assumed.elim
  | onRxReadyLoop notifyNow => exact heapSafe_onRxReadyLoop notifyNow assumed.1 assumed.2
  | dropLoop => exact heapSafe_dropLoop assumed

end Adapter

end Uart
end NrfExamples
