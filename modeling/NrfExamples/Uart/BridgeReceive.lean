import NrfExamples.Uart.AdapterRuns
import NrfExamples.Uart.BridgeCustody

namespace NrfExamples
namespace Uart

open Reentrant

/-!
# From the UART to the FIFO

`uart_cb` on top of the adapter: `on_rx_ready` reports bytes to `uart_cb`, which
at the end of a line disables reception, is handed its buffers back in the
middle of that, and enables reception again before `on_rx_ready` goes on.
`BridgeRep` is kept at every one of these points.  Where a handler starts, and
where the loop of `on_rx_ready` turns, there is besides always a prepared
buffer, so no byte is ever read without room for it.
-/

/-- The adapter with `uart_cb` as its client.  Interrupts, receive timeouts and
ticks come in any order; no error is reported, `k_malloc` gives a free block,
and a read gives at most the bytes asked for. -/
def bridgeSystem (cfg : BridgeConfig) : System (adapterInterface Bridge) where
  body := body (some (uartCb cfg))
  permitted := fun query world answer =>
    match query, answer with
    | .next, .client _ => False
    | .next, .txTimeout => False
    | .errCheck, err => err ≤ 0
    | .fifoFill size, ret => ret ≤ (size : Int)
    | .fifoRead size, .ok bytes => bytes.length ≤ size
    | .fifoRead _, .error err => err < 0
    | .kMalloc, none => False
    | .kMalloc, some block => ⟨block, 0⟩ ∉ world.app.live
    | _, _ => True

/-- The configurations of all runs of the bridge. -/
def BridgeReached (cfg : BridgeConfig) (current : AdapterConfig Bridge) : Prop :=
  exists target memory len, (bridgeSystem cfg).Reachable
    ⟨World.initial target memory (Bridge.initial len), bridgeMain cfg⟩ current

/-! ## What holds around the calls -/

section Contract

variable (cfg : BridgeConfig)

/-- Between the turns of the loop and between handlers a buffer is prepared. -/
def Idle (world : World Bridge) : Prop :=
  BridgeRep cfg .nothing world ∧ world.adapter.rx.nextBuf.isSome

/-- What `uart_cb` finds when it is given an event.  `rx` is the receive half
at that moment. -/
def Entered (evt : UartEvent) (rx : RxData) (world : World Bridge) : Prop :=
  match evt with
  | .txDone buf len => exists sent, buf = some sent ∧ 0 < len ∧
      BridgeRep cfg ⟨[], [sent], 0⟩ world ∧ world.adapter.rx = rx
  | .rxRdy buf _ len => exists current, buf = some current ∧
      world.adapter.rx.buf = some current ∧ BridgeRep cfg ⟨[], [], len⟩ world ∧
      world.allNotified ∧ world.adapter.rx.nextBuf.isSome
  | .rxBufRequest => BridgeRep cfg .nothing world ∧ world.adapter.rx.nextBuf = none ∧
      world.adapter.rx = rx
  | .rxBufReleased buf => exists released, buf = some released ∧
      BridgeRep cfg ⟨[released], [], 0⟩ world ∧ world.adapter.rx = rx
  | .rxDisabled => BridgeRep cfg .nothing world ∧ world.adapter.rx.buf = none ∧
      world.adapter.rx.nextBuf = none
  | .txAborted _ _ | .rxStopped _ => False

/-- What `uart_cb` leaves behind. -/
def Finished (evt : UartEvent) (rx : RxData) (world : World Bridge) : Prop :=
  match evt with
  | .txDone _ _ | .rxBufReleased _ => BridgeRep cfg .nothing world ∧ world.adapter.rx = rx
  | .rxRdy _ _ _ => Idle cfg world ∧ world.allNotified
  | .rxBufRequest => Idle cfg world ∧ world.adapter.rx.sizeLeft = rx.sizeLeft
  | .rxDisabled => Idle cfg world ∧ world.adapter.rx.buf = none
  | .txAborted _ _ | .rxStopped _ => False

/-- What the loop of `rx_disable` finds: no prepared buffer without a current one. -/
def Disabling (world : World Bridge) : Prop :=
  BridgeRep cfg .nothing world ∧ world.allNotified ∧
    (world.adapter.rx.buf = none -> world.adapter.rx.nextBuf = none)

def bridgeContract : Contract (adapterInterface Bridge) where
  Ghost := fun _ => RxData
  always := fun world => exists transit, BridgeRep cfg transit world
  asked := fun query world =>
    match query with
    | .next => Idle cfg world
    | .kMalloc => True
    | _ => BridgeRep cfg .nothing world
  pre := fun proc rx world =>
    match proc with
    | .environment | .onRxReadyLoop _ => Idle cfg world
    | .handler handler => Idle cfg world ∧ handler ≠ .txTimeout ∧
        forall call, handler ≠ .client call
    | .userCallback evt => Entered cfg evt rx world
    | .rxDisableLoop .adapter => Disabling cfg world
    | .client _ | .rxDisableLoop .target | .dropLoop => False
  post := fun proc rx _ world =>
    match proc with
    | .handler _ | .onRxReadyLoop _ => Idle cfg world
    | .userCallback evt => Finished cfg evt rx world
    | .rxDisableLoop .adapter => BridgeRep cfg .nothing world ∧
        world.adapter.rx.buf = none ∧ world.adapter.rx.nextBuf = none
    | .environment | .client _ | .rxDisableLoop .target | .dropLoop => True

/-- What a program needs under this contract. -/
abbrev BridgeSafe {A : Type} (program : AdapterProg Bridge A) (goal : A -> World Bridge -> Prop)
    (world : World Bridge) : Prop :=
  Prog.Safe (bridgeSystem cfg) (bridgeContract cfg) program goal world

end Contract

variable {cfg : BridgeConfig} {world : World Bridge}

theorem Idle.observe (idle : Idle cfg world) {obs : Obs} (nothing : obs.readsNothing = true) :
    Idle cfg (world.observe obs) :=
  ⟨idle.1.observe nothing, idle.2⟩

theorem Entered.rep {evt : UartEvent} {rx : RxData} (entered : Entered cfg evt rx world) :
    exists transit, BridgeRep cfg transit world := by
  cases evt with
  | txDone buf len =>
      rcases entered with ⟨sent, _, _, rep, _⟩
      exact ⟨_, rep⟩
  | rxRdy buf offset len =>
      rcases entered with ⟨current, _, _, rep, _⟩
      exact ⟨_, rep⟩
  | rxBufReleased buf =>
      rcases entered with ⟨released, _, rep, _⟩
      exact ⟨_, rep⟩
  | rxBufRequest => exact ⟨_, entered.1⟩
  | rxDisabled => exact ⟨_, entered.1⟩
  | txAborted buf len => exact entered.elim
  | rxStopped reason => exact entered.elim

theorem Finished.rep {evt : UartEvent} {rx : RxData} (finished : Finished cfg evt rx world) :
    BridgeRep cfg .nothing world := by
  cases evt with
  | txDone buf len => exact finished.1
  | rxRdy buf offset len => exact finished.1.1
  | rxBufReleased buf => exact finished.1
  | rxBufRequest => exact finished.1.1
  | rxDisabled => exact finished.1.1
  | txAborted buf len => exact finished.elim
  | rxStopped reason => exact finished.elim

theorem Entered.observe {evt : UartEvent} {rx : RxData} (entered : Entered cfg evt rx world)
    {obs : Obs} (nothing : obs.readsNothing = true) : Entered cfg evt rx (world.observe obs) := by
  cases evt with
  | txDone buf len =>
      rcases entered with ⟨sent, same, some, rep, sameRx⟩
      exact ⟨sent, same, some, rep.observe nothing, sameRx⟩
  | rxRdy buf offset len =>
      rcases entered with ⟨current, same, isCurrent, rep, rest⟩
      exact ⟨current, same, isCurrent, rep.observe nothing, rest⟩
  | rxBufReleased buf =>
      rcases entered with ⟨released, same, rep, sameRx⟩
      exact ⟨released, same, rep.observe nothing, sameRx⟩
  | rxBufRequest => exact ⟨entered.1.observe nothing, entered.2⟩
  | rxDisabled => exact ⟨entered.1.observe nothing, entered.2⟩
  | txAborted buf len => exact entered.elim
  | rxStopped reason => exact entered.elim

theorem Finished.observe {evt : UartEvent} {rx : RxData} (finished : Finished cfg evt rx world)
    {obs : Obs} (nothing : obs.readsNothing = true) : Finished cfg evt rx (world.observe obs) := by
  cases evt with
  | txDone buf len => exact ⟨finished.1.observe nothing, finished.2⟩
  | rxRdy buf offset len => exact ⟨finished.1.observe nothing, finished.2⟩
  | rxBufReleased buf => exact ⟨finished.1.observe nothing, finished.2⟩
  | rxBufRequest => exact ⟨finished.1.observe nothing, finished.2⟩
  | rxDisabled => exact ⟨finished.1.observe nothing, finished.2⟩
  | txAborted buf len => exact finished.elim
  | rxStopped reason => exact finished.elim

/-! ## `uart_cb` -/

section Client

theorem safe_kMalloc {goal : Pointer -> World Bridge -> Prop} {transit : InTransit}
    (rep : BridgeRep cfg transit world) (room : (transit.released ++ transit.apart).length ≤ 1)
    (continues : forall buf, BridgeRep cfg { transit with apart := buf :: transit.apart }
      (world.mapApp fun bridge => bridge.allocate buf) ->
        goal (some buf) (world.mapApp fun bridge => bridge.allocate buf)) :
    BridgeSafe cfg kMalloc goal world := by
  unfold BridgeSafe kMalloc
  simp only [Prog.safe_monadBind, Prog.question, Prog.safe_ask, Prog.safe_ret]
  refine ⟨trivial, fun answer allowed => ?_⟩
  cases answer with
  | none => exact allowed.elim
  | some block =>
      have stillFew : (transit.released ++ ⟨block, 0⟩ :: transit.apart).length ≤ 2 := by
        simp only [List.length_append, List.length_cons] at room ⊢
        omega
      have allocated := rep.allocate allowed rfl stillFew
      simp only [Prog.safe_monadBind, Prog.safe_modify, Prog.safe_pure]
      exact ⟨⟨_, allocated⟩, continues _ allocated⟩

/-- A call of the interface that never reaches `uart_cb`. -/
theorem safe_directCall {call : ApiCall} {goal : Int -> World Bridge -> Prop}
    {run : World Bridge -> Int × World Bridge} (direct : driverApi call = AdapterProg.perform run)
    {before after : InTransit} (rep : BridgeRep cfg before world)
    (later : BridgeRep cfg after (run (world.observe (.called call))).2)
    (continues : goal (run (world.observe (.called call))).1 (world.directCall call run)) :
    BridgeSafe cfg (apiCall call) goal world := by
  unfold BridgeSafe apiCall
  rw [direct]
  simp only [Prog.safe_monadBind, Prog.safe_modify, Prog.safe_perform, Prog.safe_pure]
  exact ⟨⟨_, rep.observe rfl⟩, ⟨_, later⟩, ⟨_, later.observe rfl⟩, continues⟩

theorem safe_rxDisable (entered : Disabling cfg world) :
    BridgeSafe cfg (apiCall .rxDisable)
      (fun _ later => Idle cfg later ∧ later.adapter.rx.buf = none) world := by
  rcases entered with ⟨rep, notified, inOrder⟩
  have called := rep.called .rxDisable
  have begun : BridgeRep cfg .nothing ((world.observe (.called .rxDisable)).rxDisable .adapter) :=
    called.frame rfl rfl ⟨_, _, false, rfl⟩ called.sending rfl rfl rfl
  unfold BridgeSafe apiCall driverApi rxDisable userCallback
  simp only [Prog.safe_monadBind, Prog.safe_modify, Prog.safe_pure, Prog.invoke, Prog.safe_call,
    Prog.safe_ret]
  refine ⟨⟨_, called⟩, ⟨_, begun⟩, world.adapter.rx, ⟨begun, notified, inOrder⟩, ?_⟩
  intro _ disabled _ emptied
  refine ⟨disabled.adapter.rx, emptied, ?_⟩
  intro _ later _ finished
  exact ⟨⟨_, finished.1.1.observe rfl⟩, finished.1.observe rfl, finished.2⟩

theorem safe_uartCb (evt : UartEvent) (rx : RxData) (entered : Entered cfg evt rx world) :
    BridgeSafe cfg (uartCb cfg evt) (fun _ => Finished cfg evt rx) world := by
  unfold BridgeSafe uartCb
  cases evt with
  | txDone buf len =>
      rcases entered with ⟨sent, rfl, some, rep, sameRx⟩
      have freed := rep.kFree
      simp only [Prog.safe_monadBind, Prog.safe_perform, rep.txDone sent some, Prog.safe_pure]
      exact ⟨⟨_, freed⟩, freed, sameRx⟩
  | rxRdy buf offset len =>
      rcases entered with ⟨current, rfl, isCurrent, rep, notified, prepared⟩
      have counted := rep.rxRdy isCurrent
      have adapter := world.rxRdy_adapter current len
      have stillNotified : (world.rxRdy current len).2.allNotified := by
        unfold World.allNotified
        rw [adapter]
        exact notified
      simp only [Prog.safe_monadBind, Prog.safe_perform, Prog.safe_ite, Prog.safe_pure]
      refine ⟨⟨_, counted⟩, fun _ => ?_, fun _ => ?_⟩
      · refine Prog.Safe.mono (safe_rxDisable ⟨counted, stillNotified, ?_⟩) ?_
        · intro none
          rw [adapter, isCurrent] at none
          cases none
        · intro _ later disabled
          refine ⟨disabled.1, fun present => ?_⟩
          rw [disabled.2] at present
          cases present
      · refine ⟨⟨counted, ?_⟩, stillNotified⟩
        rw [adapter]
        exact prepared
  | rxBufRequest =>
      rcases entered with ⟨rep, noNext, sameRx⟩
      simp only [Prog.safe_monadBind]
      apply safe_kMalloc rep (Nat.zero_le 1)
      intro buf allocated
      simp only [Prog.safe_monadBind, Prog.safe_modify]
      have emptied := allocated.setLen_inHand List.mem_cons_self 0
      refine ⟨⟨_, emptied⟩, ?_⟩
      have called := emptied.called (.rxBufRsp (some buf) cfg.uartBufSize)
      rcases called.rxBufRsp noNext (Function.update_self _ _ _) with ⟨result, responded⟩
      refine safe_directCall rfl emptied responded ⟨⟨responded.observe rfl, ?_⟩, ?_⟩
      · exact congrArg (fun later : RxData => later.nextBuf.isSome) result
      · have sameSize := congrArg RxData.sizeLeft result
        rw [← sameRx]
        exact sameSize
  | rxBufReleased buf =>
      rcases entered with ⟨released, rfl, rep, sameRx⟩
      have kept := rep.rxBufReleased
      exact ⟨⟨_, kept⟩, kept, sameRx⟩
  | rxDisabled =>
      rcases entered with ⟨rep, noBuf, noNext⟩
      have requested := rep.rxDisabled
      simp only [Prog.safe_monadBind, Prog.safe_modify]
      refine ⟨⟨_, requested⟩, safe_kMalloc requested (Nat.zero_le 1) fun buf allocated => ?_⟩
      simp only [Prog.safe_monadBind, Prog.safe_modify]
      have emptied := allocated.setLen_inHand List.mem_cons_self 0
      refine ⟨⟨_, emptied⟩, ?_⟩
      have called := emptied.called (.rxEnable (some buf) cfg.uartBufSize cfg.uartWaitForRx)
      have enabled :=
        (called.rxEnable cfg.uartWaitForRx noBuf noNext (Function.update_self _ _ _)).2
      exact safe_directCall rfl emptied enabled ⟨⟨enabled.observe rfl, rfl⟩, rfl⟩
  | txAborted buf len => exact entered.elim
  | rxStopped reason => exact entered.elim

end Client

/-! ## The adapter, with `uart_cb` as its client -/

section Adapter

theorem safe_userCallback (evt : UartEvent) (rx : RxData) (entered : Entered cfg evt rx world) :
    BridgeSafe cfg (userCallback .adapter evt) (fun _ => Finished cfg evt rx) world :=
  ⟨rx, entered, fun _ _ _ promised => promised⟩

/-- `notify_rx_buffer`: afterwards nothing is waiting, whether or not `uart_cb`
has exchanged the buffers. -/
theorem safe_notifyRxBuffer (idle : Idle cfg world) :
    BridgeSafe cfg notifyRxBuffer (fun _ later => Idle cfg later ∧ later.allNotified) world := by
  unfold BridgeSafe notifyRxBuffer
  simp only [Prog.safe_monadBind, Prog.safe_perform]
  cases pending : world.unnotified with
  | true =>
      have present := (Bool.and_eq_true_iff.mp pending).1
      have reported := idle.1.notified pending
      rw [World.notifyRxBuffer_of_unnotified pending, idle.1.notifyChecks] at reported ⊢
      rcases Option.isSome_iff_exists.mp present with ⟨current, same⟩
      refine ⟨⟨_, reported⟩, Prog.Safe.mono (safe_userCallback _ world.adapter.rx ?_) ?_⟩
      · exact ⟨current, same, same, reported, fun _ => rfl, idle.2⟩
      · exact fun _ later finished => finished
  | false =>
      rw [World.notifyRxBuffer_of_notified pending, idle.1.notifyChecks]
      exact ⟨⟨_, idle.1⟩, idle, idle.1.allNotified pending⟩

/-- `switch_rx_buffer` up to the request: the buffer that was replaced, if there
was one, has gone to the FIFO or has been freed. -/
theorem safe_switchRxBuffer (rep : BridgeRep cfg .nothing world) (notified : world.allNotified)
    {requestNew : Bool} {goal : Unit -> World Bridge -> Prop}
    (continues : forall later, BridgeRep cfg .nothing later ->
      later.adapter.rx = (world.switchRxBuffer .adapter).2.adapter.rx ->
        BridgeSafe cfg (if requestNew = true then notifyRxBufferReq .adapter else pure ())
          goal later) :
    BridgeSafe cfg (switchRxBuffer .adapter requestNew) goal world := by
  have switched := rep.switchRxBuffer notified
  unfold BridgeSafe switchRxBuffer
  simp only [Prog.safe_monadBind, Prog.safe_perform]
  refine ⟨⟨_, switched⟩, ?_⟩
  have old : (world.switchRxBuffer .adapter).1 = world.adapter.rx.buf := rfl
  rw [old]
  cases same : world.adapter.rx.buf with
  | none =>
      rw [same] at switched
      exact continues _ switched rfl
  | some released =>
      rw [same] at switched
      rw [if_pos Option.isSome_some]
      refine Prog.Safe.andThen (safe_userCallback (.rxBufReleased (some released))
        (world.switchRxBuffer .adapter).2.adapter.rx ⟨released, rfl, switched, rfl⟩) ?_
      exact fun _ later finished => continues later finished.1 finished.2

/-- In the loop of `on_rx_ready` the prepared buffer, which is empty, becomes the
current one, and another one is prepared. -/
theorem safe_switchRxBuffer_request (idle : Idle cfg world) (notified : world.allNotified) :
    BridgeSafe cfg (switchRxBuffer .adapter true)
      (fun _ later => Idle cfg later ∧ later.adapter.rx.sizeLeft ≠ 0) world := by
  have room : (world.switchRxBuffer .adapter).2.adapter.rx.sizeLeft ≠ 0 := by
    have positive := cfg.room
    rcases idle.1.next with ⟨none, _⟩ | ⟨next, _, size, _⟩
    · have prepared := idle.2
      rw [none] at prepared
      cases prepared
    · change world.adapter.rx.nextBufLen ≠ 0
      omega
  apply safe_switchRxBuffer idle.1 notified
  intro later rep sameRx
  rw [if_pos rfl]
  refine Prog.Safe.mono (safe_userCallback .rxBufRequest later.adapter.rx ⟨rep, ?_, rfl⟩) ?_
  · rw [sameRx]
    rfl
  · intro _ last finished
    refine ⟨finished.1, ?_⟩
    rw [finished.2, sameRx]
    exact room

/-- In the loop of `rx_disable` no other buffer is asked for. -/
theorem safe_switchRxBuffer_disable (disabling : Disabling cfg world) :
    BridgeSafe cfg (switchRxBuffer .adapter false) (fun _ => Disabling cfg) world := by
  apply safe_switchRxBuffer disabling.1 disabling.2.1
  intro later rep sameRx
  rw [if_neg Bool.false_ne_true]
  refine ⟨rep, fun _ => ?_, fun _ => ?_⟩
  · rw [sameRx]
    rfl
  · rw [sameRx]
    rfl

theorem safe_rxDisableLoop (disabling : Disabling cfg world) :
    BridgeSafe cfg (rxDisableLoop .adapter) (fun _ later => BridgeRep cfg .nothing later ∧
      later.adapter.rx.buf = none ∧ later.adapter.rx.nextBuf = none) world := by
  unfold BridgeSafe rxDisableLoop
  simp only [Prog.safe_monadBind, Prog.safe_get, Prog.safe_ite, Prog.safe_pure]
  refine ⟨⟨_, disabling.1⟩, fun _ => ?_, fun absent => ?_⟩
  · apply Prog.Safe.mono (safe_switchRxBuffer_disable disabling)
    exact fun _ later kept => ⟨later.adapter.rx, kept, fun _ _ _ promised => promised⟩
  · have none : world.adapter.rx.buf = none := by simpa [World.accessDevData] using absent
    exact ⟨disabling.1, none, disabling.2.2 none⟩

theorem readBytes_length_of_permitted {size : Nat} {ret : Except Int (List UInt8)}
    (allowed : (bridgeSystem cfg).permitted (.fifoRead size) world ret) :
    (readBytes ret).length ≤ size := by
  cases ret with
  | ok bytes => exact allowed
  | error err => exact Nat.zero_le _

/-- One read of `on_rx_ready`, with room for it. -/
theorem safe_onRxReadyRead (notifyNow : Bool) (idle : Idle cfg world)
    (room : world.adapter.rx.sizeLeft ≠ 0) :
    BridgeSafe cfg (onRxReadyRead notifyNow) (fun _ => Idle cfg) world := by
  unfold BridgeSafe onRxReadyRead
  simp only [Prog.safe_monadBind, Prog.safe_get, Prog.safe_ite, Prog.safe_modify,
    Prog.safe_pure, Prog.safe_ret, Prog.safe_ask, Prog.safe_call, Prog.question, Prog.invoke]
  refine ⟨⟨_, idle.1⟩, fun full => absurd full room, fun _ => ⟨idle.1, fun ret allowed => ?_⟩⟩
  have fits := readBytes_length_of_permitted allowed
  have stored : Idle cfg (world.onRxReadyStore (readBytes ret)) := by
    refine ⟨idle.1.onRxReadyStore _ room fits, ?_⟩
    rw [World.onRxReadyStore_of_fits fits]
    exact idle.2
  exact ⟨⟨_, stored.1⟩, ⟨_, stored.1⟩,
    fun _ => ⟨world.adapter.rx, stored, fun _ _ _ promised => promised⟩, fun _ => stored⟩

theorem safe_onRxReadyLoop (notifyNow : Bool) (idle : Idle cfg world) :
    BridgeSafe cfg (onRxReadyLoop notifyNow) (fun _ => Idle cfg) world := by
  unfold BridgeSafe onRxReadyLoop
  simp only [Prog.safe_monadBind, Prog.safe_get, Prog.safe_ite]
  refine ⟨⟨_, idle.1⟩, fun _ => ?_, fun room => safe_onRxReadyRead notifyNow idle room⟩
  apply Prog.Safe.mono (safe_notifyRxBuffer idle)
  intro _ later flushed
  apply Prog.Safe.andThen (safe_switchRxBuffer_request flushed.1 flushed.2)
  exact fun _ last switched => safe_onRxReadyRead false switched.1 switched.2

theorem safe_onRxReady (idle : Idle cfg world) :
    BridgeSafe cfg onRxReady (fun _ => Idle cfg) world := by
  have begun : Idle cfg world.onRxReadyBegin := by
    rcases world.onRxReadyBegin_eq with ⟨timer, same⟩
    rw [same]
    exact Idle.observe ⟨idle.1.setRx ⟨_, timer, _, rfl⟩, idle.2⟩ rfl
  unfold BridgeSafe onRxReady
  simp only [Prog.safe_monadBind, Prog.safe_modify, Prog.safe_ite, Prog.safe_pure,
    Prog.safe_ret, Prog.safe_call, Prog.invoke]
  refine ⟨⟨_, begun.1⟩, world.adapter.rx, begun, fun notifyNow later _ promised => ?_⟩
  have ended : Idle cfg (later.observe (.rxLoop false)) := Idle.observe promised rfl
  refine ⟨⟨_, ended.1⟩, fun _ => ?_, fun _ => ended⟩
  exact Prog.Safe.mono (safe_notifyRxBuffer ended) fun _ last flushed => flushed.1

theorem safe_onTxReady (idle : Idle cfg world) :
    BridgeSafe cfg onTxReady (fun _ => Idle cfg) world := by
  unfold BridgeSafe onTxReady
  simp only [Prog.safe_monadBind, Prog.safe_get, Prog.safe_ite, Prog.safe_modify, Prog.safe_pure,
    Prog.safe_ret, Prog.safe_ask, Prog.question]
  refine ⟨⟨_, idle.1⟩, fun _ => ?_, fun _ => idle⟩
  have checked := idle.1.assertNoMsg .txCurrBufSet world.adapter.tx.currBuf.isSome
  refine ⟨⟨_, checked⟩, checked, fun ret _ => ?_⟩
  have filled := checked.onTxReady ret
  refine ⟨⟨_, filled⟩, filled, ?_⟩
  rw [World.onTxReady_rx, World.assertNoMsg_adapter]
  exact idle.2

theorem safe_onTxComplete (idle : Idle cfg world) :
    BridgeSafe cfg onTxComplete (fun _ => Idle cfg) world := by
  rcases idle.1.onTxComplete with ⟨sameRx, ⟨none, rep⟩ | ⟨buf, len, some, positive, rep⟩⟩
  · unfold BridgeSafe onTxComplete
    simp only [Prog.safe_monadBind, Prog.safe_perform]
    rw [none]
    refine ⟨⟨_, rep⟩, rep, ?_⟩
    rw [sameRx]
    exact idle.2
  · unfold BridgeSafe onTxComplete
    simp only [Prog.safe_monadBind, Prog.safe_perform]
    rw [some]
    refine ⟨⟨_, rep⟩, Prog.Safe.mono (safe_userCallback (.txDone (.some buf) len) world.adapter.rx
      ⟨buf, rfl, positive, rep, sameRx⟩) ?_⟩
    intro _ later finished
    refine ⟨finished.1, ?_⟩
    rw [finished.2]
    exact idle.2

theorem safe_uartIrqHandler (idle : Idle cfg world) :
    BridgeSafe cfg uartIrqHandler (fun _ => Idle cfg) world := by
  refine safe_uartIrqHandler_of_parts ?_ ?_ ?_ ?_ ?_ ?_ ?_ idle
  · exact fun _ kept => ⟨_, kept.1⟩
  · exact fun _ _ kept => kept.1
  · exact fun _ kept => kept.1
  · exact fun _ kept => safe_onTxReady kept
  · exact fun _ kept => safe_onTxComplete kept
  · exact fun _ kept _ => safe_onRxReady kept
  · intro _ rxErr _ allowed positive
    exact absurd positive (Int.not_lt.mpr allowed)

end Adapter

/-! ## Handlers, start-up, and whole runs -/

section Runs

theorem safe_rxTimeout (idle : Idle cfg world) :
    BridgeSafe cfg rxTimeout (fun _ => Idle cfg) world := by
  have expired : Idle cfg world.rxTimerExpired :=
    ⟨idle.1.setRx ⟨_, none, _, rfl⟩, idle.2⟩
  unfold BridgeSafe rxTimeout
  simp only [Prog.safe_monadBind, Prog.safe_modify]
  refine ⟨⟨_, expired.1⟩, Prog.Safe.mono (safe_notifyRxBuffer expired) ?_⟩
  exact fun _ later flushed => flushed.1

theorem safe_handle (handler : Handler) (idle : Idle cfg world) (notTimeout : handler ≠ .txTimeout)
    (notClient : forall call, handler ≠ .client call) :
    BridgeSafe cfg (handle handler) (fun _ => Idle cfg) world := by
  cases handler with
  | uartIrq => exact safe_uartIrqHandler idle
  | txTimeout => exact absurd rfl notTimeout
  | rxTimeout => exact safe_rxTimeout idle
  | client call => exact absurd rfl (notClient call)
  | elapse ticks =>
      have later : Idle cfg (world.elapse ticks) :=
        ⟨idle.1.frame rfl rfl (.of_eq rfl) idle.1.sending rfl rfl rfl, idle.2⟩
      exact ⟨⟨_, later.1⟩, later⟩

theorem safe_environment_bridge (idle : Idle cfg world) :
    BridgeSafe cfg environment (fun _ _ => True) world := by
  unfold BridgeSafe environment
  simp only [Prog.safe_monadBind, Prog.safe_ret, Prog.safe_ask, Prog.safe_call, Prog.question,
    Prog.invoke]
  refine ⟨idle, fun next allowed => ⟨world.adapter.rx, ⟨idle, ?_, ?_⟩, ?_⟩⟩
  · rintro rfl
    exact allowed
  · rintro call rfl
    exact allowed
  · exact fun _ later _ kept => ⟨later.adapter.rx, kept, fun _ _ _ _ => trivial⟩

theorem bridge_honours : (bridgeSystem cfg).Honours (bridgeContract cfg) := by
  intro proc rx world _ assumed
  cases proc with
  | environment => exact safe_environment_bridge assumed
  | handler handler => exact safe_handle handler assumed.1 assumed.2.1 assumed.2.2
  | userCallback evt =>
      have entered : Entered cfg evt rx (world.observe (.event evt)) :=
        Entered.observe assumed rfl
      refine (Prog.safe_bind _ _ _ _).mpr ⟨entered.rep, ?_⟩
      apply Prog.Safe.andThen (safe_uartCb evt rx entered)
      intro _ later finished
      exact ⟨⟨_, finished.rep.observe rfl⟩, finished.observe rfl⟩
  | client evt => exact assumed.elim
  | rxDisableLoop dev =>
      cases dev with
      | adapter => exact safe_rxDisableLoop assumed
      | target => exact assumed.elim
  | onRxReadyLoop notifyNow => exact safe_onRxReadyLoop notifyNow assumed
  | dropLoop => exact assumed.elim

theorem bridgeRep_initial (target : AdapterData) (memory : Nat -> Nat -> UInt8)
    (len : Address -> Nat) :
    BridgeRep cfg .nothing (World.initial target memory (Bridge.initial len)) := by
  refine ⟨.inl ⟨rfl, rfl⟩, .inl ⟨rfl, rfl⟩, .inl rfl, .refl [], List.nodup_nil, ?_, rfl, rfl, ?_,
    ?_, rfl, rfl, Nat.zero_le 2⟩
  · exact fun _ none => absurd none List.not_mem_nil
  · exact fun _ none => absurd none List.not_mem_nil
  · exact fun _ none => absurd none List.not_mem_nil

/-- The adapter is idle, so it accepts the welcome message and the first buffer. -/
theorem safe_uartInitEnable {rx tx : Address} (rep : BridgeRep cfg ⟨[], [tx, rx], 0⟩ world)
    (unused : world.adapter = .zeroed) (some : world.app.len tx ≠ 0)
    (empty : world.app.len rx = 0) :
    BridgeSafe cfg (uartInitEnable cfg rx tx) (fun _ => Idle cfg) world := by
  have noTx : world.adapter.tx.buf = none := congrArg (fun data => data.tx.buf) unused
  have noBuf : world.adapter.rx.buf = none := congrArg (fun data => data.rx.buf) unused
  have noNext : world.adapter.rx.nextBuf = none := congrArg (fun data => data.rx.nextBuf) unused
  unfold BridgeSafe uartInitEnable
  simp only [Prog.safe_monadBind, Prog.safe_get]
  have called := rep.called (.tx (.some tx) (world.app.len tx) sysForeverMs)
  rcases called.tx some noTx with ⟨accepted, sameRx, sameApp, sending⟩
  refine ⟨⟨_, rep⟩, safe_directCall rfl rep sending ?_⟩
  rw [accepted]
  simp only [Prog.safe_ite, Prog.safe_monadBind]
  refine ⟨fun impossible => absurd rfl impossible, fun _ => ?_⟩
  have returned : BridgeRep cfg ⟨[], [rx], 0⟩ (world.directCall
      (.tx (.some tx) (world.app.len tx) sysForeverMs)
      (World.tx (.some tx) (world.app.len tx) sysForeverMs)) := sending.observe rfl
  have called := returned.called (.rxEnable (.some rx) cfg.uartBufSize cfg.firstWaitForRx)
  have stillNoBuf := (congrArg RxData.buf sameRx).trans noBuf
  have stillNoNext := (congrArg RxData.nextBuf sameRx).trans noNext
  rcases called.rxEnable cfg.firstWaitForRx stillNoBuf stillNoNext
    ((congrArg (fun bridge => bridge.len rx) sameApp).trans empty) with ⟨accepted, enabled⟩
  apply safe_directCall rfl returned enabled
  rw [accepted]
  exact ⟨enabled.observe rfl, rfl⟩

/-- `uart_init` ends with a prepared buffer, or with an error and nothing enabled. -/
theorem safe_uartInit (rep : BridgeRep cfg .nothing world)
    (unused : world.adapter = .zeroed) :
    BridgeSafe cfg (uartInit cfg) (fun err later => err = 0 -> Idle cfg later) world := by
  have failed : -ENOMEM ≠ 0 := by decide
  unfold BridgeSafe uartInit
  simp only [Prog.safe_monadBind]
  apply safe_kMalloc rep (Nat.zero_le 1)
  intro rx allocated
  simp only [Prog.safe_monadBind, Prog.safe_modify]
  have emptied := allocated.setLen_inHand List.mem_cons_self 0
  refine ⟨⟨_, emptied⟩, safe_kMalloc emptied (Nat.le_refl 1) fun tx both => ?_⟩
  simp only [Prog.safe_monadBind, Prog.safe_modify, Prog.safe_ite, Prog.safe_pure]
  have printed := both.storeBytes List.mem_cons_self (printed cfg.uartBufSize)
  have differs : rx ≠ tx := by
    have distinct := (List.nodup_cons.mp (List.nodup_append.mp both.nodup).2.1).1
    exact fun same => distinct (List.mem_singleton.mpr same.symm)
  refine ⟨⟨_, printed⟩, fun _ => ⟨?_, fun zero => absurd zero failed⟩, fun _ => ?_⟩
  · exact ⟨_, (printed.permute (List.Perm.swap rx tx [])).kFree.kFree⟩
  · have ready := printed.setLen_inHand List.mem_cons_self welcome.length
    refine ⟨⟨_, ready⟩, Prog.Safe.mono (safe_uartInitEnable ready unused ?_ ?_) ?_⟩
    · intro zero
      change Function.update _ tx (welcome.length % 2 ^ 16) tx = 0 at zero
      rw [Function.update_self, welcome_length] at zero
      cases zero
    · exact (Function.update_of_ne differs _ _).trans (Function.update_self _ _ _)
    · exact fun _ later idle _ => idle

theorem safe_bridgeMain (rep : BridgeRep cfg .nothing world) (unused : world.adapter = .zeroed) :
    BridgeSafe cfg (bridgeMain cfg) (fun _ _ => True) world := by
  unfold BridgeSafe bridgeMain
  simp only [Prog.safe_monadBind]
  apply Prog.Safe.mono (safe_uartInit rep unused)
  intro err later ready
  simp only [Prog.safe_ite, Prog.safe_pure]
  exact ⟨fun zero => safe_environment_bridge (ready zero), fun _ => trivial⟩

end Runs

/-- What the bridge has done with the bytes it has read.  `released` and `apart`
are the buffers that a running `uart_cb` or `uart_init` has in hand. -/
structure Bridged (cfg : BridgeConfig) (released apart : List Address) (world : World Bridge) :
    Prop where
  bytes : world.queuedBytes ++ released.flatMap world.data ++ world.currentBytes =
    readFromTarget world.log
  noDrop : dropReads world.log = []
  lens : forall buf, buf ∈ world.app.fifoUartRxData ->
    1 ≤ world.app.len buf ∧ world.app.len buf ≤ cfg.uartBufSize
  custody : world.app.live.Perm (world.holders ++ released ++ apart)
  distinct : world.app.live.Nodup
  few : (released ++ apart).length ≤ 2

theorem BridgeRep.bridged {transit : InTransit} (rep : BridgeRep cfg transit world) :
    Bridged cfg transit.released transit.apart world :=
  ⟨rep.bytes, rep.noDrop, rep.lens, rep.custody, rep.distinct, rep.few⟩

/-- In every run, at every moment, the items on the FIFO, the buffer on its way
to it, and the current buffer hold the bytes read from the target in order;
none has been dropped; an item is neither empty nor too long; and each allocated
buffer has exactly one holder.  Wherever the bridge waits for the hardware, and
so whenever no handler is running, nothing is on its way. -/
theorem bridge_exact {current : AdapterConfig Bridge} (reached : BridgeReached cfg current) :
    (exists released apart, Bridged cfg released apart current.state) ∧
      forall query, pendingQuery current = some query -> query ≠ .kMalloc ->
        Bridged cfg [] [] current.state := by
  rcases reached with ⟨target, memory, len, reachable⟩
  have initially : BridgeRep cfg .nothing _ := bridgeRep_initial target memory len
  have safe := safe_bridgeMain initially rfl
  constructor
  · rcases System.always_of_reachable reachable bridge_honours ⟨_, initially⟩ safe with ⟨_, rep⟩
    exact ⟨_, _, rep.bridged⟩
  · intro query pending notMalloc
    rcases exists_of_pendingQuery pending with ⟨next, here⟩
    have asked := System.asked_of_reachable reachable bridge_honours ⟨_, initially⟩ safe here
    cases query with
    | next => exact asked.1.bridged
    | kMalloc => exact absurd rfl notMalloc
    | client evt => exact asked.bridged
    | flag flag => exact asked.bridged
    | errCheck => exact asked.bridged
    | fifoFill size => exact asked.bridged
    | fifoRead size => exact asked.bridged

instance (cfg : BridgeConfig) (query : Query) (world : World Bridge) (answer : Answer query) :
    Decidable ((bridgeSystem cfg).permitted query world answer) :=
  match query, answer with
  | .next, .client _ | .next, .txTimeout | .kMalloc, none => .isFalse id
  | .next, .uartIrq | .next, .rxTimeout | .next, .elapse _ => .isTrue trivial
  | .errCheck, err => inferInstanceAs (Decidable (err ≤ (0 : Int)))
  | .fifoFill size, ret => inferInstanceAs (Decidable (ret ≤ (size : Int)))
  | .fifoRead size, .ok bytes => inferInstanceAs (Decidable (bytes.length ≤ size))
  | .fifoRead _, .error err => inferInstanceAs (Decidable (err < 0))
  | .kMalloc, some _ => inferInstanceAs (Decidable (¬_))
  | .client _, _ | .flag _, _ => .isTrue trivial

/-- What a run of the bridge has come to after a script of answers. -/
def bridgeScripted (cfg : BridgeConfig) (fuel : Nat) (script : List (Sigma Answer)) :
    AdapterConfig Bridge :=
  (bridgeSystem cfg).play (I := adapterInterface Bridge) fuel script
    ⟨World.initial .zeroed (fun _ _ => 0) (Bridge.initial fun _ => 0), bridgeMain cfg⟩

theorem bridgeScripted_reached (cfg : BridgeConfig) (fuel : Nat) (script : List (Sigma Answer)) :
    BridgeReached cfg (bridgeScripted cfg fuel script) :=
  ⟨_, _, _, (bridgeSystem cfg).play_reachable fuel script _⟩

/-- A byte and a line feed arrive; the timeout reports them, and `uart_cb`
disables reception and enables it again. -/
def lineRun : AdapterConfig Bridge :=
  bridgeScripted defaultConfig 300
    ([⟨.kMalloc, some 1⟩, ⟨.kMalloc, some 2⟩] ++ irqStarts ++
      [⟨.flag .irqTxReady, false⟩, ⟨.flag .irqTxComplete, false⟩, ⟨.flag .irqRxReady, true⟩,
        ⟨.kMalloc, some 3⟩, ⟨.fifoRead 40, .ok [97, 10]⟩, ⟨.fifoRead 38, .ok []⟩,
        ⟨.errCheck, (0 : Int)⟩, ⟨.next, .rxTimeout⟩, ⟨.kMalloc, some 4⟩])

theorem lineRun_bridged :
    lineRun.state.queuedBytes = [97, 10] ∧
    lineRun.state.app.live = [⟨4, 0⟩, ⟨2, 0⟩, ⟨1, 0⟩] ∧
    Bridged defaultConfig [] [] lineRun.state :=
  ⟨by decide +kernel, by decide +kernel,
    (bridge_exact (bridgeScripted_reached defaultConfig 300 _)).2 .next (by decide +kernel)
      (by decide)⟩

end Uart
end NrfExamples
