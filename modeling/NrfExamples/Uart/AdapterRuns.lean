import NrfExamples.Uart.AsyncAdapter

namespace NrfExamples
namespace Uart

open Reentrant

/-!
# Runs of the adapter with an arbitrary client

A policy says which calls the client makes, when it returns from a callback,
and which handlers run; everything it does not restrict is arbitrary.  The
target UART keeps its own promises in every run: it accepts and delivers at
most as many bytes as it was asked to.

Invariants of such runs have to hold whenever the client can act, at any depth
of callbacks, while the adapter is in the middle of a function.  What the
functions below know about their surroundings is a context: no handler is
running, the loop of `on_rx_ready` is running, an `rx_disable` is on its way, a
callback has been entered.  `CallbackInvariant` lists what an invariant has to
show for each section of the adapter, once per section, and the results at the
end of the file turn that into statements about every configuration of a run.
-/

variable {App : Type}

/-- What the client and the environment may do in a state. -/
structure Policy (App : Type) where
  call : World App -> ApiCall -> Prop
  leave : World App -> UartEvent -> Prop
  fire : World App -> Handler -> Prop

namespace Policy

/-- Only the calls of the client are restricted. -/
abbrev calling (call : World App -> ApiCall -> Prop) : Policy App where
  call := call
  leave := fun _ _ => True
  fire := fun _ _ => True

def permitted (policy : Policy App) : (query : Query) -> World App -> Answer query -> Prop
  | .next, world, next =>
      policy.fire world next ∧ forall call, next = .client call -> policy.call world call
  | .client evt, world, none => policy.leave world evt
  | .client _, world, some call => policy.call world call
  | .fifoFill size, _, ret => ret ≤ size
  | .fifoRead size, _, .ok bytes => bytes.length ≤ size
  | .fifoRead _, _, .error err => err < 0
  | _, _, _ => True

end Policy

/-- The adapter with a client that is restricted by a policy only. -/
def adapterSystem (policy : Policy App) : System (adapterInterface App) where
  body := body (some fun evt => AdapterProg.invoke (.client evt))
  permitted := policy.permitted

/-- The world after `uart_async_adapter_init` and `callback_set`. -/
def World.initial (target : AdapterData) (memory : Nat -> Nat -> UInt8) (app : App) :
    World App where
  adapter := .zeroed
  target := target
  irq := { tx := false, rx := false, err := false }
  memory := memory
  now := 0
  log := []
  foreign := []
  app := app

abbrev AdapterConfig (App : Type) := Config (adapterInterface App) Unit

/-- The configurations of all runs under a policy. -/
def Reached (policy : Policy App) (current : AdapterConfig App) : Prop :=
  exists target memory app,
    (adapterSystem policy).Reachable ⟨World.initial target memory app, environment⟩ current

theorem Reached.mono {strict loose : Policy App}
    (call : forall world call, strict.call world call -> loose.call world call)
    (leave : forall world evt, strict.leave world evt -> loose.leave world evt)
    (fire : forall world next, strict.fire world next -> loose.fire world next)
    {current : AdapterConfig App} (reached : Reached strict current) :
    Reached loose current := by
  rcases reached with ⟨target, memory, app, reachable⟩
  have sameBody : (adapterSystem strict).body = (adapterSystem loose).body := rfl
  refine ⟨target, memory, app, reachable.mono sameBody ?_⟩
  intro query world answer allowed
  cases query with
  | next => exact ⟨fire _ _ allowed.1, fun made same => call _ _ (allowed.2 made same)⟩
  | client evt =>
      cases answer with
      | none => exact leave _ _ allowed
      | some made => exact call _ _ allowed
  | fifoRead size => cases answer <;> exact allowed
  | _ => exact allowed

/-! ## Where a run can be looked at -/

/-- No handler is running: the environment chooses the next one. -/
def BetweenHandlers (config : AdapterConfig App) : Prop :=
  exists next, config.prog = .ask .next next

/-- The client is inside a callback and chooses its next call, or returns. -/
def InClient (evt : UartEvent) (config : AdapterConfig App) : Prop :=
  exists next, config.prog = .ask (.client evt) next

/-- A handler is about to start. -/
def Starting (handler : Handler) (config : AdapterConfig App) : Prop :=
  exists next, config.prog = .call (.handler handler) next

/-- An event is about to be delivered to the client. -/
def Delivering (evt : UartEvent) (config : AdapterConfig App) : Prop :=
  exists next, config.prog = .call (.userCallback evt) next

/-- Bytes are about to be read from the target. -/
def Reading (size : Nat) (config : AdapterConfig App) : Prop :=
  exists next, config.prog = .ask (.fifoRead size) next

/-- Code other than the adapter's can run now. -/
def Settled (config : AdapterConfig App) : Prop :=
  BetweenHandlers config ∨ exists evt, InClient evt config

/-! ## Runs that follow a script -/

section Script

variable (policy : Policy App)
  [forall world call, Decidable (policy.call world call)]
  [forall world evt, Decidable (policy.leave world evt)]
  [forall world next, Decidable (policy.fire world next)]

instance (query : Query) (world : World App) (answer : Answer query) :
    Decidable ((adapterSystem policy).permitted query world answer) :=
  match query, answer with
  | .next, .client call =>
      decidable_of_iff (policy.fire world (.client call) ∧ policy.call world call)
        ⟨fun allowed => ⟨allowed.1, fun _ same => Handler.client.inj same ▸ allowed.2⟩,
          fun allowed => ⟨allowed.1, allowed.2 call rfl⟩⟩
  | .next, .uartIrq | .next, .txTimeout | .next, .rxTimeout | .next, .elapse _ =>
      decidable_of_iff (policy.fire world _)
        ⟨fun allowed => ⟨allowed, fun _ same => nomatch same⟩, And.left⟩
  | .client evt, none => inferInstanceAs (Decidable (policy.leave world evt))
  | .client _, some call => inferInstanceAs (Decidable (policy.call world call))
  | .fifoFill size, ret => inferInstanceAs (Decidable (ret ≤ (size : Int)))
  | .fifoRead size, .ok bytes => inferInstanceAs (Decidable (bytes.length ≤ size))
  | .fifoRead _, .error err => inferInstanceAs (Decidable (err < 0))
  | .flag _, _ | .errCheck, _ | .kMalloc, _ => .isTrue trivial

/-- The answers with which an interrupt begins. -/
def irqStarts : List (Sigma Answer) :=
  [⟨.next, .uartIrq⟩, ⟨.flag .irqUpdate, true⟩, ⟨.flag .irqIsPending, true⟩]

/-- What a run from zeroed memory has come to after a script of answers. -/
def scripted (fuel : Nat) (app : App) (script : List (Sigma Answer)) : AdapterConfig App :=
  (adapterSystem policy).play (I := adapterInterface App) fuel script
    ⟨World.initial .zeroed (fun _ _ => 0) app, environment⟩

theorem scripted_reached (fuel : Nat) (app : App) (script : List (Sigma Answer)) :
    Reached policy (scripted policy fuel app script) :=
  ⟨_, _, app, (adapterSystem policy).play_reachable fuel script _⟩

end Script

/-! ## Invariants and their contexts -/

namespace World

/-- A call that never reaches the client, with its two entries in the log. -/
def directCall (call : ApiCall) (run : World App -> Int × World App) (world : World App) :
    World App :=
  let after := run (world.observe (.called call))
  after.2.observe (.returned call after.1 after.2.now)

/-- A call of `tx` either starts a transfer or leaves the adapter alone. -/
theorem directCall_tx_cases (world : World App) (buf : Pointer) (len : Nat) (timeout : Int) :
    (exists ret : Int, (ret = 0 -> len = 0) ∧
      world.directCall (.tx buf len timeout) (World.tx buf len timeout) =
        (world.observe (.called (.tx buf len timeout))).observe
          (.returned (.tx buf len timeout) ret world.now)) ∨
    (len ≠ 0 ∧ world.adapter.tx.buf = none ∧
      world.directCall (.tx buf len timeout) (World.tx buf len timeout) =
        { world with
          adapter := { world.adapter with
            tx := {
              buf := buf
              currBuf := buf
              sizeLeft := len
              timeoutTimer :=
                if timeout ≠ sysForeverMs then world.kTimerStart timeout
                else world.adapter.tx.timeoutTimer
              enabled := true } }
          irq := { world.irq with tx := true }
          log := .returned (.tx buf len timeout) 0 world.now ::
            .called (.tx buf len timeout) :: world.log }) := by
  unfold directCall tx
  by_cases empty : len = 0
  · exact .inl ⟨0, fun _ => empty, by simp [empty]⟩
  by_cases busy : world.adapter.tx.buf.isSome
  · exact .inl ⟨-EBUSY, fun zero => absurd zero (by decide), by simp [empty, busy]⟩
  · refine .inr ⟨empty, by simpa using busy, ?_⟩
    by_cases forever : timeout = sysForeverMs <;>
      simp [empty, busy, forever, setTx, irqTxEnable, observe, kTimerStart]

/-- A call of `rx_buf_rsp` either prepares the buffer or leaves the adapter alone. -/
theorem directCall_rxBufRsp_cases (world : World App) (buf : Pointer) (len : Nat) :
    (world.adapter.rx.nextBuf.isSome ∧
      world.directCall (.rxBufRsp buf len) (World.rxBufRsp buf len) =
        (world.observe (.called (.rxBufRsp buf len))).observe
          (.returned (.rxBufRsp buf len) (-EBUSY) world.now)) ∨
    (world.adapter.rx.nextBuf = none ∧
      world.directCall (.rxBufRsp buf len) (World.rxBufRsp buf len) =
        (((world.observe (.called (.rxBufRsp buf len))).assertNoMsg .rxNextBufLenZero
          (world.adapter.rx.nextBufLen = 0)).setRx
            { world.adapter.rx with nextBuf := buf, nextBufLen := len }).observe
              (.returned (.rxBufRsp buf len) 0 world.now)) := by
  unfold directCall rxBufRsp
  by_cases busy : world.adapter.rx.nextBuf.isSome
  · exact .inl ⟨busy, by simp [busy]⟩
  · refine .inr ⟨by simpa using busy, ?_⟩
    simp only [observe_adapter, busy, Bool.false_eq_true, if_false, setRx_now, assertNoMsg_now,
      observe_now]
    rfl

end World

/-- The contexts in which the client makes calls. -/
def Callable {Ctx : Type} (idle : Ctx) (inCallback : Ctx -> Ctx) (ctx : Ctx) : Prop :=
  ctx = idle ∨ exists outer, ctx = inCallback outer

/-- An invariant of every moment at which the client can act.  A context stands
for what the surrounding code knows, and each field is about one section.  What
the invariant implies even inside a function, between two sections, is `Always`;
it has to survive the loss of the last report in the log. -/
structure CallbackInvariant (policy : Policy App) (Ctx : Type) where
  Inv : Ctx -> World App -> Prop
  idle : Ctx
  inLoop : Ctx
  inCallback : Ctx -> Ctx
  inDisable : Ctx -> Ctx
  flushed : Ctx -> Ctx
  tx : forall ctx world buf len timeout, Inv ctx world ->
    policy.call world (.tx buf len timeout) ->
    Inv ctx (world.directCall (.tx buf len timeout) (World.tx buf len timeout))
  rxEnable : forall ctx world buf len timeout, Callable idle inCallback ctx -> Inv ctx world ->
    policy.call world (.rxEnable buf len timeout) ->
    Inv ctx (world.directCall (.rxEnable buf len timeout) (World.rxEnable buf len timeout))
  rxBufRsp : forall ctx world buf len, Callable idle inCallback ctx -> Inv ctx world ->
    policy.call world (.rxBufRsp buf len) ->
    Inv ctx (world.directCall (.rxBufRsp buf len) (World.rxBufRsp buf len))
  txAbortCalled : forall ctx world, Inv ctx world -> policy.call world .txAbort ->
    Inv ctx (world.observe (.called .txAbort))
  txAbortNone : forall ctx world, Inv ctx world -> world.txAbort.1 = none ->
    Inv ctx world.txAbort.2
  txAborted : forall ctx world evt, Inv ctx world -> world.txAbort.1 = some evt ->
    Inv (inCallback ctx) (world.txAbort.2.observe (.event evt))
  returned : forall ctx world call ret time, Inv ctx world -> call = .txAbort ∨ call = .rxDisable ->
    Inv ctx (world.observe (.returned call ret time))
  leave : forall ctx world evt, Inv (inCallback ctx) world -> policy.leave world evt ->
    Inv ctx (world.observe .callbackReturned)
  rxDisableBegin : forall ctx world, Inv ctx world -> policy.call world .rxDisable ->
    Inv (inDisable ctx) ((world.observe (.called .rxDisable)).rxDisable .adapter)
  rxDisableSwitch : forall ctx world, Inv (inDisable ctx) world -> world.adapter.rx.buf.isSome ->
    Inv (inCallback (inDisable ctx)) ((world.switchRxBuffer .adapter).2.observe
      (.event (.rxBufReleased world.adapter.rx.buf)))
  rxDisabled : forall ctx world, Inv (inDisable ctx) world -> world.adapter.rx.buf = none ->
    Inv (inCallback ctx) (world.observe (.event .rxDisabled))
  notified : forall ctx world evt, Inv ctx world -> world.notifyRxBuffer.1 = some evt ->
    Inv (inCallback (flushed ctx)) (world.notifyRxBuffer.2.observe (.event evt))
  notifiedNone : forall ctx world, Inv ctx world -> world.notifyRxBuffer.1 = none ->
    Inv (flushed ctx) world.notifyRxBuffer.2
  unflushed : forall ctx world, Inv (flushed ctx) world -> Inv ctx world
  onRxReadyBegin : forall world, Inv idle world -> world.adapter.rx.enabled = true ->
    Inv inLoop world.onRxReadyBegin
  switched : forall world, Inv (flushed inLoop) world -> world.adapter.rx.buf.isSome ->
    Inv (inCallback (flushed inLoop)) ((world.switchRxBuffer .adapter).2.observe
      (.event (.rxBufReleased world.adapter.rx.buf)))
  switchedNone : forall world, Inv (flushed inLoop) world -> world.adapter.rx.buf = none ->
    Inv (flushed inLoop) (world.switchRxBuffer .adapter).2
  requested : forall world, Inv (flushed inLoop) world ->
    Inv (inCallback (flushed inLoop)) (world.observe (.event .rxBufRequest))
  stored : forall world bytes, Inv inLoop world -> world.adapter.rx.sizeLeft ≠ 0 ->
    bytes.length ≤ world.adapter.rx.sizeLeft -> Inv inLoop (world.onRxReadyStore bytes)
  dropped : forall world bytes, Inv inLoop world -> world.adapter.rx.sizeLeft = 0 ->
    Inv inLoop (world.observe (.dropped bytes))
  onRxReadyEnd : forall world, Inv inLoop world -> Inv idle (world.observe (.rxLoop false))
  txReady : forall world ret, Inv idle world -> world.adapter.tx.sizeLeft ≠ 0 ->
    ret ≤ (world.adapter.tx.sizeLeft : Int) ->
    Inv idle ((world.assertNoMsg .txCurrBufSet world.adapter.tx.currBuf.isSome).onTxReady ret)
  txCompleted : forall world evt, Inv idle world -> world.onTxComplete.1 = some evt ->
    Inv (inCallback idle) (world.onTxComplete.2.observe (.event evt))
  txCompletedNone : forall world, Inv idle world -> world.onTxComplete.1 = none ->
    Inv idle world.onTxComplete.2
  stopped : forall world reason, Inv idle world ->
    Inv (inCallback idle) (world.observe (.event (.rxStopped reason)))
  targetData : forall world data, Inv idle world -> Inv idle (world.setDevData data .target)
  foreignEvent : forall world evt, Inv idle world -> Inv idle (world.observeForeign evt)
  txTimer : forall world, Inv idle world -> policy.fire world .txTimeout ->
    Inv idle world.txTimerExpired
  rxTimer : forall world, Inv idle world -> policy.fire world .rxTimeout ->
    Inv idle world.rxTimerExpired
  elapsed : forall world ticks, Inv idle world -> Inv idle (world.elapse ticks)
  Always : World App -> Prop := fun _ => True
  always : forall ctx world, Inv ctx world -> Always world := by intros; trivial
  called : forall world call, Always world -> Always (world.observe (.called call)) := by
    intros; trivial
  checked : forall world holds, Always world -> Always (world.assertNoMsg .txCurrBufSet holds) := by
    intros; trivial
  forget : forall world obs, obs.isReport = true -> Always (world.observe obs) ->
    Always world := by intros; trivial

namespace CallbackInvariant

variable {policy : Policy App} {Ctx : Type} (rule : CallbackInvariant policy Ctx)

/-- Every procedure keeps the invariant in the context it was called in. -/
def contract : Contract (adapterInterface App) where
  Ghost := fun _ => Ctx
  always := rule.Always
  asked := fun query world =>
    match query with
    | .next => rule.Inv rule.idle world
    | .client _ => exists ctx, rule.Inv (rule.inCallback ctx) world
    | .fifoRead _ => rule.Inv rule.inLoop world
    | _ => True
  pre := fun proc ctx world =>
    match proc with
    | .environment => rule.Inv rule.idle world
    | .handler handler => rule.Inv rule.idle world ∧ policy.fire world handler ∧
        forall call, handler = .client call -> policy.call world call
    | .userCallback evt => rule.Inv (rule.inCallback ctx) (world.observe (.event evt))
    | .client _ => rule.Inv (rule.inCallback ctx) world
    | .rxDisableLoop .adapter => rule.Inv (rule.inDisable ctx) world
    | .rxDisableLoop .target => rule.Inv rule.idle world
    | .onRxReadyLoop _ => rule.Inv rule.inLoop world
    | .dropLoop => rule.Inv rule.inLoop world ∧ world.adapter.rx.sizeLeft = 0
  post := fun proc ctx _ world =>
    match proc with
    | .environment => True
    | .handler _ => rule.Inv rule.idle world
    | .userCallback _ => rule.Inv ctx world
    | .client _ => rule.Inv ctx (world.observe .callbackReturned)
    | .rxDisableLoop .adapter =>
        rule.Inv (rule.inDisable ctx) world ∧ world.adapter.rx.buf = none
    | .rxDisableLoop .target => rule.Inv rule.idle world
    | .onRxReadyLoop _ => rule.Inv rule.inLoop world
    | .dropLoop => rule.Inv rule.inLoop world

/-- What a program of the adapter needs under the contract. -/
abbrev Safe {A : Type} (program : AdapterProg App A) (goal : A -> World App -> Prop)
    (world : World App) : Prop :=
  Prog.Safe (adapterSystem policy) rule.contract program goal world

/-! ### One lemma for each function of the adapter -/

section Functions

variable {ctx : Ctx} {world : World App}

theorem always_of_event {evt : UartEvent} (holds : rule.Inv ctx (world.observe (.event evt))) :
    rule.Always world :=
  rule.forget world _ rfl (rule.always ctx _ holds)

theorem always_of_directCall {call : ApiCall} {run : World App -> Int × World App}
    (holds : rule.Inv ctx (world.directCall call run)) :
    rule.Always (run (world.observe (.called call))).2 :=
  rule.forget _ _ rfl (rule.always ctx _ holds)

theorem safe_userCallback (evt : UartEvent)
    (delivered : rule.Inv (rule.inCallback ctx) (world.observe (.event evt))) :
    rule.Safe (userCallback .adapter evt) (fun _ => rule.Inv ctx) world :=
  ⟨ctx, delivered, fun _ _ _ promised => promised⟩

theorem safe_deliver (evt : Option UartEvent)
    (some : forall made, evt = some made ->
      rule.Inv (rule.inCallback ctx) (world.observe (.event made)))
    (none : evt = none -> rule.Inv ctx world) :
    rule.Safe (deliver evt) (fun _ => rule.Inv ctx) world := by
  cases evt with
  | none => exact none rfl
  | some made => exact rule.safe_userCallback made (some made rfl)

theorem safe_notifyRxBuffer (holds : rule.Inv ctx world) :
    rule.Safe notifyRxBuffer (fun _ => rule.Inv (rule.flushed ctx)) world := by
  have safe := rule.safe_deliver world.notifyRxBuffer.1
    (fun made same => rule.notified ctx world made holds same)
    (rule.notifiedNone ctx world holds)
  refine (Prog.safe_monadBind _ _).mpr ⟨?_, safe⟩
  cases made : world.notifyRxBuffer.1 with
  | none => exact rule.always _ _ (rule.notifiedNone ctx world holds made)
  | some evt => exact rule.always_of_event (rule.notified ctx world evt holds made)

theorem safe_txAbort (holds : rule.Inv ctx world) :
    rule.Safe txAbort (fun _ => rule.Inv ctx) world := by
  have safe := rule.safe_deliver world.txAbort.1
    (fun made same => rule.txAborted ctx world made holds same)
    (rule.txAbortNone ctx world holds)
  refine (Prog.safe_monadBind _ _).mpr ⟨?_, (Prog.safe_monadBind _ _).mpr safe⟩
  cases made : world.txAbort.1 with
  | none => exact rule.always _ _ (rule.txAbortNone ctx world holds made)
  | some evt => exact rule.always_of_event (rule.txAborted ctx world evt holds made)

/-- The switch in the loop of `on_rx_ready`, which asks for a new buffer. -/
theorem safe_switchRxBuffer_request (holds : rule.Inv (rule.flushed rule.inLoop) world) :
    rule.Safe (switchRxBuffer .adapter true)
      (fun _ => rule.Inv (rule.flushed rule.inLoop)) world := by
  have request : forall later, rule.Inv (rule.flushed rule.inLoop) later ->
      rule.Safe (notifyRxBufferReq .adapter) (fun _ => rule.Inv (rule.flushed rule.inLoop)) later :=
    fun later kept => rule.safe_userCallback _ (rule.requested later kept)
  unfold Safe switchRxBuffer
  simp only [Prog.safe_monadBind, Prog.safe_perform, Prog.safe_ite]
  by_cases present : world.adapter.rx.buf.isSome
  · have released := rule.switched world holds present
    refine ⟨rule.always_of_event released, fun _ => ?_, fun absent => absurd present absent⟩
    apply Prog.Safe.mono (rule.safe_userCallback _ released)
    exact fun _ later kept => by simpa using request later kept
  · have switched := rule.switchedNone world holds (by simpa using present)
    refine ⟨rule.always _ _ switched, fun released => absurd released present, fun _ => ?_⟩
    simpa using request _ switched

/-- The switch in the loop of `rx_disable`, which does not. -/
theorem safe_switchRxBuffer_disable (holds : rule.Inv (rule.inDisable ctx) world)
    (present : world.adapter.rx.buf.isSome) :
    rule.Safe (switchRxBuffer .adapter false)
      (fun _ => rule.Inv (rule.inDisable ctx)) world := by
  unfold Safe switchRxBuffer
  simp only [Prog.safe_monadBind, Prog.safe_perform, Prog.safe_ite]
  have released := rule.rxDisableSwitch ctx world holds present
  refine ⟨rule.always_of_event released, fun _ => ?_, fun absent => absurd present absent⟩
  apply Prog.Safe.mono (rule.safe_userCallback _ released)
  exact fun _ later kept => by simpa using kept

/-- On the target device nothing but its own data and callback is touched. -/
theorem safe_switchRxBuffer_target (holds : rule.Inv rule.idle world) :
    rule.Safe (switchRxBuffer .target false) (fun _ => rule.Inv rule.idle) world := by
  have switched : rule.Inv rule.idle (world.switchRxBuffer .target).2 :=
    rule.targetData world _ holds
  have released := rule.foreignEvent _ (.rxBufReleased (world.switchRxBuffer .target).1) switched
  unfold Safe switchRxBuffer notifyRxBufferRelease userCallback
  simp only [Prog.safe_monadBind, Prog.safe_perform, Prog.safe_ite, Prog.safe_modify,
    Prog.safe_pure, Bool.false_eq_true, not_false_eq_true, false_implies, true_implies, true_and]
  exact ⟨rule.always _ _ switched, fun _ => ⟨rule.always _ _ released, released⟩,
    fun _ => switched⟩

/-- The loop of `rx_disable` ends when there is no current buffer. -/
theorem safe_rxDisableLoop (holds : rule.Inv (rule.inDisable ctx) world) :
    rule.Safe (rxDisableLoop .adapter) (fun _ later =>
      rule.Inv (rule.inDisable ctx) later ∧ later.adapter.rx.buf = none) world := by
  unfold Safe rxDisableLoop
  simp only [Prog.safe_monadBind, Prog.safe_get, Prog.safe_ite, Prog.safe_pure]
  refine ⟨rule.always _ _ holds, fun present => ?_, fun absent => ?_⟩
  · apply Prog.Safe.mono (rule.safe_switchRxBuffer_disable holds present)
    exact fun _ later kept => ⟨ctx, kept, fun _ _ _ promised => promised⟩
  · exact ⟨holds, by simpa [World.accessDevData] using absent⟩

theorem safe_rxDisable (holds : rule.Inv ctx world)
    (allowed : policy.call world .rxDisable) :
    rule.Safe (rxDisable .adapter) (fun _ => rule.Inv ctx)
      (world.observe (.called .rxDisable)) := by
  unfold Safe rxDisable
  simp only [Prog.safe_monadBind, Prog.safe_modify]
  have begun := rule.rxDisableBegin ctx world holds allowed
  refine ⟨rule.always _ _ begun, ctx, begun, ?_⟩
  intro _ later _ promised
  exact rule.safe_userCallback _ (rule.rxDisabled ctx later promised.1 promised.2)

theorem safe_rxDisableLoop_target (holds : rule.Inv rule.idle world) :
    rule.Safe (rxDisableLoop .target) (fun _ => rule.Inv rule.idle) world := by
  unfold Safe rxDisableLoop
  simp only [Prog.safe_monadBind, Prog.safe_get, Prog.safe_ite, Prog.safe_pure]
  refine ⟨rule.always _ _ holds, fun _ => ?_, fun _ => holds⟩
  apply Prog.Safe.mono (rule.safe_switchRxBuffer_target holds)
  exact fun _ later kept => ⟨rule.idle, kept, fun _ _ _ promised => promised⟩

/-- `on_error` disables reception on the wrong device, so all that reaches the
adapter is the callback. -/
theorem safe_onError (rxErr : Int) (holds : rule.Inv rule.idle world) :
    rule.Safe (onError rxErr) (fun _ => rule.Inv rule.idle) world := by
  unfold Safe onError rxDisable
  simp only [Prog.safe_monadBind, Prog.safe_modify]
  have begun := rule.targetData world (world.rxDisable .target).target holds
  refine ⟨rule.always _ _ begun, rule.idle, begun, ?_⟩
  intro _ later _ promised
  have disabled := rule.foreignEvent later .rxDisabled promised
  exact ⟨rule.always _ _ disabled, rule.safe_userCallback _ (rule.stopped _ rxErr disabled)⟩

theorem safe_apiCall (call : ApiCall) (callable : Callable rule.idle rule.inCallback ctx)
    (holds : rule.Inv ctx world) (allowed : policy.call world call) :
    rule.Safe (apiCall call) (fun _ => rule.Inv ctx) world := by
  unfold Safe apiCall
  simp only [Prog.safe_monadBind, Prog.safe_modify]
  refine ⟨rule.called world call (rule.always _ _ holds), ?_⟩
  cases call with
  | tx buf len timeout =>
      have after := rule.tx ctx world buf len timeout holds allowed
      exact ⟨rule.always_of_directCall after, rule.always _ _ after, after⟩
  | rxEnable buf len timeout =>
      have after := rule.rxEnable ctx world buf len timeout callable holds allowed
      exact ⟨rule.always_of_directCall after, rule.always _ _ after, after⟩
  | rxBufRsp buf len =>
      have after := rule.rxBufRsp ctx world buf len callable holds allowed
      exact ⟨rule.always_of_directCall after, rule.always _ _ after, after⟩
  | txAbort =>
      apply Prog.Safe.mono (rule.safe_txAbort (rule.txAbortCalled ctx world holds allowed))
      intro ret later kept
      have after := rule.returned ctx later _ ret later.now kept (.inl rfl)
      exact ⟨rule.always _ _ after, after⟩
  | rxDisable =>
      apply Prog.Safe.mono (rule.safe_rxDisable holds allowed)
      intro ret later kept
      have after := rule.returned ctx later _ ret later.now kept (.inr rfl)
      exact ⟨rule.always _ _ after, after⟩

theorem safe_onTxReady (holds : rule.Inv rule.idle world) :
    rule.Safe onTxReady (fun _ => rule.Inv rule.idle) world := by
  unfold Safe onTxReady
  simp only [Prog.safe_monadBind, Prog.safe_get, Prog.safe_ite, Prog.safe_modify, Prog.safe_pure,
    Prog.safe_ret, Prog.safe_ask, Prog.question]
  have known := rule.always _ _ holds
  refine ⟨known, fun unfinished => ⟨rule.checked world _ known, trivial, fun ret allowed => ?_⟩,
    fun _ => holds⟩
  have filled := rule.txReady world ret holds unfinished allowed
  exact ⟨rule.always _ _ filled, filled⟩

theorem safe_onTxComplete (holds : rule.Inv rule.idle world) :
    rule.Safe onTxComplete (fun _ => rule.Inv rule.idle) world := by
  have safe := rule.safe_deliver world.onTxComplete.1
    (fun made same => rule.txCompleted world made holds same) (rule.txCompletedNone world holds)
  refine (Prog.safe_monadBind _ _).mpr ⟨?_, safe⟩
  cases made : world.onTxComplete.1 with
  | none => exact rule.always _ _ (rule.txCompletedNone world holds made)
  | some evt => exact rule.always_of_event (rule.txCompleted world evt holds made)

theorem safe_dropLoop (holds : rule.Inv rule.inLoop world)
    (full : world.adapter.rx.sizeLeft = 0) :
    rule.Safe dropLoop (fun _ => rule.Inv rule.inLoop) world := by
  unfold Safe dropLoop
  simp only [Prog.safe_monadBind, Prog.safe_modify, Prog.safe_ite, Prog.safe_pure,
    Prog.safe_ret, Prog.safe_ask, Prog.question]
  refine ⟨holds, fun ret allowed => ?_⟩
  have dropped := rule.dropped world (readBytes ret) holds full
  refine ⟨rule.always _ _ dropped, fun more => ?_, fun _ => dropped⟩
  exact ⟨rule.idle, ⟨dropped, full⟩, fun _ _ _ promised => promised⟩

/-- A read gives no more bytes than were asked for. -/
theorem readBytes_length {size : Nat} {ret : Except Int (List UInt8)}
    (allowed : policy.permitted (.fifoRead size) world ret) : (readBytes ret).length ≤ size := by
  cases ret with
  | ok bytes => exact allowed
  | error err => exact Nat.zero_le _

theorem safe_onRxReadyRead (notifyNow : Bool) (holds : rule.Inv rule.inLoop world) :
    rule.Safe (onRxReadyRead notifyNow) (fun _ => rule.Inv rule.inLoop) world := by
  unfold Safe onRxReadyRead
  simp only [Prog.safe_monadBind, Prog.safe_get, Prog.safe_ite, Prog.safe_modify,
    Prog.safe_pure, Prog.safe_ret, Prog.safe_ask, Prog.safe_call, Prog.question, Prog.invoke]
  refine ⟨rule.always _ _ holds, fun full => ?_, fun room => ⟨holds, fun ret allowed => ?_⟩⟩
  · exact ⟨rule.idle, ⟨holds, full⟩, fun _ _ _ promised => promised⟩
  · have stored := rule.stored world (readBytes ret) holds room (readBytes_length allowed)
    have known := rule.always _ _ stored
    exact ⟨known, known, fun _ => ⟨rule.idle, stored, fun _ _ _ promised => promised⟩,
      fun _ => stored⟩

/-- The loop reads the remaining size again after the callbacks, so nothing
has to be known about what they did to it. -/
theorem safe_onRxReadyLoop (notifyNow : Bool) (holds : rule.Inv rule.inLoop world) :
    rule.Safe (onRxReadyLoop notifyNow) (fun _ => rule.Inv rule.inLoop) world := by
  unfold Safe onRxReadyLoop
  simp only [Prog.safe_monadBind, Prog.safe_get, Prog.safe_ite]
  refine ⟨rule.always _ _ holds, fun _ => ?_, fun _ => rule.safe_onRxReadyRead notifyNow holds⟩
  apply Prog.Safe.mono (rule.safe_notifyRxBuffer holds)
  intro _ later flushed
  apply Prog.Safe.andThen (rule.safe_switchRxBuffer_request flushed)
  intro _ last kept
  exact rule.safe_onRxReadyRead false (rule.unflushed _ last kept)

theorem safe_onRxReady (holds : rule.Inv rule.idle world)
    (enabled : world.adapter.rx.enabled = true) :
    rule.Safe onRxReady (fun _ => rule.Inv rule.idle) world := by
  unfold Safe onRxReady
  simp only [Prog.safe_monadBind, Prog.safe_modify, Prog.safe_ite, Prog.safe_pure,
    Prog.safe_ret, Prog.safe_call, Prog.invoke]
  have begun := rule.onRxReadyBegin world holds enabled
  refine ⟨rule.always _ _ begun, rule.idle, begun, ?_⟩
  intro notifyNow later _ promised
  have ended := rule.onRxReadyEnd later promised
  refine ⟨rule.always _ _ ended, fun _ => ?_, fun _ => ended⟩
  apply Prog.Safe.mono (rule.safe_notifyRxBuffer ended)
  exact fun _ last flushed => rule.unflushed _ last flushed

/-- The parts of the handler run one after the other; reception and errors look
at the enabled flag again, after whatever the callbacks of transmission did. -/
theorem safe_uartIrqHandler (holds : rule.Inv rule.idle world) :
    rule.Safe uartIrqHandler (fun _ => rule.Inv rule.idle) world := by
  refine safe_uartIrqHandler_of_parts (fun _ kept => rule.always _ _ kept) (fun _ _ _ => trivial)
    (fun _ _ => trivial) ?_ ?_ ?_ ?_ holds
  · exact fun _ kept => rule.safe_onTxReady kept
  · exact fun _ kept => rule.safe_onTxComplete kept
  · exact fun _ kept enabled => rule.safe_onRxReady kept enabled
  · exact fun _ rxErr kept _ _ => rule.safe_onError rxErr kept

theorem safe_txTimeout (holds : rule.Inv rule.idle world)
    (allowed : policy.fire world .txTimeout) :
    rule.Safe txTimeout (fun _ => rule.Inv rule.idle) world := by
  unfold Safe txTimeout
  simp only [Prog.safe_monadBind, Prog.safe_modify]
  have expired := rule.txTimer world holds allowed
  exact ⟨rule.always _ _ expired, rule.safe_txAbort expired⟩

theorem safe_rxTimeout (holds : rule.Inv rule.idle world)
    (allowed : policy.fire world .rxTimeout) :
    rule.Safe rxTimeout (fun _ => rule.Inv rule.idle) world := by
  unfold Safe rxTimeout
  simp only [Prog.safe_monadBind, Prog.safe_modify]
  have expired := rule.rxTimer world holds allowed
  refine ⟨rule.always _ _ expired, Prog.Safe.mono (rule.safe_notifyRxBuffer expired) ?_⟩
  exact fun _ later flushed => rule.unflushed _ later flushed

theorem safe_handle (handler : Handler) (holds : rule.Inv rule.idle world)
    (allowed : policy.fire world handler)
    (called : forall call, handler = .client call -> policy.call world call) :
    rule.Safe (handle handler) (fun _ => rule.Inv rule.idle) world := by
  cases handler with
  | uartIrq => exact rule.safe_uartIrqHandler holds
  | txTimeout => exact rule.safe_txTimeout holds allowed
  | rxTimeout => exact rule.safe_rxTimeout holds allowed
  | client call =>
      have safe := rule.safe_apiCall call (.inl rfl) holds (called call rfl)
      exact Prog.Safe.andThen safe fun _ _ kept => kept
  | elapse ticks =>
      have later := rule.elapsed world ticks holds
      exact ⟨rule.always _ _ later, later⟩

/-- In a callback the client makes calls until it returns. -/
theorem safe_anyClient (evt : UartEvent) (holds : rule.Inv (rule.inCallback ctx) world) :
    rule.Safe (anyClient evt) (fun _ later => rule.Inv ctx (later.observe .callbackReturned))
      world := by
  unfold Safe anyClient
  simp only [Prog.safe_monadBind, Prog.safe_ret, Prog.safe_ask, Prog.question]
  refine ⟨⟨ctx, holds⟩, fun answer allowed => ?_⟩
  cases answer with
  | none => exact rule.leave ctx world evt holds allowed
  | some call =>
      have safe := rule.safe_apiCall call (.inr ⟨ctx, rfl⟩) holds allowed
      apply Prog.Safe.andThen safe
      intro _ later kept
      exact ⟨ctx, kept, fun _ _ _ promised => promised⟩

theorem safe_environment (holds : rule.Inv rule.idle world) :
    rule.Safe environment (fun _ _ => True) world := by
  unfold Safe environment
  simp only [Prog.safe_monadBind, Prog.safe_ret, Prog.safe_ask, Prog.safe_call, Prog.question,
    Prog.invoke]
  refine ⟨holds, fun next allowed => ⟨rule.idle, ⟨holds, allowed.1, allowed.2⟩, ?_⟩⟩
  exact fun _ later _ kept => ⟨rule.idle, kept, fun _ _ _ _ => trivial⟩

end Functions

theorem honours : (adapterSystem policy).Honours rule.contract := by
  intro proc ctx world _ assumed
  cases proc with
  | environment => exact rule.safe_environment assumed
  | handler handler => exact rule.safe_handle handler assumed.1 assumed.2.1 assumed.2.2
  | userCallback evt =>
      refine ⟨rule.always _ _ assumed, ctx, assumed, fun _ later _ promised => ?_⟩
      exact ⟨rule.always _ _ promised, promised⟩
  | client evt => exact rule.safe_anyClient evt assumed
  | rxDisableLoop dev =>
      cases dev with
      | adapter => exact rule.safe_rxDisableLoop assumed
      | target => exact rule.safe_rxDisableLoop_target assumed
  | onRxReadyLoop notifyNow => exact rule.safe_onRxReadyLoop notifyNow assumed
  | dropLoop => exact rule.safe_dropLoop assumed.1 assumed.2

/-! ### What an invariant gives for runs -/

section Runs

variable (initially : forall target memory app,
  rule.Inv rule.idle (World.initial target memory app))
variable {current : AdapterConfig App} (reached : Reached policy current)

include initially reached

/-- Between any two sections of a run. -/
theorem reached_always : rule.Always current.state := by
  rcases reached with ⟨target, memory, app, reachable⟩
  have started := initially target memory app
  exact System.always_of_reachable reachable rule.honours (rule.always _ _ started)
    (rule.safe_environment started)

theorem between (here : BetweenHandlers current) : rule.Inv rule.idle current.state := by
  rcases reached with ⟨target, memory, app, reachable⟩
  rcases here with ⟨next, same⟩
  have started := initially target memory app
  exact System.asked_of_reachable reachable rule.honours (rule.always _ _ started)
    (rule.safe_environment started) same

theorem inClient {evt : UartEvent} (here : InClient evt current) :
    exists ctx, rule.Inv (rule.inCallback ctx) current.state := by
  rcases reached with ⟨target, memory, app, reachable⟩
  rcases here with ⟨next, same⟩
  have started := initially target memory app
  exact System.asked_of_reachable reachable rule.honours (rule.always _ _ started)
    (rule.safe_environment started) same

theorem reading {size : Nat} (here : Reading size current) :
    rule.Inv rule.inLoop current.state := by
  rcases reached with ⟨target, memory, app, reachable⟩
  rcases here with ⟨next, same⟩
  have started := initially target memory app
  exact System.asked_of_reachable reachable rule.honours (rule.always _ _ started)
    (rule.safe_environment started) same

theorem settled (here : Settled current) : exists ctx, rule.Inv ctx current.state := by
  rcases here with between | ⟨evt, inClient⟩
  · exact ⟨rule.idle, rule.between initially reached between⟩
  · rcases rule.inClient initially reached inClient with ⟨ctx, holds⟩
    exact ⟨rule.inCallback ctx, holds⟩

theorem starting {handler : Handler} (here : Starting handler current) :
    rule.Inv rule.idle current.state ∧ policy.fire current.state handler := by
  rcases reached with ⟨target, memory, app, reachable⟩
  rcases here with ⟨next, same⟩
  have started := initially target memory app
  rcases System.pre_of_reachable reachable rule.honours (rule.always _ _ started)
    (rule.safe_environment started) same with ⟨_, holds, allowed, _⟩
  exact ⟨holds, allowed⟩

theorem delivering {evt : UartEvent} (here : Delivering evt current) :
    exists ctx, rule.Inv (rule.inCallback ctx) (current.state.observe (.event evt)) := by
  rcases reached with ⟨target, memory, app, reachable⟩
  rcases here with ⟨next, same⟩
  have started := initially target memory app
  exact System.pre_of_reachable reachable rule.honours (rule.always _ _ started)
    (rule.safe_environment started) same

end Runs

end CallbackInvariant

end Uart
end NrfExamples
