import NrfExamples.Uart.CallStack

namespace NrfExamples
namespace Uart

/-!
# Silence after `UART_RX_DISABLED`

Reception is quiet from the event that says it is disabled to the next call of
`rx_enable`.  The adapter keeps quiet by itself between handlers, because it
looks at the flag before it does anything.  It does not look again when a
callback returns into the loop of `on_rx_ready`, and `rx_disable` does not look
whether a callback has enabled reception again before it reports that reception
is disabled.  A client that never returns into these two places in that state
sees no event and no byte of reception while it is quiet.
-/

variable {App : Type}

/-- Reception was disabled and has not been enabled since. -/
def quiet : List Obs -> Bool
  | [] => false
  | .event .rxDisabled :: _ => true
  | .called (.rxEnable _ _ _) :: _ => false
  | _ :: log => quiet log

/-- No event about received data, and no byte taken from the target. -/
def silentWhileQuiet : Obs -> List Obs -> Prop
  | .event (.rxRdy _ _ _), log | .event .rxBufRequest, log | .event (.rxBufReleased _), log =>
      quiet log = false
  | .stored _ bytes, log | .dropped bytes, log => quiet log = true -> bytes = []
  | _, _ => True

/-- A callback does not return into the loop of `on_rx_ready` while reception is
quiet, nor into `rx_disable` while reception is enabled. -/
def returnsSettled (world : World App) (_evt : UartEvent) : Prop :=
  (caller world = some .rxLoop -> quiet world.log = false) ∧
    (caller world = some .rxDisable -> world.adapter.rx.enabled = false)

instance (world : World App) (evt : UartEvent) : Decidable (returnsSettled world evt) :=
  inferInstanceAs (Decidable (_ ∧ _))

/-- The client does what it likes. -/
abbrev anything : Policy App := .calling fun _ _ => True

abbrev settledReturns : Policy App where
  call := fun _ _ => True
  leave := returnsSettled
  fire := fun _ _ => True

/-- While reception is quiet it is also disabled and without a buffer. -/
structure QuietInv (world : World App) : Prop where
  disabled : quiet world.log = true ->
    world.adapter.rx.enabled = false ∧ world.adapter.rx.buf = none
  inDisable : (stack world.log).head? = some .rxDisable -> world.adapter.rx.enabled = false
  inLoop : (stack world.log).head? = some .rxLoop -> quiet world.log = false
  silent : EachEntry silentWhileQuiet world.log

namespace QuietInv

variable {world later : World App}

/-- The same buffer, flag and running functions, and an entry that is no threat. -/
theorem frame (holds : QuietInv world) (quietLog : quiet later.log = quiet world.log)
    (stackLog : stack later.log = stack world.log)
    (enabled : later.adapter.rx.enabled = world.adapter.rx.enabled)
    (buf : later.adapter.rx.buf = world.adapter.rx.buf)
    (silent : EachEntry silentWhileQuiet later.log) : QuietInv later := by
  refine ⟨?_, ?_, ?_, silent⟩
  · rw [quietLog, enabled, buf]
    exact holds.disabled
  · rw [stackLog, enabled]
    exact holds.inDisable
  · rw [stackLog, quietLog]
    exact holds.inLoop

/-- An event calls the client, which knows nothing about its caller. -/
theorem event (holds : QuietInv world) {evt : UartEvent} (other : evt ≠ .rxDisabled)
    (silent : silentWhileQuiet (.event evt) world.log) :
    QuietInv (world.observe (.event evt)) := by
  have quietLog : quiet (.event evt :: world.log) = quiet world.log := by
    cases evt with
    | rxDisabled => exact absurd rfl other
    | _ => rfl
  have stackLog : stack (.event evt :: world.log) = .callback :: stack world.log := by
    cases evt with
    | rxDisabled => exact absurd rfl other
    | _ => rfl
  refine ⟨?_, ?_, ?_, silent, holds.silent⟩
  · intro still
    exact holds.disabled (quietLog.symm.trans still)
  · intro impossible
    rw [World.observe_log, stackLog] at impossible
    cases impossible
  · intro impossible
    rw [World.observe_log, stackLog] at impossible
    cases impossible

/-- Transmission and the passing of time are no threat. -/
theorem left (holds : QuietInv world) (same : LeavesReception world later) : QuietInv later := by
  rcases same.rx with ⟨timer, rx⟩
  have quietLog : quiet later.log = quiet world.log := by
    apply same.read quiet
    intro obs log transmit
    cases obs with
    | event evt => cases transmit
    | called call =>
        cases call with
        | rxEnable buf len timeout => cases transmit
        | _ => rfl
    | _ => rfl
  have silent : EachEntry silentWhileQuiet later.log := by
    rw [same.eachEntry]
    · exact holds.silent
    · intro obs log transmit
      cases obs with
      | event evt => cases transmit
      | stored dest bytes => cases transmit
      | dropped bytes => cases transmit
      | _ => trivial
  exact holds.frame quietLog same.stack (by rw [rx]) (by rw [rx]) silent

/-- An entry that neither changes what is running nor says anything of reception. -/
theorem observe (holds : QuietInv world) {obs : Obs}
    (quietLog : quiet (obs :: world.log) = quiet world.log)
    (stackLog : stack (obs :: world.log) = stack world.log)
    (silent : silentWhileQuiet obs world.log) : QuietInv (world.observe obs) :=
  holds.frame quietLog stackLog rfl rfl ⟨silent, holds.silent⟩

theorem assertNoMsg (holds : QuietInv world) (what : Assertion) (success : Bool) :
    QuietInv (world.assertNoMsg what success) := by
  cases success with
  | true => exact holds
  | false => exact holds.observe rfl rfl trivial

theorem notQuiet_of_buf (holds : QuietInv world) (present : world.adapter.rx.buf.isSome) :
    quiet world.log = false := by
  by_contra still
  have none := (holds.disabled (by simpa using still)).2
  rw [none] at present
  cases present

theorem notQuiet_of_enabled (holds : QuietInv world) (enabled : world.adapter.rx.enabled = true) :
    quiet world.log = false := by
  by_contra still
  have disabled := (holds.disabled (by simpa using still)).1
  rw [disabled] at enabled
  cases enabled

theorem notQuiet_of_loop (holds : QuietInv world) (loop : stack world.log = [.rxLoop]) :
    quiet world.log = false :=
  holds.inLoop (by rw [loop]; rfl)

/-- The client returns to where the policy lets it return. -/
theorem leave (holds : QuietInv world) (evt : UartEvent) (allowed : returnsSettled world evt) :
    QuietInv (world.observe .callbackReturned) :=
  ⟨holds.disabled, allowed.2, allowed.1, trivial, holds.silent⟩

theorem rxEnable (holds : QuietInv world) (buf : Pointer) (len : Nat) (timeout : Int)
    (outside : stack world.log = [] ∨ (stack world.log).head? = some .callback) :
    QuietInv (world.directCall (.rxEnable buf len timeout) (World.rxEnable buf len timeout)) := by
  refine ⟨?_, ?_, fun _ => rfl, trivial, trivial, holds.silent⟩
  · intro impossible
    cases impossible
  · exact fun running => absurd running (not_rxDisable_of_outside outside)

theorem rxBufRsp (holds : QuietInv world) (buf : Pointer) (len : Nat) :
    QuietInv (world.directCall (.rxBufRsp buf len) (World.rxBufRsp buf len)) := by
  have called : QuietInv (world.observe (.called (.rxBufRsp buf len))) :=
    holds.observe rfl rfl trivial
  rcases world.directCall_rxBufRsp_cases buf len with ⟨_, same⟩ | ⟨_, same⟩
  · rw [same]
    exact called.observe rfl rfl trivial
  · rw [same]
    have checked := called.assertNoMsg .rxNextBufLenZero (world.adapter.rx.nextBufLen = 0)
    refine QuietInv.observe ?_ rfl rfl trivial
    exact checked.frame rfl rfl (by simp) (by simp) checked.silent

theorem rxDisableBegin (holds : QuietInv world) :
    QuietInv ((world.observe (.called .rxDisable)).rxDisable .adapter) := by
  refine ⟨?_, fun _ => rfl, ?_, trivial, holds.silent⟩
  · intro still
    exact ⟨rfl, (holds.disabled still).2⟩
  · intro impossible
    cases impossible

theorem rxDisabled (holds : QuietInv world)
    (running : (stack world.log).head? = some .rxDisable) (none : world.adapter.rx.buf = none) :
    QuietInv (world.observe (.event .rxDisabled)) := by
  refine ⟨fun _ => ⟨holds.inDisable running, none⟩, ?_, ?_, trivial, holds.silent⟩
  · intro impossible
    cases impossible
  · intro impossible
    cases impossible

/-- A buffer is replaced only while reception is not quiet. -/
theorem switchRxBuffer (holds : QuietInv world) (notQuiet : quiet world.log = false) :
    QuietInv (world.switchRxBuffer .adapter).2 := by
  refine ⟨?_, holds.inDisable, holds.inLoop, holds.silent⟩
  intro still
  exact absurd (notQuiet.symm.trans still) Bool.false_ne_true

theorem notified (holds : QuietInv world) (pending : world.unnotified = true) :
    QuietInv ((world.setRx
      { world.adapter.rx with lastNotifyBuf := world.adapter.rx.currBuf }).observe
        (.event (.rxRdy world.adapter.rx.buf
          (world.adapter.rx.lastNotifyBuf.diff world.adapter.rx.buf)
          (world.adapter.rx.currBuf.diff world.adapter.rx.lastNotifyBuf)))) := by
  have notQuiet := holds.notQuiet_of_buf (Bool.and_eq_true_iff.mp pending).1
  have advanced : QuietInv (world.setRx
      { world.adapter.rx with lastNotifyBuf := world.adapter.rx.currBuf }) :=
    holds.frame rfl rfl rfl rfl holds.silent
  exact advanced.event (by simp) notQuiet

theorem onRxReadyBegin (holds : QuietInv world) (enabled : world.adapter.rx.enabled = true) :
    QuietInv (world.observe (.rxLoop true)) := by
  refine ⟨holds.disabled, ?_, fun _ => holds.notQuiet_of_enabled enabled, trivial, holds.silent⟩
  intro impossible
  cases impossible

theorem onRxReadyStore (holds : QuietInv world) (bytes : List UInt8)
    (notQuiet : quiet world.log = false) (fits : bytes.length ≤ world.adapter.rx.sizeLeft) :
    QuietInv (world.onRxReadyStore bytes) := by
  rw [World.onRxReadyStore_of_fits fits]
  refine holds.frame ?_ ?_ rfl rfl ?_
  · simp [quiet]
  · simp [stack]
  · simpa [EachEntry, silentWhileQuiet, notQuiet] using holds.silent

theorem onRxReadyEnd (holds : QuietInv world) (loop : stack world.log = [.rxLoop]) :
    QuietInv (world.observe (.rxLoop false)) := by
  have empty : stack (.rxLoop false :: world.log) = [] := congrArg List.tail loop
  refine ⟨holds.disabled, ?_, ?_, trivial, holds.silent⟩
  · intro impossible
    rw [World.observe_log, empty] at impossible
    cases impossible
  · intro impossible
    rw [World.observe_log, empty] at impossible
    cases impossible

end QuietInv

/-! ## Runs -/

def quietness : FramedInvariant (settledReturns : Policy App) where
  Inv := QuietInv
  left := fun _ _ holds same => holds.left same
  aside := fun _ evt holds aside => by
    cases evt with
    | txDone buf len => exact holds.event (by simp) trivial
    | txAborted buf len => exact holds.event (by simp) trivial
    | rxStopped reason => exact holds.event (by simp) trivial
    | _ => cases aside
  leave := fun _ evt holds allowed _ => holds.leave evt allowed
  rxEnable := fun _ buf len timeout holds _ outside => holds.rxEnable buf len timeout outside
  rxBufRsp := fun _ buf len holds _ _ => holds.rxBufRsp buf len
  rxDisableBegin := fun _ holds _ => holds.rxDisableBegin
  rxDisableSwitch := fun _ holds _ present => by
    have notQuiet := holds.notQuiet_of_buf present
    exact (holds.switchRxBuffer notQuiet).event (by simp) notQuiet
  rxDisabled := fun _ holds running none => holds.rxDisabled running none
  rxDisableReturned := fun _ _ _ holds => holds.observe rfl rfl trivial
  notified := fun _ holds pending => holds.notified pending
  checked := fun _ what success holds => holds.assertNoMsg what success
  onRxReadyBegin := fun _ holds _ enabled => holds.onRxReadyBegin enabled
  switched := fun _ holds loop _ => by
    have notQuiet := holds.notQuiet_of_loop loop
    exact (holds.switchRxBuffer notQuiet).event (by simp) notQuiet
  switchedNone := fun _ holds loop _ => holds.switchRxBuffer (holds.notQuiet_of_loop loop)
  requested := fun _ holds loop => holds.event (by simp) (holds.notQuiet_of_loop loop)
  stored := fun _ bytes holds loop _ fits =>
    holds.onRxReadyStore bytes (holds.notQuiet_of_loop loop) fits
  dropped := fun _ _ holds loop _ => by
    apply holds.observe rfl rfl
    intro still
    exact absurd ((holds.notQuiet_of_loop loop).symm.trans still) Bool.false_ne_true
  onRxReadyEnd := fun _ holds loop => holds.onRxReadyEnd loop
  Always := fun world => EachEntry silentWhileQuiet world.log
  always := fun _ holds => holds.silent
  called := fun _ _ known => ⟨trivial, known⟩
  alwaysChecked := fun _ success known => by
    cases success with
    | true => exact known
    | false => exact ⟨trivial, known⟩
  forget := fun _ _ _ known => known.2

theorem quietInv_initial (target : AdapterData) (memory : Nat -> Nat -> UInt8) (app : App) :
    stack (World.initial target memory app).log = [] ∧
      QuietInv (World.initial target memory app) := by
  refine ⟨rfl, ?_, ?_, ?_, trivial⟩
  · intro impossible
    cases impossible
  · intro impossible
    cases impossible
  · intro impossible
    cases impossible

/-- If the client never returns into the loop of `on_rx_ready` while reception
is quiet, nor into `rx_disable` while it is enabled, nothing is delivered and no
byte is read between `UART_RX_DISABLED` and the next `rx_enable`. -/
theorem silent_while_quiet {current : AdapterConfig App}
    (reached : Reached settledReturns current) :
    EachEntry silentWhileQuiet current.state.log :=
  quietness.toReception.toCallback.reached_always quietInv_initial reached

/-- Reception is enabled, and disabled again while it asks for a buffer. -/
def disabledInRequest : List (Sigma Answer) :=
  [⟨.next, .client (.rxEnable (some ⟨1, 0⟩) 4 100)⟩] ++ irqStarts ++
    [⟨.flag .irqRxReady, true⟩, ⟨.client .rxBufRequest, some .rxDisable⟩,
      ⟨.client (.rxBufReleased (some ⟨1, 0⟩)), none⟩, ⟨.client .rxDisabled, none⟩]

/-- The client enables reception again before it returns. -/
def enabledAgainRun : AdapterConfig Unit :=
  scripted settledReturns 200 () (disabledInRequest ++
    [⟨.client .rxBufRequest, some (.rxEnable (some ⟨2, 0⟩) 4 100)⟩, ⟨.client .rxBufRequest, none⟩,
      ⟨.fifoRead 1, .ok [7]⟩])

theorem enabledAgainRun_silent :
    enabledAgainRun.state.log.head? = some (.dropped [7]) ∧
      EachEntry silentWhileQuiet enabledAgainRun.state.log :=
  ⟨by decide +kernel, silent_while_quiet (scripted_reached settledReturns 200 () _)⟩

/-- The client returns at once, and the loop goes on reading. -/
def readAfterDisabledRun : AdapterConfig Unit :=
  scripted anything 200 () (disabledInRequest ++
    [⟨.client .rxBufRequest, none⟩, ⟨.fifoRead 1, .ok [7]⟩])

/-- `on_rx_ready` does not look at the flag after its callbacks. -/
theorem not_silent_while_quiet : ¬forall current : AdapterConfig Unit,
    Reached anything current -> EachEntry silentWhileQuiet current.state.log := by
  intro claim
  have each := claim readAfterDisabledRun (scripted_reached anything 200 () _)
  have read : readAfterDisabledRun.state.log.head? = some (.dropped [7]) := by decide +kernel
  have still : quiet readAfterDisabledRun.state.log.tail = true := by decide +kernel
  cases log : readAfterDisabledRun.state.log with
  | nil =>
      rw [log] at read
      cases read
  | cons obs earlier =>
      rw [log] at each read still
      cases read
      exact absurd (each.1 still) (by decide)

end Uart
end NrfExamples
