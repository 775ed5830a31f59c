import NrfExamples.Uart.AdapterRuns
import NrfExamples.Uart.Composition

namespace NrfExamples
namespace Uart
namespace Dropping

open Reentrant Prog AdapterProg

/-!
# Bytes that are thrown away

`on_rx_ready` throws bytes away if there is no room after it has switched
buffers.  The switch ends with a request to the client, and a buffer that the
client gives in its reply is not switched to.  So a client that replies while
there is no room loses bytes although it has given a buffer; one that replies
only while there is room does not.
-/

variable {App : Type}

/-- The inner loop of `on_rx_ready` is about to throw away a byte. -/
def AboutToDrop (config : AdapterConfig App) : Prop :=
  exists next, config.prog = .call .dropLoop next

/-- There is room in the current buffer, or no buffer behind it. -/
def RoomOrNone (world : World App) : Prop :=
  world.adapter.rx.sizeLeft ≠ 0 ∨ world.adapter.rx.nextBuf = none

instance (world : World App) : Decidable (RoomOrNone world) :=
  inferInstanceAs (Decidable (_ ∨ _))

/-- When the client returns from a request, it has not given a buffer while there
is no room. -/
def repliesInTime (world : World App) (evt : UartEvent) : Prop :=
  evt = .rxBufRequest -> RoomOrNone world

instance (world : World App) (evt : UartEvent) : Decidable (repliesInTime world evt) :=
  inferInstanceAs (Decidable (_ -> _))

abbrev timelyReplies : Policy App where
  call := fun _ _ => True
  leave := repliesInTime
  fire := fun _ _ => True

/-- The client does what it likes. -/
abbrev anyReplies : Policy App := .calling fun _ _ => True

/-- Bytes are thrown away only without room and without a next buffer; and a
request leaves the client as the policy says. -/
def dropContract : Contract (adapterInterface App) where
  Ghost := fun _ => Unit
  always := fun _ => True
  asked := fun _ _ => True
  pre := fun proc _ world =>
    match proc with
    | .dropLoop => world.adapter.rx.sizeLeft = 0 ∧ world.adapter.rx.nextBuf = none
    | _ => True
  post := fun proc _ _ world =>
    match proc with
    | .userCallback .rxBufRequest | .client .rxBufRequest => RoomOrNone world
    | _ => True

abbrev DropSafe {A : Type} (program : AdapterProg App A) (goal : A -> World App -> Prop)
    (world : World App) : Prop :=
  Prog.Safe (adapterSystem timelyReplies) dropContract program goal world

/-- The procedure is not the loop that throws bytes away. -/
def KeepsBytes (proc : Proc) : Prop :=
  proc ≠ .dropLoop

section Functions

variable {world : World App}

theorem safe_of_keepsBytes {A : Type} {program : AdapterProg App A}
    (callsOnly : program.CallsOnly KeepsBytes) : DropSafe program (fun _ _ => True) world := by
  apply callsOnly.safe (fun _ => trivial) (fun _ _ => trivial)
  intro proc keeps
  refine ⟨(), fun _ => ?_⟩
  cases proc with
  | dropLoop => exact absurd rfl keeps
  | _ => trivial

theorem keepsBytes_userCallback (dev : Device) (evt : UartEvent) :
    (userCallback dev evt : AdapterProg App Unit).CallsOnly KeepsBytes := by
  cases dev with
  | adapter => exact Prog.callsOnly_invoke fun same => nomatch same
  | target => exact Prog.callsOnly_modify _

theorem keepsBytes_deliver (evt : Option UartEvent) :
    (deliver evt : AdapterProg App Unit).CallsOnly KeepsBytes := by
  cases evt with
  | none => trivial
  | some made => exact keepsBytes_userCallback .adapter made

theorem keepsBytes_switchRxBuffer (dev : Device) (requestNew : Bool) :
    (switchRxBuffer dev requestNew : AdapterProg App Unit).CallsOnly KeepsBytes := by
  have request : (if requestNew then notifyRxBufferReq dev else pure () :
      AdapterProg App Unit).CallsOnly KeepsBytes := by
    cases requestNew with
    | true => exact keepsBytes_userCallback dev _
    | false => trivial
  intro oldBuf
  cases oldBuf with
  | none => exact request
  | some address =>
      apply (keepsBytes_userCallback dev _).andThen
      exact fun _ => request

/-- All but the loops of `on_rx_ready` leaves the bytes alone. -/
abbrev keepsBytes : Composition App where
  Holds program := program.CallsOnly KeepsBytes
  result _ := trivial
  andThen _ _ := Prog.CallsOnly.andThen
  reading _ := Prog.callsOnly_get _
  readingBuf _ := Prog.callsOnly_get _
  plain run _ := Prog.callsOnly_modify run
  question _ := fun _ => trivial
  calling _ _ keeps := Prog.callsOnly_invoke keeps
  disabled dev := keepsBytes_userCallback dev _
  stopped _ := keepsBytes_userCallback .adapter _
  notifying evt := keepsBytes_deliver evt
  completing evt := keepsBytes_deliver evt
  aborting := by
    intro evt
    apply (keepsBytes_deliver evt).andThen
    exact fun _ => trivial
  switching := keepsBytes_switchRxBuffer
  direct call isDirect := by
    cases call with
    | txAbort => cases isDirect
    | rxDisable => cases isDirect
    | _ => exact fun _ _ _ => trivial

/-! ### What the client and the loops do -/

/-- A client that is asked for a buffer returns as the policy says. -/
theorem safe_anyClient (evt : UartEvent) :
    DropSafe (anyClient evt) (fun _ later => evt = .rxBufRequest -> RoomOrNone later) world := by
  refine (Prog.safe_ask _ _).mpr ⟨trivial, fun answer allowed => ?_⟩
  cases answer with
  | none => exact allowed
  | some call =>
      apply Prog.Safe.andThen (safe_of_keepsBytes (keepsBytes.holds_apiCall call))
      intro _ later _
      refine (Prog.safe_call _ _).mpr ⟨(), trivial, fun _ last _ promised same => ?_⟩
      subst same
      exact promised

theorem safe_userCallback (evt : UartEvent) :
    DropSafe (body (some fun evt => invoke (.client evt)) (.userCallback evt))
      (fun _ later => evt = .rxBufRequest -> RoomOrNone later) world := by
  refine ⟨trivial, (), trivial, fun _ later _ promised => ⟨trivial, fun same => ?_⟩⟩
  subst same
  exact promised

/-- The switch of `on_rx_ready` ends with the request. -/
theorem safe_switchRxBuffer :
    DropSafe (switchRxBuffer .adapter true) (fun _ => RoomOrNone) world := by
  have request : forall later : World App,
      DropSafe (notifyRxBufferReq .adapter) (fun _ => RoomOrNone) later :=
    fun later => ⟨(), trivial, fun _ _ _ promised => promised⟩
  apply Prog.perform_then trivial
  dsimp only
  split
  · exact ⟨(), trivial, fun _ later _ _ => request later⟩
  · exact request _

theorem safe_onRxReadyRead (notifyNow : Bool) (roomOrNone : RoomOrNone world) :
    DropSafe (onRxReadyRead notifyNow) (fun _ _ => True) world := by
  apply Prog.get_then trivial
  split
  · rename_i full
    have none := roomOrNone.resolve_left (not_not_intro full)
    exact ⟨(), ⟨full, none⟩, fun _ _ _ _ => trivial⟩
  · refine (Prog.safe_ask _ _).mpr ⟨trivial, fun ret _ => ?_⟩
    apply Prog.modify_then trivial
    apply Prog.get_then trivial
    dsimp only
    split
    · exact ⟨(), trivial, fun _ _ _ _ => trivial⟩
    · trivial

theorem safe_onRxReadyLoop (notifyNow : Bool) :
    DropSafe (onRxReadyLoop notifyNow) (fun _ _ => True) world := by
  apply Prog.get_then trivial
  split
  · apply Prog.Safe.andThen (safe_of_keepsBytes keepsBytes.notifying)
    intro _ first _
    apply Prog.Safe.andThen safe_switchRxBuffer
    exact fun _ second roomOrNone => safe_onRxReadyRead false roomOrNone
  · rename_i room
    exact safe_onRxReadyRead notifyNow (.inl room)

theorem safe_dropLoop (full : world.adapter.rx.sizeLeft = 0)
    (none : world.adapter.rx.nextBuf = none) : DropSafe dropLoop (fun _ _ => True) world := by
  refine (Prog.safe_ask _ _).mpr ⟨trivial, fun ret _ => ?_⟩
  apply Prog.modify_then trivial
  split
  · exact ⟨(), ⟨full, none⟩, fun _ _ _ _ => trivial⟩
  · trivial

end Functions

theorem drop_honours :
    (adapterSystem (timelyReplies : Policy App)).Honours dropContract := by
  intro proc _ world _ assumed
  cases proc with
  | environment => exact safe_of_keepsBytes keepsBytes.holds_environment
  | handler handler => exact safe_of_keepsBytes (keepsBytes.holds_handle handler)
  | userCallback evt =>
      apply (safe_userCallback evt).mono
      intro _ later promised
      cases evt with
      | rxBufRequest => exact promised rfl
      | _ => trivial
  | client evt =>
      apply (safe_anyClient evt).mono
      intro _ later promised
      cases evt with
      | rxBufRequest => exact promised rfl
      | _ => trivial
  | rxDisableLoop dev => exact safe_of_keepsBytes (keepsBytes.holds_rxDisableLoop dev)
  | onRxReadyLoop notifyNow => exact safe_onRxReadyLoop notifyNow
  | dropLoop => exact safe_dropLoop assumed.1 assumed.2

/-- If the client replies to requests only while there is room, then bytes are
thrown away only when there is neither room nor a next buffer. -/
theorem dropped_without_buffer {current : AdapterConfig App}
    (reached : Reached timelyReplies current) (here : AboutToDrop current) :
    current.state.adapter.rx.sizeLeft = 0 ∧ current.state.adapter.rx.nextBuf = none := by
  rcases reached with ⟨target, memory, app, reachable⟩
  rcases here with ⟨next, same⟩
  rcases System.pre_of_reachable reachable drop_honours trivial
    (safe_of_keepsBytes keepsBytes.holds_environment) same with ⟨_, without⟩
  exact without

/-! ## Two runs -/

/-- Reception is enabled with room for one byte, which an interrupt brings; the
client does not reply to the first request. -/
def oneByte : List (Sigma Answer) :=
  [⟨.next, .client (.rxEnable (some ⟨1, 0⟩) 1 100)⟩] ++ irqStarts ++
    [⟨.flag .irqRxReady, true⟩, ⟨.client .rxBufRequest, none⟩, ⟨.fifoRead 1, .ok [7]⟩,
      ⟨.client (.rxRdy (some ⟨1, 0⟩) 0 1), none⟩, ⟨.client (.rxBufReleased (some ⟨1, 0⟩)), none⟩]

/-- Nor does it reply to the second one, and the next byte is thrown away. -/
def withoutBufferRun : AdapterConfig Unit :=
  scripted timelyReplies 51 () (oneByte ++
    [⟨.client .rxBufRequest, none⟩, ⟨.fifoRead 1, .ok [8]⟩])

theorem withoutBufferRun_dropped :
    withoutBufferRun.state.log.head? = some (.dropped [8]) ∧
      withoutBufferRun.state.adapter.rx.sizeLeft = 0 ∧
        withoutBufferRun.state.adapter.rx.nextBuf = none := by
  constructor
  · decide +kernel
  · have here : pendingCall withoutBufferRun = some .dropLoop := by decide +kernel
    exact dropped_without_buffer (scripted_reached timelyReplies 51 () _)
      (exists_of_pendingCall here)

/-- It gives a buffer in reply to the second request, and the next byte is thrown
away all the same. -/
def lateReplyRun : AdapterConfig Unit :=
  scripted anyReplies 56 () (oneByte ++
    [⟨.client .rxBufRequest, some (.rxBufRsp (some ⟨2, 0⟩) 4)⟩, ⟨.client .rxBufRequest, none⟩,
      ⟨.fifoRead 1, .ok [8]⟩])

/-- `on_rx_ready` does not switch to the buffer that the client has just given. -/
theorem not_dropped_without_buffer :
    lateReplyRun.state.log.head? = some (.dropped [8]) ∧
      ¬ forall current : AdapterConfig Unit, Reached anyReplies current -> AboutToDrop current ->
        current.state.adapter.rx.sizeLeft = 0 ∧ current.state.adapter.rx.nextBuf = none := by
  constructor
  · decide +kernel
  · intro claim
    have here : pendingCall lateReplyRun = some .dropLoop := by decide +kernel
    have without := claim lateReplyRun (scripted_reached anyReplies 56 () _)
      (exists_of_pendingCall here)
    have given : lateReplyRun.state.adapter.rx.nextBuf ≠ none := by decide +kernel
    exact given without.2

end Dropping
end Uart
end NrfExamples
