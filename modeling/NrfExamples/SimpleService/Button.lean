import Mathlib.Data.List.Induction
import NrfExamples.Reentrant.Leads
import NrfExamples.SimpleService.Central
import NrfExamples.Traces.Past

namespace NrfExamples
namespace SimpleService
namespace Button

open Reentrant Prog Traces

/-!
# Button 1 of the peripheral and the LED of the central

The other direction of the connection.  The handler of the peripheral is given
the buttons that are pressed and those that have changed, each as a mask.  It
takes notice of a change of button 1 alone, and then stores and notifies the low
byte of the whole mask.  The central compares that byte with one and zero.

So a change of button 1 together with another button is lost, and while another
of the first eight buttons is held the byte is neither one nor zero.
-/

/-! ## The peripheral -/

/-- `button_value` and `notify_enabled` -/
structure Peripheral where
  buttonValue : UInt8
  notifyEnabled : Bool
  deriving DecidableEq, Repr

abbrev EACCES : Int := 13

namespace Peripheral

/-- `send_button_notification` with the notifications that it sends, each of
which `bt_gatt_notify` accepts.  What follows its first `return`, and with it
the parameter `value`, is not used. -/
def sendButtonNotification (peripheral : Peripheral) (_value : UInt8) : Int × List UInt8 :=
  if peripheral.notifyEnabled = false then (-EACCES, [])
  else (0, [peripheral.buttonValue])

/-- `button_handler`; the cases of the other buttons are empty. -/
def buttonHandler (peripheral : Peripheral) (buttonState hasChanged : UInt32) :
    List UInt8 × Peripheral :=
  if hasChanged = DK_BTN1_MSK then
    let peripheral := { peripheral with buttonValue := buttonState.toUInt8 }
    ((peripheral.sendButtonNotification peripheral.buttonValue).2, peripheral)
  else ([], peripheral)

end Peripheral

/-- The function of the stack that serves a read: what is read with a buffer of
this length from this offset on, if the offset is valid. -/
structure GattServer where
  btGattAttrRead : (value : List UInt8) -> (len offset : Nat) -> Option (List UInt8)
  whole : forall value len, value.length ≤ len -> btGattAttrRead value len 0 = some value

/-- `read_button_chrc_cb` -/
def readButtonChrcCb (gatt : GattServer) (peripheral : Peripheral) (len offset : Nat) :
    Option (List UInt8) :=
  gatt.btGattAttrRead [peripheral.buttonValue] len offset

/-! ## The connection -/

/-- The arguments of one call of `button_handler`. -/
structure ButtonCall where
  buttonState : UInt32
  hasChanged : UInt32
  deriving DecidableEq, Repr

def isPressed (buttonState : UInt32) : Bool :=
  buttonState &&& DK_BTN1_MSK ≠ 0

def ButtonCall.changesButton1 (call : ButtonCall) : Bool :=
  isPressed call.hasChanged

/-- The peripheral with the buttons that are pressed now, the notifications on
their way, and the calls of the handler, oldest first. -/
structure ButtonLink where
  peripheral : Peripheral
  sending : List UInt8
  buttonState : UInt32
  calls : List ButtonCall
  deriving DecidableEq, Repr

namespace ButtonLink

/-- The next call of the handler. -/
def nextCall (link : ButtonLink) (buttonState : UInt32) : ButtonCall :=
  ⟨buttonState, buttonState ^^^ link.buttonState⟩

/-- The pressed buttons are now these. -/
def press (link : ButtonLink) (buttonState : UInt32) : ButtonLink :=
  let call := link.nextCall buttonState
  let handled := link.peripheral.buttonHandler call.buttonState call.hasChanged
  { peripheral := handled.2
    sending := link.sending ++ handled.1
    buttonState := buttonState
    calls := link.calls ++ [call] }

end ButtonLink

inductive ButtonEvent
  | press (buttonState : UInt32)
  | deliver
  deriving DecidableEq, Repr

abbrev ButtonProg := CentralProg ButtonLink ButtonEvent

abbrev ButtonState := CentralState ButtonLink

/-- The oldest notification arrives at the central. -/
def deliver : ButtonProg Unit := do
  let sending <- .get fun central => central.radio.sending
  match sending with
  | [] => pure ()
  | value :: later => do
      .mapRadio fun link => { link with sending := later }
      let _ <- .invoke (.onReceived (some ⟨value, 1⟩))
      pure ()

/-- What one event does. -/
def handleEvent : ButtonEvent -> ButtonProg Unit
  | .press buttonState => .mapRadio fun link => link.press buttonState
  | .deliver => deliver

def nextEvent : ButtonProg Unit := do
  let event <- .ask .next
  handleEvent event

def environment : ButtonProg Unit := do
  nextEvent
  .invoke .environment

def buttonStack : Stack ButtonLink ButtonEvent where
  environment := environment
  interrupts := pure ()
  btGattSubscribe := fun _ _ => .ask .result
  btGattWrite := fun _ _ => .ask .result
  btGattDmStart := fun _ => .ask .result
  btConnSetSecurity := fun _ => .ask .result

def buttonSystem : System (clientInterface (Central ButtonLink) ButtonEvent) where
  body := centralBody buttonStack
  permitted := fun _ _ _ => True

abbrev ButtonConfig := Config (clientInterface (Central ButtonLink) ButtonEvent) Unit

/-- The central has its callback and its LED off, notifications are enabled, and
the handler has not been called; any buttons may be pressed. -/
structure Start (central : ButtonState) : Prop where
  received : central.service.cb.received = true
  led : central.env.statusLed = false
  peripheral : central.radio.peripheral = ⟨0, true⟩
  sending : central.radio.sending = []
  calls : central.radio.calls = []

def ButtonReached (start : ButtonState) (current : ButtonConfig) : Prop :=
  buttonSystem.Reachable ⟨start, environment⟩ current

/-- No callback is running, and every notification has arrived. -/
def Quiet (current : ButtonConfig) : Prop :=
  pendingQuery current = some .next ∧ current.state.radio.sending = []

/-- Button 1 has changed at least once. -/
def Changed (calls : List ButtonCall) : Prop :=
  exists call, call ∈ calls ∧ call.changesButton1 = true

/-- Once button 1 has changed, the LED of the central is on exactly while it is
pressed, and a read returns a nonzero value exactly then. -/
def Agrees (gatt : GattServer) (central : ButtonState) : Prop :=
  Changed central.radio.calls ->
    central.env.statusLed = isPressed central.radio.buttonState ∧
      forall len, 0 < len -> exists value,
        readButtonChrcCb gatt central.radio.peripheral len 0 = some [value] ∧
          (value ≠ 0 <-> isPressed central.radio.buttonState = true)

/-- The calls of the handler for these states of the buttons. -/
def callsFrom (before : UInt32) : List UInt32 -> List ButtonCall
  | [] => []
  | buttonState :: later =>
      ⟨buttonState, buttonState ^^^ before⟩ :: callsFrom buttonState later

/-- The two devices agree whenever the notifications for a beginning of these
states of the buttons have arrived. -/
def AgreesAlong (gatt : GattServer) (start : ButtonState) (states : List UInt32) : Prop :=
  forall current, ButtonReached start current -> Quiet current ->
    current.state.radio.calls <+: callsFrom start.radio.buttonState states ->
    Agrees gatt current.state

/-- Button 1 does not change, or it changes alone and no other button in the low
byte is pressed.  The first release goes without saying, since the LED is off. -/
def Legible (before : List ButtonCall) (call : ButtonCall) : Prop :=
  call.changesButton1 = true ->
    (call.hasChanged = DK_BTN1_MSK ∧ call.buttonState.toUInt8 ≤ 1) ∨
      (call.hasChanged ≠ DK_BTN1_MSK ∧ ¬ Changed before ∧ isPressed call.buttonState = false)

/-! ## Masks -/

theorem isPressed_iff (buttonState : UInt32) :
    isPressed buttonState = true <-> buttonState.toNat % 2 = 1 := by
  have low : (buttonState &&& DK_BTN1_MSK).toNat = buttonState.toNat % 2 := by
    rw [UInt32.toNat_and]
    exact Nat.and_one_is_mod _
  unfold isPressed
  rw [decide_eq_true_eq, ne_eq, ← UInt32.toNat_inj, low]
  change ¬ buttonState.toNat % 2 = 0 <-> _
  omega

/-- A change of button 1 is a change of its bit. -/
theorem isPressed_xor (after before : UInt32) :
    isPressed (after ^^^ before) = true <-> isPressed after ≠ isPressed before := by
  rw [isPressed_iff, UInt32.toNat_xor, Nat.xor_mod_two_eq_one, ← isPressed_iff, ← isPressed_iff,
    ← Bool.eq_iff_iff]

/-- A byte of the mask that is one or zero tells whether button 1 is pressed. -/
theorem toUInt8_of_le_one {buttonState : UInt32} (low : buttonState.toUInt8 ≤ 1) :
    buttonState.toUInt8 = if isPressed buttonState = true then 1 else 0 := by
  have value : buttonState.toUInt8.toNat = buttonState.toNat % 256 := UInt32.toNat_toUInt8 _
  have bound : buttonState.toUInt8.toNat ≤ 1 := UInt8.le_iff_toNat_le.mp low
  have parity := isPressed_iff buttonState
  rw [← UInt8.toNat_inj]
  split
  · rename_i pressed
    change _ = 1
    have odd := parity.mp pressed
    omega
  · rename_i released
    change _ = 0
    have even : ¬ buttonState.toNat % 2 = 1 := fun odd => released (parity.mpr odd)
    omega

/-! ## One call of the handler -/

/-- The LED after `ble_data_received` with this byte. -/
def ledAfter (isOn : Bool) (value : UInt8) : Bool :=
  if value = 0x01 then true else if value = 0x00 then false else isOn

theorem ledAfter_of_large (isOn : Bool) {value : UInt8} (large : ¬ value ≤ 1) :
    ledAfter isOn value = isOn := by
  unfold ledAfter
  rw [if_neg (fun one => large (UInt8.le_of_eq one)), if_neg]
  rintro rfl
  exact large (by decide)

/-- The LED once the notifications on their way have arrived. -/
def finalLed (central : ButtonState) : Bool :=
  central.radio.sending.foldl ledAfter central.env.statusLed

/-- What has been notified and what can be read tell whether button 1 is
pressed. -/
def Tells (central : ButtonState) : Prop :=
  finalLed central = isPressed central.radio.buttonState ∧
    (central.radio.peripheral.buttonValue ≠ 0 <-> isPressed central.radio.buttonState = true)

/-- The devices are in step: before the first change of button 1 they show
nothing, and after it both tell its state. -/
structure InStep (central : ButtonState) : Prop where
  before : ¬ Changed central.radio.calls ->
    finalLed central = false ∧ central.radio.peripheral.buttonValue = 0
  after : Changed central.radio.calls -> Tells central

section Press

variable {central : ButtonState} {buttonState : UInt32}

theorem changed_concat {calls : List ButtonCall} {call : ButtonCall} :
    Changed (calls ++ [call]) <-> Changed calls ∨ call.changesButton1 = true := by
  unfold Changed
  simp [or_and_right, exists_or]

/-- The central while the pressed buttons become these. -/
abbrev pressed (central : ButtonState) (buttonState : UInt32) : ButtonState :=
  central.mapRadio fun link => link.press buttonState

/-- A call that the handler takes no notice of. -/
theorem press_ignored
    (other : (central.radio.nextCall buttonState).hasChanged ≠ DK_BTN1_MSK) :
    (pressed central buttonState).radio.peripheral = central.radio.peripheral ∧
      finalLed (pressed central buttonState) = finalLed central := by
  have handled : central.radio.peripheral.buttonHandler buttonState
      (central.radio.nextCall buttonState).hasChanged = ([], central.radio.peripheral) :=
    if_neg other
  have radio : (pressed central buttonState).radio = central.radio.press buttonState := rfl
  have sending : (pressed central buttonState).radio.sending = central.radio.sending := by
    rw [radio]
    unfold ButtonLink.press
    change _ ++ (central.radio.peripheral.buttonHandler buttonState
      (central.radio.nextCall buttonState).hasChanged).1 = _
    rw [handled]
    exact List.append_nil _
  constructor
  · rw [radio]
    exact congrArg Prod.snd handled
  · unfold finalLed
    rw [sending]
    rfl

/-- A call for button 1 stores and notifies the low byte. -/
theorem press_handled (enabled : central.radio.peripheral.notifyEnabled = true)
    (alone : (central.radio.nextCall buttonState).hasChanged = DK_BTN1_MSK) :
    (pressed central buttonState).radio.peripheral = ⟨buttonState.toUInt8, true⟩ ∧
      finalLed (pressed central buttonState) =
        ledAfter (finalLed central) buttonState.toUInt8 := by
  have handled : central.radio.peripheral.buttonHandler buttonState
      (central.radio.nextCall buttonState).hasChanged =
        ([buttonState.toUInt8], ⟨buttonState.toUInt8, true⟩) := by
    unfold Peripheral.buttonHandler Peripheral.sendButtonNotification
    simp [alone, enabled]
  have radio : (pressed central buttonState).radio = central.radio.press buttonState := rfl
  have sending : (pressed central buttonState).radio.sending =
      central.radio.sending ++ [buttonState.toUInt8] := by
    rw [radio]
    unfold ButtonLink.press
    change _ ++ (central.radio.peripheral.buttonHandler buttonState
      (central.radio.nextCall buttonState).hasChanged).1 = _
    rw [handled]
  constructor
  · rw [radio]
    exact congrArg Prod.snd handled
  · unfold finalLed
    rw [sending, List.foldl_append, List.foldl_cons, List.foldl_nil]
    rfl

/-- A change of button 1 alone is told exactly if the byte is one or zero. -/
theorem tells_of_alone (inStep : InStep central)
    (enabled : central.radio.peripheral.notifyEnabled = true)
    (changes : isPressed buttonState ≠ isPressed central.radio.buttonState)
    (alone : (central.radio.nextCall buttonState).hasChanged = DK_BTN1_MSK) :
    Tells (pressed central buttonState) <-> buttonState.toUInt8 ≤ 1 := by
  rcases press_handled enabled alone with ⟨peripheral, led⟩
  have tells : Tells (pressed central buttonState) <->
      ledAfter (finalLed central) buttonState.toUInt8 = isPressed buttonState ∧
        (buttonState.toUInt8 ≠ 0 <-> isPressed buttonState = true) := by
    unfold Tells
    rw [peripheral, led]
    exact Iff.rfl
  rw [tells]
  constructor
  · rintro ⟨ledTells, valueTells⟩
    by_contra large
    rw [ledAfter_of_large _ large] at ledTells
    have nonzero : buttonState.toUInt8 ≠ 0 := by
      intro zero
      rw [zero] at large
      exact large (by decide)
    have isOn := valueTells.mp nonzero
    by_cases changed : Changed central.radio.calls
    · rw [(inStep.after changed).1] at ledTells
      exact changes ledTells.symm
    · rw [(inStep.before changed).1, isOn] at ledTells
      cases ledTells
  · intro low
    rw [toUInt8_of_le_one low]
    generalize finalLed central = isOn
    cases isPressed buttonState <;> cases isOn <;> decide

/-- A change of button 1 together with another is not told, unless nothing has
been told yet and button 1 is released. -/
theorem tells_of_together (inStep : InStep central)
    (changes : isPressed buttonState ≠ isPressed central.radio.buttonState)
    (together : (central.radio.nextCall buttonState).hasChanged ≠ DK_BTN1_MSK) :
    Tells (pressed central buttonState) <->
      ¬ Changed central.radio.calls ∧ isPressed buttonState = false := by
  rcases press_ignored together with ⟨peripheral, led⟩
  have tells : Tells (pressed central buttonState) <->
      finalLed central = isPressed buttonState ∧
        (central.radio.peripheral.buttonValue ≠ 0 <-> isPressed buttonState = true) := by
    unfold Tells
    rw [peripheral, led]
    exact Iff.rfl
  rw [tells]
  constructor
  · rintro ⟨ledTells, _⟩
    have unchanged : ¬ Changed central.radio.calls := by
      intro changed
      rw [(inStep.after changed).1] at ledTells
      exact changes ledTells.symm
    rw [(inStep.before unchanged).1] at ledTells
    exact ⟨unchanged, ledTells.symm⟩
  · rintro ⟨unchanged, released⟩
    rcases inStep.before unchanged with ⟨off, zero⟩
    rw [off, zero, released]
    decide

/-- Other buttons keep the devices in step. -/
theorem InStep.other (inStep : InStep central)
    (same : isPressed buttonState = isPressed central.radio.buttonState)
    (unchanging : (central.radio.nextCall buttonState).changesButton1 = false) :
    InStep (pressed central buttonState) := by
  have other : (central.radio.nextCall buttonState).hasChanged ≠ DK_BTN1_MSK := by
    intro alone
    unfold ButtonCall.changesButton1 at unchanging
    rw [alone] at unchanging
    cases unchanging
  rcases press_ignored other with ⟨peripheral, led⟩
  have changed : Changed (pressed central buttonState).radio.calls <->
      Changed central.radio.calls := by
    apply changed_concat.trans
    exact or_iff_left (Bool.eq_false_iff.mp unchanging)
  constructor
  · rw [changed, peripheral, led]
    exact inStep.before
  · intro now
    unfold Tells
    rw [peripheral, led]
    change finalLed central = isPressed buttonState ∧ (_ <-> isPressed buttonState = true)
    rw [same]
    exact inStep.after (changed.mp now)

/-- The devices stay in step exactly if the call is legible. -/
theorem InStep.press_iff (inStep : InStep central)
    (enabled : central.radio.peripheral.notifyEnabled = true) :
    InStep (pressed central buttonState) <->
      Legible central.radio.calls (central.radio.nextCall buttonState) := by
  have flips := isPressed_xor buttonState central.radio.buttonState
  unfold Legible
  by_cases changes : (central.radio.nextCall buttonState).changesButton1 = true
  · have now : Changed (pressed central buttonState).radio.calls :=
      changed_concat.mpr (.inr changes)
    have tells : InStep (pressed central buttonState) <-> Tells (pressed central buttonState) :=
      ⟨fun kept => kept.after now, fun tells => ⟨fun not => absurd now not, fun _ => tells⟩⟩
    rw [tells]
    by_cases alone : (central.radio.nextCall buttonState).hasChanged = DK_BTN1_MSK
    · rw [tells_of_alone inStep enabled (flips.mp changes) alone, forall_prop_of_true changes]
      constructor
      · exact fun low => .inl ⟨alone, low⟩
      · rintro (⟨_, low⟩ | ⟨together, _⟩)
        · exact low
        · exact absurd alone together
    · rw [tells_of_together inStep (flips.mp changes) alone, forall_prop_of_true changes]
      constructor
      · exact fun first => .inr ⟨alone, first⟩
      · rintro (⟨here, _⟩ | ⟨_, first⟩)
        · exact absurd here alone
        · exact first
  · have same : isPressed buttonState = isPressed central.radio.buttonState := by
      by_contra different
      exact changes (flips.mpr different)
    have kept := inStep.other same (Bool.eq_false_iff.mpr changes)
    exact ⟨fun _ here => absurd here changes, fun _ => kept⟩

end Press

/-! ## What holds between the events -/

/-- The callback and the notifications stay as they are, and as long as every
call has been legible the devices are in step. -/
structure ButtonInv (central : ButtonState) : Prop where
  received : central.service.cb.received = true
  enabled : central.radio.peripheral.notifyEnabled = true
  inStep : Always Legible central.radio.calls -> InStep central

/-- The central before this byte has been taken from the notifications. -/
def before (value : UInt8) (central : ButtonState) : ButtonState :=
  central.mapRadio fun link => { link with sending := value :: link.sending }

/-- The central after `ble_data_received` with this byte. -/
def receive (value : UInt8) (central : ButtonState) : ButtonState :=
  central.mapEnv fun env => { env with statusLed := ledAfter env.statusLed value }

theorem ButtonInv.press {central : ButtonState} (holds : ButtonInv central)
    (buttonState : UInt32) : ButtonInv (pressed central buttonState) := by
  refine ⟨holds.received, ?_, ?_⟩
  · by_cases alone : (central.radio.nextCall buttonState).hasChanged = DK_BTN1_MSK
    · rw [(press_handled holds.enabled alone).1]
    · rw [(press_ignored alone).1]
      exact holds.enabled
  · intro legible
    rcases always_concat.mp legible with ⟨earlier, here⟩
    exact ((holds.inStep earlier).press_iff holds.enabled).mpr here

/-- A notification that arrives changes only when the LED shows it. -/
theorem ButtonInv.receive {central : ButtonState} {value : UInt8}
    (holds : ButtonInv (before value central)) : ButtonInv (receive value central) where
  received := holds.received
  enabled := holds.enabled
  inStep := fun legible => ⟨(holds.inStep legible).before, (holds.inStep legible).after⟩

theorem ButtonInv.start {central : ButtonState} (starts : Start central) : ButtonInv central := by
  refine ⟨starts.received, ?_, fun _ => ⟨fun _ => ?_, ?_⟩⟩
  · rw [starts.peripheral]
  · unfold finalLed
    rw [starts.sending, starts.peripheral]
    exact ⟨starts.led, rfl⟩
  · rw [starts.calls]
    rintro ⟨call, member, _⟩
    cases member

def buttonContract : Contract (clientInterface (Central ButtonLink) ButtonEvent) where
  Ghost := fun _ => Unit
  always := fun _ => True
  asked := fun query central =>
    match query with
    | .next => ButtonInv central
    | _ => True
  pre := fun proc _ central =>
    match proc with
    | .environment => ButtonInv central
    | .onReceived (some data) | .received data => ButtonInv (before data.byte central)
    | _ => False
  post := fun proc _ _ central =>
    match proc with
    | .onReceived _ | .received _ => ButtonInv central
    | _ => True

abbrev ButtonSafe {A : Type} (program : ButtonProg A) (goal : A -> ButtonState -> Prop)
    (central : ButtonState) : Prop :=
  Prog.Safe buttonSystem buttonContract program goal central

section Procedures

variable {central : ButtonState}

theorem safe_bleDataReceived {data : Payload} (holds : ButtonInv (before data.byte central)) :
    ButtonSafe (bleDataReceived data) (fun _ => ButtonInv) central := by
  have after := holds.receive
  unfold receive ledAfter at after
  unfold ButtonSafe bleDataReceived setStatusLed
  simp only [Prog.safe_monadBind, Prog.safe_ite, Prog.safe_modify, Prog.safe_pure]
  refine ⟨fun one => ?_, fun notOne => ⟨fun zero => ?_, fun notZero => ?_⟩⟩
  · simp only [one, if_true] at after
    exact ⟨trivial, after⟩
  · simp only [zero, if_true] at after
    exact ⟨trivial, after⟩
  · simp only [notOne, notZero, if_false] at after
    exact after

theorem safe_onReceived {data : Payload} (holds : ButtonInv (before data.byte central)) :
    ButtonSafe (onReceived (some data)) (fun _ => ButtonInv) central := by
  unfold ButtonSafe onReceived
  simp only [Prog.safe_monadBind, Prog.safe_get, Prog.safe_ite, Prog.invoke, Prog.safe_call,
    Prog.safe_ret, Prog.safe_pure]
  refine ⟨trivial, fun _ => ?_, fun absent => absurd holds.received absent⟩
  exact ⟨(), holds, fun _ _ _ kept => kept⟩

theorem safe_deliver (holds : ButtonInv central) :
    ButtonSafe deliver (fun _ => ButtonInv) central := by
  apply Prog.get_then trivial
  split
  · exact holds
  · rename_i value later waiting
    have taken : before value (central.mapRadio fun link => { link with sending := later }) =
        central := by
      unfold before Client.mapRadio Client.mapEnv
      unfold Client.radio at waiting
      dsimp only
      rw [← waiting]
    apply Prog.modify_then trivial
    refine ⟨(), ?_, fun _ later _ kept => kept⟩
    change ButtonInv (before value _)
    rw [taken]
    exact holds

theorem safe_environment (holds : ButtonInv central) :
    ButtonSafe environment (fun _ _ => True) central := by
  have again : forall later, ButtonInv later ->
      ButtonSafe (.invoke .environment) (fun _ _ => True) later :=
    fun later kept => ⟨(), kept, fun _ _ _ _ => trivial⟩
  refine ⟨holds, fun event _ => ?_⟩
  have handles : ButtonSafe (handleEvent event) (fun _ => ButtonInv) central := by
    cases event with
    | press buttonState => exact ⟨trivial, holds.press buttonState⟩
    | deliver => exact safe_deliver holds
  exact Prog.Safe.andThen handles fun _ later kept => again later kept

end Procedures

theorem button_honours : buttonSystem.Honours buttonContract := by
  intro proc _ central _ assumed
  cases proc with
  | environment => exact safe_environment assumed
  | onReceived data =>
      cases data with
      | none => exact assumed.elim
      | some data => exact safe_onReceived assumed
  | received data => exact safe_bleDataReceived assumed
  | _ => exact assumed.elim

theorem buttonInv_of_quiet {start : ButtonState} {current : ButtonConfig} (starts : Start start)
    (reached : ButtonReached start current) (quiet : Quiet current) :
    ButtonInv current.state := by
  rcases exists_of_pendingQuery quiet.1 with ⟨next, here⟩
  exact System.asked_of_reachable reached button_honours trivial
    (safe_environment (ButtonInv.start starts)) here

/-! ## Runs that deliver everything -/

section Reaching

variable {start central : ButtonState}

theorem reached_event (event : ButtonEvent) {later : ButtonState}
    (handles : (handleEvent event).Leads buttonSystem central () later) :
    buttonSystem.Reachable ⟨central, environment⟩ ⟨later, environment⟩ := by
  have next : nextEvent.Leads buttonSystem central () later :=
    Prog.Leads.andThen (Prog.leads_question trivial) handles
  exact next.reachable

theorem leads_bleDataReceived (data : Payload) :
    (bleDataReceived data).Leads buttonSystem central BT_GATT_ITER_CONTINUE
      (receive data.byte central) := by
  unfold bleDataReceived receive ledAfter
  by_cases one : data.byte = 0x01
  · simp only [one, if_true]
    exact Prog.Leads.andThen (Prog.leads_modify _) (Prog.leads_pure _)
  · by_cases zero : data.byte = 0x00
    · simp only [zero, if_true]
      exact Prog.Leads.andThen (Prog.leads_modify _) (Prog.leads_pure _)
    · simp only [one, zero, if_false]
      exact Prog.leads_pure _

theorem leads_onReceived (central : ButtonState)
    (received : central.service.cb.received = true) (data : Payload) :
    (onReceived (some data)).Leads buttonSystem central BT_GATT_ITER_CONTINUE
      (receive data.byte central) := by
  apply Prog.Leads.andThen (Prog.leads_get _)
  rw [if_pos received]
  exact (leads_bleDataReceived data).invoked

theorem leads_deliver {value : UInt8} {later : List UInt8}
    (received : central.service.cb.received = true)
    (waiting : central.radio.sending = value :: later) :
    deliver.Leads buttonSystem central ()
      (receive value (central.mapRadio fun link => { link with sending := later })) := by
  apply Prog.Leads.andThen (Prog.leads_get _)
  rw [waiting]
  apply Prog.Leads.andThen (Prog.leads_modify _)
  have arrives := leads_onReceived (central.mapRadio fun link => { link with sending := later })
    received ⟨value, 1⟩
  exact Prog.Leads.andThen arrives.invoked (Prog.leads_pure ())

/-- Nothing is on its way any more, and nothing else is different. -/
structure Arrived (central later : ButtonState) : Prop where
  sending : later.radio.sending = []
  led : finalLed later = finalLed central
  peripheral : later.radio.peripheral = central.radio.peripheral
  buttonState : later.radio.buttonState = central.radio.buttonState
  calls : later.radio.calls = central.radio.calls

/-- All notifications can arrive. -/
theorem exists_arrived (central : ButtonState) (received : central.service.cb.received = true) :
    exists later, buttonSystem.Reachable ⟨central, environment⟩ ⟨later, environment⟩ ∧
      Arrived central later := by
  generalize waiting : central.radio.sending = sending
  induction sending generalizing central with
  | nil => exact ⟨central, .refl, ⟨waiting, rfl, rfl, rfl, rfl⟩⟩
  | cons value rest inductionHypothesis =>
      have first := reached_event .deliver (leads_deliver received waiting)
      rcases inductionHypothesis
        (receive value (central.mapRadio fun link => { link with sending := rest })) received rfl
        with ⟨later, runs, arrived⟩
      refine ⟨later, first.trans runs, ⟨arrived.sending, ?_, arrived.peripheral,
        arrived.buttonState, arrived.calls⟩⟩
      rw [arrived.led]
      unfold finalLed
      rw [waiting, List.foldl_cons]
      rfl

theorem exists_pressed (central : ButtonState) (received : central.service.cb.received = true)
    (buttonState : UInt32) :
    exists later, buttonSystem.Reachable ⟨central, environment⟩ ⟨later, environment⟩ ∧
      Arrived (pressed central buttonState) later := by
  have presses : buttonSystem.Reachable ⟨central, environment⟩
      ⟨pressed central buttonState, environment⟩ :=
    reached_event (.press buttonState) (Prog.leads_modify _)
  rcases exists_arrived (pressed central buttonState) received with ⟨later, runs, arrived⟩
  exact ⟨later, presses.trans runs, arrived⟩

theorem callsFrom_concat (before : UInt32) (states : List UInt32) (buttonState : UInt32) :
    callsFrom before (states ++ [buttonState]) =
      callsFrom before states ++ [⟨buttonState, buttonState ^^^ states.getLastD before⟩] := by
  induction states generalizing before with
  | nil => rfl
  | cons first later inductionHypothesis =>
      rw [List.cons_append, callsFrom, inductionHypothesis, List.getLastD_cons]
      rfl

/-- Any states of the buttons can follow each other, and all notifications for
them can arrive. -/
theorem exists_quiet (starts : Start start) (states : List UInt32) :
    exists central, ButtonReached start ⟨central, environment⟩ ∧ central.radio.sending = [] ∧
      central.radio.calls = callsFrom start.radio.buttonState states ∧
      central.radio.buttonState = states.getLastD start.radio.buttonState := by
  induction states using List.reverseRecOn with
  | nil => exact ⟨start, .refl, starts.sending, starts.calls, rfl⟩
  | append_singleton states buttonState inductionHypothesis =>
      rcases inductionHypothesis with ⟨central, reached, none, calls, last⟩
      have holds := buttonInv_of_quiet starts reached ⟨rfl, none⟩
      rcases exists_pressed central holds.received buttonState with ⟨later, runs, arrived⟩
      refine ⟨later, reached.trans runs, arrived.sending, ?_, ?_⟩
      · rw [arrived.calls, callsFrom_concat, ← calls, ← last]
        rfl
      · rw [arrived.buttonState, List.getLastD_concat]
        rfl

end Reaching

/-! ## Exactly when the devices agree -/

section Agreement

variable {gatt : GattServer} {start central : ButtonState} {states : List UInt32}

/-- When all has arrived, to agree is to tell. -/
theorem agrees_iff (arrived : central.radio.sending = []) :
    Agrees gatt central <-> (Changed central.radio.calls -> Tells central) := by
  have led : finalLed central = central.env.statusLed := by
    unfold finalLed
    rw [arrived]
    rfl
  have reads : forall len, 0 < len -> readButtonChrcCb gatt central.radio.peripheral len 0 =
      some [central.radio.peripheral.buttonValue] :=
    fun len space => gatt.whole _ len space
  unfold Agrees Tells
  rw [led]
  constructor
  · intro agrees changed
    rcases agrees changed with ⟨shows, value⟩
    rcases value 1 Nat.one_pos with ⟨read, same, tells⟩
    cases (reads 1 Nat.one_pos).symm.trans same
    exact ⟨shows, tells⟩
  · intro tells changed
    exact ⟨(tells changed).1, fun len space => ⟨_, reads len space, (tells changed).2⟩⟩

theorem agreesAlong_of_legible (starts : Start start)
    (legible : Always Legible (callsFrom start.radio.buttonState states)) :
    AgreesAlong gatt start states := by
  intro current reached quiet isPrefix
  have holds := buttonInv_of_quiet starts reached quiet
  exact (agrees_iff quiet.2).mpr (holds.inStep (legible.of_prefix isPrefix)).after

theorem AgreesAlong.of_concat {buttonState : UInt32}
    (agrees : AgreesAlong gatt start (states ++ [buttonState])) :
    AgreesAlong gatt start states := by
  intro current reached quiet isPrefix
  apply agrees current reached quiet
  rw [callsFrom_concat]
  exact isPrefix.trans (List.prefix_append _ _)

/-- What agrees after a call that changes button 1 has been legible. -/
theorem legible_of_agrees {later : ButtonState} {buttonState : UInt32} (inStep : InStep central)
    (enabled : central.radio.peripheral.notifyEnabled = true)
    (arrived : Arrived (pressed central buttonState) later) (agrees : Agrees gatt later) :
    Legible central.radio.calls (central.radio.nextCall buttonState) := by
  intro changes
  have changed : Changed (pressed central buttonState).radio.calls :=
    changed_concat.mpr (.inr changes)
  have tells : Tells (pressed central buttonState) := by
    rw [← arrived.calls] at changed
    have later := (agrees_iff arrived.sending).mp agrees changed
    unfold Tells at later
    rw [arrived.led, arrived.peripheral, arrived.buttonState] at later
    exact later
  exact (inStep.press_iff enabled).mp ⟨fun not => absurd changed not, fun _ => tells⟩ changes

/-- The devices agree at every moment exactly if each change of button 1 is a
change of button 1 alone while no other button in the low byte is pressed, apart
from a first release. -/
theorem agreesAlong_iff (starts : Start start) (gatt : GattServer) (states : List UInt32) :
    AgreesAlong gatt start states <->
      Always Legible (callsFrom start.radio.buttonState states) := by
  constructor
  · intro agrees
    induction states using List.reverseRecOn with
    | nil => exact always_nil
    | append_singleton states buttonState inductionHypothesis =>
        have earlier := inductionHypothesis agrees.of_concat
        rcases exists_quiet starts states with ⟨central, reached, none, calls, last⟩
        have holds := buttonInv_of_quiet starts reached ⟨rfl, none⟩
        rcases exists_pressed central holds.received buttonState with ⟨later, runs, arrived⟩
        have whole : later.radio.calls =
            callsFrom start.radio.buttonState (states ++ [buttonState]) := by
          rw [arrived.calls, callsFrom_concat, ← calls, ← last]
          rfl
        have now := agrees ⟨later, environment⟩ (reached.trans runs) ⟨rfl, arrived.sending⟩
          (whole ▸ List.prefix_refl _)
        rw [← calls] at earlier
        rw [callsFrom_concat, ← calls, ← last]
        exact always_concat.mpr ⟨earlier,
          legible_of_agrees (holds.inStep earlier) holds.enabled arrived now⟩
  · exact agreesAlong_of_legible starts

end Agreement

/-! ## Two runs -/

instance (calls : List ButtonCall) : Decidable (Changed calls) :=
  inferInstanceAs (Decidable (exists call, call ∈ calls ∧ _))

instance (before : List ButtonCall) (call : ButtonCall) : Decidable (Legible before call) :=
  inferInstanceAs (Decidable (_ -> _))

instance (current : ButtonConfig) : Decidable (Quiet current) :=
  inferInstanceAs (Decidable (_ ∧ _))

instance (query : ClientQuery) (central : ButtonState) (answer : ClientAnswer ButtonEvent query) :
    Decidable (buttonSystem.permitted query central answer) :=
  .isTrue trivial

/-- An offset behind the value is an error, and no more than the rest is read. -/
def zephyrGatt : GattServer where
  btGattAttrRead := fun value len offset =>
    if value.length < offset then none else some ((value.drop offset).take len)
  whole := by
    intro value len fits
    rw [if_neg (Nat.not_lt_zero _), List.drop_zero, List.take_of_length_le fits]

/-- The central is initialized, and no button is pressed. -/
def buttonStart : ButtonState where
  service := { BtSimpleService.zero with initialized := true, cb := ⟨true, true, false⟩ }
  env := ⟨none, false, true, ⟨⟨0, true⟩, [], 0, []⟩⟩

theorem buttonStart_start : Start buttonStart :=
  ⟨rfl, rfl, rfl, rfl, rfl⟩

/-- Button 2 is pressed and released while button 1 is held. -/
theorem buttons_agree : AgreesAlong zephyrGatt buttonStart [1, 3, 1, 0] :=
  (agreesAlong_iff buttonStart_start zephyrGatt [1, 3, 1, 0]).mpr (by decide +kernel)

/-- Button 1 is pressed while button 2 is held. -/
def buttonRun : ButtonConfig :=
  buttonSystem.play (I := clientInterface (Central ButtonLink) ButtonEvent) 40
    [⟨.next, .press 2⟩, ⟨.next, .press 3⟩, ⟨.next, .deliver⟩] ⟨buttonStart, environment⟩

/-- The LED stays off. -/
theorem not_agreesAlong :
    ¬ forall gatt start states, Start start -> AgreesAlong gatt start states := by
  intro claim
  have reached : ButtonReached buttonStart buttonRun := buttonSystem.play_reachable 40 _ _
  have quiet : Quiet buttonRun := by decide +kernel
  have isPrefix : buttonRun.state.radio.calls <+:
      callsFrom buttonStart.radio.buttonState [2, 3] := by decide +kernel
  have agrees := claim zephyrGatt buttonStart [2, 3] buttonStart_start buttonRun reached quiet
    isPrefix (by decide +kernel)
  exact absurd agrees.1 (by decide +kernel)

end Button
end SimpleService
end NrfExamples
