import Mathlib.Data.List.Perm.Basic
import NrfExamples.Uart.CallStack

namespace NrfExamples
namespace Uart

open Reentrant

/-!
# Ownership of the receive buffers

A buffer that the client has handed over is in one of two slots until it is
released, and it is released once.  `rx_disable` is meant to empty both slots,
but its loop looks at the current buffer only.  It empties both exactly if,
whenever it looks, a prepared buffer stands behind a current one.
-/

variable {App : Type}

/-- The buffers that the client has handed over. -/
def handed : List Obs -> List Address
  | [] => []
  | .called (.rxEnable buf _ _) :: log => buf.toList ++ handed log
  | .called (.rxBufRsp buf _) :: log => buf.toList ++ handed log
  | _ :: log => handed log

/-- The buffers that have been given back. -/
def released : List Obs -> List Address
  | [] => []
  | .event (.rxBufReleased buf) :: log => buf.toList ++ released log
  | _ :: log => released log

/-- The buffers in the two slots. -/
def World.held (world : World App) : List Address :=
  world.adapter.rx.buf.toList ++ world.adapter.rx.nextBuf.toList

/-- A prepared buffer stands behind a current one. -/
def World.inOrder (world : World App) : Prop :=
  world.adapter.rx.buf.isSome = true ∨ world.adapter.rx.nextBuf = none

instance (world : World App) : Decidable world.inOrder :=
  inferInstanceAs (Decidable (_ ∨ _))

/-- A buffer exists and has not been handed over before. -/
def isFresh (log : List Obs) : Pointer -> Prop
  | none => False
  | some address => address ∉ handed log

instance (log : List Obs) (buf : Pointer) : Decidable (isFresh log buf) :=
  match buf with
  | none => inferInstanceAs (Decidable False)
  | some _ => inferInstanceAs (Decidable (¬_))

/-- The call succeeds, and hands over a fresh buffer if it hands over any. -/
def handsOverFresh (world : World App) : ApiCall -> Prop
  | .rxEnable buf len timeout => (world.rxEnable buf len timeout).1 = 0 ∧ isFresh world.log buf
  | .rxBufRsp buf len => (world.rxBufRsp buf len).1 = 0 ∧ isFresh world.log buf
  | _ => True

instance (world : World App) (call : ApiCall) : Decidable (handsOverFresh world call) :=
  match call with
  | .rxEnable _ _ _ | .rxBufRsp _ _ => inferInstanceAs (Decidable (_ ∧ _))
  | .tx _ _ _ | .txAbort | .rxDisable => .isTrue trivial

abbrev freshBuffers : Policy App := .calling handsOverFresh

/-- Besides, `rx_disable` finds the slots in order when it is called and when a
callback returns into it. -/
abbrev freshInOrder : Policy App where
  call := fun world call => handsOverFresh world call ∧ (call = .rxDisable -> world.inOrder)
  leave := fun world _ => caller world = some .rxDisable -> world.inOrder
  fire := fun _ _ => True

/-- When reception is reported to be disabled, everything has been given back. -/
def disabledWhenReleased : Obs -> List Obs -> Prop
  | .event .rxDisabled, log => (released log).Perm (handed log)
  | _, _ => True

structure OwnInv (world : World App) : Prop where
  account : (handed world.log).Perm (released world.log ++ world.held)
  distinct : (handed world.log).Nodup
  inOrder : (stack world.log).head? = some .rxDisable -> world.inOrder
  complete : EachEntry disabledWhenReleased world.log

namespace OwnInv

variable {world later : World App}

theorem frame (holds : OwnInv world) (handedLog : handed later.log = handed world.log)
    (releasedLog : released later.log = released world.log)
    (stackLog : stack later.log = stack world.log)
    (buf : later.adapter.rx.buf = world.adapter.rx.buf)
    (nextBuf : later.adapter.rx.nextBuf = world.adapter.rx.nextBuf)
    (complete : EachEntry disabledWhenReleased later.log) : OwnInv later := by
  have held : later.held = world.held := by
    unfold World.held
    rw [buf, nextBuf]
  refine ⟨?_, ?_, ?_, complete⟩
  · rw [handedLog, releasedLog, held]
    exact holds.account
  · rw [handedLog]
    exact holds.distinct
  · rw [stackLog]
    unfold World.inOrder
    rw [buf, nextBuf]
    exact holds.inOrder

theorem left (holds : OwnInv world) (same : LeavesReception world later) : OwnInv later := by
  rcases same.rx with ⟨timer, rx⟩
  have handedLog : handed later.log = handed world.log := by
    apply same.read handed
    intro obs log transmit
    cases obs with
    | called call =>
        cases call with
        | rxEnable buf len timeout => cases transmit
        | rxBufRsp buf len => cases transmit
        | _ => rfl
    | _ => rfl
  have releasedLog : released later.log = released world.log := by
    apply same.read released
    intro obs log transmit
    cases obs with
    | event evt => cases transmit
    | _ => rfl
  have complete : EachEntry disabledWhenReleased later.log := by
    rw [same.eachEntry]
    · exact holds.complete
    · intro obs log transmit
      cases obs with
      | event evt => cases transmit
      | _ => trivial
  exact holds.frame handedLog releasedLog same.stack (by rw [rx]) (by rw [rx]) complete

/-- An entry about neither slot. -/
theorem observe (holds : OwnInv world) {obs : Obs}
    (handedLog : handed (obs :: world.log) = handed world.log)
    (releasedLog : released (obs :: world.log) = released world.log)
    (stackLog : stack (obs :: world.log) = stack world.log)
    (complete : disabledWhenReleased obs world.log) : OwnInv (world.observe obs) :=
  holds.frame handedLog releasedLog stackLog rfl rfl ⟨complete, holds.complete⟩

theorem assertNoMsg (holds : OwnInv world) (what : Assertion) (success : Bool) :
    OwnInv (world.assertNoMsg what success) := by
  cases success with
  | true => exact holds
  | false => exact holds.observe rfl rfl rfl trivial

/-- An event that gives nothing back enters the client. -/
theorem event (holds : OwnInv world) {evt : UartEvent}
    (releasedLog : released (.event evt :: world.log) = released world.log)
    (running : (stack (.event evt :: world.log)).head? = some .callback)
    (complete : disabledWhenReleased (.event evt) world.log) :
    OwnInv (world.observe (.event evt)) := by
  refine ⟨?_, holds.distinct, ?_, complete, holds.complete⟩
  · rw [World.observe_log, releasedLog]
    exact holds.account
  · intro impossible
    rw [World.observe_log, running] at impossible
    cases impossible

theorem leave (holds : OwnInv world) (allowed : caller world = some .rxDisable -> world.inOrder) :
    OwnInv (world.observe .callbackReturned) :=
  ⟨holds.account, holds.distinct, allowed, trivial, holds.complete⟩

/-- A successful `rx_enable` fills the second slot, and both were empty. -/
theorem rxEnable (holds : OwnInv world) (buf : Pointer) (len : Nat) (timeout : Int)
    (succeeds : (world.rxEnable buf len timeout).1 = 0) (fresh : isFresh world.log buf)
    (outside : stack world.log = [] ∨ (stack world.log).head? = some .callback) :
    OwnInv (world.directCall (.rxEnable buf len timeout) (World.rxEnable buf len timeout)) := by
  rcases (world.rxEnable_eq_zero_iff buf len timeout).mp succeeds with ⟨noBuf, noNext⟩
  have account : (handed world.log).Perm (released world.log) := by
    simpa [World.held, noBuf, noNext] using holds.account
  cases buf with
  | none => exact fresh.elim
  | some address =>
      refine ⟨?_, ?_, ?_, trivial, trivial, holds.complete⟩
      · change (address :: handed world.log).Perm (released world.log ++ [address])
        exact (account.cons address).trans (List.perm_append_singleton address _).symm
      · exact List.nodup_cons.mpr ⟨fresh, holds.distinct⟩
      · exact fun running => absurd running (not_rxDisable_of_outside outside)

/-- A successful `rx_buf_rsp` fills the second slot, which was empty. -/
theorem rxBufRsp (holds : OwnInv world) (buf : Pointer) (len : Nat)
    (succeeds : (world.rxBufRsp buf len).1 = 0) (fresh : isFresh world.log buf)
    (outside : stack world.log = [] ∨ (stack world.log).head? = some .callback) :
    OwnInv (world.directCall (.rxBufRsp buf len) (World.rxBufRsp buf len)) := by
  have noNext := (world.rxBufRsp_eq_zero_iff buf len).mp succeeds
  rcases world.directCall_rxBufRsp_cases buf len with ⟨busy, _⟩ | ⟨_, same⟩
  · rw [noNext] at busy
    cases busy
  have read : forall {A : Type} (reader : List Obs -> A),
      (forall what log, reader (.assertFailed what :: log) = reader log) ->
      reader ((world.observe (.called (.rxBufRsp buf len))).assertNoMsg .rxNextBufLenZero
        (world.adapter.rx.nextBufLen = 0)).log =
      reader (.called (.rxBufRsp buf len) :: world.log) :=
    fun reader ignores => World.read_assertNoMsg _ _ _ reader ignores
  rw [same]
  cases buf with
  | none => exact fresh.elim
  | some address =>
      have handedLog := read handed fun _ _ => rfl
      have releasedLog := read released fun _ _ => rfl
      have stackLog := read stack fun _ _ => rfl
      have complete := read (EachEntry disabledWhenReleased) fun _ _ =>
        propext (and_iff_right trivial)
      refine ⟨?_, ?_, ?_, trivial, complete.mpr ⟨trivial, holds.complete⟩⟩
      · have account : (handed world.log).Perm
            (released world.log ++ world.adapter.rx.buf.toList) := by
          simpa [World.held, noNext] using holds.account
        have more : (address :: handed world.log).Perm
            (released world.log ++ (world.adapter.rx.buf.toList ++ [address])) := by
          rw [← List.append_assoc]
          exact (account.cons address).trans (List.perm_append_singleton address _).symm
        exact (handedLog ▸ releasedLog ▸ more)
      · exact handedLog ▸ List.nodup_cons.mpr ⟨fresh, holds.distinct⟩
      · intro running
        have running : (stack world.log).head? = some .rxDisable := stackLog ▸ running
        rcases outside with none | callback
        · rw [none] at running
          cases running
        · rw [callback] at running
          cases running

theorem rxDisableBegin (holds : OwnInv world) (inOrder : world.inOrder) :
    OwnInv ((world.observe (.called .rxDisable)).rxDisable .adapter) :=
  ⟨holds.account, holds.distinct, fun _ => inOrder, trivial, holds.complete⟩

/-- The first slot is given back and the second moves up. -/
theorem switched (holds : OwnInv world) :
    OwnInv ((world.switchRxBuffer .adapter).2.observe
      (.event (.rxBufReleased world.adapter.rx.buf))) := by
  refine ⟨?_, holds.distinct, ?_, trivial, holds.complete⟩
  · have moved : (released world.log ++ (world.adapter.rx.buf.toList ++
        world.adapter.rx.nextBuf.toList)).Perm
          ((world.adapter.rx.buf.toList ++ released world.log) ++
            world.adapter.rx.nextBuf.toList) := by
      rw [← List.append_assoc]
      exact List.perm_append_comm.append_right _
    have held : ((world.switchRxBuffer .adapter).2.observe
        (.event (.rxBufReleased world.adapter.rx.buf))).held =
          world.adapter.rx.nextBuf.toList := by
      simp [World.held, World.switchRxBuffer]
    rw [held]
    exact holds.account.trans moved
  · intro impossible
    cases impossible

theorem switchedNone (holds : OwnInv world) (none : world.adapter.rx.buf = none)
    (loop : stack world.log = [.rxLoop]) : OwnInv (world.switchRxBuffer .adapter).2 := by
  refine ⟨?_, holds.distinct, ?_, holds.complete⟩
  · simpa [World.held, World.switchRxBuffer, none] using holds.account
  · intro impossible
    change (stack world.log).head? = some .rxDisable at impossible
    rw [loop] at impossible
    cases impossible

/-- If there is no current buffer, the slots in order are empty. -/
theorem held_nil (inOrder : world.inOrder) (none : world.adapter.rx.buf = none) :
    world.held = [] := by
  rcases inOrder with present | noNext
  · rw [none] at present
    cases present
  · simp [World.held, none, noNext]

theorem rxDisabled (holds : OwnInv world)
    (running : (stack world.log).head? = some .rxDisable) (none : world.adapter.rx.buf = none) :
    OwnInv (world.observe (.event .rxDisabled)) := by
  apply holds.event rfl rfl
  have account := holds.account
  rw [held_nil (holds.inOrder running) none, List.append_nil] at account
  exact account.symm

theorem notified (holds : OwnInv world) :
    OwnInv ((world.setRx
      { world.adapter.rx with lastNotifyBuf := world.adapter.rx.currBuf }).observe
        (.event (.rxRdy world.adapter.rx.buf
          (world.adapter.rx.lastNotifyBuf.diff world.adapter.rx.buf)
          (world.adapter.rx.currBuf.diff world.adapter.rx.lastNotifyBuf)))) := by
  have advanced : OwnInv (world.setRx
      { world.adapter.rx with lastNotifyBuf := world.adapter.rx.currBuf }) :=
    holds.frame rfl rfl rfl rfl rfl holds.complete
  exact advanced.event rfl rfl trivial

theorem onRxReadyStore (holds : OwnInv world) (bytes : List UInt8)
    (fits : bytes.length ≤ world.adapter.rx.sizeLeft) : OwnInv (world.onRxReadyStore bytes) := by
  rw [World.onRxReadyStore_of_fits fits]
  refine holds.frame ?_ ?_ ?_ rfl rfl ?_
  · simp [handed]
  · simp [Uart.released]
  · simp [stack]
  · simpa [EachEntry, disabledWhenReleased] using holds.complete

end OwnInv

/-! ## Runs -/

/-- Every buffer that was given back had been handed over, and is given back once. -/
structure GivenBack (log : List Obs) : Prop where
  once : (released log).Nodup
  handedOver : forall address, address ∈ released log -> address ∈ handed log
  complete : EachEntry disabledWhenReleased log

theorem OwnInv.givenBack {world : World App} (holds : OwnInv world) : GivenBack world.log := by
  have distinct := holds.account.nodup_iff.mp holds.distinct
  refine ⟨(List.nodup_append.mp distinct).1, ?_, holds.complete⟩
  intro address member
  exact holds.account.mem_iff.mpr (List.mem_append_left _ member)

theorem GivenBack.called {log : List Obs} (known : GivenBack log) (call : ApiCall) :
    GivenBack (.called call :: log) := by
  refine ⟨known.once, ?_, trivial, known.complete⟩
  intro address member
  have before := known.handedOver address member
  cases call with
  | rxEnable buf len timeout => exact List.mem_append_right _ before
  | rxBufRsp buf len => exact List.mem_append_right _ before
  | _ => exact before

theorem GivenBack.forget {log : List Obs} {obs : Obs} (report : obs.isReport = true)
    (known : GivenBack (obs :: log)) : GivenBack log := by
  have handedLog : handed (obs :: log) = handed log := by
    cases obs with
    | called call => cases report
    | _ => rfl
  have grows : released log <:+ released (obs :: log) := by
    cases obs with
    | event evt =>
        cases evt with
        | rxBufReleased buf => exact List.suffix_append buf.toList (released log)
        | _ => exact List.suffix_rfl
    | _ => exact List.suffix_rfl
  refine ⟨known.once.sublist grows.sublist, ?_, known.complete.2⟩
  intro address member
  rw [← handedLog]
  exact known.handedOver address (grows.subset member)

def ownership : FramedInvariant (freshInOrder : Policy App) where
  Inv := OwnInv
  left := fun _ _ holds same => holds.left same
  aside := fun _ evt holds aside => by
    cases evt with
    | txDone buf len => exact holds.event rfl rfl trivial
    | txAborted buf len => exact holds.event rfl rfl trivial
    | rxStopped reason => exact holds.event rfl rfl trivial
    | _ => cases aside
  leave := fun _ _ holds allowed _ => holds.leave allowed
  rxEnable := fun _ buf len timeout holds allowed outside =>
    holds.rxEnable buf len timeout allowed.1.1 allowed.1.2 outside
  rxBufRsp := fun _ buf len holds allowed outside =>
    holds.rxBufRsp buf len allowed.1.1 allowed.1.2 outside
  rxDisableBegin := fun _ holds allowed => holds.rxDisableBegin (allowed.2 rfl)
  rxDisableSwitch := fun _ holds _ _ => holds.switched
  rxDisabled := fun _ holds running none => holds.rxDisabled running none
  rxDisableReturned := fun _ _ _ holds => holds.observe rfl rfl rfl trivial
  notified := fun _ holds _ => holds.notified
  checked := fun _ what success holds => holds.assertNoMsg what success
  onRxReadyBegin := fun _ holds _ _ => by
    refine ⟨holds.account, holds.distinct, ?_, trivial, holds.complete⟩
    intro impossible
    cases impossible
  switched := fun _ holds _ _ => holds.switched
  switchedNone := fun _ holds loop none => holds.switchedNone none loop
  requested := fun _ holds _ => holds.event rfl rfl trivial
  stored := fun _ bytes holds _ _ fits => holds.onRxReadyStore bytes fits
  dropped := fun _ _ holds _ _ => holds.observe rfl rfl rfl trivial
  onRxReadyEnd := fun world holds loop => by
    have empty : stack (.rxLoop false :: world.log) = [] := congrArg List.tail loop
    refine ⟨holds.account, holds.distinct, ?_, trivial, holds.complete⟩
    intro impossible
    rw [World.observe_log, empty] at impossible
    cases impossible
  Always := fun world => GivenBack world.log
  always := fun _ holds => holds.givenBack
  called := fun _ call known => known.called call
  alwaysChecked := fun _ success known => by
    cases success with
    | true => exact known
    | false => exact ⟨known.once, known.handedOver, trivial, known.complete⟩
  forget := fun _ _ report known => known.forget report

theorem ownInv_initial (target : AdapterData) (memory : Nat -> Nat -> UInt8) (app : App) :
    stack (World.initial target memory app).log = [] ∧
      OwnInv (World.initial target memory app) := by
  refine ⟨rfl, .refl [], List.nodup_nil, ?_, trivial⟩
  intro impossible
  cases impossible

/-- No buffer is lost or given back twice, and none is left when reception is
reported to be disabled. -/
structure OwnershipExact (current : AdapterConfig App) : Prop where
  givenBack : GivenBack current.state.log
  kept : Settled current ->
    (handed current.state.log).Perm (released current.state.log ++ current.state.held)
  free : Delivering .rxDisabled current ->
    current.state.adapter.rx.buf = none ∧ current.state.adapter.rx.nextBuf = none
  enabledNext : Delivering .rxDisabled current -> forall buf len timeout,
    (current.state.rxEnable buf len timeout).1 = 0

/-- If `rx_disable` always finds the slots in order, every buffer handed over is
given back exactly once, and all of them by the time reception is disabled. -/
theorem ownership_exact {current : AdapterConfig App} (reached : Reached freshInOrder current) :
    OwnershipExact current := by
  have free : Delivering .rxDisabled current ->
      current.state.adapter.rx.buf = none ∧ current.state.adapter.rx.nextBuf = none := by
    intro here
    rcases ownership.toReception.toCallback.delivering ownInv_initial reached here with
      ⟨_, _, holds⟩
    have complete : (released current.state.log).Perm (handed current.state.log) :=
      holds.complete.1
    have account : (handed current.state.log).Perm
        (released current.state.log ++ current.state.held) := holds.account
    have lengths := (complete.trans account).length_eq
    have empty : current.state.held = [] := by
      apply List.length_eq_zero_iff.mp
      rw [List.length_append] at lengths
      omega
    simpa [World.held] using empty
  refine ⟨ownership.toReception.toCallback.reached_always ownInv_initial reached, ?_, free, ?_⟩
  · intro here
    rcases ownership.toReception.toCallback.settled ownInv_initial reached here with ⟨_, _, holds⟩
    exact holds.account
  · intro here buf len timeout
    exact (current.state.rxEnable_eq_zero_iff buf len timeout).mpr (free here)

/-- A buffer is current and another one prepared when reception is disabled. -/
def bothReleasedRun : AdapterConfig Unit :=
  scripted freshInOrder 59 ()
    ([⟨.next, .client (.rxEnable (some ⟨1, 0⟩) 4 100)⟩] ++ irqStarts ++
      [⟨.flag .irqRxReady, true⟩, ⟨.client .rxBufRequest, some (.rxBufRsp (some ⟨2, 0⟩) 4)⟩,
        ⟨.client .rxBufRequest, none⟩, ⟨.fifoRead 4, .ok []⟩, ⟨.errCheck, (0 : Int)⟩,
        ⟨.next, .client .rxDisable⟩, ⟨.client (.rxBufReleased (some ⟨1, 0⟩)), none⟩,
        ⟨.client (.rxBufReleased (some ⟨2, 0⟩)), none⟩])

theorem bothReleasedRun_exact :
    released bothReleasedRun.state.log = [⟨2, 0⟩, ⟨1, 0⟩] ∧
      Delivering .rxDisabled bothReleasedRun ∧ OwnershipExact bothReleasedRun :=
  ⟨by decide +kernel, exists_of_pendingCall (by decide +kernel),
    ownership_exact (scripted_reached freshInOrder 59 () _)⟩

/-- Reception is disabled before the first interrupt. -/
def disabledEarlyRun : AdapterConfig Unit :=
  scripted freshBuffers 12 ()
    [⟨.next, .client (.rxEnable (some ⟨1, 0⟩) 4 100)⟩, ⟨.next, .client .rxDisable⟩]

/-- The loop of `rx_disable` overlooks a buffer that is only prepared. -/
theorem not_ownership_exact : ¬forall current : AdapterConfig Unit,
    Reached freshBuffers current -> OwnershipExact current := by
  intro claim
  have owned := claim disabledEarlyRun (scripted_reached freshBuffers 12 () _)
  have delivering : Delivering .rxDisabled disabledEarlyRun :=
    exists_of_pendingCall (by decide +kernel)
  have left : disabledEarlyRun.state.adapter.rx.nextBuf = some ⟨1, 0⟩ := by decide +kernel
  have none := (owned.free delivering).2
  rw [left] at none
  cases none

end Uart
end NrfExamples
