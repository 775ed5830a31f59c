import NrfExamples.Uart.Transmit

namespace NrfExamples
namespace Uart

open Reentrant

/-!
# The transmit timeout

One timer serves all transfers.  It is started with a transfer that has a
finite timeout, stopped by an abort, and left alone by a completion.  A transfer
without a timeout is therefore safe only if no timer is still running when it
is accepted, and that is also enough.
-/

variable {App : Type}

/-- The most recent call of `tx` that was accepted, with the time it returned. -/
structure AcceptedTx where
  buf : Pointer
  timeout : Int
  time : Nat
  deriving DecidableEq, Repr

def lastAccepted : List Obs -> Option AcceptedTx
  | [] => none
  | .returned (.tx buf len timeout) ret time :: log =>
      if ret = 0 ∧ len ≠ 0 then some ⟨buf, timeout, time⟩ else lastAccepted log
  | _ :: log => lastAccepted log

/-- A timer fires once its time has come, unless it was restarted or stopped. -/
def timerDue (timer : Option Nat) (world : World App) : Prop :=
  exists expiry, timer = some expiry ∧ expiry ≤ world.now

instance (timer : Option Nat) (world : World App) : Decidable (timerDue timer world) :=
  match timer with
  | none => .isFalse fun ⟨_, impossible, _⟩ => nomatch impossible
  | some expiry =>
      decidable_of_iff (expiry ≤ world.now)
        ⟨fun due => ⟨expiry, rfl, due⟩, fun ⟨_, same, due⟩ => Option.some.inj same ▸ due⟩

def timersFire (world : World App) : Handler -> Prop
  | .txTimeout => timerDue world.adapter.tx.timeoutTimer world
  | .rxTimeout => timerDue world.adapter.rx.timeoutTimer world
  | _ => True

instance (world : World App) (next : Handler) : Decidable (timersFire world next) :=
  match next with
  | .txTimeout => inferInstanceAs (Decidable (timerDue _ _))
  | .rxTimeout => inferInstanceAs (Decidable (timerDue _ _))
  | .uartIrq | .client _ | .elapse _ => .isTrue trivial

/-- The client may do anything, and the timers keep time. -/
abbrev timed : Policy App where
  call := fun _ _ => True
  leave := fun _ _ => True
  fire := timersFire

/-- A transfer without a timeout is not accepted while the timer is running. -/
def noForeverOverTimer (world : World App) : ApiCall -> Prop
  | .tx _ len timeout =>
      timeout = sysForeverMs -> len = 0 ∨ world.adapter.tx.buf.isSome ∨
        world.adapter.tx.timeoutTimer = none
  | _ => True

abbrev timedApart : Policy App where
  call := noForeverOverTimer
  leave := fun _ _ => True
  fire := timersFire

instance (world : World App) (call : ApiCall) : Decidable (noForeverOverTimer world call) :=
  match call with
  | .tx _ len timeout => inferInstanceAs (Decidable (timeout = sysForeverMs -> len = 0 ∨
      world.adapter.tx.buf.isSome = true ∨ world.adapter.tx.timeoutTimer = none))
  | .txAbort | .rxEnable _ _ _ | .rxBufRsp _ _ | .rxDisable => .isTrue trivial

/-- A timeout that would abort a transfer now aborts one that was started with
a finite timeout, at least that long ago. -/
def TimeoutIsOwn (world : World App) : Prop :=
  world.adapter.tx.buf.isSome -> exists call, lastAccepted world.log = some call ∧
    call.buf = world.adapter.tx.buf ∧ call.timeout ≠ sysForeverMs ∧
    call.time + call.timeout.toNat ≤ world.now

/-- While a transfer is in progress, a running timer is its own. -/
def TimerInv (world : World App) : Prop :=
  world.adapter.tx.buf.isSome -> exists call, lastAccepted world.log = some call ∧
    call.buf = world.adapter.tx.buf ∧
    forall expiry, world.adapter.tx.timeoutTimer = some expiry ->
      call.timeout ≠ sysForeverMs ∧ expiry = call.time + call.timeout.toNat

namespace TimerInv

variable {world later : World App}

theorem frame (holds : TimerInv world) (buf : later.adapter.tx.buf = world.adapter.tx.buf)
    (timer : later.adapter.tx.timeoutTimer = world.adapter.tx.timeoutTimer)
    (log : lastAccepted later.log = lastAccepted world.log) : TimerInv later := by
  intro busy
  rw [buf] at busy ⊢
  rw [timer, log]
  exact holds busy

/-- While nothing is being sent, the timer does not matter. -/
theorem of_idle (idle : later.adapter.tx.buf = none) : TimerInv later := by
  intro busy
  rw [idle] at busy
  cases busy

theorem tx (holds : TimerInv world) (buf : Pointer) (len : Nat) (timeout : Int)
    (allowed : noForeverOverTimer world (.tx buf len timeout)) :
    TimerInv (world.directCall (.tx buf len timeout) (World.tx buf len timeout)) := by
  rcases world.directCall_tx_cases buf len timeout with ⟨ret, empty, same⟩ | ⟨nonempty, idle, same⟩
  · rw [same]
    refine holds.frame rfl rfl ?_
    have refused : ¬(ret = 0 ∧ len ≠ 0) := fun accepted => accepted.2 (empty accepted.1)
    exact if_neg refused
  · rw [same]
    intro _
    refine ⟨⟨buf, timeout, world.now⟩, if_pos ⟨rfl, nonempty⟩, rfl, ?_⟩
    intro expiry running
    by_cases forever : timeout = sysForeverMs
    · -- The timer that is still running would be an older one.
      have stopped : world.adapter.tx.timeoutTimer = none := by
        simpa [nonempty, idle] using allowed forever
      rw [if_neg (not_not_intro forever), stopped] at running
      cases running
    · have started : some (world.now + timeout.toNat) = some expiry := by
        simpa [forever, World.kTimerStart] using running
      exact ⟨forever, (Option.some.inj started).symm⟩

theorem onTxReady (holds : TimerInv world) (ret : Int) :
    TimerInv ((world.assertNoMsg .txCurrBufSet world.adapter.tx.currBuf.isSome).onTxReady ret) := by
  have asserted : TimerInv (world.assertNoMsg .txCurrBufSet world.adapter.tx.currBuf.isSome) :=
    holds.frame (by simp) (by simp) (World.read_assertNoMsg _ _ _ lastAccepted fun _ _ => rfl)
  unfold World.onTxReady
  split
  · exact asserted
  · exact asserted.frame rfl rfl rfl

theorem onTxComplete (holds : TimerInv world) : TimerInv world.onTxComplete.2 := by
  rcases world.onTxComplete_cases with unchanged | idle
  · rw [unchanged]
    exact holds
  · exact of_idle idle

theorem notifyRxBuffer (holds : TimerInv world) : TimerInv world.notifyRxBuffer.2 := by
  have checked : lastAccepted world.notifyChecks.log = lastAccepted world.log :=
    World.read_notifyChecks lastAccepted fun _ _ => rfl
  cases pending : world.unnotified with
  | true =>
      rw [World.notifyRxBuffer_of_unnotified pending]
      exact holds.frame (by simp) (by simp) checked
  | false =>
      rw [World.notifyRxBuffer_of_notified pending]
      exact holds.frame (by simp) (by simp) checked

theorem onRxReadyStore (holds : TimerInv world) (bytes : List UInt8) :
    TimerInv (world.onRxReadyStore bytes) := by
  refine holds.frame ?_ ?_ ?_
  · simp [World.onRxReadyStore]
  · simp [World.onRxReadyStore]
  · simp only [World.onRxReadyStore, World.setRx_log]
    rw [World.read_assertNoMsg _ _ _ lastAccepted fun _ _ => rfl, World.storeBytes_log]
    rfl

theorem rxBufRsp (holds : TimerInv world) (buf : Pointer) (len : Nat) :
    TimerInv (world.directCall (.rxBufRsp buf len) (World.rxBufRsp buf len)) := by
  rcases world.directCall_rxBufRsp_cases buf len with ⟨_, same⟩ | ⟨_, same⟩
  · rw [same]
    exact holds.frame rfl rfl rfl
  · rw [same]
    apply holds.frame (by simp) (by simp)
    exact World.read_assertNoMsg _ _ _ lastAccepted fun _ _ => rfl

theorem onRxReadyBegin (holds : TimerInv world) : TimerInv world.onRxReadyBegin := by
  rcases world.onRxReadyBegin_eq with ⟨timer, same⟩
  rw [same]
  exact holds.frame rfl rfl rfl

/-- An entry in the log other than the return of `tx`. -/
theorem observe (holds : TimerInv world) (obs : Obs)
    (other : lastAccepted (obs :: world.log) = lastAccepted world.log) :
    TimerInv (world.observe obs) :=
  holds.frame rfl rfl other

theorem due (holds : TimerInv world) (fires : timerDue world.adapter.tx.timeoutTimer world) :
    TimeoutIsOwn world := by
  intro busy
  rcases holds busy with ⟨call, last, buf, own⟩
  rcases fires with ⟨expiry, running, passed⟩
  have finite := own expiry running
  exact ⟨call, last, buf, finite.1, finite.2 ▸ passed⟩

end TimerInv

def transmitTimers : CallbackInvariant (timedApart : Policy App) Unit where
  Inv := fun _ => TimerInv
  idle := ()
  inLoop := ()
  inCallback := id
  inDisable := id
  flushed := id
  tx := fun _ _ buf len timeout holds allowed => holds.tx buf len timeout allowed
  rxEnable := fun _ _ _ _ _ _ holds _ => holds.frame rfl rfl rfl
  rxBufRsp := fun _ _ buf len _ holds _ => holds.rxBufRsp buf len
  txAbortCalled := fun _ _ holds _ => holds.observe _ rfl
  txAbortNone := fun _ world _ _ => .of_idle world.txAbort_buf
  txAborted := fun _ world _ _ _ => .of_idle world.txAbort_buf
  returned := fun _ _ _ _ _ holds which => by
    rcases which with rfl | rfl
    · exact holds.observe _ rfl
    · exact holds.observe _ rfl
  leave := fun _ _ _ holds _ => holds.observe _ rfl
  rxDisableBegin := fun _ _ holds _ => holds.frame rfl rfl rfl
  rxDisableSwitch := fun _ _ holds _ => holds.frame rfl rfl rfl
  rxDisabled := fun _ _ holds _ => holds.observe _ rfl
  notified := fun _ world evt holds made => by
    rw [World.notifyRxBuffer_of_unnotified (World.notifyRxBuffer_evt made)] at made
    cases made
    exact holds.notifyRxBuffer.observe _ rfl
  notifiedNone := fun _ _ holds _ => holds.notifyRxBuffer
  unflushed := fun _ _ holds => holds
  onRxReadyBegin := fun _ holds _ => holds.onRxReadyBegin
  switched := fun _ holds _ => holds.frame rfl rfl rfl
  switchedNone := fun _ holds _ => holds.frame rfl rfl rfl
  requested := fun _ holds => holds.observe _ rfl
  stored := fun _ bytes holds _ _ => holds.onRxReadyStore bytes
  dropped := fun _ _ holds _ => holds.observe _ rfl
  onRxReadyEnd := fun _ holds => holds.observe _ rfl
  txReady := fun _ ret holds _ _ => holds.onTxReady ret
  txCompleted := fun world evt holds made => by
    rcases world.onTxComplete_cases with unchanged | idle
    · rw [unchanged] at made
      cases made
    · exact .of_idle idle
  txCompletedNone := fun _ holds _ => holds.onTxComplete
  stopped := fun _ _ holds => holds.observe _ rfl
  targetData := fun _ _ holds => holds.frame rfl rfl rfl
  foreignEvent := fun _ _ holds => holds.frame rfl rfl rfl
  txTimer := fun _ holds _ busy => by
    rcases holds busy with ⟨call, last, buf, _⟩
    exact ⟨call, last, buf, fun _ running => by cases running⟩
  rxTimer := fun _ holds _ => holds.frame rfl rfl rfl
  elapsed := fun _ _ holds => holds.frame rfl rfl rfl

/-- If no transfer without a timeout is accepted while the timer of an earlier
one is running, a timeout only ever aborts the transfer it was started for. -/
theorem txTimeout_isOwn {current : AdapterConfig App} (reached : Reached timedApart current)
    (here : Starting .txTimeout current) : TimeoutIsOwn current.state := by
  have initially : forall target memory (app : App),
      TimerInv (World.initial target memory app) := by
    intro target memory app
    exact .of_idle rfl
  rcases transmitTimers.starting initially reached here with ⟨holds, fires⟩
  exact holds.due fires

/-- A transfer that has waited for its hundred milliseconds. -/
def overdueRun : AdapterConfig Unit :=
  scripted timedApart 11 ()
    [⟨.next, .client (.tx (some ⟨1, 0⟩) 1 100)⟩, ⟨.next, .elapse 100⟩, ⟨.next, .txTimeout⟩]

theorem overdueRun_isOwn :
    overdueRun.state.adapter.tx.buf = some ⟨1, 0⟩ ∧ TimeoutIsOwn overdueRun.state :=
  ⟨by decide +kernel, txTimeout_isOwn (scripted_reached timedApart 11 () _)
    (exists_of_pendingCall (by decide +kernel))⟩

/-- The first transfer completes before its hundred milliseconds are over, and
its timer then fires during the second, which has no timeout. -/
def foreverRun : AdapterConfig Unit :=
  scripted timed 39 ()
    ([⟨.next, .client (.tx (some ⟨1, 0⟩) 1 100)⟩] ++ irqStarts ++
      [⟨.flag .irqTxReady, true⟩, ⟨.fifoFill 1, (1 : Int)⟩, ⟨.flag .irqTxComplete, true⟩,
        ⟨.client (.txDone (some ⟨1, 0⟩) 1), none⟩, ⟨.errCheck, (0 : Int)⟩,
        ⟨.next, .client (.tx (some ⟨2, 0⟩) 1 sysForeverMs)⟩, ⟨.next, .elapse 100⟩,
        ⟨.next, .txTimeout⟩])

/-- Completion does not stop the timer, so a timeout can abort a transfer that
was started without one. -/
theorem txTimeout_not_isOwn : ¬forall current : AdapterConfig Unit, Reached timed current ->
    Starting .txTimeout current -> TimeoutIsOwn current.state := by
  intro claim
  have starting : Starting .txTimeout foreverRun := exists_of_pendingCall (by decide +kernel)
  have busy : foreverRun.state.adapter.tx.buf.isSome = true := by decide +kernel
  have newest : lastAccepted foreverRun.state.log = some ⟨some ⟨2, 0⟩, sysForeverMs, 0⟩ := by
    decide +kernel
  rcases claim foreverRun (scripted_reached timed 39 () _) starting busy with
    ⟨call, last, _, finite, _⟩
  rw [newest] at last
  cases last
  exact finite rfl

end Uart
end NrfExamples
