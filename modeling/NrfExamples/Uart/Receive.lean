import Mathlib.Data.List.Nodup
import NrfExamples.Uart.Representation

namespace NrfExamples
namespace Uart

open Reentrant

/-!
# What happens to received bytes

A buffer is in use from the moment it becomes the current one until it is
released, or until a rejected `rx_enable` throws it out.  `currentUse` collects
from the log which addresses have been written and which have been reported in
the current use.  The adapter reports in slices without gaps or overlaps, so at
the end of a use everything has been reported exactly once, provided that
nothing is waiting to be reported when the use ends.
-/

variable {App : Type}

/-- The addresses of `len` bytes, from an offset to a pointer on. -/
def addresses (buf : Pointer) (offset len : Nat) : List Address :=
  match buf with
  | none => []
  | some address =>
      (List.range len).map fun i => { address with offset := address.offset + (offset + i) }

theorem addresses_add (buf : Pointer) (offset first second : Nat) :
    addresses buf offset (first + second) =
      addresses buf offset first ++ addresses buf (offset + first) second := by
  cases buf with
  | none => rfl
  | some address =>
      simp only [addresses, List.range_add, List.map_append, List.map_map]
      refine congrArg _ (List.map_congr_left fun i _ => ?_)
      simp [Nat.add_assoc]

theorem addresses_advance (buf : Pointer) (offset len : Nat) :
    addresses (buf.advance offset) 0 len = addresses buf offset len := by
  cases buf with
  | none => rfl
  | some address => simp [addresses, Pointer.advance, Nat.add_assoc]

@[simp] theorem addresses_zero (buf : Pointer) (offset : Nat) : addresses buf offset 0 = [] := by
  cases buf <;> rfl

@[simp] theorem addresses_none (offset len : Nat) : addresses none offset len = [] := rfl

theorem addresses_nodup (buf : Pointer) (offset len : Nat) : (addresses buf offset len).Nodup := by
  cases buf with
  | none => exact List.nodup_nil
  | some address =>
      refine List.Nodup.map ?_ List.nodup_range
      intro first second same
      have offsets := congrArg Address.offset same
      change address.offset + (offset + first) = address.offset + (offset + second) at offsets
      omega

/-- A stretch of addresses that is not empty determines its buffer and length. -/
theorem addresses_injective {first second : Pointer} {len other : Nat} (present : first.isSome)
    (positive : 0 < len) (same : addresses first 0 len = addresses second 0 other) :
    first = second ∧ len = other := by
  have lengths := congrArg List.length same
  have heads := congrArg List.head? same
  cases first with
  | none => cases present
  | some address =>
      cases second with
      | none =>
          have empty : len = 0 := by simpa [addresses] using lengths
          omega
      | some target =>
          have equal : len = other := by simpa [addresses] using lengths
          subst equal
          have start : (List.range len).head? = some 0 := by
            rw [List.head?_range, if_neg (Nat.ne_of_gt positive)]
          have starts : address.block = target.block ∧ address.offset = target.offset := by
            simpa [addresses, start] using heads
          rcases address with ⟨block, offset⟩
          rcases target with ⟨targetBlock, targetOffset⟩
          rcases starts with ⟨rfl, rfl⟩
          exact ⟨rfl, rfl⟩

/-! ## The current use of a buffer -/

/-- What the log says about the current use, oldest first. -/
structure UseLog where
  stored : List Address
  bytes : List UInt8
  reported : List Address
  deriving DecidableEq, Repr

def UseLog.empty : UseLog := ⟨[], [], []⟩

def currentUse : List Obs -> UseLog
  | [] => .empty
  | .event (.rxBufReleased _) :: _ => .empty
  | .returned (.rxEnable _ _ _) _ _ :: _ => .empty
  | .stored dest bytes :: log =>
      let use := currentUse log
      { use with
        stored := use.stored ++ addresses dest 0 bytes.length
        bytes := use.bytes ++ if dest.isSome then bytes else [] }
  | .event (.rxRdy buf offset len) :: log =>
      let use := currentUse log
      { use with reported := use.reported ++ addresses buf offset len }
  | _ :: log => currentUse log

/-- Every byte stored in this use has been reported exactly once, as part of
this buffer. -/
structure ReportedInFull (buf : Pointer) (use : UseLog) : Prop where
  same : use.reported = use.stored
  once : use.reported.Nodup
  inside : exists len, use.stored = addresses buf 0 len

/-- The condition under which a byte that is released has been reported. -/
def releasedInFull : Obs -> List Obs -> Prop
  | .event (.rxBufReleased buf), log => ReportedInFull buf (currentUse log)
  | _, _ => True

/-- A rejected `rx_enable` ends a use as well. -/
def endedInFull : Obs -> List Obs -> Prop
  | .event (.rxBufReleased buf), log => ReportedInFull buf (currentUse log)
  | .returned (.rxEnable _ _ _) _ _, log => (currentUse log).reported = (currentUse log).stored
  | _, _ => True

/-- The slices of one use follow one another from offset 0, and are not empty. -/
def sliceFollows : Obs -> List Obs -> Prop
  | .event (.rxRdy buf offset len), log =>
      buf.isSome ∧ 0 < len ∧ (currentUse log).reported = addresses buf 0 offset ∧
        exists stored, (currentUse log).stored = addresses buf 0 stored ∧ offset + len ≤ stored
  | _, _ => True

/-! ## The invariant -/

/-- The positions in the current buffer are those of the current use. -/
structure RxUse (world : World App) (stored notified : Nat) : Prop where
  currBuf : world.adapter.rx.currBuf = world.adapter.rx.buf.advance stored
  lastNotifyBuf : world.adapter.rx.buf.isSome ->
    world.adapter.rx.lastNotifyBuf = world.adapter.rx.buf.advance notified
  order : notified ≤ stored
  storedLog : (currentUse world.log).stored = addresses world.adapter.rx.buf 0 stored
  bytesLog : (currentUse world.log).bytes = world.bytesAt world.adapter.rx.buf stored
  reportedLog : (currentUse world.log).reported = addresses world.adapter.rx.buf 0 notified

namespace RxUse

variable {world later : World App} {stored notified : Nat}

theorem frame (use : RxUse world stored notified)
    (buf : later.adapter.rx.buf = world.adapter.rx.buf)
    (currBuf : later.adapter.rx.currBuf = world.adapter.rx.currBuf)
    (lastNotifyBuf : later.adapter.rx.lastNotifyBuf = world.adapter.rx.lastNotifyBuf)
    (memory : later.memory = world.memory) (log : currentUse later.log = currentUse world.log) :
    RxUse later stored notified := by
  have bytes := World.bytesAt_congr memory world.adapter.rx.buf stored
  refine ⟨?_, ?_, use.order, ?_, ?_, ?_⟩
  · rw [currBuf, buf]
    exact use.currBuf
  · rw [buf, lastNotifyBuf]
    exact use.lastNotifyBuf
  · rw [buf, log]
    exact use.storedLog
  · rw [buf, log]
    exact use.bytesLog.trans bytes.symm
  · rw [buf, log]
    exact use.reportedLog

/-- An entry in the log that says nothing about the current use. -/
theorem observe (use : RxUse world stored notified) {obs : Obs}
    (other : currentUse (obs :: world.log) = currentUse world.log) :
    RxUse (world.observe obs) stored notified :=
  use.frame rfl rfl rfl rfl other

/-- Transmission and the passing of time do not use the buffers. -/
theorem left (use : RxUse world stored notified) (same : LeavesReception world later) :
    RxUse later stored notified := by
  rcases same.rx with ⟨timer, rx⟩
  have log : currentUse later.log = currentUse world.log := by
    apply same.read currentUse
    intro obs log transmit
    cases obs with
    | stored dest bytes => cases transmit
    | event evt => cases transmit
    | returned call ret time =>
        cases call with
        | rxEnable buf len timeout => cases transmit
        | _ => rfl
    | _ => rfl
  exact use.frame (by rw [rx]) (by rw [rx]) (by rw [rx]) same.memory log

/-- Nothing is waiting exactly when the two positions agree. -/
theorem unnotified (use : RxUse world stored notified) :
    world.unnotified = (world.adapter.rx.buf.isSome && decide (notified < stored)) := by
  unfold World.unnotified
  cases buf : world.adapter.rx.buf with
  | none => rfl
  | some address =>
      have last := use.lastNotifyBuf (by simp [buf])
      rw [use.currBuf, last, buf]
      rcases address with ⟨block, offset⟩
      simp

section Slice

variable (use : RxUse world stored notified) (pending : world.unnotified = true)

include use pending

theorem present : world.adapter.rx.buf.isSome = true := by
  rw [use.unnotified] at pending
  exact (Bool.and_eq_true_iff.mp pending).1

theorem waiting : notified < stored := by
  rw [use.unnotified] at pending
  simpa using (Bool.and_eq_true_iff.mp pending).2

/-- The offset and the length that the notification computes. -/
theorem offset : world.adapter.rx.lastNotifyBuf.diff world.adapter.rx.buf = notified := by
  rw [use.lastNotifyBuf (use.present pending)]
  exact Pointer.diff_advance_self _ notified (use.present pending)

theorem length :
    world.adapter.rx.currBuf.diff world.adapter.rx.lastNotifyBuf = stored - notified := by
  rw [use.currBuf, use.lastNotifyBuf (use.present pending)]
  exact Pointer.diff_advance _ stored notified (use.present pending)

end Slice

/-- Without a buffer, or with nothing waiting, everything has been reported. -/
theorem flush (use : RxUse world stored notified) (nothing : world.unnotified = false) :
    RxUse world stored stored := by
  rw [use.unnotified] at nothing
  cases buf : world.adapter.rx.buf with
  | none =>
      refine { use with order := Nat.le_refl stored, lastNotifyBuf := ?_, reportedLog := ?_ }
      · simp [buf]
      · rw [use.reportedLog, buf, addresses_none, addresses_none]
  | some address =>
      have reached : ¬notified < stored := by simpa [buf] using nothing
      have same : notified = stored := Nat.le_antisymm use.order (Nat.le_of_not_lt reached)
      exact same ▸ use

theorem reportedInFull (use : RxUse world stored stored) :
    ReportedInFull world.adapter.rx.buf (currentUse world.log) := by
  refine ⟨use.reportedLog.trans use.storedLog.symm, ?_, stored, use.storedLog⟩
  rw [use.reportedLog]
  exact addresses_nodup _ 0 stored

/-- The next buffer comes into use once the old one has been released. -/
theorem of_released (world : World App) :
    RxUse ((world.switchRxBuffer .adapter).2.observe
      (.event (.rxBufReleased world.adapter.rx.buf))) 0 0 := by
  refine ⟨?_, fun _ => ?_, Nat.le_refl 0, ?_, ?_, ?_⟩
  · simp [World.switchRxBuffer]
  · simp [World.switchRxBuffer]
  · simp [World.switchRxBuffer, currentUse, UseLog.empty]
  · simp [World.switchRxBuffer, currentUse, UseLog.empty]
  · simp [World.switchRxBuffer, currentUse, UseLog.empty]

/-- If there was no buffer, the use has already been started. -/
theorem switchedNone (use : RxUse world stored notified) (none : world.adapter.rx.buf = none) :
    RxUse (world.switchRxBuffer .adapter).2 0 0 := by
  have storedLog := use.storedLog
  have bytesLog := use.bytesLog
  have reportedLog := use.reportedLog
  rw [none] at storedLog bytesLog reportedLog
  refine ⟨?_, fun _ => ?_, Nat.le_refl 0, ?_, ?_, ?_⟩
  · simp [World.switchRxBuffer]
  · simp [World.switchRxBuffer]
  · simpa [World.switchRxBuffer] using storedLog
  · simpa [World.switchRxBuffer] using bytesLog
  · simpa [World.switchRxBuffer] using reportedLog

/-- Accepted or rejected, `rx_enable` leaves no current buffer. -/
theorem of_rxEnable (world : World App) (buf : Pointer) (len : Nat) (timeout : Int) :
    RxUse (world.directCall (.rxEnable buf len timeout) (World.rxEnable buf len timeout)) 0 0 :=
  ⟨rfl, fun _ => by simp_all [World.directCall, World.rxEnable], Nat.le_refl 0, rfl, rfl, rfl⟩

theorem rxBufRsp (use : RxUse world stored notified) (buf : Pointer) (len : Nat) :
    RxUse (world.directCall (.rxBufRsp buf len) (World.rxBufRsp buf len)) stored notified := by
  rcases world.directCall_rxBufRsp_cases buf len with ⟨_, same⟩ | ⟨_, same⟩
  · rw [same]
    exact (use.observe rfl).observe rfl
  · rw [same]
    have log : currentUse (((world.observe (.called (.rxBufRsp buf len))).assertNoMsg
        .rxNextBufLenZero (world.adapter.rx.nextBufLen = 0)).log) = currentUse world.log :=
      World.read_assertNoMsg _ _ _ currentUse fun _ _ => rfl
    exact use.frame rfl rfl rfl (by simp) log

/-- The slice that is reported ends where the stored bytes end. -/
theorem report (use : RxUse world stored notified) (pending : world.unnotified = true) :
    RxUse ((world.notifyChecks.setRx
      { world.adapter.rx with lastNotifyBuf := world.adapter.rx.currBuf }).observe
        (.event (.rxRdy world.adapter.rx.buf
          (world.adapter.rx.lastNotifyBuf.diff world.adapter.rx.buf)
          (world.adapter.rx.currBuf.diff world.adapter.rx.lastNotifyBuf)))) stored stored := by
  have log : currentUse world.notifyChecks.log = currentUse world.log :=
    World.read_notifyChecks currentUse fun _ _ => rfl
  rw [use.offset pending, use.length pending]
  refine ⟨use.currBuf, fun _ => use.currBuf, Nat.le_refl stored, ?_, ?_, ?_⟩
  · exact (congrArg UseLog.stored log).trans use.storedLog
  · have bytes : world.notifyChecks.bytesAt world.adapter.rx.buf stored =
        world.bytesAt world.adapter.rx.buf stored :=
      World.bytesAt_congr World.notifyChecks_memory _ _
    exact (congrArg UseLog.bytes log).trans (use.bytesLog.trans bytes.symm)
  · change (currentUse world.notifyChecks.log).reported ++
      addresses world.adapter.rx.buf notified (stored - notified) = _
    have whole : stored = notified + (stored - notified) := by
      have := use.order
      omega
    have parts := addresses_add world.adapter.rx.buf 0 notified (stored - notified)
    rw [Nat.zero_add, ← whole] at parts
    rw [log, use.reportedLog]
    exact parts.symm

/-- Stored bytes are appended to what the current use has stored. -/
theorem store (use : RxUse world stored notified) (bytes : List UInt8)
    (fits : bytes.length ≤ world.adapter.rx.sizeLeft) :
    RxUse (world.onRxReadyStore bytes) (stored + bytes.length) notified := by
  rw [World.onRxReadyStore_of_fits fits]
  have order := use.order
  refine ⟨?_, use.lastNotifyBuf, by omega, ?_, ?_, ?_⟩
  · simp [use.currBuf]
  · have target : addresses world.adapter.rx.currBuf 0 bytes.length =
        addresses world.adapter.rx.buf stored bytes.length := by
      rw [use.currBuf, addresses_advance]
    have parts := addresses_add world.adapter.rx.buf 0 stored bytes.length
    rw [Nat.zero_add] at parts
    simp [currentUse, use.storedLog, target, parts]
  · have written := world.bytesAt_storeBytes world.adapter.rx.buf stored bytes
    have memory : (((world.storeBytes world.adapter.rx.currBuf bytes).observe
        (.stored world.adapter.rx.currBuf bytes)).setRx
          { world.adapter.rx with
            currBuf := world.adapter.rx.currBuf.advance bytes.length
            sizeLeft := world.adapter.rx.sizeLeft - bytes.length }).memory =
        (world.storeBytes (world.adapter.rx.buf.advance stored) bytes).memory := by
      rw [← use.currBuf]
      rfl
    rw [World.bytesAt_congr memory]
    simp [currentUse, use.bytesLog, use.currBuf, written]
  · simpa [currentUse] using use.reportedLog

end RxUse

/-! ## The invariant of a run -/

/-- The calls that can end the use of a buffer. -/
def ApiCall.endsUse : ApiCall -> Bool
  | .rxEnable _ _ _ | .rxDisable => true
  | _ => false

/-- A use is ended by a call only when nothing is waiting to be reported. -/
def Careful (policy : Policy App) : Prop :=
  forall world call, policy.call world call -> call.endsUse = true -> world.unnotified = false

/-- The context says that nothing is waiting; only a careful client makes it so. -/
structure ReceiveInv (policy : Policy App) (clean : Bool) (world : World App) : Prop where
  use : exists stored notified, RxUse world stored notified ∧
    (Careful policy -> clean = true -> notified = stored)
  slices : EachEntry sliceFollows world.log
  ended : Careful policy -> EachEntry endedInFull world.log

namespace ReceiveInv

variable {policy : Policy App} {clean : Bool} {world later : World App}

theorem mono (holds : ReceiveInv policy true world) : ReceiveInv policy clean world := by
  rcases holds with ⟨⟨stored, notified, use, flushed⟩, slices, ended⟩
  exact ⟨⟨stored, notified, use, fun careful _ => flushed careful rfl⟩, slices, ended⟩

/-- When nothing is waiting, the invariant holds in every context. -/
theorem flush (holds : ReceiveInv policy clean world) {other : Bool}
    (nothing : Careful policy -> world.unnotified = false) : ReceiveInv policy other world := by
  rcases holds with ⟨⟨stored, notified, use, _⟩, slices, ended⟩
  by_cases careful : Careful policy
  · exact ⟨⟨stored, stored, use.flush (nothing careful), fun _ _ => rfl⟩, slices, ended⟩
  · exact ⟨⟨stored, notified, use, fun impossible => absurd impossible careful⟩, slices, ended⟩

theorem observe (holds : ReceiveInv policy clean world) {obs : Obs}
    (other : currentUse (obs :: world.log) = currentUse world.log)
    (slice : sliceFollows obs world.log) (full : endedInFull obs world.log) :
    ReceiveInv policy clean (world.observe obs) := by
  rcases holds with ⟨⟨stored, notified, use, flushed⟩, slices, ended⟩
  exact ⟨⟨stored, notified, use.observe other, flushed⟩, ⟨slice, slices⟩,
    fun careful => ⟨full, ended careful⟩⟩

theorem left (holds : ReceiveInv policy clean world) (same : LeavesReception world later) :
    ReceiveInv policy clean later := by
  rcases holds with ⟨⟨stored, notified, use, flushed⟩, slices, ended⟩
  refine ⟨⟨stored, notified, use.left same, flushed⟩, ?_, fun careful => ?_⟩
  · rw [same.eachEntry]
    · exact slices
    · intro obs log transmit
      cases obs with
      | event evt => cases transmit
      | _ => trivial
  · rw [same.eachEntry]
    · exact ended careful
    · intro obs log transmit
      cases obs with
      | event evt => cases transmit
      | returned call ret time =>
          cases call with
          | rxEnable buf len timeout => cases transmit
          | _ => trivial
      | _ => trivial

theorem rxEnable (holds : ReceiveInv policy clean world) (buf : Pointer) (len : Nat)
    (timeout : Int) (allowed : policy.call world (.rxEnable buf len timeout)) :
    ReceiveInv policy clean
      (world.directCall (.rxEnable buf len timeout) (World.rxEnable buf len timeout)) := by
  rcases holds with ⟨⟨stored, notified, use, _⟩, slices, ended⟩
  refine ⟨⟨0, 0, .of_rxEnable world buf len timeout, fun _ _ => rfl⟩, ?_, fun careful => ?_⟩
  · exact ⟨trivial, trivial, slices⟩
  · have flushed := use.flush (careful world _ allowed rfl)
    exact ⟨flushed.reportedInFull.same, trivial, ended careful⟩

theorem rxBufRsp (holds : ReceiveInv policy clean world) (buf : Pointer) (len : Nat) :
    ReceiveInv policy clean (world.directCall (.rxBufRsp buf len) (World.rxBufRsp buf len)) := by
  rcases holds with ⟨⟨stored, notified, use, flushed⟩, slices, ended⟩
  have responded := use.rxBufRsp buf len
  rcases world.directCall_rxBufRsp_cases buf len with ⟨_, same⟩ | ⟨_, same⟩
  · rw [same] at responded ⊢
    exact ⟨⟨stored, notified, responded, flushed⟩, ⟨trivial, trivial, slices⟩,
      fun careful => ⟨trivial, trivial, ended careful⟩⟩
  · rw [same] at responded ⊢
    have checked : forall check : Obs -> List Obs -> Prop,
        (forall what log, check (.assertFailed what) log) ->
        check (.called (.rxBufRsp buf len)) world.log -> EachEntry check world.log ->
        EachEntry check ((world.observe (.called (.rxBufRsp buf len))).assertNoMsg
          .rxNextBufLenZero (world.adapter.rx.nextBufLen = 0)).log := by
      intro check ignores call each
      rw [World.read_assertNoMsg _ _ _ (EachEntry check) fun what log =>
        propext (and_iff_right (ignores what log))]
      exact ⟨call, each⟩
    refine ⟨⟨stored, notified, responded, flushed⟩, ⟨trivial, ?_⟩, fun careful => ⟨trivial, ?_⟩⟩
    · exact checked sliceFollows (fun _ _ => trivial) trivial slices
    · exact checked endedInFull (fun _ _ => trivial) trivial (ended careful)

/-- A buffer is released after everything in it has been reported. -/
theorem released (holds : ReceiveInv policy true world) :
    ReceiveInv policy true ((world.switchRxBuffer .adapter).2.observe
      (.event (.rxBufReleased world.adapter.rx.buf))) := by
  rcases holds with ⟨⟨stored, notified, use, flushed⟩, slices, ended⟩
  refine ⟨⟨0, 0, .of_released world, fun _ _ => rfl⟩, ⟨trivial, slices⟩, fun careful => ?_⟩
  have same := flushed careful rfl
  subst same
  exact ⟨use.reportedInFull, ended careful⟩

theorem switchedNone (holds : ReceiveInv policy true world)
    (none : world.adapter.rx.buf = none) :
    ReceiveInv policy true (world.switchRxBuffer .adapter).2 := by
  rcases holds with ⟨⟨stored, notified, use, _⟩, slices, ended⟩
  exact ⟨⟨0, 0, use.switchedNone none, fun _ _ => rfl⟩, slices, ended⟩

theorem notifyChecks (holds : ReceiveInv policy clean world) :
    ReceiveInv policy clean world.notifyChecks := by
  rcases holds with ⟨⟨stored, notified, use, flushed⟩, slices, ended⟩
  have log : forall check, (forall what log, check (.assertFailed what) log) ->
      EachEntry check world.notifyChecks.log = EachEntry check world.log := by
    intro check ignores
    refine World.read_notifyChecks (EachEntry check) fun what log => propext ?_
    exact and_iff_right (ignores what log)
  refine ⟨⟨stored, notified, ?_, flushed⟩, ?_, fun careful => ?_⟩
  · exact use.frame (by simp) (by simp) (by simp) (by simp)
      (World.read_notifyChecks currentUse fun _ _ => rfl)
  · rw [log sliceFollows fun _ _ => trivial]
    exact slices
  · rw [log endedInFull fun _ _ => trivial]
    exact ended careful

theorem report (holds : ReceiveInv policy clean world) (pending : world.unnotified = true) :
    ReceiveInv policy true ((world.notifyChecks.setRx
      { world.adapter.rx with lastNotifyBuf := world.adapter.rx.currBuf }).observe
        (.event (.rxRdy world.adapter.rx.buf
          (world.adapter.rx.lastNotifyBuf.diff world.adapter.rx.buf)
          (world.adapter.rx.currBuf.diff world.adapter.rx.lastNotifyBuf)))) := by
  rcases holds.notifyChecks with ⟨_, slices, ended⟩
  rcases holds with ⟨⟨stored, notified, use, _⟩, _, _⟩
  have log : currentUse world.notifyChecks.log = currentUse world.log :=
    World.read_notifyChecks currentUse fun _ _ => rfl
  refine ⟨⟨stored, stored, use.report pending, fun _ _ => rfl⟩, ⟨?_, slices⟩, fun careful =>
    ⟨trivial, ended careful⟩⟩
  have waiting := use.waiting pending
  change _ ∧ 0 < _ ∧ (currentUse world.notifyChecks.log).reported = _ ∧ exists whole,
    (currentUse world.notifyChecks.log).stored = _ ∧ _
  rw [use.offset pending, use.length pending, log]
  exact ⟨use.present pending, by omega, use.reportedLog, stored, use.storedLog, by omega⟩

theorem store (holds : ReceiveInv policy false world) (bytes : List UInt8)
    (fits : bytes.length ≤ world.adapter.rx.sizeLeft) :
    ReceiveInv policy false (world.onRxReadyStore bytes) := by
  rcases holds with ⟨⟨stored, notified, use, _⟩, slices, ended⟩
  have written := use.store bytes fits
  rw [World.onRxReadyStore_of_fits fits] at written ⊢
  refine ⟨⟨_, _, written, fun _ impossible => absurd impossible Bool.false_ne_true⟩, ?_, ?_⟩
  · simpa [EachEntry, sliceFollows] using slices
  · intro careful
    simpa [EachEntry, endedInFull] using ended careful

end ReceiveInv

/-- Reception with a client that follows a policy.  What is always true does
not need the client to be careful. -/
def reception (policy : Policy App) : ReceptionInvariant policy Bool where
  Inv := ReceiveInv policy
  idle := false
  inLoop := false
  inCallback := id
  inDisable := fun _ => true
  flushed := fun _ => true
  left := fun _ _ _ holds same => holds.left same
  aside := fun _ _ evt holds other => by
    cases evt with
    | rxRdy buf offset len => cases other
    | rxBufReleased buf => cases other
    | _ => exact holds.observe rfl trivial trivial
  leave := fun _ _ _ holds _ => holds.observe rfl trivial trivial
  rxEnable := fun _ _ buf len timeout _ holds allowed => holds.rxEnable buf len timeout allowed
  rxBufRsp := fun _ _ buf len _ holds _ => holds.rxBufRsp buf len
  rxDisableBegin := fun _ world holds allowed => by
    have called : ReceiveInv policy true (world.observe (.called .rxDisable)) :=
      (holds.flush fun careful => careful world _ allowed rfl).observe rfl trivial trivial
    rcases called with ⟨⟨stored, notified, use, flushed⟩, slices, ended⟩
    exact ⟨⟨stored, notified, use.frame rfl rfl rfl rfl rfl, flushed⟩, slices, ended⟩
  rxDisableSwitch := fun _ _ holds _ => holds.released
  rxDisabled := fun _ _ holds _ => holds.mono.observe rfl trivial trivial
  rxDisableReturned := fun _ _ _ _ holds => holds.observe rfl trivial trivial
  notified := fun _ _ holds pending => holds.report pending
  notifiedNone := fun _ world holds nothing => by
    apply holds.notifyChecks.flush
    intro _
    simpa [World.unnotified] using nothing
  unflushed := fun _ _ holds => holds.mono
  onRxReadyBegin := fun _ holds _ => holds.observe rfl trivial trivial
  switched := fun _ holds _ => holds.released
  switchedNone := fun _ holds none => holds.switchedNone none
  requested := fun _ holds => holds.observe rfl trivial trivial
  stored := fun _ bytes holds _ fits => holds.store bytes fits
  dropped := fun _ _ holds _ => holds.observe rfl trivial trivial
  onRxReadyEnd := fun _ holds => holds.observe rfl trivial trivial
  Always := fun world => EachEntry sliceFollows world.log ∧
    (Careful policy -> EachEntry endedInFull world.log)
  always := fun _ _ holds => ⟨holds.slices, holds.ended⟩
  called := fun _ _ known => ⟨⟨trivial, known.1⟩, fun careful => ⟨trivial, known.2 careful⟩⟩
  checked := fun world holds known => by
    cases holds with
    | true => exact known
    | false => exact ⟨⟨trivial, known.1⟩, fun careful => ⟨trivial, known.2 careful⟩⟩
  forget := fun _ _ _ known => ⟨known.1.2, fun careful => (known.2 careful).2⟩

theorem receiveInv_initial (policy : Policy App) (target : AdapterData)
    (memory : Nat -> Nat -> UInt8) (app : App) :
    ReceiveInv policy false (World.initial target memory app) := by
  have use : RxUse (World.initial target memory app) 0 0 :=
    ⟨rfl, fun _ => rfl, Nat.le_refl 0, rfl, rfl, rfl⟩
  exact ⟨⟨0, 0, use, fun _ _ => rfl⟩, trivial, fun _ => trivial⟩

/-- Whatever the client does, the slices it is given follow one another. -/
theorem sliceFollows_of_reached {policy : Policy App} {current : AdapterConfig App}
    (reached : Reached policy current) : EachEntry sliceFollows current.state.log :=
  ((reception policy).toCallback.reached_always (receiveInv_initial policy) reached).1

/-- A careful client misses nothing at the end of a use. -/
theorem endedInFull_of_reached {policy : Policy App} (careful : Careful policy)
    {current : AdapterConfig App} (reached : Reached policy current) :
    EachEntry endedInFull current.state.log :=
  ((reception policy).toCallback.reached_always (receiveInv_initial policy) reached).2 careful

/-! ## Released bytes have been reported -/

/-- No call is made that returns an error. -/
def returnsNoError (world : World App) : ApiCall -> Prop
  | .rxEnable buf len timeout => (world.rxEnable buf len timeout).1 = 0
  | .rxBufRsp buf len => (world.rxBufRsp buf len).1 = 0
  | _ => True

instance (world : World App) (call : ApiCall) : Decidable (returnsNoError world call) :=
  match call with
  | .rxEnable _ _ _ | .rxBufRsp _ _ => inferInstanceAs (Decidable (_ = _))
  | .tx _ _ _ | .txAbort | .rxDisable => .isTrue trivial

/-- Reception is disabled only when nothing is waiting to be reported. -/
def disablesFlushed (world : World App) (call : ApiCall) : Prop :=
  call = .rxDisable -> world.unnotified = false

instance (world : World App) (call : ApiCall) : Decidable (disablesFlushed world call) :=
  inferInstanceAs (Decidable (_ -> _))

abbrev noErrors : Policy App := .calling returnsNoError

abbrev noErrorsFlushed : Policy App :=
  .calling fun world call => returnsNoError world call ∧ disablesFlushed world call

/-- An `rx_enable` that succeeds finds no current buffer. -/
theorem unnotified_of_rxEnable {world : World App} {buf : Pointer} {len : Nat} {timeout : Int}
    (succeeds : (world.rxEnable buf len timeout).1 = 0) : world.unnotified = false := by
  have none := ((world.rxEnable_eq_zero_iff buf len timeout).mp succeeds).1
  simp [World.unnotified, none]

theorem noErrorsFlushed_careful : Careful (noErrorsFlushed : Policy App) := by
  intro world call allowed ends
  cases call with
  | rxEnable buf len timeout => exact unnotified_of_rxEnable allowed.1
  | rxDisable => exact allowed.2 rfl
  | _ => cases ends

/-- If no call fails and reception is disabled only when nothing is waiting,
every stored byte is reported exactly once before its buffer is released. -/
theorem released_in_full {current : AdapterConfig App}
    (reached : Reached noErrorsFlushed current) :
    EachEntry releasedInFull current.state.log := by
  apply (endedInFull_of_reached noErrorsFlushed_careful reached).mono
  intro obs earlier full
  cases obs with
  | event evt =>
      cases evt with
      | rxBufReleased buf => exact full
      | _ => trivial
  | _ => trivial

/-- One byte is received into a buffer of four. -/
def oneByteReceived : List (Sigma Answer) :=
  [⟨.next, .client (.rxEnable (some ⟨1, 0⟩) 4 100)⟩] ++ irqStarts ++
    [⟨.flag .irqRxReady, true⟩, ⟨.client .rxBufRequest, none⟩, ⟨.fifoRead 4, .ok [7]⟩,
      ⟨.fifoRead 3, .ok []⟩, ⟨.errCheck, (0 : Int)⟩]

/-- The byte is reported by the timeout, and then reception is disabled. -/
def reportedByteReceived : List (Sigma Answer) :=
  oneByteReceived ++ [⟨.next, .rxTimeout⟩, ⟨.client (.rxRdy (some ⟨1, 0⟩) 0 1), none⟩,
    ⟨.next, .client .rxDisable⟩]

def timedOutRun : AdapterConfig Unit :=
  scripted noErrorsFlushed 200 () reportedByteReceived

theorem timedOutRun_in_full :
    pendingQuery timedOutRun = some (.client (.rxBufReleased (some ⟨1, 0⟩))) ∧
      EachEntry releasedInFull timedOutRun.state.log :=
  ⟨by decide +kernel, released_in_full (scripted_reached noErrorsFlushed 200 () _)⟩

/-- Reception is disabled before the timeout. -/
def disabledRun (policy : Policy Unit) [forall world call, Decidable (policy.call world call)]
    [forall world evt, Decidable (policy.leave world evt)]
    [forall world next, Decidable (policy.fire world next)] : AdapterConfig Unit :=
  scripted policy 200 () (oneByteReceived ++ [⟨.next, .client .rxDisable⟩])

/-- `rx_disable` releases the buffer without reporting what is in it. -/
theorem not_released_in_full : ¬forall current : AdapterConfig Unit, Reached noErrors current ->
    EachEntry releasedInFull current.state.log := by
  intro claim
  have each := claim (disabledRun noErrors) (scripted_reached noErrors 200 () _)
  have released : (disabledRun noErrors).state.log.head? =
      some (.event (.rxBufReleased (some ⟨1, 0⟩))) := by decide +kernel
  have missed : (currentUse (disabledRun noErrors).state.log.tail).reported ≠
      (currentUse (disabledRun noErrors).state.log.tail).stored := by decide +kernel
  have full : ReportedInFull (some ⟨1, 0⟩) (currentUse (disabledRun noErrors).state.log.tail) :=
    each.head released
  exact missed full.same

/-! ## The slices are the bytes that were delivered -/

/-- A slice that is about to be reported holds the bytes that were delivered at
its place, and lies within the buffer that the client supplied. -/
theorem slice_of_delivering {policy : Policy App}
    (supplies : forall world call, policy.call world call -> suppliesBuffer call)
    {current : AdapterConfig App} (reached : Reached policy current) {buf : Pointer}
    {offset len : Nat} (here : Delivering (.rxRdy buf offset len) current) :
    current.state.bytesAt (buf.advance offset) len =
        ((currentUse current.state.log).bytes.drop offset).take len ∧
      exists size, Supplied current.state.log buf size ∧ offset + len ≤ size := by
  have rep := rxRep_of_reached supplies reached
  rcases (reception policy).toCallback.delivering (receiveInv_initial policy) reached here with
    ⟨_, ⟨stored, notified, use, _⟩, slices, _⟩
  rcases slices.1 with ⟨present, positive, _, whole, storedLog, within⟩
  -- The buffer of the event is the current one.
  have storedHere : (currentUse current.state.log).stored =
      addresses current.state.adapter.rx.buf 0 stored := use.storedLog
  rcases addresses_injective present (by omega) (storedLog.symm.trans storedHere) with ⟨same, equal⟩
  have bytes : (currentUse current.state.log).bytes =
      current.state.bytesAt current.state.adapter.rx.buf stored := use.bytesLog
  have position : current.state.adapter.rx.currBuf =
      current.state.adapter.rx.buf.advance stored := use.currBuf
  rw [← same] at bytes position
  constructor
  · have split : stored = offset + (len + (stored - offset - len)) := by omega
    rw [bytes, split]
    exact current.state.bytesAt_slice buf offset len _ present
  · rcases rep.current with ⟨none, _⟩ | ⟨size, other, _, _, supplied, _, currBuf, _, room⟩
    · rw [same, none] at present
      cases present
    · rw [← same] at supplied currBuf
      have positions := Pointer.advance_injective present (currBuf.symm.trans position)
      exact ⟨size, supplied, by omega⟩

/-- Buffers exist and are not empty. -/
abbrev supplied : Policy App := .calling fun _ => suppliesBuffer

/-- Besides, no call ends a use while something is waiting to be reported. -/
abbrev suppliedFlushed : Policy App :=
  .calling fun world call =>
    suppliesBuffer call ∧ (call.endsUse = true -> world.unnotified = false)

instance (call : ApiCall) : Decidable (suppliesBuffer call) :=
  match call with
  | .rxEnable _ _ _ | .rxBufRsp _ _ => inferInstanceAs (Decidable (_ ∧ _))
  | .tx _ _ _ | .txAbort | .rxDisable => .isTrue trivial

/-- The receive half is valid, and the slices of each use follow one another,
stay inside the buffer, hold what was delivered, and cover all of it. -/
structure ReceptionExact (current : AdapterConfig App) : Prop where
  rep : RxRep current.state
  slices : EachEntry sliceFollows current.state.log
  ended : EachEntry endedInFull current.state.log
  delivered : forall buf offset len, Delivering (.rxRdy buf offset len) current ->
    current.state.bytesAt (buf.advance offset) len =
        ((currentUse current.state.log).bytes.drop offset).take len ∧
      exists size, Supplied current.state.log buf size ∧ offset + len ≤ size

/-- Reception is exact in every run in which the buffers exist, are not empty,
and are never taken away while something is waiting to be reported. -/
theorem reception_exact {current : AdapterConfig App}
    (reached : Reached suppliedFlushed current) : ReceptionExact current := by
  have supplies : forall world call, (suppliedFlushed : Policy App).call world call ->
      suppliesBuffer call := fun _ _ allowed => allowed.1
  have careful : Careful (suppliedFlushed : Policy App) := fun _ _ allowed => allowed.2
  refine ⟨rxRep_of_reached supplies reached, sliceFollows_of_reached reached,
    endedInFull_of_reached careful reached, ?_⟩
  intro buf offset len here
  exact slice_of_delivering supplies reached here

def suppliedRun : AdapterConfig Unit :=
  scripted suppliedFlushed 200 () reportedByteReceived

theorem suppliedRun_exact :
    currentUse suppliedRun.state.log.tail = ⟨[⟨1, 0⟩], [7], [⟨1, 0⟩]⟩ ∧
      ReceptionExact suppliedRun :=
  ⟨by decide +kernel, reception_exact (scripted_reached suppliedFlushed 200 () _)⟩

/-- A byte that is still waiting when reception is disabled is in no slice. -/
theorem not_reception_exact : ¬forall current : AdapterConfig Unit, Reached supplied current ->
    ReceptionExact current := by
  intro claim
  have each := (claim (disabledRun supplied) (scripted_reached supplied 200 () _)).ended
  have released : (disabledRun supplied).state.log.head? =
      some (.event (.rxBufReleased (some ⟨1, 0⟩))) := by decide +kernel
  have missed : (currentUse (disabledRun supplied).state.log.tail).reported ≠
      (currentUse (disabledRun supplied).state.log.tail).stored := by decide +kernel
  have full : ReportedInFull (some ⟨1, 0⟩) (currentUse (disabledRun supplied).state.log.tail) :=
    each.head released
  exact missed full.same

end Uart
end NrfExamples
