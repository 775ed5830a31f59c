import NrfExamples.Uart.PreemptedBooks

namespace NrfExamples
namespace Uart
namespace Preempted

open Reentrant

/-!
# Transmission under preemption

What has become of the transfers can be read off the log: `tx` takes one over,
and the pieces that are pushed afterwards belong to it.  However the adapter is
preempted, a piece is always the next one of the current transfer.  Every
transfer that has ended is reported by one event, or is about to be by a call
under way, and the event says how much was pushed.

It need not say that all was.  `on_tx_complete` looks at what remains to be sent
before it takes the lock, and the transfer that it then completes may be another
one.
-/

variable {App : Type}

/-- A transfer that `tx` has taken over, and how much of it has been pushed. -/
structure Accepted where
  buf : Pointer
  len : Nat
  sent : Nat
  deriving DecidableEq, Repr

def Accepted.push (current : Accepted) (count : Nat) : Accepted :=
  { current with sent := current.sent + count }

/-- `tx` returns zero for nothing to send, too. -/
def accepts : Obs -> Bool
  | .returned (.tx _ len _) ret _ => ret = 0 ∧ len ≠ 0
  | _ => false

/-- The transfers of a log, newest first. -/
def transfers : List Obs -> List Accepted
  | [] => []
  | .returned (.tx buf len timeout) ret time :: older =>
      if accepts (.returned (.tx buf len timeout) ret time) then ⟨buf, len, 0⟩ :: transfers older
      else transfers older
  | .pushed _ bytes :: older =>
      match transfers older with
      | [] => []
      | current :: earlier => current.push bytes.length :: earlier
  | _ :: older => transfers older

/-- Every piece that was pushed was the next one of the current transfer. -/
def PushedInOrder : List Obs -> Prop
  | [] => True
  | .pushed src bytes :: older =>
      (exists current earlier, transfers older = current :: earlier ∧
        src = current.buf.advance current.sent ∧ current.sent + bytes.length ≤ current.len) ∧
        PushedInOrder older
  | _ :: older => PushedInOrder older

/-- The transfers that have ended. -/
def ended (world : World App) : List Accepted :=
  if world.adapter.tx.buf.isSome then (transfers world.log).tail else transfers world.log

/-- What an event reports of a transfer. -/
structure Report where
  buf : Pointer
  len : Nat
  deriving DecidableEq, Repr

namespace Report

variable (report : Report)

def isOf (transfer : Accepted) : Bool :=
  transfer.buf = report.buf ∧ transfer.sent = report.len

def isIn : UartEvent -> Bool
  | .txDone buf len | .txAborted buf len => buf = report.buf ∧ len = report.len
  | _ => false

def isEntry : Obs -> Bool
  | .event evt => report.isIn evt
  | _ => false

end Report

/-- How many transfers have ended with so much pushed, and how often that was
reported. -/
def endings (report : Report) : Ledger (World App) where
  taken := fun world => (ended world).countP report.isOf
  held := fun _ => 0
  given := fun world => world.log.countP report.isEntry
  spoiled := fun _ => 0

/-- The transmit half describes how far the current transfer has got. -/
structure Sending (world : World App) : Prop where
  current : (world.adapter.tx.buf = none ∧ world.adapter.tx.currBuf = none ∧
      world.adapter.tx.sizeLeft = 0) ∨
    exists transfer earlier, transfers world.log = transfer :: earlier ∧
      transfer.buf.isSome ∧ world.adapter.tx.buf = transfer.buf ∧
      world.adapter.tx.currBuf = transfer.buf.advance transfer.sent ∧
      transfer.sent + world.adapter.tx.sizeLeft = transfer.len
  pieces : PushedInOrder world.log

/-! ## Stretches -/

section Stretches

variable {report : Report} {world later : World App} {amount : Nat} {log added : List Obs}

/-- An entry that neither takes a transfer over nor pushes any of it. -/
def movesOn : Obs -> Bool
  | .pushed _ _ => true
  | obs => accepts obs

theorem transfers_cons {obs : Obs} (still : movesOn obs = false) :
    transfers (obs :: log) = transfers log := by
  cases obs with
  | pushed src bytes => cases still
  | returned call ret time =>
      cases call with
      | tx buf len timeout => exact if_neg (by simpa [movesOn] using still)
      | _ => rfl
  | _ => rfl

theorem pushedInOrder_cons {obs : Obs} (still : movesOn obs = false) :
    PushedInOrder (obs :: log) <-> PushedInOrder log := by
  cases obs with
  | pushed src bytes => cases still
  | _ => rfl

theorem transfers_append (still : forall obs, obs ∈ added -> movesOn obs = false) :
    transfers (added ++ log) = transfers log := by
  induction added with
  | nil => rfl
  | cons obs added inductionHypothesis =>
      rw [List.cons_append, transfers_cons (still obs List.mem_cons_self)]
      exact inductionHypothesis fun other member => still other (List.mem_cons_of_mem _ member)

theorem pushedInOrder_append (still : forall obs, obs ∈ added -> movesOn obs = false) :
    PushedInOrder (added ++ log) <-> PushedInOrder log := by
  induction added with
  | nil => rfl
  | cons obs added inductionHypothesis =>
      rw [List.cons_append, pushedInOrder_cons (still obs List.mem_cons_self)]
      exact inductionHypothesis fun other member => still other (List.mem_cons_of_mem _ member)

def reportsEnd : Obs -> Bool
  | .event (.txDone _ _) | .event (.txAborted _ _) => true
  | _ => false

/-- An entry that is about no transfer. -/
def isAside (obs : Obs) : Bool :=
  !movesOn obs && !reportsEnd obs

theorem Report.isEntry_of_aside (report : Report) {obs : Obs} (aside : isAside obs = true) :
    report.isEntry obs = false := by
  cases obs with
  | event evt =>
      cases evt with
      | txDone buf len => cases aside
      | txAborted buf len => cases aside
      | _ => rfl
  | _ => rfl

/-- The stretch leaves the current transfer alone and records nothing about any. -/
def LeavesTransfers (world later : World App) : Prop :=
  SameTransfer later world ∧ exists added, (forall obs, obs ∈ added -> isAside obs = true) ∧
    later.log = added ++ world.log

theorem LeavesTransfers.of_eq (same : later.adapter.tx = world.adapter.tx)
    (log : later.log = world.log) : LeavesTransfers world later :=
  ⟨.of_eq same, [], by simp, log⟩

theorem LeavesTransfers.trans {last : World App} (first : LeavesTransfers world later)
    (second : LeavesTransfers later last) : LeavesTransfers world last := by
  rcases first with ⟨⟨timer, enabled, same⟩, added, aside, log⟩
  rcases second with ⟨⟨laterTimer, laterEnabled, also⟩, more, alsoAside, longer⟩
  refine ⟨⟨laterTimer, laterEnabled, by rw [also, same]⟩, more ++ added, ?_,
    by rw [longer, log, List.append_assoc]⟩
  intro obs member
  rcases List.mem_append.mp member with new | old
  · exact alsoAside obs new
  · exact aside obs old

theorem LeavesTransfers.observe (world : World App) {obs : Obs} (aside : isAside obs = true) :
    LeavesTransfers world (world.observe obs) :=
  ⟨.of_eq rfl, [obs], by simpa using aside, rfl⟩

theorem LeavesTransfers.assertNoMsg (world : World App) (what : Assertion) (check : Bool) :
    LeavesTransfers world (world.assertNoMsg what check) := by
  cases check with
  | true => exact .of_eq rfl rfl
  | false => exact .observe world rfl

/-- Such a stretch keeps the invariant, and ends and reports nothing. -/
theorem LeavesTransfers.moves (leaves : LeavesTransfers world later) (sending : Sending world) :
    Sending later ∧ (endings report).Moves world later amount amount := by
  rcases leaves with ⟨⟨timer, enabled, same⟩, added, aside, log⟩
  have still : forall obs, obs ∈ added -> movesOn obs = false := by
    intro obs member
    have here := aside obs member
    rw [isAside, Bool.and_eq_true] at here
    simpa using here.1
  have unchanged : transfers (added ++ world.log) = transfers world.log := transfers_append still
  constructor
  · constructor
    · rw [same, log, unchanged]
      exact sending.current
    · rw [log]
      exact (pushedInOrder_append still).mpr sending.pieces
  · refine .inr ⟨rfl, ?_⟩
    have none : added.countP report.isEntry = 0 :=
      List.countP_eq_zero.mpr fun obs member => by
        simp [report.isEntry_of_aside (aside obs member)]
    have ended : ended later = ended world := by
      simp only [Preempted.ended, same, log, unchanged]
    simp only [endings, ended, log, List.countP_append, none]
    omega

/-- Whether the event reports such an ending, as a number. -/
def Report.counted (report : Report) (evt : UartEvent) : Nat :=
  if report.isIn evt then 1 else 0

/-- An event reports what the call has in hand. -/
theorem moves_report (evt : UartEvent) (sending : Sending world) :
    Sending (world.observe (.event evt)) ∧ (endings report).Moves world
      (world.observe (.event evt)) (report.counted evt) 0 := by
  refine ⟨⟨sending.current, sending.pieces⟩, .inr ⟨rfl, ?_⟩⟩
  have same : ended (world.observe (.event evt)) = ended world := rfl
  have entry : report.isEntry (.event evt) = report.isIn evt := rfl
  simp only [endings, same, World.observe_log, List.countP_cons, entry, Report.counted]
  omega

/-- The current transfer ends, and the call has its report in hand. -/
theorem moves_end (sending : Sending world) (busy : world.adapter.tx.buf.isSome = true)
    {evt : UartEvent} (reports : report.isIn evt = decide (world.adapter.tx.buf = report.buf ∧
      world.adapter.tx.currBuf.diff world.adapter.tx.buf = report.len)) (timer : Option Nat)
    (enabled : Bool) :
    Sending (world.setTx { buf := none, currBuf := none, sizeLeft := 0, timeoutTimer := timer, enabled := enabled }) ∧
      (endings report).Moves world
        (world.setTx { buf := none, currBuf := none, sizeLeft := 0, timeoutTimer := timer, enabled := enabled })
        0 (report.counted evt) := by
  rcases sending.current with ⟨none, _⟩ | ⟨transfer, earlier, log, present, buf, currBuf, size⟩
  · exact absurd busy (by simp [none])
  refine ⟨⟨.inl ⟨rfl, rfl, rfl⟩, sending.pieces⟩, .inr ⟨rfl, ?_⟩⟩
  have before : ended world = earlier := by
    rw [ended, if_pos busy, log]
    rfl
  have after : ended (world.setTx
      { buf := none, currBuf := none, sizeLeft := 0, timeoutTimer := timer, enabled := enabled }) =
        transfer :: earlier := log
  have isOf : report.isIn evt = report.isOf transfer := by
    rw [reports, buf, currBuf, Pointer.diff_advance_self _ _ present]
    rfl
  simp only [endings, before, after, World.setTx_log, List.countP_cons, Report.counted,
    isOf]
  omega

theorem moves_txAborting (sending : Sending world) : Sending world.txAbortLocked.2 ∧
    (endings report).Moves world world.txAbortLocked.2 0 (delivered report.counted world.txAbortLocked.1) := by
  unfold World.txAbortLocked
  by_cases busy : world.adapter.tx.buf.isSome = true
  · simp only [busy, if_true]
    exact moves_end sending busy rfl _ _
  · simp only [busy]
    exact LeavesTransfers.moves (.of_eq rfl rfl) sending

/-- The transfer that is completed may have begun after the size was looked at. -/
theorem moves_txCompleting (sending : Sending world) : Sending world.onTxCompleteLocked.2 ∧
    (endings report).Moves world world.onTxCompleteLocked.2 0
      (delivered report.counted world.onTxCompleteLocked.1) := by
  unfold World.onTxCompleteLocked
  by_cases busy : world.adapter.tx.buf.isSome = true
  · rcases sending.current with ⟨none, _⟩ | ⟨transfer, _, _, present, buf, currBuf, _⟩
    · exact absurd busy (by simp [none])
    have checked : world.completeChecks = world := by
      rcases Option.isSome_iff_exists.mp present with ⟨address, same⟩
      simp [World.completeChecks, buf, currBuf, same, Pointer.advance, Pointer.atOrAfter]
    simp only [busy, if_true, checked]
    exact moves_end sending busy rfl _ _
  · simp only [busy]
    exact LeavesTransfers.moves (.of_eq rfl rfl) sending

/-- What is pushed comes next in the buffer. -/
theorem moves_pushing (room : Int) (sending : Sending world) :
    Sending (world.onTxReadyLocked room) ∧
      (endings report).Moves world (world.onTxReadyLocked room) amount amount := by
  have nothing : Sending world ∧ (endings report).Moves world world amount amount :=
    LeavesTransfers.moves (.of_eq rfl rfl) sending
  unfold World.onTxReadyLocked
  by_cases finished : world.adapter.tx.sizeLeft = 0
  · simp only [finished, ne_eq, not_true_eq_false, if_false]
    exact nothing
  simp only [finished, ne_eq, not_false_eq_true, if_true]
  rcases sending.current with ⟨_, _, none⟩ | ⟨transfer, earlier, log, present, buf, currBuf, size⟩
  · exact absurd none finished
  have there : world.adapter.tx.currBuf.isSome = true := by
    rw [currBuf, Pointer.isSome_advance]
    exact present
  rw [there, World.assertNoMsg_true]
  by_cases refused : min room (world.adapter.tx.sizeLeft : Int) ≤ 0
  · have same : world.onTxReady (min room world.adapter.tx.sizeLeft) = world := if_pos refused
    rw [same]
    exact nothing
  have pushed : world.onTxReady (min room world.adapter.tx.sizeLeft) = _ := if_neg refused
  rw [pushed]
  generalize many : (min room (world.adapter.tx.sizeLeft : Int)).toNat = count
  have within : count ≤ world.adapter.tx.sizeLeft := by omega
  have length := World.bytesAt_length world world.adapter.tx.currBuf count there
  have longer : transfers (.pushed world.adapter.tx.currBuf
      (world.bytesAt world.adapter.tx.currBuf count) :: world.log) =
        transfer.push count :: earlier := by
    simp only [transfers, log, length]
  refine ⟨⟨.inr ⟨transfer.push count, earlier, longer, present, buf, ?_, ?_⟩, ?_⟩, .inr ⟨rfl, ?_⟩⟩
  · change world.adapter.tx.currBuf.advance count = _
    rw [currBuf, Pointer.advance_advance]
    rfl
  · change transfer.sent + count + (world.adapter.tx.sizeLeft - count) = transfer.len
    omega
  · exact ⟨⟨transfer, earlier, log, currBuf, by omega⟩, sending.pieces⟩
  · have busy : world.adapter.tx.buf.isSome = true := by rw [buf, present]
    have before : ended world = earlier := by
      rw [ended, if_pos busy, log]
      rfl
    simp only [endings, ended, World.setTx_tx, busy, if_true,
      World.setTx_log, World.observe_log, longer, List.tail_cons, List.countP_cons] at before ⊢
    simp only [before, Report.isEntry, Bool.false_eq_true, if_false]
    omega

/-- A transfer is taken over when there is none; otherwise nothing changes. -/
theorem moves_txAccepting {buf : Pointer} (present : buf.isSome = true) (len : Nat) (timeout : Int)
    (sending : Sending world) :
    Sending (World.recorded (.tx buf len timeout) Prod.fst (World.txLocked buf len) world).2 ∧
      (endings report).Moves world
        (World.recorded (.tx buf len timeout) Prod.fst (World.txLocked buf len) world).2 0 0 := by
  have refused : forall ret, accepts (.returned (.tx buf len timeout) ret world.now) = false ->
      LeavesTransfers world ((world.observe (.called (.tx buf len timeout))).observe
        (.returned (.tx buf len timeout) ret world.now)) := by
    intro ret nothing
    refine (LeavesTransfers.observe world rfl).trans (.observe _ ?_)
    simp [isAside, movesOn, reportsEnd, nothing]
  unfold World.recorded World.txLocked
  by_cases empty : len = 0
  · simp only [empty, if_true]
    exact (empty ▸ refused 0 (by simp [accepts, empty])).moves sending
  by_cases busy : world.adapter.tx.buf.isSome = true
  · simp only [empty, if_false, World.observe_adapter, busy, if_true]
    have rejects : -EBUSY ≠ 0 := by decide
    exact (refused (-EBUSY) (by simp [accepts, rejects])).moves sending
  · simp only [empty, if_false, World.observe_adapter, busy]
    have idle : world.adapter.tx.buf = none := by simpa using busy
    have taken : transfers (.returned (.tx buf len timeout) 0 world.now ::
        .called (.tx buf len timeout) :: world.log) = ⟨buf, len, 0⟩ :: transfers world.log :=
      if_pos (by simp [accepts, empty])
    refine ⟨⟨.inr ⟨⟨buf, len, 0⟩, _, taken, present, rfl, ?_, Nat.zero_add _⟩, sending.pieces⟩,
      .inr ⟨rfl, ?_⟩⟩
    · exact (Pointer.advance_zero buf).symm
    · have before : ended world = transfers world.log := if_neg (by simp [idle])
      have after : forall later : World App, later.adapter.tx.buf = buf ->
          later.log = .returned (.tx buf len timeout) 0 world.now ::
            .called (.tx buf len timeout) :: world.log -> ended later = transfers world.log := by
        intro later same log
        rw [ended, same, if_pos present, log, taken]
        rfl
      simp only [endings, before]
      rw [after _ rfl rfl]
      simp [Report.isEntry]

theorem LeavesTransfers.rxEnable (buf : Pointer) (len : Nat) (timeout : Int) :
    LeavesTransfers world (World.recorded (.rxEnable buf len timeout) id
      (World.rxEnableLocked buf len timeout) world).2 :=
  ⟨.of_eq rfl, [.returned _ _ _, .called _], by simp [isAside, movesOn, accepts, reportsEnd], rfl⟩

theorem LeavesTransfers.rxBufRsp (buf : Pointer) (len : Nat) :
    LeavesTransfers world (World.recorded (.rxBufRsp buf len) id (World.rxBufRsp buf len)
      world).2 := by
  change LeavesTransfers world (world.directCall (.rxBufRsp buf len) (World.rxBufRsp buf len))
  rcases world.directCall_rxBufRsp_cases buf len with ⟨_, same⟩ | ⟨_, same⟩
  · rw [same]
    refine (LeavesTransfers.observe world ?_).trans (.observe _ ?_)
    · rfl
    · rfl
  · rw [same]
    have called : LeavesTransfers world (world.observe (.called (.rxBufRsp buf len))) :=
      .observe world rfl
    have checked : LeavesTransfers world ((world.observe (.called (.rxBufRsp buf len))).assertNoMsg
        .rxNextBufLenZero (world.adapter.rx.nextBufLen = 0)) := called.trans (.assertNoMsg _ _ _)
    have prepared : LeavesTransfers world (((world.observe (.called (.rxBufRsp buf len))).assertNoMsg
        .rxNextBufLenZero (world.adapter.rx.nextBufLen = 0)).setRx
          { world.adapter.rx with
            nextBuf := buf
            nextBufLen := len }) := checked.trans (.of_eq rfl rfl)
    exact prepared.trans (.observe _ rfl)

theorem LeavesTransfers.notifyRxBuffer : LeavesTransfers world world.notifyRxBuffer.2 := by
  have checks : LeavesTransfers world world.notifyChecks := by
    unfold World.notifyChecks
    split
    · exact (LeavesTransfers.assertNoMsg world _ _).trans (.assertNoMsg _ _ _)
    · exact .of_eq rfl rfl
  cases pending : world.unnotified with
  | false =>
      rw [World.notifyRxBuffer_of_notified pending]
      exact checks
  | true =>
      rw [World.notifyRxBuffer_of_unnotified pending]
      exact checks.trans (.of_eq rfl rfl)

theorem LeavesTransfers.switchRxBuffer (dev : Device) :
    LeavesTransfers world (world.switchRxBuffer dev).2 := by
  cases dev <;> exact .of_eq rfl rfl

theorem LeavesTransfers.onRxReadyLocked (received : Except Int (List UInt8)) :
    LeavesTransfers world (world.onRxReadyLocked received).2 := by
  unfold World.onRxReadyLocked
  by_cases full : world.adapter.rx.sizeLeft = 0
  · simp only [full, if_true]
    exact .of_eq rfl rfl
  · simp only [full, if_false]
    rw [World.onRxReadyStore_of_fits (List.length_take_le _ _)]
    exact ⟨.of_eq (by simp),
      [.stored world.adapter.rx.currBuf ((readBytes received).take world.adapter.rx.sizeLeft)],
      by simp [isAside, movesOn, accepts, reportsEnd], by simp⟩

theorem LeavesTransfers.dropped (bytes : List UInt8) (world : World App) : LeavesTransfers world
    (bytes.foldl (fun world byte => world.observe (.dropped [byte])) world) := by
  induction bytes generalizing world with
  | nil => exact .of_eq rfl rfl
  | cons byte bytes inductionHypothesis =>
      exact (LeavesTransfers.observe world rfl).trans (inductionHypothesis _)

theorem LeavesTransfers.onRxReadyAgainLocked (received : Except Int (List UInt8)) :
    LeavesTransfers world (world.onRxReadyAgainLocked received).2 := by
  have read : LeavesTransfers world (world.onRxReadyLocked received).2 := .onRxReadyLocked received
  unfold World.onRxReadyAgainLocked
  generalize world.onRxReadyLocked received = after at read
  rcases after with ⟨result, later⟩
  cases result with
  | none => exact read.trans ((LeavesTransfers.dropped _ _).trans (.observe _ rfl))
  | some found => exact read

theorem moves_stretch {run : World App -> World App} (plain : PlainStretch run)
    (sending : Sending world) :
    Sending (run world) ∧ (endings report).Moves world (run world) amount amount := by
  cases plain with
  | observe obs mark =>
      refine LeavesTransfers.moves (.observe world ?_) sending
      have isMark := mark world
      generalize obs world = entry at isMark
      cases entry with
      | called | callbackReturned => rfl
      | returned call ret time =>
          cases call with
          | txAbort | rxDisable => rfl
          | _ => cases isMark
      | _ => cases isMark
  | observeForeign evt => exact LeavesTransfers.moves (.of_eq rfl rfl) sending
  | setTx timer enabled => exact LeavesTransfers.moves ⟨⟨_, _, rfl⟩, [], by simp, rfl⟩ sending
  | setRx timer => exact LeavesTransfers.moves (.of_eq rfl rfl) sending
  | irq change => exact LeavesTransfers.moves (.of_eq rfl rfl) sending
  | rxDisable dev => cases dev <;> exact LeavesTransfers.moves (.of_eq rfl rfl) sending
  | onTxReady room => exact moves_pushing room sending

end Stretches

/-! ## Runs -/

/-- The book of one kind of ending. -/
def endingBook (App : Type) {calls : ApiCall -> Prop}
    (present : forall buf len timeout, calls (.tx buf len timeout) -> buf.isSome = true)
    (report : Report) : Book App calls where
  ledger := endings report
  inv := Sending
  amount := report.counted
  single := fun evt => by
    unfold Report.counted
    split <;> omega
  nothing := fun evt nothing => by
    cases evt with
    | txDone | txAborted => cases nothing
    | _ => rfl
  elapse := fun _ _ sending => ⟨⟨sending.current, sending.pieces⟩, ⟨rfl, rfl, rfl, rfl⟩⟩
  event := fun evt _ => moves_report evt
  plain := fun plain _ => moves_stretch plain
  notifying := fun world sending => by
    have leaves : LeavesTransfers world world.notifyRxBuffer.2 := .notifyRxBuffer
    have none : delivered report.counted world.notifyRxBuffer.1 = 0 := by
      cases pending : world.unnotified with
      | false => rw [World.notifyRxBuffer_of_notified pending]; rfl
      | true => rw [World.notifyRxBuffer_of_unnotified pending]; rfl
    rw [none]
    exact leaves.moves sending
  switching := fun world sending => by
    have leaves : LeavesTransfers world (world.switchRxBuffer .adapter).2 := .switchRxBuffer .adapter
    have none : releases report.counted (world.switchRxBuffer .adapter).1 = 0 := by
      cases (world.switchRxBuffer .adapter).1 <;> rfl
    rw [none]
    exact leaves.moves sending
  switchingTarget := fun _ sending => LeavesTransfers.moves (.switchRxBuffer .target) sending
  aborting := fun _ => moves_txAborting
  completing := fun _ => moves_txCompleting
  receiving := fun received _ sending => (LeavesTransfers.onRxReadyLocked received).moves sending
  receivingAgain := fun received _ sending =>
    (LeavesTransfers.onRxReadyAgainLocked received).moves sending
  calling := fun call made world sending => by
    cases call with
    | tx buf len timeout => exact moves_txAccepting (present _ _ _ made) len timeout sending
    | rxEnable buf len timeout => exact (LeavesTransfers.rxEnable buf len timeout).moves sending
    | rxBufRsp buf len => exact (LeavesTransfers.rxBufRsp buf len).moves sending
    | txAbort | rxDisable => trivial

/-- The endings of transfers in a state, when so many calls are under way. -/
structure Reported (report : Report) (world : World App) (underWay : Nat) : Prop where
  notTwice : world.log.countP report.isEntry ≤ (ended world).countP report.isOf
  notLost : (ended world).countP report.isOf ≤ world.log.countP report.isEntry + underWay

/-- Under any preemption, every piece that is pushed is the next one of the current
transfer.  Every transfer that has ended is reported once with what was pushed of
it, unless a call under way is about to do so, and nothing else is reported. -/
theorem transfers_reported {calls : ApiCall -> Prop}
    (present : forall buf len timeout, calls (.tx buf len timeout) -> buf.isSome = true)
    {target : AdapterData} {memory : Nat -> Nat -> UInt8} {app : App}
    {current : Pool (interface App) Unit}
    (reached : (unobserved calls).Reachable ⟨World.initial target memory app, []⟩ current) :
    PushedInOrder current.state.log ∧ forall report,
      Reported report current.state (current.activities.countP Activity.underWay) := by
  have initial : Sending (World.initial target memory app) := ⟨.inl ⟨rfl, rfl, rfl⟩, trivial⟩
  have counts := fun report => (endingBook App present report).counts initial rfl reached
  refine ⟨(counts ⟨none, 0⟩).1.pieces, fun report => ?_⟩
  rcases (counts report).2 rfl with ⟨notTwice, notLost⟩
  refine ⟨?_, ?_⟩
  · change 0 + current.state.log.countP report.isEntry ≤ (ended current.state).countP report.isOf
      at notTwice
    omega
  · change (ended current.state).countP report.isOf ≤
      0 + current.state.log.countP report.isEntry + _ at notLost
    omega

def startedRun : Config (interface Unit) Unit :=
  alone 30 [] (.initial .zeroed (fun _ _ => 0) ()) (body (.apiCall (.tx (some ⟨2, 0⟩) 1 100)))

/-- The byte has been pushed, and `on_tx_complete` has seen that nothing is left. -/
def finishedRun : Config (interface Unit) Unit :=
  alone 9
    [⟨.flag .irqUpdate, true⟩, ⟨.flag .irqIsPending, true⟩, ⟨.flag .irqTxReady, true⟩,
      ⟨.fifoFill, (1 : Int)⟩, ⟨.flag .irqTxComplete, true⟩] startedRun.state (body .uartIrqHandler)

def abortedTransfer : Config (interface Unit) Unit :=
  alone 30 [⟨.client (.txAborted (some ⟨2, 0⟩) 1), none⟩] finishedRun.state
    (body (.apiCall .txAbort))

def secondRun : Config (interface Unit) Unit :=
  alone 30 [] abortedTransfer.state (body (.apiCall (.tx (some ⟨3, 0⟩) 2 100)))

/-- What is completed is the second transfer. -/
def mistakenRun : Config (interface Unit) Unit :=
  alone 40 [⟨.client (.txDone (some ⟨3, 0⟩) 0), none⟩, ⟨.errCheck, (0 : Int)⟩] secondRun.state
    finishedRun.prog

/-- The interrupt is preempted by an abort and a new transfer, after its test and
before its lock. -/
theorem mistakenRun_reachable : exists activities, (unobserved validCall).Reachable
    ⟨World.initial .zeroed (fun _ _ => 0) (), []⟩ ⟨mistakenRun.state, activities⟩ ∧
      activities.countP Activity.underWay = 0 := by
  let side : SideBySide (interface Unit) Unit := unobserved validCall
  let start : Pool (interface Unit) Unit := ⟨World.initial .zeroed (fun _ _ => 0) (), []⟩
  have starting : forall (proc : Proc) (world : World Unit), startable validCall proc ->
      side.begins proc world world := fun _ _ allowed => ⟨allowed, 0, rfl⟩
  have initially : side.Reachable start start := .refl
  obtain ⟨first, started⟩ : exists memory, side.Reachable start ⟨startedRun.state,
      [⟨.apiCall (.tx (some ⟨2, 0⟩) 1 100), memory, startedRun.prog⟩]⟩ :=
    initially.begin (starting _ _ rfl) (alone_reachable (rfl : startedRun = alone _ _ _ _))
  obtain ⟨second, finished⟩ : exists memory, side.Reachable start ⟨finishedRun.state,
      [⟨.apiCall (.tx (some ⟨2, 0⟩) 1 100), first, startedRun.prog⟩,
        ⟨.uartIrqHandler, memory, finishedRun.prog⟩]⟩ :=
    started.begin (starting _ _ trivial) (alone_reachable (rfl : finishedRun = alone _ _ _ _))
  obtain ⟨third, aborted⟩ : exists memory, side.Reachable start ⟨abortedTransfer.state,
      [⟨.apiCall (.tx (some ⟨2, 0⟩) 1 100), first, startedRun.prog⟩,
        ⟨.uartIrqHandler, second, finishedRun.prog⟩,
        ⟨.apiCall .txAbort, memory, abortedTransfer.prog⟩]⟩ :=
    finished.begin (starting _ _ trivial) (alone_reachable (rfl : abortedTransfer = alone _ _ _ _))
  obtain ⟨fourth, again⟩ : exists memory, side.Reachable start ⟨secondRun.state,
      [⟨.apiCall (.tx (some ⟨2, 0⟩) 1 100), first, startedRun.prog⟩,
        ⟨.uartIrqHandler, second, finishedRun.prog⟩,
        ⟨.apiCall .txAbort, third, abortedTransfer.prog⟩,
        ⟨.apiCall (.tx (some ⟨3, 0⟩) 2 100), memory, secondRun.prog⟩]⟩ :=
    aborted.begin (starting _ _ rfl) (alone_reachable (rfl : secondRun = alone _ _ _ _))
  have preempting : side.Reachable start ⟨secondRun.state,
      [⟨.apiCall (.tx (some ⟨2, 0⟩) 1 100), first, startedRun.prog⟩] ++
      ⟨.uartIrqHandler, second, finishedRun.prog⟩ ::
        [⟨.apiCall .txAbort, third, abortedTransfer.prog⟩,
          ⟨.apiCall (.tx (some ⟨3, 0⟩) 2 100), fourth, secondRun.prog⟩]⟩ := again
  rcases preempting.resume (alone_reachable (rfl : mistakenRun = alone _ _ _ _)) with
    ⟨_, mistaken⟩
  exact ⟨_, mistaken, rfl⟩

/-- The second transfer is reported as done with none of its two bytes sent.  Both
transfers are reported once. -/
theorem mistakenRun_reported :
    .event (.txDone (some ⟨3, 0⟩) 0) ∈ mistakenRun.state.log ∧
      ended mistakenRun.state = [⟨some ⟨3, 0⟩, 2, 0⟩, ⟨some ⟨2, 0⟩, 1, 1⟩] ∧
      PushedInOrder mistakenRun.state.log ∧ forall report, Reported report mistakenRun.state 0 := by
  rcases mistakenRun_reachable with ⟨activities, reached, finished⟩
  have reported := transfers_reported (fun _ _ _ valid => valid) reached
  rw [finished] at reported
  exact ⟨by decide +kernel, by decide +kernel, reported⟩

end Preempted
end Uart
end NrfExamples
