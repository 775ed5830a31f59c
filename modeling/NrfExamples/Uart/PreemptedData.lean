import NrfExamples.Uart.Preempted

namespace NrfExamples
namespace Uart
namespace Preempted

open Reentrant

/-!
# The data of the adapter under preemption

The positions in the buffers are only ever moved under the lock, and a stretch
under the lock looks at them again before it moves them.  So they stay valid
whatever else runs in between: nothing is read or written outside the buffers
of the clients, and no check of the source fails.
-/

variable {App : Type}

/-- The client has asked for this buffer to be sent. -/
def Offered (log : List Obs) (buf : Pointer) (len : Nat) : Prop :=
  exists timeout, .called (.tx buf len timeout) ∈ log

/-- The current transfer with what has been sent of it, or none. -/
def CurrentTransfer (log : List Obs) (tx : TxData) : Prop :=
  (tx.buf = none ∧ tx.currBuf = none ∧ tx.sizeLeft = 0) ∨
    exists len sent, tx.buf.isSome ∧ Offered log tx.buf len ∧ tx.currBuf = tx.buf.advance sent ∧
      sent + tx.sizeLeft = len

/-- Bytes were taken from inside a buffer that was to be sent. -/
def InsideOffered (log : List Obs) (src : Pointer) (count : Nat) : Prop :=
  exists buf len offset, buf.isSome ∧ Offered log buf len ∧ src = buf.advance offset ∧
    offset + count ≤ len

/-- The transmit half describes a position in a buffer, and what follows from it. -/
structure TxRep (world : World App) : Prop where
  current : CurrentTransfer world.log world.adapter.tx
  checks : forall what, .assertFailed what ∈ world.log -> what.isReceive = true
  reads : forall src bytes, .pushed src bytes ∈ world.log ->
    InsideOffered world.log src bytes.length

/-- Both halves are valid. -/
structure Rep (world : World App) : Prop where
  reception : RxRep world
  transmission : TxRep world

/-- A buffer exists, and one for reception has room for at least one byte. -/
def validCall : ApiCall -> Prop
  | .tx buf _ _ => buf.isSome
  | call => suppliesBuffer call

/-! ## Stretches that leave transmission alone -/

section Frame

variable {world later : World App}

theorem Offered.mono {log longer : List Obs} (kept : log ⊆ longer) {buf : Pointer} {len : Nat}
    (offered : Offered log buf len) : Offered longer buf len := by
  rcases offered with ⟨timeout, member⟩
  exact ⟨timeout, kept member⟩

theorem CurrentTransfer.mono {log longer : List Obs} (kept : log ⊆ longer) {tx : TxData}
    (current : CurrentTransfer log tx) : CurrentTransfer longer tx := by
  rcases current with none | ⟨len, sent, present, offered, rest⟩
  · exact .inl none
  · exact .inr ⟨len, sent, present, offered.mono kept, rest⟩

theorem InsideOffered.mono {log longer : List Obs} (kept : log ⊆ longer) {src : Pointer}
    {count : Nat} (inside : InsideOffered log src count) : InsideOffered longer src count := by
  rcases inside with ⟨buf, len, offset, present, offered, rest⟩
  exact ⟨buf, len, offset, present, offered.mono kept, rest⟩

/-- The transfer is the same; the timer and the flag may differ. -/
def SameTransfer (later world : World App) : Prop :=
  exists timer enabled, later.adapter.tx =
    { world.adapter.tx with timeoutTimer := timer, enabled := enabled }

theorem SameTransfer.of_eq (same : later.adapter.tx = world.adapter.tx) :
    SameTransfer later world :=
  ⟨_, _, same⟩

/-- An entry that says nothing about bytes or failed checks of transmission. -/
def saysNothing : Obs -> Bool
  | .pushed _ _ => false
  | .assertFailed what => what.isReceive
  | _ => true

theorem TxRep.frame (rep : TxRep world) (same : SameTransfer later world)
    (log : exists added, (forall obs, obs ∈ added -> saysNothing obs = true) ∧
      later.log = added ++ world.log) : TxRep later := by
  rcases same with ⟨timer, enabled, same⟩
  rcases log with ⟨added, silent, log⟩
  have kept : world.log ⊆ later.log := log ▸ List.subset_append_right added world.log
  constructor
  · rw [same]
    exact rep.current.mono kept
  · intro what member
    rw [log] at member
    rcases List.mem_append.mp member with new | old
    · exact silent _ new
    · exact rep.checks what old
  · intro src bytes member
    rw [log] at member
    rcases List.mem_append.mp member with new | old
    · have impossible := silent _ new
      cases impossible
    · exact (rep.reads src bytes old).mono kept

theorem TxRep.silent (rep : TxRep world) (same : SameTransfer later world)
    (log : later.log = world.log) : TxRep later :=
  rep.frame same ⟨[], by simp, log⟩

theorem TxRep.observe (rep : TxRep world) {obs : Obs} (silent : saysNothing obs = true) :
    TxRep (world.observe obs) :=
  rep.frame (.of_eq rfl) ⟨[obs], by simp [silent], rfl⟩

theorem TxRep.assertReceive (rep : TxRep world) {what : Assertion}
    (receive : what.isReceive = true) (check : Bool) : TxRep (world.assertNoMsg what check) := by
  cases check with
  | true => exact rep
  | false => exact rep.observe receive

/-- An entry that is about neither half. -/
theorem Rep.observe (rep : Rep world) {obs : Obs} (plain : obs.isPlain = true)
    (silent : saysNothing obs = true) : Rep (world.observe obs) :=
  ⟨rep.reception.observe plain, rep.transmission.observe silent⟩

/-- A stretch that moves nothing and is not recorded. -/
theorem Rep.silent (rep : Rep world) (rx : SameBuffers later world)
    (tx : SameTransfer later world) (log : later.log = world.log) : Rep later :=
  ⟨rep.reception.silent rx log, rep.transmission.silent tx log⟩

end Frame

/-! ## Stretches of reception -/

section Receive

variable {world : World App}

theorem Rep.notifyRxBuffer (rep : Rep world) : Rep world.notifyRxBuffer.2 := by
  refine ⟨rep.reception.notifyRxBuffer, ?_⟩
  cases pending : world.unnotified with
  | false =>
      rw [World.notifyRxBuffer_of_notified pending, rep.reception.notifyChecks]
      exact rep.transmission
  | true =>
      rw [World.notifyRxBuffer_of_unnotified pending, rep.reception.notifyChecks]
      exact rep.transmission.silent (.of_eq rfl) rfl

theorem Rep.switchRxBuffer (rep : Rep world) (dev : Device) :
    Rep (world.switchRxBuffer dev).2 := by
  cases dev with
  | adapter => exact ⟨rep.reception.switchRxBuffer, rep.transmission.silent (.of_eq rfl) rfl⟩
  | target => exact rep.silent (.of_eq rfl) (.of_eq rfl) rfl

theorem Rep.rxEnable (rep : Rep world) (buf : Pointer) (len : Nat) (timeout : Int)
    (valid : validCall (.rxEnable buf len timeout)) :
    Rep (World.recorded (.rxEnable buf len timeout) id (World.rxEnableLocked buf len timeout)
      world).2 := by
  constructor
  · have whole := rep.reception.rxEnable buf len timeout valid.1 valid.2
    exact whole.silent (.of_eq rfl) rfl
  · exact rep.transmission.frame (.of_eq rfl) ⟨[.returned _ _ _, .called _], by simp [saysNothing], rfl⟩

theorem Rep.rxBufRsp (rep : Rep world) (buf : Pointer) (len : Nat)
    (valid : validCall (.rxBufRsp buf len)) :
    Rep (World.recorded (.rxBufRsp buf len) id (World.rxBufRsp buf len) world).2 := by
  refine ⟨rep.reception.rxBufRsp buf len valid.1 valid.2, ?_⟩
  change TxRep (world.directCall (.rxBufRsp buf len) (World.rxBufRsp buf len))
  rcases world.directCall_rxBufRsp_cases buf len with ⟨_, same⟩ | ⟨_, same⟩
  · rw [same]
    exact (rep.transmission.observe rfl).observe rfl
  · rw [same]
    have called : TxRep (world.observe (.called (.rxBufRsp buf len))) := rep.transmission.observe rfl
    have checked : TxRep ((world.observe (.called (.rxBufRsp buf len))).assertNoMsg
        .rxNextBufLenZero (world.adapter.rx.nextBufLen = 0)) := called.assertReceive rfl _
    have prepared : TxRep (((world.observe (.called (.rxBufRsp buf len))).assertNoMsg
        .rxNextBufLenZero (world.adapter.rx.nextBufLen = 0)).setRx
          { world.adapter.rx with nextBuf := buf, nextBufLen := len }) :=
      checked.silent (.of_eq rfl) rfl
    exact prepared.observe rfl

/-- What is read fits, because the room is looked at under the same lock. -/
theorem Rep.onRxReadyLocked (rep : Rep world) (received : Except Int (List UInt8)) :
    Rep (world.onRxReadyLocked received).2 := by
  unfold World.onRxReadyLocked
  by_cases full : world.adapter.rx.sizeLeft = 0
  · simp only [full, if_true]
    exact rep
  · simp only [full, if_false]
    have fits : ((readBytes received).take world.adapter.rx.sizeLeft).length ≤
        world.adapter.rx.sizeLeft := List.length_take_le _ _
    refine ⟨rep.reception.onRxReadyStore _ full fits, ?_⟩
    rw [World.onRxReadyStore_of_fits fits]
    exact rep.transmission.frame (.of_eq (by simp))
      ⟨[.stored world.adapter.rx.currBuf ((readBytes received).take world.adapter.rx.sizeLeft)],
        by simp [saysNothing], by simp⟩

theorem Rep.dropped (rep : Rep world) (bytes : List UInt8) :
    Rep (bytes.foldl (fun world byte => world.observe (.dropped [byte])) world) := by
  induction bytes generalizing world with
  | nil => exact rep
  | cons byte bytes inductionHypothesis => exact inductionHypothesis (rep.observe rfl rfl)

theorem Rep.onRxReadyAgainLocked (rep : Rep world) (received : Except Int (List UInt8)) :
    Rep (world.onRxReadyAgainLocked received).2 := by
  have read := rep.onRxReadyLocked received
  unfold World.onRxReadyAgainLocked
  generalize world.onRxReadyLocked received = after at read
  rcases after with ⟨result, later⟩
  cases result with
  | none => exact (Rep.dropped read _).observe rfl rfl
  | some found => exact read

end Receive

/-! ## Stretches of transmission -/

section Transmit

variable {world : World App}

/-- A stretch that leaves the receive half alone, and nothing is left to send. -/
theorem Rep.idle (rep : Rep world) (timer : Option Nat) (enabled : Bool) :
    Rep (world.setTx { buf := none, currBuf := none, sizeLeft := 0, timeoutTimer := timer, enabled := enabled }) :=
  ⟨rep.reception.silent (.of_eq rfl) rfl, ⟨.inl ⟨rfl, rfl, rfl⟩, rep.transmission.checks, rep.transmission.reads⟩⟩

theorem Rep.tx (rep : Rep world) (buf : Pointer) (len : Nat) (timeout : Int)
    (valid : buf.isSome) :
    Rep (World.recorded (.tx buf len timeout) Prod.fst (World.txLocked buf len) world).2 := by
  have refused : forall ret : Int, Rep ((world.observe (.called (.tx buf len timeout))).observe
      (.returned (.tx buf len timeout) ret world.now)) :=
    fun ret => (rep.observe rfl rfl).observe rfl rfl
  unfold World.recorded World.txLocked
  by_cases empty : len = 0
  · simp only [empty, if_true]
    exact empty ▸ refused 0
  by_cases busy : world.adapter.tx.buf.isSome
  · simp only [empty, if_false, World.observe_adapter, busy, if_true]
    exact refused (-EBUSY)
  · simp only [empty, if_false, World.observe_adapter, busy]
    constructor
    · refine rep.reception.left ⟨⟨_, rfl⟩, rfl, [.returned (.tx buf len timeout) 0 world.now,
        .called (.tx buf len timeout)], ?_, rfl⟩
      simp [Obs.isTransmit, ApiCall.isTransmit]
    · have kept : world.log ⊆ .returned (.tx buf len timeout) 0 world.now ::
          .called (.tx buf len timeout) :: world.log := by
        intro obs member
        exact List.mem_cons_of_mem _ (List.mem_cons_of_mem _ member)
      refine ⟨.inr ⟨len, 0, valid, ⟨timeout, ?_⟩, ?_, Nat.zero_add _⟩, ?_, ?_⟩
      · exact List.mem_cons_of_mem _ List.mem_cons_self
      · exact (Pointer.advance_zero buf).symm
      · intro what member
        exact rep.transmission.checks what (by simpa using member)
      · intro src bytes member
        exact (rep.transmission.reads src bytes (by simpa using member)).mono kept

theorem Rep.txAbortLocked (rep : Rep world) : Rep world.txAbortLocked.2 := by
  unfold World.txAbortLocked
  by_cases busy : world.adapter.tx.buf.isSome
  · simp only [busy, if_true]
    exact rep.idle _ _
  · simp only [busy]
    exact rep

/-- In a valid state the checks of `on_tx_complete` succeed. -/
theorem TxRep.completeChecks (rep : TxRep world) (busy : world.adapter.tx.buf.isSome) :
    world.completeChecks = world := by
  rcases rep.current with ⟨none, _⟩ | ⟨len, sent, present, _, currBuf, _⟩
  · exact absurd busy (by simp [none])
  · rcases Option.isSome_iff_exists.mp present with ⟨address, same⟩
    simp [World.completeChecks, currBuf, same, Pointer.advance, Pointer.atOrAfter]

theorem Rep.onTxCompleteLocked (rep : Rep world) : Rep world.onTxCompleteLocked.2 := by
  unfold World.onTxCompleteLocked
  by_cases busy : world.adapter.tx.buf.isSome
  · simp only [busy, if_true, rep.transmission.completeChecks busy]
    exact rep.idle _ _
  · simp only [busy]
    exact rep

/-- What is pushed is what comes next in the buffer, and no more than is left. -/
theorem Rep.onTxReadyLocked (rep : Rep world) (room : Int) : Rep (world.onTxReadyLocked room) := by
  unfold World.onTxReadyLocked
  by_cases finished : world.adapter.tx.sizeLeft = 0
  · simp only [finished, ne_eq, not_true_eq_false, if_false]
    exact rep
  simp only [finished, ne_eq, not_false_eq_true, if_true]
  refine ⟨rep.reception.left (LeavesReception.onTxReady world _), ?_⟩
  rcases rep.transmission.current with ⟨_, _, none⟩ | ⟨len, sent, present, offered, currBuf, size⟩
  · exact absurd none finished
  have there : world.adapter.tx.currBuf.isSome = true := by
    rw [currBuf, Pointer.isSome_advance]
    exact present
  rw [there, World.assertNoMsg_true]
  by_cases refused : min room (world.adapter.tx.sizeLeft : Int) ≤ 0
  · have same : world.onTxReady (min room world.adapter.tx.sizeLeft) = world := if_pos refused
    rw [same]
    exact rep.transmission
  have pushed : world.onTxReady (min room world.adapter.tx.sizeLeft) = _ := if_neg refused
  rw [pushed]
  generalize counted : (min room (world.adapter.tx.sizeLeft : Int)).toNat = count
  have within : count ≤ world.adapter.tx.sizeLeft := by omega
  have kept : world.log ⊆ .pushed world.adapter.tx.currBuf
      (world.bytesAt world.adapter.tx.currBuf count) :: world.log := List.subset_cons_self _ _
  have length := World.bytesAt_length world world.adapter.tx.currBuf count there
  refine ⟨.inr ⟨len, sent + count, present, offered.mono kept, ?_, ?_⟩, ?_, ?_⟩
  · simp [currBuf]
  · change sent + count + (world.adapter.tx.sizeLeft - count) = len
    omega
  · intro what member
    exact rep.transmission.checks what (by simpa using member)
  · intro src bytes member
    rcases List.mem_cons.mp member with new | old
    · cases new
      refine ⟨world.adapter.tx.buf, len, sent, present, offered.mono kept, currBuf, ?_⟩
      omega
    · exact (rep.transmission.reads src bytes old).mono kept

end Transmit

/-! ## Programs -/

section Programs

variable (calls : ApiCall -> Prop)

/-- Every stretch of the program leaves valid data behind. -/
abbrev Kept {A : Type} (program : LockProg App A) : Prop :=
  Prog.Keeps (system calls) Rep (callable calls) program

variable {calls}

theorem plain_of_isMark {obs : Obs} (mark : isMark obs = true) :
    obs.isPlain = true ∧ saysNothing obs = true := by
  cases obs with
  | called | callbackReturned | returned => exact ⟨rfl, rfl⟩
  | _ => cases mark

theorem Rep.plain {world : World App} (rep : Rep world) {run : World App -> World App}
    (plain : PlainStretch run) : Rep (run world) := by
  cases plain with
  | observe obs mark =>
      rcases plain_of_isMark (mark world) with ⟨isPlain, silent⟩
      exact rep.observe isPlain silent
  | observeForeign evt => exact rep.silent (.of_eq rfl) (.of_eq rfl) rfl
  | setTx timer enabled => exact rep.silent (.of_eq rfl) ⟨_, _, rfl⟩ rfl
  | setRx timer => exact rep.silent ⟨_, _, _, rfl⟩ (.of_eq rfl) rfl
  | irq change => exact rep.silent (.of_eq rfl) (.of_eq rfl) rfl
  | rxDisable dev =>
      cases dev with
      | adapter => exact rep.silent ⟨_, _, false, rfl⟩ (.of_eq rfl) rfl
      | target => exact rep.silent (.of_eq rfl) (.of_eq rfl) rfl
  | onTxReady room => exact rep.onTxReadyLocked room

theorem kept_userCallback (dev : Device) (evt : UartEvent) :
    Kept calls (userCallback dev evt : LockProg App Unit) := by
  cases dev with
  | adapter =>
      refine Prog.Keeps.andThen (Prog.keeps_modify fun _ rep => rep.observe rfl rfl) fun _ => ?_
      refine Prog.Keeps.andThen (Prog.keeps_invoke trivial) fun _ => ?_
      exact Prog.keeps_modify fun _ rep => rep.observe rfl rfl
  | target => exact Prog.keeps_modify fun _ rep => rep.plain (.observeForeign evt)

theorem kept_deliver (evt : Option UartEvent) : Kept calls (deliver evt : LockProg App Unit) := by
  cases evt with
  | none => trivial
  | some made => exact kept_userCallback .adapter made

theorem kept_switchRxBuffer (dev : Device) (requestNew : Bool) :
    Kept calls (switchRxBuffer dev requestNew : LockProg App Unit) := by
  refine Prog.Keeps.andThen (Prog.keeps_perform fun _ rep => rep.switchRxBuffer dev) fun oldBuf => ?_
  have released : forall rest : LockProg App Unit, Kept calls rest -> Kept calls (do
      if oldBuf.isSome then userCallback dev (.rxBufReleased oldBuf)
      rest) := by
    intro rest kept
    split
    · exact Prog.Keeps.andThen (kept_userCallback dev _) fun _ => kept
    · exact kept
  split
  · exact released _ (kept_userCallback dev .rxBufRequest)
  · exact released (pure ()) trivial

theorem kept_plain {run : World App -> World App} (plain : PlainStretch run) :
    Kept calls (modify run) :=
  Prog.keeps_modify fun _ rep => rep.plain plain

theorem kept_txAbort : Kept calls (txAbort : LockProg App Int) := by
  refine Prog.Keeps.andThen (kept_plain (.setTx _ _)) fun _ => ?_
  refine Prog.Keeps.andThen (kept_plain (.setTx _ _)) fun _ => ?_
  refine Prog.Keeps.andThen (kept_plain (.irq _)) fun _ => ?_
  refine Prog.Keeps.andThen (Prog.keeps_perform fun _ rep => rep.txAbortLocked) fun evt => ?_
  exact Prog.Keeps.andThen (kept_deliver evt) fun _ => trivial

theorem kept_onTxComplete : Kept calls (onTxComplete : LockProg App Unit) := by
  refine Prog.Keeps.andThen (Prog.keeps_get _) fun sizeLeft => ?_
  split
  · refine Prog.Keeps.andThen (kept_plain (.setTx _ _)) fun _ => ?_
    refine Prog.Keeps.andThen (kept_plain (.irq _)) fun _ => ?_
    exact Prog.Keeps.andThen (Prog.keeps_perform fun _ rep => rep.onTxCompleteLocked) kept_deliver
  · trivial

/-- The data is kept valid by the parts of the adapter. -/
def validity (valid : forall call, calls call -> validCall call) : Composed App calls where
  Holds := fun program => Kept calls program
  result := fun value => Prog.keeps_pure value
  andThen := Prog.Keeps.andThen
  reading := fun _ _ rep => ⟨rep, trivial⟩
  question := fun query => Prog.keeps_question (I := interface App) query
  asking := fun _ _ none some _ answer allowed => by
    cases answer with
    | none => exact none
    | some call => exact some call allowed
  calling := fun called => ⟨called, fun _ => trivial⟩
  plain := kept_plain
  event := fun dev evt _ => kept_userCallback dev evt
  notifying := Prog.Keeps.andThen (Prog.keeps_perform fun _ rep => rep.notifyRxBuffer) kept_deliver
  switching := kept_switchRxBuffer
  aborting := kept_txAbort
  completing := kept_onTxComplete
  receiving := fun received => Prog.keeps_perform fun _ rep => rep.onRxReadyLocked received
  receivingAgain := fun received => Prog.keeps_perform fun _ rep => rep.onRxReadyAgainLocked received
  tx := fun buf len timeout made =>
    Prog.keeps_perform fun _ rep => rep.tx buf len timeout (valid _ made)
  rxEnable := fun buf len timeout made =>
    Prog.keeps_perform fun _ rep => rep.rxEnable buf len timeout (valid _ made)
  rxBufRsp := fun buf len made =>
    Prog.keeps_perform fun _ rep => rep.rxBufRsp buf len (valid _ made)

end Programs

/-! ## Runs -/

/-- The data is looked at without any memory. -/
abbrev unobserved (calls : ApiCall -> Prop) : SideBySide (interface App) Unit :=
  sideBySide calls () (fun _ _ _ => ()) fun _ _ => rfl

theorem rep_initial (target : AdapterData) (memory : Nat -> Nat -> UInt8) (app : App) :
    Rep (World.initial target memory app) := by
  refine ⟨rxRep_initial target memory app, ⟨.inl ⟨rfl, rfl, rfl⟩, ?_, ?_⟩⟩
  · intro what impossible
    cases impossible
  · intro src bytes impossible
    cases impossible

/-- The data of the adapter is valid in every state, under any preemption: of
calls by any number of clients, of the interrupt and of the timers, wherever
the lock is not held.  None of the checks has failed. -/
theorem data_valid {calls : ApiCall -> Prop} (valid : forall call, calls call -> validCall call)
    {target : AdapterData} {memory : Nat -> Nat -> UInt8} {app : App}
    {current : Pool (interface App) Unit}
    (reached : (unobserved calls).Reachable ⟨World.initial target memory app, []⟩ current) :
    Rep current.state ∧ forall what, .assertFailed what ∉ current.state.log := by
  have begins : forall proc (world later : World App), Rep world -> starts calls proc world later ->
      Rep later ∧ callable calls proc := by
    intro proc world later rep started
    rcases started with ⟨allowed, ticks, rfl⟩
    refine ⟨rep.silent (.of_eq rfl) (.of_eq rfl) rfl, ?_⟩
    cases proc with
    | apiCall call => exact allowed
    | _ => trivial
  have bodies : forall proc, callable calls proc -> Kept calls (body proc : LockProg App _) :=
    fun _ called => (validity valid).holds_body called
  have rep : Rep current.state :=
    SideBySide.invariant_of_reachable begins bodies (rep_initial target memory app) reached
  refine ⟨rep, fun what member => ?_⟩
  have isReceive := rep.transmission.checks what member
  rw [rep.reception.checks what member] at isReceive
  cases isReceive

instance : DecidablePred validCall := fun call =>
  match call with
  | .tx buf _ _ => inferInstanceAs (Decidable (buf.isSome = true))
  | .rxEnable buf len _ | .rxBufRsp buf len =>
      inferInstanceAs (Decidable (buf.isSome = true ∧ 1 ≤ len))
  | .txAbort | .rxDisable => .isTrue trivial

/-- A call goes on by itself for a while. -/
def alone (fuel : Nat) (script : List (Sigma Answer)) (world : World Unit)
    (prog : LockProg Unit Unit) : Config (interface Unit) Unit :=
  (system validCall).play (I := interface Unit) fuel script ⟨world, prog⟩

def enabledRun : Config (interface Unit) Unit :=
  alone 20 [] (.initial .zeroed (fun _ _ => 0) ()) (body (.apiCall (.rxEnable (some ⟨2, 0⟩) 4 100)))

/-- One byte has been received, and not yet notified. -/
def receivedRun : Config (interface Unit) Unit :=
  alone 40
    [⟨.flag .irqUpdate, true⟩, ⟨.flag .irqIsPending, true⟩, ⟨.flag .irqRxReady, true⟩,
      ⟨.fifoRead, .ok [7]⟩, ⟨.client .rxBufRequest, none⟩, ⟨.fifoRead, .ok [7]⟩,
      ⟨.fifoRead, .ok []⟩, ⟨.errCheck, (0 : Int)⟩] enabledRun.state (body .uartIrqHandler)

/-- `rx_disable` has found the buffer, and does not have the lock yet. -/
def foundRun : Config (interface Unit) Unit :=
  alone 6 [] receivedRun.state (body (.apiCall .rxDisable))

/-- The timer comes in between. -/
def notifiedRun : Config (interface Unit) Unit :=
  alone 30 [⟨.client (.rxRdy (some ⟨2, 0⟩) 0 1), none⟩] foundRun.state (body .rxTimeout)

def releasedRun : Config (interface Unit) Unit :=
  alone 30 [⟨.client (.rxBufReleased (some ⟨2, 0⟩)), none⟩, ⟨.client .rxDisabled, none⟩]
    notifiedRun.state foundRun.prog

theorem alone_reachable {fuel : Nat} {script : List (Sigma Answer)} {world : World Unit}
    {prog : LockProg Unit Unit} {run : Config (interface Unit) Unit}
    (same : run = alone fuel script world prog) :
    (system validCall).Reachable (I := interface Unit) ⟨world, prog⟩ ⟨run.state, run.prog⟩ := by
  rw [same]
  exact (system validCall).play_reachable (I := interface Unit) fuel script ⟨world, prog⟩

/-- `rx_disable` is preempted by the timer, after its test and before its lock. -/
theorem releasedRun_reachable {M : Type} (fresh : M)
    (remember : M -> World Unit -> World Unit -> M)
    (same : forall memory world, remember memory world world = memory) :
    exists activities, (sideBySide validCall fresh remember same).Reachable
      ⟨World.initial .zeroed (fun _ _ => 0) (), []⟩ ⟨releasedRun.state, activities⟩ ∧
      activities.countP Activity.underWay = 0 := by
  let side := sideBySide validCall fresh remember same
  let start : Pool (interface Unit) M := ⟨World.initial .zeroed (fun _ _ => 0) (), []⟩
  have starting : forall (proc : Proc) (world : World Unit), startable validCall proc ->
      side.begins proc world world := fun _ _ allowed => ⟨allowed, 0, rfl⟩
  have initially : side.Reachable start start := .refl
  obtain ⟨first, enabled⟩ : exists memory, side.Reachable start ⟨enabledRun.state,
      [⟨.apiCall (.rxEnable (some ⟨2, 0⟩) 4 100), memory, enabledRun.prog⟩]⟩ :=
    initially.begin (starting _ _ ⟨rfl, by decide⟩) (alone_reachable (rfl : enabledRun = alone _ _ _ _))
  obtain ⟨second, received⟩ : exists memory, side.Reachable start ⟨receivedRun.state,
      [⟨.apiCall (.rxEnable (some ⟨2, 0⟩) 4 100), first, enabledRun.prog⟩,
        ⟨.uartIrqHandler, memory, receivedRun.prog⟩]⟩ :=
    enabled.begin (starting _ _ trivial) (alone_reachable (rfl : receivedRun = alone _ _ _ _))
  obtain ⟨third, found⟩ : exists memory, side.Reachable start ⟨foundRun.state,
      [⟨.apiCall (.rxEnable (some ⟨2, 0⟩) 4 100), first, enabledRun.prog⟩,
        ⟨.uartIrqHandler, second, receivedRun.prog⟩,
        ⟨.apiCall .rxDisable, memory, foundRun.prog⟩]⟩ :=
    received.begin (starting _ _ trivial) (alone_reachable (rfl : foundRun = alone _ _ _ _))
  obtain ⟨fourth, notified⟩ : exists memory, side.Reachable start ⟨notifiedRun.state,
      [⟨.apiCall (.rxEnable (some ⟨2, 0⟩) 4 100), first, enabledRun.prog⟩,
        ⟨.uartIrqHandler, second, receivedRun.prog⟩,
        ⟨.apiCall .rxDisable, third, foundRun.prog⟩, ⟨.rxTimeout, memory, notifiedRun.prog⟩]⟩ :=
    found.begin (starting _ _ trivial) (alone_reachable (rfl : notifiedRun = alone _ _ _ _))
  have preempting : side.Reachable start ⟨notifiedRun.state,
      [⟨.apiCall (.rxEnable (some ⟨2, 0⟩) 4 100), first, enabledRun.prog⟩,
        ⟨.uartIrqHandler, second, receivedRun.prog⟩] ++
      ⟨.apiCall .rxDisable, third, foundRun.prog⟩ :: [⟨.rxTimeout, fourth, notifiedRun.prog⟩]⟩ :=
    notified
  rcases preempting.resume (alone_reachable (rfl : releasedRun = alone _ _ _ _)) with ⟨_, released⟩
  exact ⟨_, released, rfl⟩

theorem releasedRun_valid :
    .stored (some ⟨2, 0⟩) [7] ∈ releasedRun.state.log ∧
      .event (.rxRdy (some ⟨2, 0⟩) 0 1) ∈ releasedRun.state.log ∧
      Rep releasedRun.state ∧ forall what, .assertFailed what ∉ releasedRun.state.log := by
  rcases releasedRun_reachable () (fun _ _ _ => ()) (fun _ _ => rfl) with ⟨activities, reached, _⟩
  exact ⟨by decide +kernel, by decide +kernel, data_valid (fun _ valid => valid) reached⟩

end Preempted
end Uart
end NrfExamples
