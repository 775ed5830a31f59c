import NrfExamples.Uart.ReceptionRuns

namespace NrfExamples
namespace Uart

/-!
# The receive half of the data

Whatever the client does, as long as its buffers exist and are not empty, the
receive half always describes a position inside a buffer that the client has
supplied.  The checks of the source follow from that, and so does that nothing
is written anywhere else.  Rejected calls are included: a rejected `rx_enable`
replaces the buffers all the same.
-/

variable {App : Type}

/-- The client has handed over this buffer with this length. -/
def Supplied (log : List Obs) (buf : Pointer) (len : Nat) : Prop :=
  (exists timeout, .called (.rxEnable buf len timeout) ∈ log) ∨ .called (.rxBufRsp buf len) ∈ log

/-- A buffer exists and has room for at least one byte. -/
def suppliesBuffer : ApiCall -> Prop
  | .rxEnable buf len _ => buf.isSome ∧ 1 ≤ len
  | .rxBufRsp buf len => buf.isSome ∧ 1 ≤ len
  | _ => True

/-- The current buffer with what has been stored and notified, or none. -/
def CurrentBuffer (log : List Obs) (rx : RxData) : Prop :=
  (rx.buf = none ∧ rx.sizeLeft = 0) ∨
    exists len stored notified, rx.buf.isSome ∧ Supplied log rx.buf len ∧
      rx.lastNotifyBuf = rx.buf.advance notified ∧ rx.currBuf = rx.buf.advance stored ∧
      notified ≤ stored ∧ stored + rx.sizeLeft = len

/-- Bytes were stored inside a supplied buffer. -/
def InsideSupplied (log : List Obs) (dest : Pointer) (count : Nat) : Prop :=
  exists buf len offset, buf.isSome ∧ Supplied log buf len ∧ dest = buf.advance offset ∧
    offset + count ≤ len

/-- The representation invariant, with what follows for the checks and writes. -/
structure RxRep (world : World App) : Prop where
  current : CurrentBuffer world.log world.adapter.rx
  next : world.adapter.rx.nextBuf = none <-> world.adapter.rx.nextBufLen = 0
  nextSupplied : world.adapter.rx.nextBuf.isSome ->
    Supplied world.log world.adapter.rx.nextBuf world.adapter.rx.nextBufLen
  checks : forall what, .assertFailed what ∈ world.log -> what.isReceive = false
  writes : forall dest bytes, .stored dest bytes ∈ world.log ->
    InsideSupplied world.log dest bytes.length

/-! ## Sections that leave the buffers alone -/

section Frame

variable {world later : World App}

theorem Supplied.mono {log longer : List Obs} (kept : log ⊆ longer) {buf : Pointer} {len : Nat}
    (supplied : Supplied log buf len) : Supplied longer buf len := by
  rcases supplied with ⟨timeout, member⟩ | member
  · exact .inl ⟨timeout, kept member⟩
  · exact .inr (kept member)

theorem CurrentBuffer.mono {log longer : List Obs} (kept : log ⊆ longer) {rx : RxData}
    (current : CurrentBuffer log rx) : CurrentBuffer longer rx := by
  rcases current with none | ⟨len, stored, notified, present, supplied, rest⟩
  · exact .inl none
  · exact .inr ⟨len, stored, notified, present, supplied.mono kept, rest⟩

theorem InsideSupplied.mono {log longer : List Obs} (kept : log ⊆ longer) {dest : Pointer}
    {count : Nat} (inside : InsideSupplied log dest count) : InsideSupplied longer dest count := by
  rcases inside with ⟨buf, len, offset, present, supplied, rest⟩
  exact ⟨buf, len, offset, present, supplied.mono kept, rest⟩

/-- The buffers are the same; the timeout, its timer and the flag may differ. -/
def SameBuffers (later world : World App) : Prop :=
  exists timeout timer enabled, later.adapter.rx =
    { world.adapter.rx with timeout := timeout, timeoutTimer := timer, enabled := enabled }

theorem SameBuffers.of_eq (same : later.adapter.rx = world.adapter.rx) : SameBuffers later world :=
  ⟨_, _, _, same⟩

/-- An entry that says nothing about buffers or failed checks of reception. -/
def Obs.isPlain : Obs -> Bool
  | .stored _ _ => false
  | .assertFailed what => !what.isReceive
  | _ => true

theorem RxRep.frame (rep : RxRep world) (same : SameBuffers later world)
    (kept : world.log ⊆ later.log)
    (added : forall obs, obs ∈ later.log -> obs ∈ world.log ∨ obs.isPlain = true) :
    RxRep later := by
  rcases same with ⟨timeout, timer, enabled, same⟩
  constructor
  · rw [same]
    exact rep.current.mono kept
  · rw [same]
    exact rep.next
  · rw [same]
    intro present
    exact (rep.nextSupplied present).mono kept
  · intro what member
    rcases added _ member with old | plain
    · exact rep.checks what old
    · simpa [Obs.isPlain] using plain
  · intro dest bytes member
    rcases added _ member with old | plain
    · exact (rep.writes dest bytes old).mono kept
    · cases plain

theorem Obs.isPlain_of_isTransmit {obs : Obs} (transmit : obs.isTransmit = true) :
    obs.isPlain = true := by
  cases obs with
  | stored dest bytes => cases transmit
  | assertFailed what => exact transmit
  | _ => rfl

/-- Transmission and the passing of time leave the buffers alone. -/
theorem RxRep.left (rep : RxRep world) (same : LeavesReception world later) : RxRep later := by
  rcases same.rx with ⟨timer, rx⟩
  rcases same.log with ⟨added, transmit, log⟩
  refine rep.frame ⟨_, timer, _, rx⟩ ?_ ?_
  · rw [log]
    exact List.subset_append_right added world.log
  · intro obs member
    rw [log] at member
    rcases List.mem_append.mp member with new | old
    · exact .inr (Obs.isPlain_of_isTransmit (transmit obs new))
    · exact .inl old

theorem RxRep.observe (rep : RxRep world) {obs : Obs} (plain : obs.isPlain = true) :
    RxRep (world.observe obs) := by
  refine rep.frame (.of_eq rfl) (List.subset_cons_self _ _) ?_
  intro entry member
  rcases List.mem_cons.mp member with rfl | old
  · exact .inr plain
  · exact .inl old

/-- A section that does not touch the log. -/
theorem RxRep.silent (rep : RxRep world) (same : SameBuffers later world)
    (log : later.log = world.log) : RxRep later := by
  refine rep.frame same ?_ ?_
  · rw [log]
    exact List.Subset.refl _
  · intro obs member
    rw [log] at member
    exact .inl member

theorem RxRep.assertTransmit (rep : RxRep world) {what : Assertion} (holds : Bool)
    (transmit : what.isReceive = false) : RxRep (world.assertNoMsg what holds) := by
  cases holds with
  | true => exact rep
  | false => exact rep.observe (by simp [Obs.isPlain, transmit])

end Frame

/-! ## Sections that change the buffers -/

namespace RxRep

variable {world : World App}

/-- In a valid state the checks of `notify_rx_buffer` succeed. -/
theorem notifyChecks (rep : RxRep world) : world.notifyChecks = world := by
  rcases rep.current with ⟨none, _⟩ | ⟨len, stored, notified, _, _, last, curr, order, _⟩
  · exact World.notifyChecks_of_none none
  · exact World.notifyChecks_of_advance last curr order

theorem notifyRxBuffer (rep : RxRep world) : RxRep world.notifyRxBuffer.2 := by
  cases pending : world.unnotified with
  | false =>
      rw [World.notifyRxBuffer_of_notified pending, rep.notifyChecks]
      exact rep
  | true =>
      rw [World.notifyRxBuffer_of_unnotified pending, rep.notifyChecks]
      refine ⟨?_, rep.next, rep.nextSupplied, rep.checks, rep.writes⟩
      rcases rep.current with ⟨none, full⟩ | ⟨len, stored, _, present, supplied, _, curr, _, size⟩
      · exact .inl ⟨none, full⟩
      · exact .inr ⟨len, stored, stored, present, supplied, curr, curr, Nat.le_refl stored, size⟩

/-- The prepared buffer, or none, becomes the current one. -/
theorem switchRxBuffer (rep : RxRep world) : RxRep (world.switchRxBuffer .adapter).2 := by
  refine ⟨?_, by simp [World.switchRxBuffer], by simp [World.switchRxBuffer], rep.checks,
    rep.writes⟩
  cases prepared : world.adapter.rx.nextBuf with
  | none =>
      refine .inl ⟨prepared, ?_⟩
      exact rep.next.mp prepared
  | some address =>
      have supplied := rep.nextSupplied (by simp [prepared])
      refine .inr ⟨world.adapter.rx.nextBufLen, 0, 0, by simp [World.switchRxBuffer, prepared],
        supplied, ?_, ?_, Nat.le_refl 0, Nat.zero_add _⟩
      · simp [World.switchRxBuffer]
      · simp [World.switchRxBuffer]

theorem rxEnable (rep : RxRep world) (buf : Pointer) (len : Nat) (timeout : Int)
    (present : buf.isSome) (room : 1 ≤ len) :
    RxRep (world.directCall (.rxEnable buf len timeout) (World.rxEnable buf len timeout)) := by
  have called : RxRep (world.observe (.called (.rxEnable buf len timeout))) := rep.observe rfl
  have replaced : RxRep
      ((world.observe (.called (.rxEnable buf len timeout))).rxEnable buf len timeout).2 := by
    refine ⟨.inl ⟨rfl, rfl⟩, ?_, fun _ => .inl ⟨timeout, List.mem_cons_self⟩, called.checks,
      called.writes⟩
    change buf = none <-> len = 0
    constructor
    · intro none
      rw [none] at present
      cases present
    · intro empty
      omega
  exact replaced.observe rfl

theorem rxBufRsp (rep : RxRep world) (buf : Pointer) (len : Nat) (present : buf.isSome)
    (room : 1 ≤ len) :
    RxRep (world.directCall (.rxBufRsp buf len) (World.rxBufRsp buf len)) := by
  have called : RxRep (world.observe (.called (.rxBufRsp buf len))) := rep.observe rfl
  rcases world.directCall_rxBufRsp_cases buf len with ⟨_, same⟩ | ⟨free, same⟩
  · rw [same]
    exact called.observe rfl
  · have zero : world.adapter.rx.nextBufLen = 0 := rep.next.mp free
    rw [same, zero]
    refine RxRep.observe ?_ rfl
    refine ⟨called.current, ?_, fun _ => .inr List.mem_cons_self, called.checks, called.writes⟩
    change buf = none <-> len = 0
    constructor
    · intro none
      rw [none] at present
      cases present
    · intro empty
      omega

/-- Bytes that fit into the rest of the buffer are stored inside it. -/
theorem onRxReadyStore (rep : RxRep world) (bytes : List UInt8)
    (room : world.adapter.rx.sizeLeft ≠ 0) (fits : bytes.length ≤ world.adapter.rx.sizeLeft) :
    RxRep (world.onRxReadyStore bytes) := by
  rcases rep.current with
    ⟨_, full⟩ | ⟨len, stored, notified, present, supplied, last, curr, order, size⟩
  · exact absurd full room
  rw [World.onRxReadyStore_of_fits fits]
  have kept : world.log ⊆ .stored world.adapter.rx.currBuf bytes :: world.log :=
    List.subset_cons_self _ _
  refine ⟨?_, rep.next, ?_, ?_, ?_⟩
  · refine .inr ⟨len, stored + bytes.length, notified, present, ?_, last, ?_, ?_, ?_⟩
    · simpa using supplied.mono kept
    · simp [curr]
    · omega
    · change stored + bytes.length + (world.adapter.rx.sizeLeft - bytes.length) = len
      omega
  · intro prepared
    simpa using (rep.nextSupplied prepared).mono kept
  · intro what member
    have old : .assertFailed what ∈ world.log := by simpa using member
    exact rep.checks what old
  · intro dest written member
    simp only [World.setRx_log, World.observe_log, World.storeBytes_log] at member ⊢
    rcases List.mem_cons.mp member with new | old
    · cases new
      refine ⟨world.adapter.rx.buf, len, stored, present, supplied.mono kept, curr, ?_⟩
      omega
    · exact (rep.writes dest written old).mono kept

end RxRep

/-! ## Runs -/

/-- The reports in the log add nothing to what the client has supplied. -/
theorem Supplied.of_report {log : List Obs} {obs : Obs} (report : obs.isReport = true)
    {buf : Pointer} {len : Nat} (supplied : Supplied (obs :: log) buf len) :
    Supplied log buf len := by
  rcases supplied with ⟨timeout, member⟩ | member
  · rcases List.mem_cons.mp member with rfl | old
    · cases report
    · exact .inl ⟨timeout, old⟩
  · rcases List.mem_cons.mp member with rfl | old
    · cases report
    · exact .inr old

theorem RxRep.forget {world : World App} {obs : Obs} (report : obs.isReport = true)
    (rep : RxRep (world.observe obs)) : RxRep world := by
  refine ⟨?_, rep.next, fun present => (rep.nextSupplied present).of_report report, ?_, ?_⟩
  · rcases rep.current with none | ⟨len, stored, notified, present, supplied, rest⟩
    · exact .inl none
    · exact .inr ⟨len, stored, notified, present, supplied.of_report report, rest⟩
  · intro what member
    exact rep.checks what (List.mem_cons_of_mem _ member)
  · intro dest bytes member
    rcases rep.writes dest bytes (List.mem_cons_of_mem _ member) with
      ⟨buf, len, offset, present, supplied, rest⟩
    exact ⟨buf, len, offset, present, supplied.of_report report, rest⟩

/-- The representation invariant is kept by every section, in any context. -/
def representation (policy : Policy App)
    (supplies : forall world call, policy.call world call -> suppliesBuffer call) :
    ReceptionInvariant policy Unit where
  Inv := fun _ => RxRep
  idle := ()
  inLoop := ()
  inCallback := id
  inDisable := id
  flushed := id
  left := fun _ _ _ rep same => rep.left same
  aside := fun _ _ _ rep _ => rep.observe rfl
  leave := fun _ _ _ rep _ => rep.observe rfl
  rxEnable := fun _ world buf len timeout _ rep allowed => by
    rcases supplies world _ allowed with ⟨present, room⟩
    exact rep.rxEnable buf len timeout present room
  rxBufRsp := fun _ world buf len _ rep allowed => by
    rcases supplies world _ allowed with ⟨present, room⟩
    exact rep.rxBufRsp buf len present room
  rxDisableBegin := fun _ _ rep _ =>
    RxRep.silent (rep.observe rfl) ⟨_, _, false, rfl⟩ rfl
  rxDisableSwitch := fun _ _ rep _ => rep.switchRxBuffer.observe rfl
  rxDisabled := fun _ _ rep _ => rep.observe rfl
  rxDisableReturned := fun _ _ _ _ rep => rep.observe rfl
  notified := fun _ world rep pending => by
    have later := rep.notifyRxBuffer
    rw [World.notifyRxBuffer_of_unnotified pending] at later
    exact later.observe rfl
  notifiedNone := fun _ world rep nothing => by
    rw [rep.notifyChecks]
    exact rep
  unflushed := fun _ _ rep => rep
  onRxReadyBegin := fun _ rep _ => rep.observe rfl
  switched := fun _ rep _ => rep.switchRxBuffer.observe rfl
  switchedNone := fun _ rep _ => rep.switchRxBuffer
  requested := fun _ rep => rep.observe rfl
  stored := fun _ bytes rep room fits => rep.onRxReadyStore bytes room fits
  dropped := fun _ _ rep _ => rep.observe rfl
  onRxReadyEnd := fun _ rep => rep.observe rfl
  Always := RxRep
  always := fun _ _ rep => rep
  called := fun _ _ rep => rep.observe rfl
  checked := fun _ holds rep => rep.assertTransmit holds rfl
  forget := fun _ _ report rep => rep.forget report

theorem rxRep_initial (target : AdapterData) (memory : Nat -> Nat -> UInt8) (app : App) :
    RxRep (World.initial target memory app) := by
  refine ⟨.inl ⟨rfl, rfl⟩, ?_, ?_, ?_, ?_⟩
  · exact ⟨fun _ => rfl, fun _ => rfl⟩
  · intro impossible
    cases impossible
  · intro what impossible
    cases impossible
  · intro dest bytes impossible
    cases impossible

/-- In every run in which the buffers exist and are not empty, the receive half
is valid between any two sections, whether or not the calls are accepted. -/
theorem rxRep_of_reached {policy : Policy App}
    (supplies : forall world call, policy.call world call -> suppliesBuffer call)
    {current : AdapterConfig App} (reached : Reached policy current) : RxRep current.state :=
  (representation policy supplies).toCallback.reached_always rxRep_initial reached

end Uart
end NrfExamples
