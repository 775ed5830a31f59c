import NrfExamples.Uart.Coupled

namespace NrfExamples
namespace Uart
namespace Rejected

open Reentrant AdapterProg

/-!
# Calls that are rejected

`tx`, `rx_enable` and `rx_buf_rsp` return an error if the slot they fill is in
use.  Such a call should leave no trace.  So the run after it is compared with
the run in which it was not made: the data are the same, each run has its like
except for the call in the log, and buffers that are written, reported or
released belong to the adapter already or are handed over later.

`rx_enable` returns the error and goes on, so it leaves no trace only if it is
given again what is pending already.
-/

variable {App : Type}

namespace BufferCall

/-- The world after the call has returned. -/
def made (call : BufferCall) (world : World App) : World App :=
  world.directCall call.apiCall call.run

/-- What `rx_enable` would set is set already. -/
def Repeats (call : BufferCall) (world : World App) : Prop :=
  match call with
  | .rxEnable buf len timeout =>
      world.adapter.rx =
        { world.adapter.rx with
          buf := none
          currBuf := none
          sizeLeft := 0
          nextBuf := buf
          nextBufLen := len
          timeout := timeout
          enabled := true }
  | _ => True

end BufferCall

/-- The call leaves no trace: each run from here on has its like behind the call,
and each run behind the call its like from here on. -/
structure LeavesNoTrace (call : BufferCall) (current : AdapterConfig App) : Prop where
  fields : (call.made current.state).adapter = current.state.adapter
  like : forall later : AdapterConfig App,
    (adapterSystem anything).Reachable ⟨call.made current.state, current.prog⟩ later ->
      exists since, later.state = behind since (call.made current.state).log ∧
        (adapterSystem anything).Reachable current ⟨behind since current.state.log, later.prog⟩ ∧
        forall obs, obs ∈ since.log ->
          Handed (buffersOf current.state.adapter) since.log (bufferOf obs)
  same : forall later : AdapterConfig App, (adapterSystem anything).Reachable current later ->
    exists since, later.state = behind since current.state.log ∧
      (adapterSystem anything).Reachable ⟨call.made current.state, current.prog⟩
        ⟨behind since (call.made current.state).log, later.prog⟩

/-- The client can make a call: between handlers, or in a callback. -/
def ClientsTurn (config : AdapterConfig App) : Prop :=
  (exists next, config.prog = .call .environment next) ∨
    exists evt next, config.prog = .call (.client evt) next

/-! ## What a rejected call leaves behind -/

section Calls

variable {world : World App} (call : BufferCall)

/-- The slot that the call fills is in use. -/
def Busy (call : BufferCall) (data : AdapterData) : Prop :=
  match call with
  | .tx _ len _ => len ≠ 0 ∧ data.tx.buf.isSome
  | .rxEnable _ _ _ => data.rx.nextBuf.isSome ∨ data.rx.buf.isSome
  | .rxBufRsp _ _ => data.rx.nextBuf.isSome

theorem run_neg_iff : (call.run world).1 < 0 <-> Busy call world.adapter := by
  cases call with
  | tx buf len timeout =>
      by_cases empty : len = 0
      · simp [BufferCall.run, World.tx, Busy, empty]
      by_cases busy : world.adapter.tx.buf.isSome
      · simp [BufferCall.run, World.tx, Busy, empty, busy, EBUSY]
      · by_cases forever : timeout = sysForeverMs <;>
          simp [BufferCall.run, World.tx, Busy, empty, busy, forever]
  | rxEnable buf len timeout =>
      cases next : world.adapter.rx.nextBuf <;> cases current : world.adapter.rx.buf <;>
        simp [BufferCall.run, World.rxEnable, Busy, next, current, EBUSY]
  | rxBufRsp buf len =>
      by_cases busy : world.adapter.rx.nextBuf.isSome <;>
        simp [BufferCall.run, World.rxBufRsp, Busy, busy, EBUSY]

theorem rxEnable_of_repeats {buf : Pointer} {len : Nat} {timeout : Int}
    (busy : world.adapter.rx.nextBuf.isSome ∨ world.adapter.rx.buf.isSome)
    (repeats : (BufferCall.rxEnable buf len timeout).Repeats world)
    (irq : world.irq.rx = true ∧ world.irq.err = true) :
    world.rxEnable buf len timeout = (-EBUSY, world) := by
  have ret : (world.rxEnable buf len timeout).1 = -EBUSY := by
    rcases busy with next | current
    · simp [World.rxEnable, next]
    · simp [World.rxEnable, current]
  have later : (world.rxEnable buf len timeout).2 =
      { world.setRx world.adapter.rx with irq := { world.irq with rx := true, err := true } } :=
    congrArg (fun rx : RxData =>
      { world.setRx rx with irq := { world.irq with rx := true, err := true } }) repeats.symm
  have enabled : { world.irq with rx := true, err := true } = world.irq :=
    congrArg₂ (IrqEnables.mk world.irq.tx) irq.1.symm irq.2.symm
  rw [enabled] at later
  exact Prod.ext ret later

/-- A rejected call that sets nothing new does nothing. -/
theorem run_of_repeats (busy : Busy call world.adapter) (repeats : call.Repeats world)
    (irq : world.adapter.rx.enabled = true -> world.irq.rx = true ∧ world.irq.err = true) :
    call.run world = (-EBUSY, world) := by
  cases call with
  | tx buf len timeout => exact (if_neg busy.1).trans (if_pos busy.2)
  | rxEnable buf len timeout =>
      apply rxEnable_of_repeats busy repeats
      exact irq (congrArg RxData.enabled repeats)
  | rxBufRsp buf len => exact if_pos busy

/-- All that is left of it are its entries in the log. -/
theorem made_of_repeats (busy : Busy call world.adapter) (repeats : call.Repeats world)
    (irq : world.adapter.rx.enabled = true -> world.irq.rx = true ∧ world.irq.err = true) :
    call.made world = (world.observe (.called call.apiCall)).observe
      (.returned call.apiCall (-EBUSY) world.now) := by
  have ran : call.run (world.observe (.called call.apiCall)) =
      (-EBUSY, world.observe (.called call.apiCall)) := by
    apply run_of_repeats
    · exact busy
    · cases call <;> exact repeats
    · exact irq
  unfold BufferCall.made World.directCall
  rw [ran]
  rfl

/-- The data are as before only if nothing new was to be set. -/
theorem repeats_of_adapter (same : (call.made world).adapter = world.adapter) :
    call.Repeats world := by
  cases call with
  | tx buf len timeout => trivial
  | rxEnable buf len timeout => exact (congrArg AdapterData.rx same).symm
  | rxBufRsp buf len => trivial

/-- The call does its three sections, and what follows goes on behind them. -/
theorem apiCall_reaches {A : Type} (rest : Int -> AdapterProg App A) :
    (adapterSystem anything).Reachable ⟨world, (apiCall call.apiCall).bind rest⟩
      ⟨call.made world, rest (call.run (world.observe (.called call.apiCall))).1⟩ := by
  cases call <;> exact ((Relation.ReflTransGen.refl.tail (.act _ _ _)).tail (.act _ _ _)).tail
    (.act _ _ _)

end Calls

/-- The call comes back to where it was made. -/
theorem made_reachable {current : AdapterConfig App} (turn : ClientsTurn current)
    (call : BufferCall) : (adapterSystem anything).Reachable current
      ⟨call.made current.state, current.prog⟩ := by
  rcases current with ⟨world, prog⟩
  rcases turn with ⟨next, rfl⟩ | ⟨evt, next, rfl⟩
  · have asked : (adapterSystem anything).Reachable ⟨world, .call .environment next⟩
        ⟨world, environment.bind next⟩ := .single (.call _ _ _)
    have chosen := (asked.tail (.ask world .next _ (.client call.apiCall)
      ⟨trivial, fun _ _ => trivial⟩)).tail (.call world (.handler (.client call.apiCall)) _)
    have returns : (adapterSystem anything).Reachable
        ⟨world, (apiCall call.apiCall).bind fun _ => .call .environment next⟩
        ⟨call.made world, .call .environment next⟩ := apiCall_reaches call _
    apply chosen.trans
    cases call <;> exact returns
  · have asked : (adapterSystem anything).Reachable ⟨world, .call (.client evt) next⟩
        ⟨world, (anyClient evt).bind next⟩ := .single (.call _ _ _)
    have chosen := asked.tail (.ask world (.client evt) _ (some call.apiCall) trivial)
    have returns : (adapterSystem anything).Reachable
        ⟨world, (apiCall call.apiCall).bind fun _ => .call (.client evt) next⟩
        ⟨call.made world, .call (.client evt) next⟩ := apiCall_reaches call _
    apply chosen.trans
    cases call <;> exact returns

section Runs

variable {current : AdapterConfig App} (reached : Reached anything current)

include reached

theorem irq_of_reached : current.state.adapter.rx.enabled = true ->
    current.state.irq.rx = true ∧ current.state.irq.err = true := by
  rcases reached with ⟨target, memory, app, reachable⟩
  have initial : Sound [] (World.initial target memory app) := by
    refine ⟨(fun enabled => nomatch enabled), ?_, fun obs member => nomatch member⟩
    intro pointer member
    have none : pointer = none := by
      simpa [buffersOf, World.initial, AdapterData.zeroed] using member
    rw [none]
    exact handed_none
  have start := (composed [] [] []).holds_environment.lockstep _ _
    (show Alike [] [] [] (World.initial target memory app) _ from ⟨_, initial, rfl, rfl⟩)
  rcases reachable.lockstep (couples [] [] []) start with ⟨state, _, remains⟩
  rcases remains.alike with ⟨world, sound, same, _⟩
  rw [same]
  exact sound.irq

/-- Where it is the client's turn, what remains keeps any two worlds alike. -/
theorem lockstep_of_turn (turn : ClientsTurn current) {held : List Pointer}
    {first second : List Obs} {left right : World App}
    (alike : Alike held first second left right) :
    Lockstep held first second current.prog left right := by
  rcases reached with ⟨target, memory, app, reachable⟩
  have resumable := reachable.resumable (couples held first second)
    (composed held first second).holds_environment.resumable
  rcases turn with ⟨next, here⟩ | ⟨evt, next, here⟩
  · exact resumable.from_call here alike trivial
  · exact resumable.from_call here alike trivial

/-- So each run from one of them has its like from the other, and both make the same
entries. -/
theorem like_of_turn (turn : ClientsTurn current) {held : List Pointer}
    {first second : List Obs} {left right : World App} {later : AdapterConfig App}
    (alike : Alike held first second left right)
    (reachable : (adapterSystem anything).Reachable ⟨left, current.prog⟩ later) :
    exists since, later.state = behind since first ∧
      (adapterSystem anything).Reachable ⟨right, current.prog⟩ ⟨behind since second, later.prog⟩ ∧
        Sound held since := by
  have start := lockstep_of_turn reached turn alike
  rcases reachable.lockstep (couples held first second) start with ⟨state, also, remains⟩
  rcases remains.alike with ⟨since, sound, same, other⟩
  rw [other] at also
  exact ⟨since, same, also, sound⟩

end Runs

/-- A rejected call leaves no trace exactly if it is not an `rx_enable` that asks
for anything new. -/
theorem leavesNoTrace_iff {current : AdapterConfig App} (reached : Reached anything current)
    (turn : ClientsTurn current) (call : BufferCall) (rejected : (call.run current.state).1 < 0) :
    LeavesNoTrace call current <-> call.Repeats current.state := by
  constructor
  · intro untraced
    exact repeats_of_adapter call untraced.fields
  · intro repeats
    have busy := (run_neg_iff call).mp rejected
    have irq := irq_of_reached reached
    have made := made_of_repeats call busy repeats irq
    have fresh : Sound (buffersOf current.state.adapter) { current.state with log := [] } := by
      refine ⟨irq, ?_, fun obs member => nomatch member⟩
      intro pointer member address present
      exact .inl ⟨address, present ▸ member, rfl⟩
    have after : call.made current.state =
        behind { current.state with log := [] } (call.made current.state).log := by
      rw [made]
      rfl
    constructor
    · rw [made]
      rfl
    · intro later reachable
      have alike : Alike (buffersOf current.state.adapter) (call.made current.state).log
          current.state.log (call.made current.state) current.state := ⟨_, fresh, after, rfl⟩
      rcases like_of_turn reached turn alike reachable with ⟨since, same, also, sound⟩
      exact ⟨since, same, also, sound.log⟩
    · intro later reachable
      have alike : Alike (buffersOf current.state.adapter) current.state.log
          (call.made current.state).log current.state (call.made current.state) :=
        ⟨_, fresh, rfl, after⟩
      rcases like_of_turn reached turn alike reachable with ⟨since, same, also, _⟩
      exact ⟨since, same, also⟩

/-! ## Two runs -/

/-- A buffer is pending, and nothing has been received. -/
def pendingRun : AdapterConfig Unit :=
  scripted anything 5 () [⟨.next, .client (.rxEnable (some ⟨1, 0⟩) 4 100)⟩]

theorem pendingRun_leavesNoTrace :
    LeavesNoTrace (.rxBufRsp (some ⟨2, 0⟩) 4) pendingRun ∧
      ¬ LeavesNoTrace (.rxEnable (some ⟨2, 0⟩) 4 100) pendingRun := by
  have reached : Reached anything pendingRun := scripted_reached anything 5 () _
  have here : pendingCall pendingRun = some .environment := by decide +kernel
  have turn : ClientsTurn pendingRun := .inl (exists_of_pendingCall here)
  constructor
  · exact (leavesNoTrace_iff reached turn _ (by decide +kernel)).mpr trivial
  · intro untraced
    have repeats := (leavesNoTrace_iff reached turn _ (by decide +kernel)).mp untraced
    have kept : pendingRun.state.adapter.rx.nextBuf = some ⟨1, 0⟩ := by decide +kernel
    have other : (some ⟨1, 0⟩ : Pointer) = some ⟨2, 0⟩ :=
      kept.symm.trans (congrArg RxData.nextBuf repeats)
    exact absurd other (by decide)

/-- The buffer is the current one, and holds a byte. -/
def receivingRun : AdapterConfig Unit :=
  scripted anything 37 () ([⟨.next, .client (.rxEnable (some ⟨1, 0⟩) 4 100)⟩] ++ irqStarts ++
    [⟨.flag .irqRxReady, true⟩, ⟨.client .rxBufRequest, none⟩, ⟨.fifoRead 4, .ok [7]⟩,
      ⟨.fifoRead 3, .ok []⟩, ⟨.errCheck, (0 : Int)⟩])

/-- A second `rx_enable` is rejected, and has replaced the buffer. -/
theorem not_always_leavesNoTrace :
    receivingRun.state.adapter.rx.buf = some ⟨1, 0⟩ ∧
      ((BufferCall.rxEnable (some ⟨2, 0⟩) 4 100).made receivingRun.state).adapter.rx.buf = none ∧
        ¬ forall current : AdapterConfig Unit, Reached anything current -> ClientsTurn current ->
          forall call : BufferCall, (call.run current.state).1 < 0 ->
            LeavesNoTrace call current := by
  have current : receivingRun.state.adapter.rx.buf = some ⟨1, 0⟩ := by decide +kernel
  have replaced : ((BufferCall.rxEnable (some ⟨2, 0⟩) 4 100).made
      receivingRun.state).adapter.rx.buf = none := rfl
  refine ⟨current, replaced, fun claim => ?_⟩
  have here : pendingCall receivingRun = some .environment := by decide +kernel
  have untraced := claim receivingRun (scripted_reached anything 37 () _)
    (.inl (exists_of_pendingCall here)) (.rxEnable (some ⟨2, 0⟩) 4 100) (by decide +kernel)
  have same := congrArg (fun data : AdapterData => data.rx.buf) untraced.fields
  have other : (some ⟨1, 0⟩ : Pointer) = none := current.symm.trans (same.symm.trans replaced)
  cases other

end Rejected
end Uart
end NrfExamples
