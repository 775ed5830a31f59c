import NrfExamples.Uart.Quiet

namespace NrfExamples
namespace Uart
namespace ErrorPath

open Reentrant AdapterProg

/-!
# The way out of an error

When the target reports an error, `on_error` disables reception on the target
device and tells the client that reception has stopped.  It is the adapter that
receives.  So reception is shut down exactly if the client does it itself from
inside the callback, and the data of the target are left as they were only if
there is nothing in them to be disabled.

The error is found in a world `start`, and what follows is compared with it.
The client does what it likes, except that it does not enable reception again.
-/

variable {App : Type}

def enablesReception : ApiCall -> Bool
  | .rxEnable _ _ _ => true
  | _ => false

/-- The client does not enable reception again. -/
abbrev noEnable : Policy App := .calling fun _ call => enablesReception call = false

/-- The entry has been made between two worlds. -/
def LoggedSince (start later : World App) (obs : Obs) : Prop :=
  exists since, later.log = since ++ start.log ∧ obs ∈ since

/-- The adapter holds the buffer. -/
def Holds (rx : RxData) (buf : Address) : Prop :=
  rx.buf = some buf ∨ rx.nextBuf = some buf

/-- The adapter has shut down its own reception, and has left the target alone.
What it still holds has been given to it in the meantime. -/
structure ShutDown (reason : Int) (start later : World App) : Prop where
  disabled : later.adapter.rx.enabled = false
  interrupt : later.irq.rx = false
  released : forall buf, Holds start.adapter.rx buf ->
    LoggedSince start later (.event (.rxBufReleased (some buf)))
  left : forall buf, Holds later.adapter.rx buf ->
    exists len, LoggedSince start later (.called (.rxBufRsp (some buf) len))
  reportsStopped : LoggedSince start later (.event (.rxStopped reason))
  reportsDisabled : LoggedSince start later (.event .rxDisabled)
  target : later.target = start.target

/-- In the data of the target, read as those of an adapter, reception is disabled
and there is no buffer. -/
def TargetQuiet (start : World App) : Prop :=
  start.target.rx.enabled = false ∧ start.target.rx.buf = none

/-- No buffer waits behind an empty place. -/
def NoneWaitsAlone (rx : RxData) : Prop :=
  rx.buf = none -> rx.nextBuf = none

/-! ## How far the shutdown has come -/

/-- An entry that neither disables reception nor releases a buffer. -/
def isAside : Obs -> Bool
  | .called .rxDisable | .event (.rxBufReleased _) => false
  | _ => true

/-- The buffer has been released, or will be by the loop of `rx_disable`. -/
def Kept (since : List Obs) (rx : RxData) (buf : Address) : Prop :=
  .event (.rxBufReleased (some buf)) ∈ since ∨ rx.buf = some buf ∨
    (rx.nextBuf = some buf ∧ rx.buf.isSome)

/-- The target as `rx_disable` leaves it. -/
structure TargetDone (start world : World App) : Prop where
  disabled : world.target.rx.enabled = false
  buf : world.target.rx.buf = none
  same : TargetQuiet start -> world.target = start.target

/-- What the client has brought about so far; `inside` means that an `rx_disable`
of the adapter is running. -/
structure Progress (reason : Int) (start : World App) (inside : Bool) (since : List Obs)
    (world : World App) : Prop where
  log : world.log = since ++ start.log
  target : TargetDone start world
  stopped : .event (.rxStopped reason) ∈ since
  called : .called .rxDisable ∈ since <-> world.adapter.rx.enabled = false
  interrupt : world.adapter.rx.enabled = false -> world.irq.rx = false
  done : inside = false -> .called .rxDisable ∈ since ->
    world.adapter.rx.buf = none ∧ .event .rxDisabled ∈ since
  kept : NoneWaitsAlone start.adapter.rx -> forall buf, Holds start.adapter.rx buf ->
    Kept since world.adapter.rx buf
  given : NoneWaitsAlone start.adapter.rx -> world.adapter.rx.buf = none ->
    forall buf, world.adapter.rx.nextBuf = some buf ->
      exists len, .called (.rxBufRsp (some buf) len) ∈ since
  alone : ¬NoneWaitsAlone start.adapter.rx -> world.adapter.rx.buf = none ∧
    forall buf, .event (.rxBufReleased buf) ∉ since

def Going (reason : Int) (start : World App) (inside : Bool) (world : World App) : Prop :=
  exists since, Progress reason start inside since world

section Sections

variable {reason : Int} {start world later : World App} {inside : Bool} {since : List Obs}

theorem Kept.mono {longer : List Obs} {rx : RxData} {buf : Address} (kept : Kept since rx buf)
    (more : since ⊆ longer) : Kept longer rx buf := by
  rcases kept with released | held
  · exact .inl (more released)
  · exact .inr held

/-- A section that leaves reception and the target alone. -/
theorem Progress.frame (holds : Progress reason start inside since world) (added : List Obs)
    (aside : forall obs, obs ∈ added -> isAside obs = true)
    (log : later.log = added ++ world.log) (rx : later.adapter.rx = world.adapter.rx)
    (irq : later.irq.rx = world.irq.rx) (target : later.target = world.target) :
    Progress reason start inside (added ++ since) later := by
  have more : since ⊆ added ++ since := List.subset_append_right added since
  have called : .called .rxDisable ∈ added ++ since <-> .called .rxDisable ∈ since := by
    constructor
    · intro member
      rcases List.mem_append.mp member with new | old
      · cases aside _ new
      · exact old
    · exact fun member => more member
  constructor
  · rw [log, holds.log, List.append_assoc]
  · constructor
    · rw [target]
      exact holds.target.disabled
    · rw [target]
      exact holds.target.buf
    · rw [target]
      exact holds.target.same
  · exact more holds.stopped
  · rw [rx, called]
    exact holds.called
  · rw [rx, irq]
    exact holds.interrupt
  · intro outside member
    rcases holds.done outside (called.mp member) with ⟨none, reported⟩
    rw [rx]
    exact ⟨none, more reported⟩
  · intro noneWaits buf held
    rw [rx]
    exact (holds.kept noneWaits buf held).mono more
  · rw [rx]
    intro noneWaits none buf next
    rcases holds.given noneWaits none buf next with ⟨len, member⟩
    exact ⟨len, more member⟩
  · intro waits
    rcases holds.alone waits with ⟨none, unreleased⟩
    rw [rx]
    refine ⟨none, fun buf member => ?_⟩
    rcases List.mem_append.mp member with new | old
    · cases aside _ new
    · exact unreleased buf old

theorem Progress.observe (holds : Progress reason start inside since world) {obs : Obs}
    (aside : isAside obs = true) :
    Progress reason start inside (obs :: since) (world.observe obs) := by
  apply holds.frame [obs]
  · intro entry member
    rw [List.mem_singleton.mp member]
    exact aside
  · rfl
  · rfl
  · rfl
  · rfl

/-- `rx_disable` begins. -/
theorem Progress.rxDisable (holds : Progress reason start inside since world) :
    Progress reason start true (.called .rxDisable :: since)
      ((world.observe (.called .rxDisable)).rxDisable .adapter) where
  log := congrArg (Obs.called .rxDisable :: ·) holds.log
  target := ⟨holds.target.disabled, holds.target.buf, holds.target.same⟩
  stopped := List.mem_cons_of_mem _ holds.stopped
  called := iff_of_true List.mem_cons_self rfl
  interrupt _ := rfl
  done outside := absurd outside (by decide)
  kept noneWaits buf held := (holds.kept noneWaits buf held).mono (List.subset_cons_self _ _)
  given noneWaits none buf next := by
    rcases holds.given noneWaits none buf next with ⟨len, member⟩
    exact ⟨len, List.mem_cons_of_mem _ member⟩
  alone waits := by
    rcases holds.alone waits with ⟨none, unreleased⟩
    refine ⟨none, fun buf member => ?_⟩
    rcases List.mem_cons.mp member with same | old
    · cases same
    · exact unreleased buf old

/-- The loop of `rx_disable` releases a buffer and goes on to the next. -/
theorem Progress.switchRxBuffer (holds : Progress reason start true since world)
    (present : world.adapter.rx.buf.isSome) :
    Progress reason start true (.event (.rxBufReleased world.adapter.rx.buf) :: since)
      ((world.switchRxBuffer .adapter).2.observe
        (.event (.rxBufReleased world.adapter.rx.buf))) where
  log := congrArg (Obs.event (.rxBufReleased world.adapter.rx.buf) :: ·) holds.log
  target := ⟨holds.target.disabled, holds.target.buf, holds.target.same⟩
  stopped := List.mem_cons_of_mem _ holds.stopped
  called := Iff.trans (by simp) holds.called
  interrupt := holds.interrupt
  done outside := absurd outside (by decide)
  kept noneWaits buf held := by
    rcases holds.kept noneWaits buf held with released | current | ⟨next, _⟩
    · exact .inl (List.mem_cons_of_mem _ released)
    · rw [current]
      exact .inl List.mem_cons_self
    · exact .inr (.inl next)
  given _ _ _ next := nomatch next
  alone waits := by
    rw [(holds.alone waits).1] at present
    cases present

/-- The loop has ended, and the client is told. -/
theorem Progress.rxDisabled (holds : Progress reason start true since world)
    (none : world.adapter.rx.buf = none) (inside : Bool) :
    Progress reason start inside (.event .rxDisabled :: since)
      (world.observe (.event .rxDisabled)) := by
  have observed : Progress reason start true (.event .rxDisabled :: since)
      (world.observe (.event .rxDisabled)) := holds.observe rfl
  exact { observed with done := fun _ _ => ⟨none, List.mem_cons_self⟩ }

/-- A buffer is given where none is prepared. -/
theorem Progress.rxBufRsp (holds : Progress reason start inside since world)
    (free : world.adapter.rx.nextBuf = none) {buf : Pointer} {len : Nat}
    (called : .called (.rxBufRsp buf len) ∈ since) :
    Progress reason start inside since
      (world.setRx { world.adapter.rx with nextBuf := buf, nextBufLen := len }) where
  log := holds.log
  target := ⟨holds.target.disabled, holds.target.buf, holds.target.same⟩
  stopped := holds.stopped
  called := holds.called
  interrupt := holds.interrupt
  done := holds.done
  kept noneWaits other held := by
    rcases holds.kept noneWaits other held with released | current | ⟨next, _⟩
    · exact .inl released
    · exact .inr (.inl current)
    · rw [free] at next
      cases next
  given _ _ other next := by
    have same : buf = some other := next
    rw [same] at called
    exact ⟨len, called⟩
  alone := holds.alone

end Sections

/-! ## What the functions do -/

/-- The data of the target are being changed, and nothing else. -/
structure Targeting (start world : World App) : Prop where
  adapter : world.adapter = start.adapter
  irq : world.irq = start.irq
  log : world.log = start.log
  disabled : world.target.rx.enabled = false
  same : TargetQuiet start -> world.target = start.target

/-- A callback leaves the progress as it is, and the loop of `rx_disable` ends
without a current buffer. -/
def errorContract (reason : Int) (start : World App) : Contract (adapterInterface App) where
  Ghost := fun _ => Bool
  always := fun _ => True
  asked := fun _ _ => True
  pre := fun proc inside world =>
    match proc with
    | .userCallback evt => Going reason start inside (world.observe (.event evt))
    | .client _ => Going reason start inside world
    | .rxDisableLoop .adapter => Going reason start true world
    | .rxDisableLoop .target => Targeting start world
    | _ => False
  post := fun proc inside _ world =>
    match proc with
    | .userCallback _ | .client _ => Going reason start inside world
    | .rxDisableLoop .adapter => Going reason start true world ∧ world.adapter.rx.buf = none
    | .rxDisableLoop .target => Targeting start world ∧ world.target.rx.buf = none
    | _ => True

abbrev ErrorSafe {A : Type} (reason : Int) (start : World App) (program : AdapterProg App A)
    (goal : A -> World App -> Prop) (world : World App) : Prop :=
  Prog.Safe (adapterSystem noEnable) (errorContract reason start) program goal world

section Functions

variable {reason : Int} {start world : World App} {inside : Bool}

/-- A section that leaves reception and the target alone, as `Progress.frame` has it. -/
structure LeavesAlone (world later : World App) : Prop where
  log : exists added, (forall obs, obs ∈ added -> isAside obs = true) ∧
    later.log = added ++ world.log
  rx : later.adapter.rx = world.adapter.rx
  irq : later.irq.rx = world.irq.rx
  target : later.target = world.target

theorem Going.left (going : Going reason start inside world) {later : World App}
    (leaves : LeavesAlone world later) : Going reason start inside later := by
  rcases going with ⟨since, holds⟩
  rcases leaves.log with ⟨added, aside, log⟩
  exact ⟨_, holds.frame added aside log leaves.rx leaves.irq leaves.target⟩

theorem Going.observe (going : Going reason start inside world) {obs : Obs}
    (aside : isAside obs = true) : Going reason start inside (world.observe obs) := by
  rcases going with ⟨since, holds⟩
  exact ⟨_, holds.observe aside⟩

theorem safe_userCallback {evt : UartEvent}
    (delivered : Going reason start inside (world.observe (.event evt))) :
    ErrorSafe reason start (userCallback .adapter evt) (fun _ => Going reason start inside)
      world :=
  ⟨inside, delivered, fun _ _ _ promised => promised⟩

theorem safe_tx (buf : Pointer) (len : Nat) (timeout : Int)
    (going : Going reason start inside world) :
    Going reason start inside
      (world.directCall (.tx buf len timeout) (World.tx buf len timeout)) := by
  rcases World.directCall_tx_cases world buf len timeout with ⟨ret, _, same⟩ | ⟨_, _, same⟩
  · rw [same]
    exact (going.observe rfl).observe rfl
  · rw [same]
    apply going.left
    constructor
    · exact ⟨[.returned _ _ _, .called _], by simp [isAside], rfl⟩
    · rfl
    · rfl
    · rfl

theorem safe_rxBufRsp (buf : Pointer) (len : Nat) (going : Going reason start inside world) :
    Going reason start inside
      (world.directCall (.rxBufRsp buf len) (World.rxBufRsp buf len)) := by
  rcases World.directCall_rxBufRsp_cases world buf len with ⟨_, same⟩ | ⟨free, same⟩
  · rw [same]
    exact (going.observe rfl).observe rfl
  · rcases going with ⟨since, holds⟩
    have called : Progress reason start inside (.called (.rxBufRsp buf len) :: since)
        (world.observe (.called (.rxBufRsp buf len))) := holds.observe rfl
    have checked : exists more, .called (.rxBufRsp buf len) ∈ more ∧
        Progress reason start inside more
          ((world.observe (.called (.rxBufRsp buf len))).assertNoMsg .rxNextBufLenZero
            (world.adapter.rx.nextBufLen = 0)) := by
      cases decide (world.adapter.rx.nextBufLen = 0) with
      | true => exact ⟨_, List.mem_cons_self, called⟩
      | false =>
          exact ⟨_, List.mem_cons_of_mem _ List.mem_cons_self, called.observe rfl⟩
    rcases checked with ⟨more, member, current⟩
    have given := current.rxBufRsp (by simpa using free) member
    rw [World.assertNoMsg_adapter, World.observe_adapter] at given
    rw [same]
    exact ⟨_, given.observe rfl⟩

theorem txAbort_leavesAlone (world : World App) : LeavesAlone world world.txAbort.2 := by
  cases buf : world.adapter.tx.buf with
  | none =>
      rw [World.txAbort_of_idle buf]
      exact ⟨⟨[], by simp, rfl⟩, rfl, rfl, rfl⟩
  | some address =>
      rw [World.txAbort_of_busy (by simp [buf])]
      exact ⟨⟨[], by simp, rfl⟩, rfl, rfl, rfl⟩

theorem txAbort_isAside {evt : UartEvent} (made : world.txAbort.1 = some evt) :
    isAside (.event evt) = true := by
  cases buf : world.adapter.tx.buf with
  | none =>
      rw [World.txAbort_of_idle buf] at made
      cases made
  | some address =>
      rw [World.txAbort_of_busy (by simp [buf])] at made
      cases made
      rfl

theorem safe_txAbort (going : Going reason start inside world) :
    ErrorSafe reason start txAbort (fun _ => Going reason start inside) world := by
  have after : Going reason start inside world.txAbort.2 := going.left (txAbort_leavesAlone world)
  apply Prog.perform_then trivial
  have delivered : ErrorSafe reason start (deliver world.txAbort.1)
      (fun _ => Going reason start inside) world.txAbort.2 := by
    cases made : world.txAbort.1 with
    | none => exact after
    | some evt => exact safe_userCallback (after.observe (txAbort_isAside made))
  apply delivered.andThen
  exact fun _ _ kept => kept

/-- The switch in the loop of `rx_disable`. -/
theorem safe_switchRxBuffer (going : Going reason start true world)
    (present : world.adapter.rx.buf.isSome) :
    ErrorSafe reason start (switchRxBuffer .adapter false) (fun _ => Going reason start true)
      world := by
  rcases going with ⟨since, holds⟩
  apply Prog.perform_then trivial
  dsimp only
  split
  · apply Prog.Safe.andThen (safe_userCallback ⟨_, holds.switchRxBuffer present⟩)
    exact fun _ _ kept => kept
  · rename_i absent
    exact absurd present absent

theorem safe_rxDisableLoop (going : Going reason start true world) :
    ErrorSafe reason start (rxDisableLoop .adapter) (fun _ later =>
      Going reason start true later ∧ later.adapter.rx.buf = none) world := by
  apply Prog.get_then trivial
  split
  · rename_i present
    apply Prog.Safe.andThen (safe_switchRxBuffer going present)
    exact fun _ later kept => ⟨true, kept, fun _ _ _ promised => promised⟩
  · rename_i absent
    exact ⟨going, by simpa using absent⟩

/-- `rx_disable` of the adapter, called by the client at any depth. -/
theorem safe_rxDisable (going : Going reason start inside world) :
    ErrorSafe reason start (rxDisable .adapter) (fun _ => Going reason start inside)
      (world.observe (.called .rxDisable)) := by
  rcases going with ⟨since, holds⟩
  apply Prog.modify_then trivial
  refine ⟨true, ⟨_, holds.rxDisable⟩, fun _ later _ promised => ?_⟩
  rcases promised with ⟨⟨more, disabling⟩, none⟩
  apply Prog.Safe.andThen (safe_userCallback ⟨_, disabling.rxDisabled none inside⟩)
  exact fun _ _ kept => kept

theorem safe_apiCall (call : ApiCall) (allowed : enablesReception call = false)
    (going : Going reason start inside world) :
    ErrorSafe reason start (apiCall call) (fun _ => Going reason start inside) world := by
  apply Prog.modify_then trivial
  cases call with
  | tx buf len timeout => exact ⟨trivial, trivial, safe_tx buf len timeout going⟩
  | rxEnable buf len timeout => cases allowed
  | rxBufRsp buf len => exact ⟨trivial, trivial, safe_rxBufRsp buf len going⟩
  | txAbort =>
      apply Prog.Safe.andThen (safe_txAbort (going.observe rfl))
      exact fun ret later kept => ⟨trivial, kept.observe rfl⟩
  | rxDisable =>
      apply Prog.Safe.andThen (safe_rxDisable going)
      exact fun ret later kept => ⟨trivial, kept.observe rfl⟩

theorem safe_anyClient (evt : UartEvent) (going : Going reason start inside world) :
    ErrorSafe reason start (anyClient evt) (fun _ => Going reason start inside) world := by
  refine (Prog.safe_ask _ _).mpr ⟨trivial, fun answer allowed => ?_⟩
  cases answer with
  | none => exact going
  | some call =>
      apply Prog.Safe.andThen (safe_apiCall call allowed going)
      exact fun _ later kept => ⟨inside, kept, fun _ _ _ promised => promised⟩

/-! ### The target -/

/-- A buffer in the data of the target is thrown away, and an event for it given to
whatever is found there as a callback. -/
theorem Targeting.switchRxBuffer (targeting : Targeting start world)
    (present : world.target.rx.buf.isSome) (evt : UartEvent) :
    Targeting start ((world.switchRxBuffer .target).2.observeForeign evt) where
  adapter := targeting.adapter
  irq := targeting.irq
  log := targeting.log
  disabled := targeting.disabled
  same quiet := by
    rw [targeting.same quiet, quiet.2] at present
    cases present

theorem safe_rxDisableLoop_target (targeting : Targeting start world) :
    ErrorSafe reason start (rxDisableLoop .target) (fun _ later =>
      Targeting start later ∧ later.target.rx.buf = none) world := by
  apply Prog.get_then trivial
  split
  · rename_i present
    have switched : ErrorSafe reason start (switchRxBuffer .target false)
        (fun _ => Targeting start) world := by
      apply Prog.perform_then trivial
      dsimp only
      split
      · exact ⟨trivial, targeting.switchRxBuffer present _⟩
      · rename_i absent
        exact absurd present absent
    apply switched.andThen
    exact fun _ later kept => ⟨true, kept, fun _ _ _ promised => promised⟩
  · rename_i absent
    have none : world.target.rx.buf = none := by
      rw [← Option.not_isSome_iff_eq_none]
      exact absent
    exact ⟨targeting, none⟩

theorem Targeting.begin (start : World App) : Targeting start (start.rxDisable .target) where
  adapter := rfl
  irq := rfl
  log := rfl
  disabled := rfl
  same quiet := congrArg (fun enabled : Bool =>
    { start.target with rx := { start.target.rx with enabled := enabled } }) quiet.1.symm

theorem safe_rxDisable_target : ErrorSafe reason start (rxDisable .target)
    (fun _ later => Targeting start later ∧ later.target.rx.buf = none) start := by
  apply Prog.modify_then trivial
  refine ⟨false, Targeting.begin start, fun _ later _ promised => ?_⟩
  rcases promised with ⟨targeting, none⟩
  have told : Targeting start (later.observeForeign .rxDisabled) :=
    ⟨targeting.adapter, targeting.irq, targeting.log, targeting.disabled, targeting.same⟩
  exact ⟨trivial, told, none⟩

/-- The target is done with, and the client is told. -/
theorem Targeting.progress (targeting : Targeting start world)
    (enabled : start.adapter.rx.enabled = true) (none : world.target.rx.buf = none) :
    Progress reason start false [.event (.rxStopped reason)]
      (world.observe (.event (.rxStopped reason))) := by
  have adapter : (world.observe (.event (.rxStopped reason))).adapter = start.adapter :=
    targeting.adapter
  constructor
  · exact congrArg (Obs.event (.rxStopped reason) :: ·) targeting.log
  · exact ⟨targeting.disabled, none, targeting.same⟩
  · exact List.mem_cons_self
  · rw [adapter, enabled]
    simp
  · rw [adapter, enabled]
    intro disabled
    cases disabled
  · intro _ member
    cases List.mem_singleton.mp member
  · rw [adapter]
    intro noneWaits buf held
    rcases held with current | next
    · exact .inr (.inl current)
    · refine .inr (.inr ⟨next, ?_⟩)
      cases same : start.adapter.rx.buf with
      | none =>
          rw [noneWaits same] at next
          cases next
      | some address => rfl
  · rw [adapter]
    intro noneWaits empty buf next
    rw [noneWaits empty] at next
    cases next
  · rw [adapter]
    intro waits
    constructor
    · by_contra present
      exact waits fun empty => absurd empty present
    · intro buf member
      cases List.mem_singleton.mp member

theorem safe_onError (rxErr : Int) (enabled : start.adapter.rx.enabled = true) :
    ErrorSafe rxErr start (onError rxErr) (fun _ => Going rxErr start false) start := by
  apply Prog.Safe.andThen safe_rxDisable_target
  intro _ later after
  rcases after with ⟨targeting, none⟩
  exact safe_userCallback ⟨_, targeting.progress enabled none⟩

end Functions

theorem error_honours (reason : Int) (start : World App) :
    (adapterSystem noEnable).Honours (errorContract reason start) := by
  intro proc inside world _ assumed
  cases proc with
  | userCallback evt =>
      refine ⟨trivial, inside, assumed, fun _ later _ promised => ⟨trivial, ?_⟩⟩
      exact Going.observe promised rfl
  | client evt => exact safe_anyClient evt assumed
  | rxDisableLoop dev =>
      cases dev with
      | adapter => exact safe_rxDisableLoop assumed
      | target => exact safe_rxDisableLoop_target assumed
  | _ => exact assumed.elim

/-! ## What holds when the handler returns -/

section Return

variable {reason : Int} {start later : World App}

theorem loggedSince_iff {since : List Obs} (log : later.log = since ++ start.log) (obs : Obs) :
    LoggedSince start later obs <-> obs ∈ since := by
  constructor
  · rintro ⟨other, same, member⟩
    rw [log] at same
    rw [List.append_cancel_right same]
    exact member
  · exact fun member => ⟨since, log, member⟩

theorem Progress.shutDown {since : List Obs} (holds : Progress reason start false since later)
    (quiet : TargetQuiet start) (noneWaits : NoneWaitsAlone start.adapter.rx)
    (called : .called .rxDisable ∈ since) : ShutDown reason start later := by
  have logged := fun obs => (loggedSince_iff holds.log obs).mpr
  have disabled := holds.called.mp called
  rcases holds.done rfl called with ⟨none, reported⟩
  constructor
  · exact disabled
  · exact holds.interrupt disabled
  · intro buf held
    apply logged
    rcases holds.kept noneWaits buf held with released | current | ⟨_, present⟩
    · exact released
    · rw [none] at current
      cases current
    · rw [none] at present
      cases present
  · intro buf held
    rcases held with current | next
    · rw [none] at current
      cases current
    · rcases holds.given noneWaits none buf next with ⟨len, member⟩
      exact ⟨len, logged _ member⟩
  · exact logged _ holds.stopped
  · exact logged _ reported
  · exact holds.target.same quiet

theorem Progress.of_shutDown {since : List Obs} (holds : Progress reason start false since later)
    (shutDown : ShutDown reason start later) : TargetQuiet start ∧
      NoneWaitsAlone start.adapter.rx ∧ .called .rxDisable ∈ since := by
  refine ⟨⟨?_, ?_⟩, ?_, holds.called.mpr shutDown.disabled⟩
  · rw [← shutDown.target]
    exact holds.target.disabled
  · rw [← shutDown.target]
    exact holds.target.buf
  · by_contra waits
    have unreleased := (holds.alone waits).2
    cases next : start.adapter.rx.nextBuf with
    | none => exact waits fun _ => next
    | some buf =>
        have released := shutDown.released buf (.inr next)
        exact unreleased _ ((loggedSince_iff holds.log _).mp released)

/-- When `on_error` returns, reception is shut down exactly if the client has
disabled it itself, no buffer was waiting alone, and the target had nothing to be
disabled. -/
theorem shutDown_iff (enabled : start.adapter.rx.enabled = true)
    (returned : (adapterSystem noEnable).Reachable ⟨start, onError reason⟩ ⟨later, .ret ()⟩) :
    ShutDown reason start later <-> TargetQuiet start ∧ NoneWaitsAlone start.adapter.rx ∧
      LoggedSince start later (.called .rxDisable) := by
  have remains := (returned.safe (error_honours reason start) trivial
    (safe_onError reason enabled)).2
  rcases remains with ⟨since, holds⟩
  rw [loggedSince_iff holds.log]
  constructor
  · exact holds.of_shutDown
  · exact fun ⟨quiet, noneWaits, called⟩ => holds.shutDown quiet noneWaits called

end Return

/-- The end of the interrupt handler comes to `on_error`, if reception is enabled
and the target reports an error. -/
theorem checkErrors_reaches {policy : Policy App} {start : World App} {reason : Int}
    (enabled : start.adapter.rx.enabled = true) (reported : 0 < reason) :
    (adapterSystem policy).Reachable ⟨start, checkErrors⟩ ⟨start, onError reason⟩ := by
  have notNegative : ¬reason < 0 := Int.not_lt.mpr (Int.le_of_lt reported)
  have asked : (adapterSystem policy).Step ⟨start, checkErrors⟩ ⟨start, do
      let enabled <- (get fun world => world.adapter.rx.enabled : AdapterProg App Bool)
      if enabled = true ∧ (if reason < 0 then 0 else reason) ≠ 0 then
        onError (if reason < 0 then 0 else reason)⟩ :=
    System.Step.ask (I := adapterInterface App) start Query.errCheck _ reason trivial
  have checked : (adapterSystem policy).Step ⟨start, do
      let enabled <- (get fun world => world.adapter.rx.enabled : AdapterProg App Bool)
      if enabled = true ∧ (if reason < 0 then 0 else reason) ≠ 0 then
        onError (if reason < 0 then 0 else reason)⟩
      ⟨start, if start.adapter.rx.enabled = true ∧ (if reason < 0 then 0 else reason) ≠ 0 then
        onError (if reason < 0 then 0 else reason) else pure ()⟩ :=
    System.Step.act (I := adapterInterface App) start
      (fun world => (world.adapter.rx.enabled, world)) _
  rw [if_neg notNegative] at asked checked
  rw [if_pos ⟨enabled, Int.ne_of_gt reported⟩] at checked
  exact (Relation.ReflTransGen.single asked).tail checked

/-! ## Two runs -/

/-- The target is asked for errors. -/
def FindsErrors (config : AdapterConfig App) : Prop :=
  exists next, config.prog = .ask .errCheck next

/-- A byte has been received, another buffer waits, and the target is asked for
errors. -/
def receivedRun : AdapterConfig Unit :=
  scripted anything 60 () ([⟨.next, .client (.rxEnable (some ⟨1, 0⟩) 4 100)⟩] ++ irqStarts ++
    [⟨.flag .irqRxReady, true⟩, ⟨.client .rxBufRequest, some (.rxBufRsp (some ⟨2, 0⟩) 4)⟩,
      ⟨.client .rxBufRequest, none⟩, ⟨.fifoRead 4, .ok [7]⟩, ⟨.fifoRead 3, .ok []⟩])

/-- It reports one, and the client answers as the script says. -/
def errorRun (script : List (Sigma Answer)) : AdapterConfig Unit :=
  (adapterSystem noEnable).play (I := adapterInterface Unit) 60 script
    ⟨receivedRun.state, onError 2⟩

theorem errorRun_reachable (script : List (Sigma Answer))
    (here : hasReturned (errorRun script) = true) :
    (adapterSystem noEnable).Reachable ⟨receivedRun.state, onError 2⟩
      ⟨(errorRun script).state, .ret ()⟩ := by
  have reachable := (adapterSystem noEnable).play_reachable (I := adapterInterface Unit) 60 script
    ⟨receivedRun.state, onError 2⟩
  rcases exists_of_hasReturned here with ⟨value, same⟩
  change (adapterSystem noEnable).Reachable _ (errorRun script) at reachable
  rw [same] at reachable
  exact reachable

/-- The client disables reception when it has stopped. -/
def disables : List (Sigma Answer) :=
  [⟨.client (.rxStopped 2), some .rxDisable⟩, ⟨.client (.rxBufReleased (some ⟨1, 0⟩)), none⟩,
    ⟨.client (.rxBufReleased (some ⟨2, 0⟩)), none⟩, ⟨.client .rxDisabled, none⟩,
    ⟨.client (.rxStopped 2), none⟩]

theorem disables_shutDown : ShutDown 2 receivedRun.state (errorRun disables).state := by
  have enabled : receivedRun.state.adapter.rx.enabled = true := by decide +kernel
  have returned := errorRun_reachable disables (by decide +kernel)
  apply (shutDown_iff enabled returned).mpr
  refine ⟨⟨by decide +kernel, by decide +kernel⟩, ?_, ?_⟩
  · intro none
    have present : receivedRun.state.adapter.rx.buf ≠ Option.none := by decide +kernel
    exact absurd none present
  · exact ⟨(errorRun disables).state.log.take 10, by decide +kernel, by decide +kernel⟩

/-- The client does nothing when reception has stopped, and it goes on. -/
theorem not_always_shutDown :
    (errorRun [⟨.client (.rxStopped 2), none⟩]).state.adapter.rx.enabled = true ∧
      ¬ forall (current : AdapterConfig Unit) (reason : Int) (later : World Unit),
        Reached anything current -> FindsErrors current ->
          current.state.adapter.rx.enabled = true -> 0 < reason ->
            (adapterSystem noEnable).Reachable ⟨current.state, onError reason⟩
              ⟨later, .ret ()⟩ -> ShutDown reason current.state later := by
  have goesOn : (errorRun [⟨.client (.rxStopped 2), none⟩]).state.adapter.rx.enabled = true := by
    decide +kernel
  refine ⟨goesOn, fun claim => ?_⟩
  have here : pendingQuery receivedRun = some .errCheck := by decide +kernel
  have shutDown := claim receivedRun 2 _ (scripted_reached anything 60 () _)
    (exists_of_pendingQuery here) (by decide +kernel) (by decide)
    (errorRun_reachable [⟨.client (.rxStopped 2), none⟩] (by decide +kernel))
  rw [shutDown.disabled] at goesOn
  cases goesOn

end ErrorPath
end Uart
end NrfExamples
