import Mathlib.Data.List.Count
import Mathlib.Logic.Function.Basic
import NrfExamples.Traces.Machine

namespace NrfExamples
namespace HrCoded

open Traces

/-!
# The two advertising sets

`main.c` of `peripheral_hr_coded_multi` advertises on the coded PHY and on the
regular one.  A connection stops the set it was made through; when it ends, its
transmit PHY at that time decides which set is started again.  As long as that
PHY tells the right set, each set is in exactly one place: running, used by one
connection, or waiting to be started.
-/

inductive AdvSet
  | coded
  | regular
  deriving DecidableEq, Repr

abbrev Conn := Nat

/-- A connection that is up: the set it was made through, and its transmit PHY. -/
structure Link where
  conn : Conn
  set : AdvSet
  txPhy : Nat
  deriving DecidableEq, Repr

/-- The sets that are running, the connections that are up, and the advertising
workers that have been submitted, oldest first. -/
structure Peripheral where
  running : AdvSet -> Bool
  links : List Link
  work : List AdvSet

abbrev EALREADY : Int := 120

/-- `bt_le_ext_adv_start` succeeds exactly when the set is not running. -/
def btLeExtAdvStart (set : AdvSet) (peripheral : Peripheral) : Int × Peripheral :=
  if peripheral.running set = true then (-EALREADY, peripheral)
  else (0, { peripheral with running := Function.update peripheral.running set true })

/-- `k_work_submit`: an item that waits is not queued again. -/
def kWorkSubmit (set : AdvSet) (peripheral : Peripheral) : Peripheral :=
  if set ∈ peripheral.work then peripheral
  else { peripheral with work := peripheral.work ++ [set] }

/-- `start_advertising_coded` and `start_advertising_regular`; an error is only
printed. -/
def startAdvertising (set : AdvSet) (peripheral : Peripheral) : Peripheral :=
  (btLeExtAdvStart set peripheral).2

/-- `disconnected`, with the result of `bt_conn_get_info` and the transmit PHY
that it reports. -/
def disconnected (infoErr : Int) (txPhy : Nat) (peripheral : Peripheral) : Peripheral :=
  if infoErr ≠ 0 then peripheral
  else if txPhy = 4 then kWorkSubmit .coded peripheral
  else kWorkSubmit .regular peripheral

/-- The work queue runs its oldest item. -/
def runWork (peripheral : Peripheral) : Peripheral :=
  match peripheral.work with
  | [] => peripheral
  | set :: later => startAdvertising set { peripheral with work := later }

/-- `bt_ready`, once both sets are created. -/
def btReady (peripheral : Peripheral) : Peripheral :=
  kWorkSubmit .regular (kWorkSubmit .coded peripheral)

/-! ## Runs -/

/-- `connected` only prints, so a new connection changes nothing but the sets. -/
inductive Event
  | connected (link : Link)
  | phyUpdated (conn : Conn) (txPhy : Nat)
  | disconnected (link : Link) (infoErr : Int)
  | work
  deriving DecidableEq, Repr

/-- The PHY of one connection changes. -/
def updatePhy (conn : Conn) (txPhy : Nat) (link : Link) : Link :=
  if link.conn = conn then { link with txPhy := txPhy } else link

def step (peripheral : Peripheral) : Event -> Peripheral
  | .connected link =>
      { peripheral with
        running := Function.update peripheral.running link.set false
        links := link :: peripheral.links }
  | .phyUpdated conn txPhy =>
      { peripheral with links := peripheral.links.map (updatePhy conn txPhy) }
  | .disconnected link infoErr =>
      disconnected infoErr link.txPhy
        { peripheral with links := peripheral.links.erase link }
  | .work => runWork peripheral

/-- A connection is made through a set that is running, by a connection object
that is not in use. -/
def CanHappen (peripheral : Peripheral) : Event -> Prop
  | .connected link => peripheral.running link.set = true ∧
      forall other, other ∈ peripheral.links -> other.conn ≠ link.conn
  | .phyUpdated conn _ => exists link, link ∈ peripheral.links ∧ link.conn = conn
  | .disconnected link _ => link ∈ peripheral.links
  | .work => peripheral.work ≠ []

/-- Both sets are running. -/
def advertisers : Machine Peripheral Event where
  start := ⟨fun _ => true, [], []⟩
  step := step
  possible := CanHappen

/-- The workers that `bt_ready` submits lead to this start. -/
theorem start_eq_btReady :
    runWork (runWork (btReady ⟨fun _ => false, [], []⟩)) = advertisers.start := by
  change (⟨_, [], []⟩ : Peripheral) = ⟨_, [], []⟩
  congr 1
  funext set
  cases set <;> rfl

/-- A connection that ends can be asked for its PHY, and is on the coded PHY if
and only if it was made through the coded set. -/
def Matching (_ : Peripheral) : Event -> Prop
  | .disconnected link infoErr => infoErr = 0 ∧ (link.txPhy = 4 <-> link.set = .coded)
  | _ => True

/-- With no worker waiting, every set is running or used by a connection. -/
def Available (peripheral : Peripheral) : Prop :=
  peripheral.work = [] -> forall set, peripheral.running set = true ∨
    exists link, link ∈ peripheral.links ∧ link.set = set

/-! ## Where a set is -/

/-- In how many places a set is: running, used by connections, waiting. -/
def Peripheral.places (peripheral : Peripheral) (set : AdvSet) : Nat :=
  (peripheral.running set).toNat + peripheral.links.countP (fun link => link.set = set) +
    peripheral.work.count set

/-- Each set is in exactly one place. -/
def Placed (peripheral : Peripheral) : Prop :=
  forall set, peripheral.places set = 1

theorem Placed.available {peripheral : Peripheral} (placed : Placed peripheral) :
    Available peripheral := by
  intro idle set
  have place := placed set
  unfold Peripheral.places at place
  rw [idle, List.count_nil] at place
  by_cases isRunning : peripheral.running set = true
  · exact .inl isRunning
  · right
    rw [Bool.eq_false_iff.mpr isRunning, Bool.toNat_false] at place
    have used : 0 < peripheral.links.countP (fun link => link.set = set) := by
      omega
    rcases List.countP_pos_iff.mp used with ⟨link, member, same⟩
    exact ⟨link, member, of_decide_eq_true same⟩

section Steps

variable {peripheral : Peripheral}

theorem placed_start : Placed advertisers.start := by
  intro set
  rfl

/-- A new connection takes its set out of the running ones. -/
theorem Placed.connected (placed : Placed peripheral) {link : Link}
    (isRunning : peripheral.running link.set = true) :
    Placed (step peripheral (.connected link)) := by
  intro set
  have place := placed set
  unfold Peripheral.places at place
  change (Function.update peripheral.running link.set false set).toNat +
    (link :: peripheral.links).countP (fun link => link.set = set) + peripheral.work.count set = 1
  rw [List.countP_cons]
  by_cases same : link.set = set
  · subst same
    rw [isRunning, Bool.toNat_true] at place
    simp
    omega
  · rw [Function.update_of_ne (Ne.symm same)]
    simp [same]
    omega

theorem set_updatePhy (conn : Conn) (txPhy : Nat) (link : Link) :
    (updatePhy conn txPhy link).set = link.set := by
  unfold updatePhy
  split <;> rfl

theorem Placed.phyUpdated (placed : Placed peripheral) (conn : Conn) (txPhy : Nat) :
    Placed (step peripheral (.phyUpdated conn txPhy)) := by
  intro set
  have place := placed set
  unfold Peripheral.places at place ⊢
  have same : (peripheral.links.map (updatePhy conn txPhy)).countP (fun link => link.set = set) =
      peripheral.links.countP (fun link => link.set = set) := by
    rw [List.countP_map]
    congr 1
    funext link
    exact congrArg (fun other => decide (other = set)) (set_updatePhy conn txPhy link)
  change _ + (peripheral.links.map (updatePhy conn txPhy)).countP _ + _ = 1
  rw [same]
  exact place

/-- A connection that ends leaves its set in no place. -/
theorem places_erase {link : Link} (member : link ∈ peripheral.links) (set : AdvSet) :
    ({ peripheral with links := peripheral.links.erase link } : Peripheral).places set +
      (if link.set = set then 1 else 0) = peripheral.places set := by
  unfold Peripheral.places
  have split := (List.perm_cons_erase member).countP_eq (fun link => decide (link.set = set))
  rw [split, List.countP_cons]
  by_cases same : link.set = set
  · simp [same]
    omega
  · simp [same]

/-- Submitting a worker puts its set in one more place, unless it waits already. -/
theorem places_kWorkSubmit {set : AdvSet} (other : AdvSet) (notWaiting : set ∉ peripheral.work) :
    (kWorkSubmit set peripheral).places other =
      peripheral.places other + if set = other then 1 else 0 := by
  unfold kWorkSubmit Peripheral.places
  rw [if_neg notWaiting]
  dsimp only
  rw [List.count_append, List.count_singleton]
  by_cases same : set = other
  · simp [same]
    omega
  · simp [same]

/-- The set of a connection that ends matchingly is started again. -/
theorem Placed.disconnected (placed : Placed peripheral) {link : Link} {infoErr : Int}
    (member : link ∈ peripheral.links)
    (matching : Matching peripheral (.disconnected link infoErr)) :
    Placed (step peripheral (.disconnected link infoErr)) := by
  have submits : step peripheral (.disconnected link infoErr) =
      kWorkSubmit link.set { peripheral with links := peripheral.links.erase link } := by
    unfold step HrCoded.disconnected
    dsimp only
    rw [if_neg (not_not.mpr matching.1)]
    by_cases onCoded : link.txPhy = 4
    · rw [if_pos onCoded, matching.2.mp onCoded]
    · rw [if_neg onCoded]
      cases made : link.set with
      | coded => exact absurd (matching.2.mpr made) onCoded
      | regular => rfl
  have notWaiting : link.set ∉
      ({ peripheral with links := peripheral.links.erase link } : Peripheral).work := by
    have place := placed link.set
    have used : 0 < peripheral.links.countP (fun other => other.set = link.set) :=
      List.countP_pos_iff.mpr ⟨link, member, decide_eq_true rfl⟩
    unfold Peripheral.places at place
    apply List.count_eq_zero.mp
    change peripheral.work.count link.set = 0
    omega
  intro set
  rw [submits, places_kWorkSubmit set notWaiting, places_erase member set]
  exact placed set

theorem startAdvertising_of_idle (peripheral : Peripheral) {set : AdvSet}
    (idle : peripheral.running set ≠ true) :
    startAdvertising set peripheral =
      { peripheral with running := Function.update peripheral.running set true } := by
  unfold startAdvertising btLeExtAdvStart
  rw [if_neg idle]

/-- Starting a set that waited. -/
theorem Placed.work (placed : Placed peripheral) : Placed (runWork peripheral) := by
  unfold runWork
  cases waiting : peripheral.work with
  | nil => exact placed
  | cons first later =>
      have idle : peripheral.running first ≠ true := by
        intro isRunning
        have place := placed first
        unfold Peripheral.places at place
        rw [isRunning, Bool.toNat_true, waiting, List.count_cons_self] at place
        omega
      dsimp only
      rw [startAdvertising_of_idle { peripheral with work := later } idle]
      intro set
      have place := placed set
      unfold Peripheral.places at place ⊢
      rw [waiting, List.count_cons] at place
      dsimp only
      by_cases same : first = set
      · subst same
        simp [idle] at place ⊢
        omega
      · rw [Function.update_of_ne (Ne.symm same)]
        simp [same] at place
        omega

end Steps

theorem placed_step {peripheral : Peripheral} {event : Event} (placed : Placed peripheral)
    (possible : CanHappen peripheral event) (matching : Matching peripheral event) :
    Placed (step peripheral event) := by
  cases event with
  | connected link => exact placed.connected possible.1
  | phyUpdated conn txPhy => exact placed.phyUpdated conn txPhy
  | disconnected link infoErr => exact placed.disconnected possible matching
  | work => exact placed.work

theorem placed_of_matching {events : List Event} (allowed : advertisers.Allowed events)
    (matching : advertisers.Each Matching events) : Placed (advertisers.run events) := by
  apply Machine.invariant Placed Matching placed_start _ allowed matching
  intro peripheral event placed possible matching
  exact placed_step placed possible matching

/-- If every connection ends on the PHY of the set it was made through, both
sets are kept available. -/
theorem available_of_matching {events : List Event} (allowed : advertisers.Allowed events)
    (matching : advertisers.Each Matching events) : Available (advertisers.run events) :=
  (placed_of_matching allowed matching).available

/-! ## The number of connections -/

abbrev CONFIG_BT_MAX_CONN : Nat := 2

/-- Running sets, connections and waiting workers together. -/
def Peripheral.total (peripheral : Peripheral) : Nat :=
  (peripheral.running .coded).toNat + (peripheral.running .regular).toNat +
    peripheral.links.length + peripheral.work.length

theorem total_startAdvertising (set : AdvSet) (peripheral : Peripheral) :
    (startAdvertising set peripheral).total ≤ peripheral.total + 1 := by
  unfold startAdvertising btLeExtAdvStart Peripheral.total
  split
  · exact Nat.le_succ _
  · rename_i idle
    have stopped := Bool.eq_false_iff.mpr idle
    cases set <;> simp [stopped] <;> omega

theorem total_kWorkSubmit (set : AdvSet) (peripheral : Peripheral) :
    (kWorkSubmit set peripheral).total ≤ peripheral.total + 1 := by
  unfold kWorkSubmit Peripheral.total
  split
  · exact Nat.le_succ _
  · rw [List.length_append, List.length_singleton]
    exact Nat.le_refl _

theorem total_step {peripheral : Peripheral} {event : Event}
    (possible : CanHappen peripheral event) : (step peripheral event).total ≤ peripheral.total := by
  cases event with
  | connected link =>
      rcases link with ⟨conn, set, txPhy⟩
      unfold step Peripheral.total
      cases set with
      | coded =>
          have isRunning : peripheral.running .coded = true := possible.1
          have other : Function.update peripheral.running .coded false .regular =
              peripheral.running .regular := Function.update_of_ne (by decide) _ _
          dsimp only
          rw [Function.update_self, other, isRunning, List.length_cons, Bool.toNat_true,
            Bool.toNat_false]
          omega
      | regular =>
          have isRunning : peripheral.running .regular = true := possible.1
          have other : Function.update peripheral.running .regular false .coded =
              peripheral.running .coded := Function.update_of_ne (by decide) _ _
          dsimp only
          rw [Function.update_self, other, isRunning, List.length_cons, Bool.toNat_true,
            Bool.toNat_false]
          omega
  | phyUpdated conn txPhy =>
      unfold step Peripheral.total
      apply Nat.le_of_eq
      rw [List.length_map]
  | disconnected link infoErr =>
      have removed : ({ peripheral with links := peripheral.links.erase link } : Peripheral).total +
          1 = peripheral.total := by
        have shorter := List.length_erase_of_mem possible
        have positive := List.length_pos_of_mem possible
        unfold Peripheral.total
        dsimp only
        omega
      change (HrCoded.disconnected infoErr link.txPhy _).total ≤ _
      unfold HrCoded.disconnected
      rw [← removed]
      split
      · exact Nat.le_succ _
      · split <;> exact total_kWorkSubmit _ _
  | work =>
      change (runWork peripheral).total ≤ _
      unfold runWork
      cases waiting : peripheral.work with
      | nil => exact Nat.le_refl _
      | cons first later =>
          apply Nat.le_trans (total_startAdvertising first _)
          unfold Peripheral.total
          rw [waiting, List.length_cons]
          exact Nat.le_refl _

/-- There are never more connections than connection objects. -/
theorem links_le_max {events : List Event} (allowed : advertisers.Allowed events) :
    (advertisers.run events).links.length ≤ CONFIG_BT_MAX_CONN := by
  have initially : advertisers.start.total ≤ CONFIG_BT_MAX_CONN := Nat.le_refl 2
  have bounded : (advertisers.run events).total ≤ CONFIG_BT_MAX_CONN := by
    apply Machine.invariant (fun peripheral => peripheral.total ≤ CONFIG_BT_MAX_CONN)
      advertisers.possible initially _ allowed allowed
    intro peripheral event before possible _
    exact Nat.le_trans (total_step possible) before
  apply Nat.le_trans _ bounded
  unfold Peripheral.total
  omega

/-! ## What a wrong PHY does -/

theorem not_available_of_nowhere {peripheral : Peripheral} (set : AdvSet)
    (idle : peripheral.work = []) (nowhere : peripheral.places set = 0) :
    ¬ Available peripheral := by
  unfold Peripheral.places at nowhere
  intro available
  rcases available idle set with isRunning | ⟨link, member, same⟩
  · rw [isRunning, Bool.toNat_true] at nowhere
    omega
  · have used : 0 < peripheral.links.countP (fun other => other.set = set) :=
      List.countP_pos_iff.mpr ⟨link, member, decide_eq_true same⟩
    omega

/-- Starting one set does not move the other. -/
theorem places_startAdvertising {peripheral : Peripheral} {set other : AdvSet}
    (different : other ≠ set) :
    (startAdvertising set peripheral).places other = peripheral.places other := by
  unfold startAdvertising btLeExtAdvStart Peripheral.places
  split
  · rfl
  · dsimp only
    rw [Function.update_of_ne different]

/-- Where every set is in one place and no worker waits, a connection that ends
on the wrong PHY, or whose PHY cannot be read, takes its set out of reach. -/
theorem not_available_of_mismatch {peripheral : Peripheral} {link : Link} {infoErr : Int}
    (placed : Placed peripheral) (idle : peripheral.work = []) (member : link ∈ peripheral.links)
    (mismatch : ¬ Matching peripheral (.disconnected link infoErr)) :
    exists works : List Event, (forall event, event ∈ works -> event = Event.work) ∧
      ¬ Available (works.foldl step (step peripheral (.disconnected link infoErr))) := by
  have nowhere : ({ peripheral with links := peripheral.links.erase link } : Peripheral).places
      link.set = 0 := by
    have before := places_erase member link.set
    rw [placed link.set, if_pos rfl] at before
    exact Nat.succ.inj before
  by_cases known : infoErr = 0
  · have wrong : ¬ (link.txPhy = 4 <-> link.set = .coded) := fun right => mismatch ⟨known, right⟩
    have submits : exists set, link.set ≠ set ∧ step peripheral (.disconnected link infoErr) =
        kWorkSubmit set { peripheral with links := peripheral.links.erase link } := by
      unfold step HrCoded.disconnected
      dsimp only
      rw [if_neg (not_not.mpr known)]
      by_cases onCoded : link.txPhy = 4
      · rw [if_pos onCoded]
        exact ⟨.coded, fun made => wrong (iff_of_true onCoded made), rfl⟩
      · rw [if_neg onCoded]
        refine ⟨.regular, fun made => wrong (iff_of_false onCoded ?_), rfl⟩
        rw [made]
        exact fun same => nomatch same
    rcases submits with ⟨set, different, submitted⟩
    refine ⟨[.work], fun event only => List.mem_singleton.mp only, ?_⟩
    have started : step (step peripheral (.disconnected link infoErr)) .work =
        startAdvertising set { peripheral with links := peripheral.links.erase link, work := [] } := by
      rw [submitted]
      unfold kWorkSubmit step runWork
      simp [idle]
    rw [List.foldl_cons, List.foldl_nil, started]
    apply not_available_of_nowhere link.set
    · unfold startAdvertising btLeExtAdvStart
      split <;> rfl
    · rw [places_startAdvertising different, ← nowhere]
      unfold Peripheral.places
      rw [idle]
  · have unchanged : step peripheral (.disconnected link infoErr) =
        { peripheral with links := peripheral.links.erase link } :=
      if_pos known
    refine ⟨[], fun event impossible => absurd impossible List.not_mem_nil, ?_⟩
    rw [List.foldl_nil, unchanged]
    exact not_available_of_nowhere link.set idle nowhere

/-! ## Two runs -/

instance (peripheral : Peripheral) (event : Event) : Decidable (CanHappen peripheral event) :=
  match event with
  | .connected _ => inferInstanceAs (Decidable (_ ∧ _))
  | .phyUpdated _ _ => inferInstanceAs (Decidable (exists link, link ∈ peripheral.links ∧ _))
  | .disconnected _ _ => inferInstanceAs (Decidable (_ ∈ _))
  | .work => inferInstanceAs (Decidable (_ ≠ []))

instance (peripheral : Peripheral) (event : Event) : Decidable (Matching peripheral event) :=
  match event with
  | .disconnected _ _ => inferInstanceAs (Decidable (_ = 0 ∧ (_ <-> _)))
  | .connected _ | .phyUpdated _ _ | .work => .isTrue trivial

instance (events : List Event) : Decidable (advertisers.Allowed events) :=
  inferInstanceAs (Decidable (advertisers.Each CanHappen events))

/-- Two connections end while the worker of the first one waits. -/
def twoConnections : List Event :=
  [.connected ⟨1, .coded, 4⟩, .connected ⟨2, .regular, 1⟩, .phyUpdated 2 2,
    .disconnected ⟨1, .coded, 4⟩ 0, .disconnected ⟨2, .regular, 2⟩ 0, .work, .work]

theorem twoConnections_available : Available (advertisers.run twoConnections) :=
  available_of_matching (by decide +kernel) (by decide +kernel)

/-- A connection made through the coded set moves to the 2M PHY and ends. -/
def movedConnection : List Event :=
  [.connected ⟨1, .coded, 4⟩, .phyUpdated 1 2, .disconnected ⟨1, .coded, 2⟩ 0, .work]

/-- The regular set is started a second time, and the coded one not at all. -/
theorem not_available_always :
    ¬ forall events, advertisers.Allowed events -> Available (advertisers.run events) := by
  intro claim
  have available := claim movedConnection (by decide +kernel) (by decide +kernel) .coded
  have stopped : (advertisers.run movedConnection).running .coded = false := by decide +kernel
  have unused : (advertisers.run movedConnection).links = [] := by decide +kernel
  rw [stopped, unused] at available
  rcases available with running | ⟨link, member, _⟩
  · cases running
  · cases member

end HrCoded
end NrfExamples
