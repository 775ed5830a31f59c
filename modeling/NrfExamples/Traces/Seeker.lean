import NrfExamples.Traces.Machine

namespace Traces

/-!
# Programs that look for one peer

A program in the central role scans for a peer.  The scanner stops by itself when it
has found one and lets a connection be created; the program keeps a pointer to it, with
a reference, and scans again when the connection could not be established or has
ended.  If the device is a peripheral too, others connect to it at any time, and the
same callbacks tell of them.

A program is given by its state, its handlers and what they ask of the Bluetooth
stack, as far as the scanner and references are concerned.  The laws say what each
kind of event makes it do.
-/

/-- What a handler asks of the stack. -/
inductive Request (Conn : Type)
  | ref (conn : Conn)
  | unref (conn : Conn)
  | scanStart
  | scanStop
  deriving DecidableEq, Repr

/-- What an event is to the scanner. -/
inductive Occurrence (Conn : Type)
  | found (conn : Conn)
  | notCreated
  | established (conn : Conn)
  | failed (conn : Conn)
  | ended (conn : Conn)
  | aside
  deriving DecidableEq, Repr

/-- The handlers and the laws that they keep. -/
structure Seeker (Conn State Event : Type) where
  start : State
  peer : State -> Option Conn
  handle : State -> Event -> State × List (Request Conn)
  occurrence : Event -> Occurrence Conn
  /-- Others can connect to the device. -/
  peripheral : Bool
  startsAlone : peer start = none
  takes : forall state event conn, occurrence event = .found conn ->
    peer (handle state event).1 = some conn ∧ (handle state event).2 = [.ref conn]
  givesUp : forall state event conn,
    occurrence event = .failed conn ∨ occurrence event = .ended conn -> peer state = some conn ->
    peer (handle state event).1 = none ∧ (handle state event).2 = [.unref conn, .scanStart]
  ignores : forall state event conn,
    occurrence event = .failed conn ∨ occurrence event = .ended conn -> peer state ≠ some conn ->
    peer (handle state event).1 = peer state ∧ (handle state event).2 = []
  welcomes : forall state event conn, occurrence event = .established conn ->
    peer (handle state event).1 = peer state ∧
      ((handle state event).2 = [] ∨ peripheral = false ∧ (handle state event).2 = [.scanStop])
  keeps : forall state event, occurrence event = .aside ∨ occurrence event = .notCreated ->
    peer (handle state event).1 = peer state ∧ (handle state event).2 = []

variable {Conn State Event : Type} [DecidableEq Conn]

/-- The scanner, the connections, and the references that the program has taken and
not given back. -/
structure Radio (Conn : Type) where
  scanning : Bool
  creating : Option Conn
  links : List Conn
  refs : Conn -> Int

namespace Radio

/-- `starts` says whether `scanStart` succeeds. -/
def serve (starts : Bool) (radio : Radio Conn) : Request Conn -> Radio Conn
  | .ref conn => { radio with refs := Function.update radio.refs conn (radio.refs conn + 1) }
  | .unref conn => { radio with refs := Function.update radio.refs conn (radio.refs conn - 1) }
  | .scanStart => { radio with scanning := radio.scanning || starts }
  | .scanStop => { radio with scanning := false }

/-- What happens to the radio before the program is told. -/
def occur (radio : Radio Conn) : Occurrence Conn -> Radio Conn
  | .found conn => { radio with scanning := false, creating := some conn }
  | .notCreated => { radio with scanning := false }
  | .established conn =>
      { radio with
        creating := if radio.creating = some conn then none else radio.creating
        links := conn :: radio.links }
  | .failed conn =>
      { radio with creating := if radio.creating = some conn then none else radio.creating }
  | .ended conn => { radio with links := radio.links.erase conn }
  | .aside => radio

/-- What can happen. -/
def CanOccur (peripheral : Bool) (radio : Radio Conn) : Occurrence Conn -> Prop
  | .found conn => radio.scanning = true ∧ conn ∉ radio.links
  | .notCreated => radio.scanning = true
  | .established conn | .failed conn =>
      conn ∉ radio.links ∧ (peripheral = true ∨ radio.creating = some conn)
  | .ended conn => conn ∈ radio.links
  | .aside => True

instance (peripheral : Bool) (radio : Radio Conn) (occurrence : Occurrence Conn) :
    Decidable (radio.CanOccur peripheral occurrence) :=
  match occurrence with
  | .found _ | .established _ | .failed _ => inferInstanceAs (Decidable (_ ∧ _))
  | .notCreated => inferInstanceAs (Decidable (_ = _))
  | .ended _ => inferInstanceAs (Decidable (_ ∈ _))
  | .aside => .isTrue trivial

end Radio

/-! ## The pointer, the connections and the references -/

/-- The pointer is to a connection that is being created or that is up, and there is
exactly one reference for it; while the scanner is on there is none. -/
structure Tracks (peer : Option Conn) (radio : Radio Conn) : Prop where
  creating : forall conn, radio.creating = some conn -> peer = some conn ∧ conn ∉ radio.links
  alive : forall conn, peer = some conn -> radio.creating = some conn ∨ conn ∈ radio.links
  alone : radio.scanning = true -> peer = none
  refs : forall conn, radio.refs conn = if peer = some conn then 1 else 0
  distinct : radio.links.Nodup

namespace Tracks

variable {peer : Option Conn} {radio : Radio Conn} {conn : Conn} {starts peripheral : Bool}

theorem initially : Tracks none (⟨true, none, [], fun _ => 0⟩ : Radio Conn) where
  creating := nofun
  alive := nofun
  alone := fun _ => rfl
  refs := fun _ => rfl
  distinct := List.nodup_nil

/-- The scanner is on, so the pointer is free. -/
theorem found (starts : Bool) (tracks : Tracks peer radio)
    (possible : radio.CanOccur peripheral (.found conn)) :
    Tracks (some conn) ((radio.occur (.found conn)).serve starts (.ref conn)) where
  creating := by
    rintro other same
    cases same
    exact ⟨rfl, possible.2⟩
  alive := fun other same => .inl same
  alone := nofun
  refs := by
    intro other
    have none : forall other, radio.refs other = 0 := by
      intro other
      rw [tracks.refs, tracks.alone possible.1, if_neg nofun]
    change Function.update radio.refs conn (radio.refs conn + 1) other = _
    by_cases same : other = conn
    · subst same
      rw [Function.update_self, none, if_pos rfl]
      rfl
    · rw [Function.update_of_ne same, none, if_neg]
      exact fun equal => same (Option.some.inj equal).symm
  distinct := tracks.distinct

theorem notCreated (tracks : Tracks peer radio) : Tracks peer (radio.occur .notCreated) where
  creating := tracks.creating
  alive := tracks.alive
  alone := nofun
  refs := tracks.refs
  distinct := tracks.distinct

/-- The connection that was being created is up, or one that the program has not asked
for. -/
theorem established (tracks : Tracks peer radio)
    (possible : radio.CanOccur peripheral (.established conn)) :
    Tracks peer (radio.occur (.established conn)) where
  creating := by
    intro other
    change (if radio.creating = some conn then none else radio.creating) = some other -> _
    split
    · exact nofun
    · rename_i differs
      intro same
      rcases tracks.creating other same with ⟨taken, fresh⟩
      refine ⟨taken, fun member => ?_⟩
      rcases List.mem_cons.mp member with rfl | old
      · exact differs same
      · exact fresh old
  alive := by
    intro other taken
    rcases tracks.alive other taken with same | up
    · change (if radio.creating = some conn then none else radio.creating) = some other ∨ _
      by_cases isOther : other = conn
      · exact .inr (isOther ▸ List.mem_cons_self)
      · rw [if_neg, same]
        · exact .inl rfl
        · rw [same]
          exact fun equal => isOther (Option.some.inj equal)
    · exact .inr (List.mem_cons_of_mem _ up)
  alone := tracks.alone
  refs := tracks.refs
  distinct := List.nodup_cons.mpr ⟨possible.1, tracks.distinct⟩

/-- The scanner is turned off once more. -/
theorem scanStop (starts : Bool) (tracks : Tracks peer radio) :
    Tracks peer (radio.serve starts .scanStop) where
  creating := tracks.creating
  alive := tracks.alive
  alone := nofun
  refs := tracks.refs
  distinct := tracks.distinct

/-- Another connection could not be established. -/
theorem otherFailed (tracks : Tracks peer radio) (other : peer ≠ some conn) :
    Tracks peer (radio.occur (.failed conn)) := by
  have differs : radio.creating ≠ some conn := fun same => other (tracks.creating conn same).1
  unfold Radio.occur
  dsimp only
  rw [if_neg differs]
  exact ⟨tracks.creating, tracks.alive, tracks.alone, tracks.refs, tracks.distinct⟩

/-- Another connection has ended. -/
theorem otherEnded (tracks : Tracks peer radio) (other : peer ≠ some conn) :
    Tracks peer (radio.occur (.ended conn)) where
  creating := fun created same => ⟨(tracks.creating created same).1, fun member =>
    (tracks.creating created same).2 (List.mem_of_mem_erase member)⟩
  alive := by
    intro held taken
    rcases tracks.alive held taken with same | up
    · exact .inl same
    · right
      change held ∈ radio.links.erase conn
      refine (List.mem_erase_of_ne fun same => ?_).mpr up
      exact other (same ▸ taken)
  alone := tracks.alone
  refs := tracks.refs
  distinct := tracks.distinct.erase conn

/-- The pointer is given up with its reference. -/
theorem release (gone : radio.creating = none)
    (refs : forall other, radio.refs other = if some conn = some other then 1 else 0)
    (distinct : radio.links.Nodup) :
    Tracks none ((radio.serve starts (.unref conn)).serve starts .scanStart) where
  creating := by
    intro other same
    change radio.creating = some other at same
    rw [gone] at same
    cases same
  alive := nofun
  alone := fun _ => rfl
  refs := by
    intro other
    rw [if_neg nofun]
    change Function.update radio.refs conn (radio.refs conn - 1) other = 0
    by_cases same : other = conn
    · subst same
      rw [Function.update_self, refs, if_pos rfl]
      rfl
    · rw [Function.update_of_ne same, refs, if_neg]
      exact fun equal => same (Option.some.inj equal).symm
  distinct := distinct

/-- The connection of the pointer could not be established. -/
theorem failed (tracks : Tracks (some conn) radio)
    (possible : radio.CanOccur peripheral (.failed conn)) :
    Tracks none (((radio.occur (.failed conn)).serve starts (.unref conn)).serve starts
      .scanStart) := by
  refine release ?_ tracks.refs tracks.distinct
  rcases tracks.alive conn rfl with same | up
  · exact if_pos same
  · exact absurd up possible.1

/-- The connection of the pointer has ended. -/
theorem ended (tracks : Tracks (some conn) radio)
    (possible : radio.CanOccur peripheral (.ended conn)) :
    Tracks none (((radio.occur (.ended conn)).serve starts (.unref conn)).serve starts
      .scanStart) := by
  refine release ?_ tracks.refs (tracks.distinct.erase conn)
  change radio.creating = none
  cases creating : radio.creating with
  | none => rfl
  | some other =>
      rcases tracks.creating other creating with ⟨same, fresh⟩
      cases same
      exact absurd possible fresh

end Tracks

namespace Seeker

variable (seeker : Seeker Conn State Event)

/-- The program and the radio; an event comes with whether scanning can be started. -/
def seeking : Machine (State × Radio Conn) (Event × Bool) where
  start := (seeker.start, ⟨true, none, [], fun _ => 0⟩)
  step := fun both event =>
    let handled := seeker.handle both.1 event.1
    (handled.1, handled.2.foldl (Radio.serve event.2) (both.2.occur (seeker.occurrence event.1)))
  possible := fun both event => both.2.CanOccur seeker.peripheral (seeker.occurrence event.1)

/-- The program scans or has a peer. -/
def Alive (both : State × Radio Conn) : Prop :=
  both.2.scanning = true ∨ (seeker.peer both.1).isSome

/-- The scanner has stopped and the program has nothing: no connection could be created,
or scanning could not be started again. -/
def Loses (both : State × Radio Conn) (event : Event × Bool) : Prop :=
  match seeker.occurrence event.1 with
  | .notCreated => True
  | .failed conn | .ended conn => seeker.peer both.1 = some conn ∧ event.2 = false
  | .found _ | .established _ | .aside => False

instance (both : State × Radio Conn) (event : Event × Bool) :
    Decidable (seeker.seeking.possible both event) :=
  inferInstanceAs (Decidable (both.2.CanOccur seeker.peripheral (seeker.occurrence event.1)))

section Runs

variable {seeker} {both : State × Radio Conn} {event : Event × Bool}
variable {events : List (Event × Bool)}

theorem tracks_step (tracks : Tracks (seeker.peer both.1) both.2)
    (possible : seeker.seeking.possible both event) :
    Tracks (seeker.peer (seeker.seeking.step both event).1) (seeker.seeking.step both event).2 := by
  change both.2.CanOccur seeker.peripheral (seeker.occurrence event.1) at possible
  change Tracks (seeker.peer (seeker.handle both.1 event.1).1)
    ((seeker.handle both.1 event.1).2.foldl (Radio.serve event.2)
      (both.2.occur (seeker.occurrence event.1)))
  cases kind : seeker.occurrence event.1 with
  | found conn =>
      rcases seeker.takes both.1 event.1 conn kind with ⟨taken, asks⟩
      rw [kind] at possible
      rw [taken, asks]
      exact tracks.found event.2 possible
  | notCreated =>
      rcases seeker.keeps both.1 event.1 (.inr kind) with ⟨same, asks⟩
      rw [same, asks]
      exact tracks.notCreated
  | established conn =>
      rcases seeker.welcomes both.1 event.1 conn kind with ⟨same, asks⟩
      rw [kind] at possible
      rw [same]
      rcases asks with asks | ⟨_, asks⟩
      · rw [asks]
        exact tracks.established possible
      · rw [asks]
        exact (tracks.established possible).scanStop event.2
  | failed conn =>
      rw [kind] at possible
      by_cases taken : seeker.peer both.1 = some conn
      · rcases seeker.givesUp both.1 event.1 conn (.inl kind) taken with ⟨none, asks⟩
        rw [taken] at tracks
        rw [none, asks]
        exact tracks.failed possible
      · rcases seeker.ignores both.1 event.1 conn (.inl kind) taken with ⟨same, asks⟩
        rw [same, asks]
        exact tracks.otherFailed taken
  | ended conn =>
      rw [kind] at possible
      by_cases taken : seeker.peer both.1 = some conn
      · rcases seeker.givesUp both.1 event.1 conn (.inr kind) taken with ⟨none, asks⟩
        rw [taken] at tracks
        rw [none, asks]
        exact tracks.ended possible
      · rcases seeker.ignores both.1 event.1 conn (.inr kind) taken with ⟨same, asks⟩
        rw [same, asks]
        exact tracks.otherEnded taken
  | aside =>
      rcases seeker.keeps both.1 event.1 (.inl kind) with ⟨same, asks⟩
      rw [same, asks]
      exact tracks

theorem tracks_run (allowed : seeker.seeking.Allowed events) :
    Tracks (seeker.peer (seeker.seeking.run events).1) (seeker.seeking.run events).2 := by
  refine Machine.invariant (fun both => Tracks (seeker.peer both.1) both.2) (fun _ _ => True) ?_
    (fun _ _ tracks possible _ => tracks_step tracks possible) allowed fun _ _ _ _ => trivial
  change Tracks (seeker.peer seeker.start) _
  rw [seeker.startsAlone]
  exact Tracks.initially

/-- Giving up the pointer, the program is alive exactly if scanning could be started. -/
theorem alive_release (tracks : Tracks (seeker.peer both.1) both.2) {conn : Conn}
    (gone : seeker.occurrence event.1 = .failed conn ∨ seeker.occurrence event.1 = .ended conn)
    (taken : seeker.peer both.1 = some conn) :
    seeker.Alive (seeker.seeking.step both event) <-> event.2 = true := by
  rcases seeker.givesUp both.1 event.1 conn gone taken with ⟨none, asks⟩
  have off : both.2.scanning = false := by
    cases scanning : both.2.scanning with
    | false => rfl
    | true =>
        have free := tracks.alone scanning
        rw [taken] at free
        cases free
  have stays : (both.2.occur (seeker.occurrence event.1)).scanning = both.2.scanning := by
    rcases gone with kind | kind
    · rw [kind]
      rfl
    · rw [kind]
      rfl
  unfold Alive seeking
  dsimp only
  rw [none, asks]
  change ((both.2.occur (seeker.occurrence event.1)).scanning || event.2) = true ∨ false = true <-> _
  rw [stays, off]
  simp

theorem alive_same (same : seeker.peer (seeker.handle both.1 event.1).1 = seeker.peer both.1)
    (asks : (seeker.handle both.1 event.1).2 = [])
    (stays : (both.2.occur (seeker.occurrence event.1)).scanning = both.2.scanning) :
    seeker.Alive (seeker.seeking.step both event) <-> seeker.Alive both := by
  unfold Alive seeking
  dsimp only
  rw [same, asks, List.foldl_nil, stays]

theorem alive_step (tracks : Tracks (seeker.peer both.1) both.2)
    (possible : seeker.seeking.possible both event) :
    seeker.Alive (seeker.seeking.step both event) <->
      seeker.Alive both ∧ ¬ seeker.Loses both event := by
  change both.2.CanOccur seeker.peripheral (seeker.occurrence event.1) at possible
  cases kind : seeker.occurrence event.1 with
  | found conn =>
      have taken := (seeker.takes both.1 event.1 conn kind).1
      rw [kind] at possible
      apply iff_of_true
      · exact .inr (Option.isSome_iff_exists.mpr ⟨conn, taken⟩)
      · refine ⟨.inl possible.1, ?_⟩
        unfold Loses
        rw [kind]
        exact id
  | notCreated =>
      rcases seeker.keeps both.1 event.1 (.inr kind) with ⟨same, asks⟩
      rw [kind] at possible
      apply iff_of_false
      · unfold Alive seeking
        dsimp only
        rw [same, asks, kind, tracks.alone possible]
        simp [Radio.occur]
      · intro alive
        apply alive.2
        unfold Loses
        rw [kind]
        trivial
  | established conn =>
      rcases seeker.welcomes both.1 event.1 conn kind with ⟨same, asks⟩
      rw [kind] at possible
      have keeps : ¬ seeker.Loses both event := by
        unfold Loses
        rw [kind]
        exact id
      rw [and_iff_left keeps]
      rcases asks with asks | ⟨central, asks⟩
      · exact alive_same same asks (by rw [kind]; rfl)
      · -- the program turns the scanner off, but it has a peer
        have creating : both.2.creating = some conn := by
          rcases possible.2 with impossible | creating
          · rw [central] at impossible
            cases impossible
          · exact creating
        have taken := Option.isSome_iff_exists.mpr ⟨conn, (tracks.creating conn creating).1⟩
        apply iff_of_true
        · right
          change (seeker.peer (seeker.handle both.1 event.1).1).isSome
          rw [same]
          exact taken
        · exact .inr taken
  | failed conn =>
      by_cases taken : seeker.peer both.1 = some conn
      · rw [alive_release tracks (.inl kind) taken]
        have alive : seeker.Alive both := .inr (Option.isSome_iff_exists.mpr ⟨conn, taken⟩)
        unfold Loses
        simp [kind, taken, alive]
      · rcases seeker.ignores both.1 event.1 conn (.inl kind) taken with ⟨same, asks⟩
        rw [alive_same same asks (by rw [kind]; rfl)]
        unfold Loses
        simp [kind, taken]
  | ended conn =>
      by_cases taken : seeker.peer both.1 = some conn
      · rw [alive_release tracks (.inr kind) taken]
        have alive : seeker.Alive both := .inr (Option.isSome_iff_exists.mpr ⟨conn, taken⟩)
        unfold Loses
        simp [kind, taken, alive]
      · rcases seeker.ignores both.1 event.1 conn (.inr kind) taken with ⟨same, asks⟩
        rw [alive_same same asks (by rw [kind]; rfl)]
        unfold Loses
        simp [kind, taken]
  | aside =>
      rcases seeker.keeps both.1 event.1 (.inl kind) with ⟨same, asks⟩
      rw [alive_same same asks (by rw [kind]; rfl)]
      unfold Loses
      simp [kind]

/-- In every run the program scans or has a peer exactly as long as it has not lost
both, and then it never scans again. -/
theorem alive_iff (allowed : seeker.seeking.Allowed events) :
    seeker.Alive (seeker.seeking.run events) <->
      seeker.seeking.Each (fun both event => ¬ seeker.Loses both event) events := by
  induction events using List.reverseRecOn with
  | nil => exact iff_of_true (.inl rfl) always_nil
  | append_singleton events event inductionHypothesis =>
      rcases Machine.each_concat.mp allowed with ⟨allowedBefore, possible⟩
      rw [Machine.run_concat, Machine.each_concat, ← inductionHypothesis allowedBefore]
      exact alive_step (tracks_run allowedBefore) possible

end Runs

end Seeker

end Traces
