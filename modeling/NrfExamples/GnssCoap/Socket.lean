import NrfExamples.GnssCoap.Packets
import NrfExamples.GnssCoap.Indifferent
import NrfExamples.Traces.Past

namespace NrfExamples
namespace GnssCoap
namespace Socket

open Reentrant Prog Traces

/-!
# The socket

`main` opens one socket, and `sock` keeps its number after `server_disconnect`.
`coap_put_work_fn` only looks at the sign of `sock`, which is zero before
`server_connect`.  So what it sends on is usable exactly while `main` is past
the `connect` that succeeded and has not called `server_disconnect`.
-/

def closes : Entry -> Bool
  | .called (.close _) => true
  | _ => false

/-- A `connect` succeeded. -/
def goesOnline : Entry -> Bool
  | .returned (.connect _) result => decide (0 ≤ result)
  | _ => false

/-- The `connect` of this descriptor succeeded. -/
def connects (fd : Int) : Entry -> Bool
  | .returned (.connect sock) result => decide (sock = fd) && decide (0 ≤ result)
  | _ => false

/-- The entry neither ends a `connect`, nor closes, nor sends. -/
def quiet : Entry -> Bool
  | .called (.close _) | .returned (.connect _) _ | .sent _ _ => false
  | _ => true

/-- `socket` gave this descriptor, and it has not been closed since. -/
def Created (fd : Int) (history : List Entry) : Prop :=
  Since (fun entry => entry ≠ .called (.close fd))
    (fun _ entry => entry = .returned .socket fd) history

/-- The descriptor was created and then connected, and it has not been closed
since. -/
def Usable (fd : Int) (history : List Entry) : Prop :=
  Since (fun entry => entry ≠ .called (.close fd))
    (fun before entry => connects fd entry = true ∧ Created fd before) history

/-- `main` is past a `connect` that succeeded and has not called
`server_disconnect` since. -/
def Online (history : List Entry) : Prop :=
  Since (fun entry => closes entry = false) (fun _ entry => goesOnline entry = true) history

/-- Something holds of each request that is sent. -/
def AtSends (holds : Int -> List Entry -> Prop) (before : List Entry) (entry : Entry) : Prop :=
  forall fd bytes, entry = .sent fd bytes -> holds fd before

/-- What a request is sent on is usable just when `main` is online. -/
abbrev SendsAsOnline : List Entry -> Entry -> Prop :=
  AtSends fun fd before => (Usable fd before <-> Online before)

/-! ## The history grows -/

section Histories

variable {history : List Entry} {entry : Entry} {sock fd : Int}

theorem goesOnline_of_connects (connects : connects fd entry = true) :
    goesOnline entry = true := by
  cases entry with
  | returned function result =>
      cases function with
      | connect sock =>
          unfold Socket.connects at connects
          exact (Bool.and_eq_true_iff.mp connects).2
      | _ => cases connects
  | _ => cases connects

theorem goesOnline_of_quiet (quiet : quiet entry = true) : goesOnline entry = false := by
  cases entry with
  | returned function result => cases function <;> first | rfl | cases quiet
  | _ => rfl

theorem closes_of_quiet (quiet : quiet entry = true) : closes entry = false := by
  cases entry with
  | called function => cases function <;> first | rfl | cases quiet
  | _ => rfl

theorem sendsAsOnline_of_quiet (quiet : quiet entry = true) : SendsAsOnline history entry := by
  intro fd bytes same
  rw [same] at quiet
  cases quiet

theorem keepsOpen (stays : closes entry = false) : entry ≠ .called (.close fd) := by
  intro same
  rw [same] at stays
  cases stays

theorem Created.append (created : Created fd history) (stays : closes entry = false) :
    Created fd (history ++ [entry]) :=
  since_concat.mpr (.inr ⟨created, keepsOpen stays⟩)

/-- No `connect` has succeeded so far. -/
def NoConnect (history : List Entry) : Prop :=
  forall entry, entry ∈ history -> goesOnline entry = false

theorem NoConnect.append (none : NoConnect history) (offline : goesOnline entry = false) :
    NoConnect (history ++ [entry]) := by
  intro later member
  rcases List.mem_append.mp member with old | new
  · exact none later old
  · rw [List.mem_singleton.mp new]
    exact offline

theorem NoConnect.not_online (none : NoConnect history) : ¬ Online history := by
  intro online
  rcases online with ⟨before, entry, after, rfl, goesOnline, _⟩
  have offline := none entry (List.mem_append_right before List.mem_cons_self)
  rw [goesOnline] at offline
  cases offline

theorem NoConnect.not_usable (none : NoConnect history) : ¬ Usable fd history := by
  intro usable
  rcases usable with ⟨before, entry, after, rfl, ⟨connects, _⟩, _⟩
  have offline := none entry (List.mem_append_right before List.mem_cons_self)
  rw [goesOnline_of_connects connects] at offline
  cases offline

/-- `sock` is usable while `main` is online, and nothing else ever is. -/
structure Consistent (sock : Int) (history : List Entry) : Prop where
  usable : Online history -> Usable sock history
  only : forall fd, Usable fd history -> Online history ∧ fd = sock

theorem NoConnect.consistent (none : NoConnect history) : Consistent sock history where
  usable := fun online => absurd online none.not_online
  only := fun _ usable => absurd usable none.not_usable

/-- An entry that neither connects nor closes changes nothing. -/
theorem usable_concat (offline : goesOnline entry = false) (stays : closes entry = false) :
    Usable fd (history ++ [entry]) <-> Usable fd history := by
  constructor
  · intro usable
    rcases since_concat.mp usable with ⟨connects, _⟩ | ⟨before, _⟩
    · rw [goesOnline_of_connects connects] at offline
      cases offline
    · exact before
  · intro usable
    exact since_concat.mpr (.inr ⟨usable, keepsOpen stays⟩)

theorem online_concat (offline : goesOnline entry = false) (stays : closes entry = false) :
    Online (history ++ [entry]) <-> Online history := by
  constructor
  · intro online
    rcases since_concat.mp online with goesOnline | ⟨before, _⟩
    · rw [goesOnline] at offline
      cases offline
    · exact before
  · intro online
    exact since_concat.mpr (.inr ⟨online, stays⟩)

theorem Consistent.append (consistent : Consistent sock history)
    (offline : goesOnline entry = false) (stays : closes entry = false) :
    Consistent sock (history ++ [entry]) := by
  constructor
  · intro online
    exact (usable_concat offline stays).mpr
      (consistent.usable ((online_concat offline stays).mp online))
  · intro fd usable
    rcases consistent.only fd ((usable_concat offline stays).mp usable) with ⟨online, same⟩
    exact ⟨(online_concat offline stays).mpr online, same⟩

/-- Closing `sock` takes `main` offline, and with it the only usable socket. -/
theorem Consistent.close (consistent : Consistent sock history) :
    Consistent sock (history ++ [.called (.close sock)]) := by
  have offline : ¬ Online (history ++ [.called (.close sock)]) := by
    intro online
    rcases since_concat.mp online with impossible | ⟨_, impossible⟩
    · cases impossible
    · cases impossible
  constructor
  · exact fun online => absurd online offline
  · intro fd usable
    rcases since_concat.mp usable with ⟨impossible, _⟩ | ⟨before, stays⟩
    · cases impossible
    · rw [(consistent.only fd before).2] at stays
      exact absurd rfl stays

/-- The first `connect` that succeeds, on a socket that was created. -/
theorem Consistent.connect (none : NoConnect history) (created : Created sock history)
    (result : Int) : Consistent sock (history ++ [.returned (.connect sock) result]) := by
  by_cases success : 0 ≤ result
  · have online : Online (history ++ [.returned (.connect sock) result]) :=
      since_concat.mpr (.inl (decide_eq_true success))
    constructor
    · intro _
      apply since_concat.mpr
      left
      constructor
      · exact Bool.and_eq_true_iff.mpr ⟨decide_eq_true rfl, decide_eq_true success⟩
      · exact created
    · intro fd usable
      rcases since_concat.mp usable with ⟨connects, _⟩ | ⟨before, _⟩
      · have same := of_decide_eq_true (Bool.and_eq_true_iff.mp connects).1
        exact ⟨online, same.symm⟩
      · exact absurd before none.not_usable
  · have offline : goesOnline (.returned (.connect sock) result) = false :=
      decide_eq_false success
    exact (none.append offline).consistent

end Histories

/-! ## The phases of `main` -/

inductive Phase
  /-- No socket has been connected. -/
  | fresh
  /-- `sock` is this new descriptor. -/
  | created (fd : Int)
  /-- `sock` is this descriptor. -/
  | holding (fd : Int)

def Phase.Holds (phase : Phase) (client : Client) : Prop :=
  match phase with
  | .fresh => NoConnect client.history
  | .created fd => client.sock = fd ∧ NoConnect client.history ∧ Created fd client.history
  | .holding fd => client.sock = fd

/-- What is known in every state. -/
def Known (client : Client) : Prop :=
  Consistent client.sock client.history ∧ Always SendsAsOnline client.history

theorem NoConnect.known {client : Client} (none : NoConnect client.history)
    (sends : Always SendsAsOnline client.history) : Known client :=
  ⟨none.consistent, sends⟩

/-- What is known in every state, and in the phase. -/
def Stays (phase : Phase) (client : Client) : Prop :=
  Known client ∧ phase.Holds client

section Steps

variable {phase : Phase} {client later : Client} {entry : Entry}

/-- Only `sock` and the history matter. -/
theorem Stays.of_same (stays : Stays phase client) (sameSock : later.sock = client.sock)
    (sameHistory : later.history = client.history) : Stays phase later := by
  constructor
  · unfold Known
    rw [sameSock, sameHistory]
    exact stays.1
  · have holds := stays.2
    cases phase with
    | fresh =>
        unfold Phase.Holds
        rw [sameHistory]
        exact holds
    | created fd =>
        unfold Phase.Holds
        rw [sameSock, sameHistory]
        exact holds
    | holding fd => exact sameSock.trans holds

theorem Phase.Holds.record (holds : phase.Holds client) (offline : goesOnline entry = false)
    (stays : closes entry = false) : phase.Holds (client.record entry) := by
  cases phase with
  | fresh => exact NoConnect.append holds offline
  | created fd => exact ⟨holds.1, holds.2.1.append offline, holds.2.2.append stays⟩
  | holding fd => exact holds

theorem Stays.quiet (stays : Stays phase client) (quiet : quiet entry = true) :
    Stays phase (client.record entry) := by
  constructor
  · constructor
    · exact stays.1.1.append (goesOnline_of_quiet quiet) (closes_of_quiet quiet)
    · exact always_concat.mpr ⟨stays.1.2, sendsAsOnline_of_quiet quiet⟩
  · exact stays.2.record (goesOnline_of_quiet quiet) (closes_of_quiet quiet)

/-- `coap_put_work_fn` sends on `sock`. -/
theorem Stays.sent (stays : Stays phase client) (bytes : List UInt8) :
    Stays phase (client.record (.sent client.sock bytes)) := by
  constructor
  · constructor
    · exact stays.1.1.append rfl rfl
    · refine always_concat.mpr ⟨stays.1.2, ?_⟩
      intro fd _ same
      cases same
      constructor
      · exact fun usable => (stays.1.1.only _ usable).1
      · exact stays.1.1.usable
  · exact stays.2.record rfl rfl

theorem indifferent_stays : Indifferent (Stays phase) where
  fields := fun _ _ sameSock _ _ sameHistory stays => stays.of_same sameSock sameHistory
  called := by
    intro client function keeps stays
    apply stays.quiet
    cases function <;> first | rfl | cases keeps
  returned := by
    intro client function result keeps stays
    apply stays.quiet
    cases function <;> first | rfl | cases keeps

end Steps

/-! ## What the procedures need and promise -/

def socketTerms : Thread.Terms mainThread where
  Phase := Phase
  holds := fun phase _ => phase.Holds
  always := Known
  called := fun _ _ => True
  Ghost := fun _ => Unit
  pre := fun proc _ client =>
    match proc with
    | .waitWhileBusy => NoConnect client.history
    | .receiveLoop => True
  post := fun proc _ _ client =>
    match proc with
    | .waitWhileBusy => NoConnect client.history
    | .receiveLoop => True

variable {lib : CoapLib} {build : Build} {allowed : Point -> Client -> Event -> Prop}

abbrev SocketSafe (lib : CoapLib) (build : Build) (allowed : Point -> Client -> Event -> Prop)
    {A : Type} (program : ClientProg A) (goal : A -> Client -> Prop) (client : Client) : Prop :=
  program.Safe (setup lib build allowed).system (socketTerms.contract (setup lib build allowed))
    goal client

section WorkItems

variable {phase : Phase} {client : Client} {A : Type} {goal : A -> Client -> Prop}

/-- A change of other fields. -/
theorem change_then {change : Client -> Client} {rest : Unit -> ClientProg A}
    (sameSock : (change client).sock = client.sock)
    (sameHistory : (change client).history = client.history) (stays : Stays phase client)
    (returns : forall later, Stays phase later ->
      SocketSafe lib build allowed (rest ()) goal later) :
    SocketSafe lib build allowed (.modify change >>= rest) goal client := by
  have kept := stays.of_same sameSock sameHistory
  exact Prog.modify_then kept.1 (returns _ kept)

/-- The functions and handlers that leave the socket alone. -/
theorem safe_keeps {passed : Point -> Prop} {program : ClientProg A}
    (keeps : @Thread.Keeps mainThread A passed (Stays phase) program)
    (stays : Stays phase client) :
    SocketSafe lib build allowed program (fun _ => Stays phase) client :=
  Thread.Keeps.safe keeps (fun _ _ _ => Iff.rfl) (fun _ _ => trivial) stays

/-- The library writes to the buffer only. -/
theorem safe_encode {Packet : Type} {write : List UInt8 -> Int × List UInt8 × Packet}
    {rest : Packet -> ClientProg Unit} (stays : Stays phase client)
    (returns : forall packet later, Stays phase later ->
      SocketSafe lib build allowed (rest packet) (fun _ => Stays phase) later) :
    SocketSafe lib build allowed (encode write rest) (fun _ => Stays phase) client := by
  have written : Stays phase { client with coapBuf := (write client.coapBuf).2.1 } :=
    stays.of_same rfl rfl
  apply Prog.perform_then written.1
  split
  · exact written
  · exact returns _ _ written

theorem safe_sendRequest (length : Nat) (stays : Stays phase client) :
    SocketSafe lib build allowed (sendRequest build length) (fun _ => Stays phase) client := by
  have built : Stays phase (client.record (.built (client.coapBuf.take length))) :=
    stays.quiet rfl
  have sent : Stays phase ((client.record (.built (client.coapBuf.take length))).record
      (.sent client.sock (client.coapBuf.take length))) :=
    built.sent _
  have sending : SocketSafe lib build allowed
      (do
        .modify fun client => client.record (.sent client.sock (client.coapBuf.take length))
        let _ <- reply (.call (.send client.sock))
        pure ())
      (fun _ => Stays phase) (client.record (.built (client.coapBuf.take length))) := by
    apply Prog.modify_then sent.1
    apply Thread.Terms.reply_then trivial
    exact fun _ _ => sent
  apply Prog.modify_then built.1
  apply Prog.get_then built.1
  dsimp only
  split
  · apply Thread.Terms.reply_then trivial
    intro err _
    split
    · exact built
    · exact sending
  · exact sending

theorem safe_coapPutWorkFn (stays : Stays phase client) :
    SocketSafe lib build allowed (coapPutWorkFn lib build) (fun _ => Stays phase) client := by
  apply Prog.get_then stays.1
  split
  · exact stays
  · have building : Stays phase
        ({ client with nextToken := client.nextToken + 1 }.record .building) := by
      have advanced : Stays phase { client with nextToken := client.nextToken + 1 } :=
        stays.of_same rfl rfl
      exact advanced.quiet rfl
    apply Prog.modify_then building.1
    apply Thread.Terms.reply_then trivial
    intro id _
    apply Prog.get_then building.1
    apply safe_encode building
    intro request first stays
    apply safe_encode stays
    intro request second stays
    apply safe_encode stays
    intro request third stays
    apply safe_encode stays
    intro request fourth stays
    apply Prog.get_then stays.1
    apply safe_encode stays
    intro request last stays
    exact safe_sendRequest _ stays

theorem safe_runWork (stays : Stays phase client) :
    SocketSafe lib build allowed (runWork lib build) (fun _ => Stays phase) client := by
  apply Prog.get_then stays.1
  apply change_then rfl rfl stays
  intro later stays
  split
  · exact stays
  · exact safe_keeps indifferent_stays.newFixWorkFn stays
  · exact safe_coapPutWorkFn stays

end WorkItems

section Handlers

variable {phase : Phase} {client : Client}

/-- No handler assigns `sock`, and only `coap_put_work_fn` sends. -/
theorem safe_handleEvent (event : Event) (stays : Stays phase client) :
    SocketSafe lib build allowed (handleEvent lib build event) (fun _ => Stays phase) client := by
  by_cases work : event = .work
  · rw [work]
    exact safe_runWork stays
  · exact safe_keeps (indifferent_stays.handleEvent lib build work) stays

theorem socket_handlers_keep : socketTerms.HandlersKeep (setup lib build allowed) := by
  intro _ phase client event known holds _
  exact (safe_handleEvent event ⟨known, holds⟩).mono fun _ _ stays => stays.2

end Handlers

/-! ## The functions of `main` -/

section Functions

variable {phase : Phase} {client : Client} {A : Type} {goal : A -> Client -> Prop}

/-- `close` on `sock`, whatever it is. -/
theorem safe_serverDisconnect (known : Known client) :
    SocketSafe lib build allowed serverDisconnect (fun _ => Known) client := by
  apply Prog.get_then known
  apply Thread.Terms.interrupts_then (Phase.holding client.sock) rfl
  intro first known holds _
  have closed : Stays (.holding client.sock) (first.record (.called (.close client.sock))) := by
    have same : first.sock = client.sock := holds
    rw [← same]
    constructor
    · constructor
      · exact known.1.close
      · exact always_concat.mpr ⟨known.2, fun _ _ impossible => nomatch impossible⟩
    · rfl
  apply Prog.modify_then closed.1
  apply Thread.Terms.reply_then trivial
  intro result _
  have quiet : Socket.quiet (.returned (.close client.sock) result) = true := rfl
  have returned := closed.quiet quiet
  apply Prog.modify_then returned.1
  exact returned.1

/-- The new descriptor is assigned before anything is connected. -/
theorem openSocket_then {rest : Int -> ClientProg A} (stays : Stays .fresh client)
    (returns : forall sock later, Stays (.created sock) later ->
      SocketSafe lib build allowed (rest sock) goal later) :
    SocketSafe lib build allowed (openSocket >>= rest) goal client := by
  apply Thread.Terms.interrupts_then Phase.fresh stays.2
  intro first known holds _
  have opening : Stays .fresh (first.record (.called .socket)) := Stays.quiet ⟨known, holds⟩ rfl
  apply Prog.modify_then opening.1
  apply Thread.Terms.reply_then trivial
  intro sock _
  have none := NoConnect.append opening.2
    (show goesOnline (.returned .socket sock) = false from rfl)
  have created : Stays (.created sock)
      ({ first.record (.called .socket) with sock := sock }.record (.returned .socket sock)) := by
    constructor
    · apply none.known
      exact always_concat.mpr ⟨opening.1.2, fun _ _ impossible => nomatch impossible⟩
    · exact ⟨rfl, none, since_concat.mpr (.inl rfl)⟩
  apply Prog.modify_then created.1
  exact returns sock _ created

/-- `connect` on the new descriptor. -/
theorem connect_then {fd : Int} {rest : Int -> ClientProg A} (stays : Stays (.created fd) client)
    (returns : forall err later, Known later ->
      SocketSafe lib build allowed (rest err) goal later) :
    SocketSafe lib build allowed (call (.connect fd) >>= rest) goal client := by
  apply Thread.Terms.interrupts_then (Phase.created fd) stays.2
  intro first known holds _
  have connecting : Stays (.created fd) (first.record (.called (.connect fd))) :=
    Stays.quiet ⟨known, holds⟩ rfl
  apply Prog.modify_then connecting.1
  apply Thread.Terms.reply_then trivial
  intro err _
  rcases connecting.2 with ⟨same, none, created⟩
  have connected : Known ((first.record (.called (.connect fd))).record
      (.returned (.connect fd) err)) := by
    constructor
    · have consistent := Consistent.connect none created err
      rw [← same] at consistent ⊢
      exact consistent
    · exact always_concat.mpr ⟨connecting.1.2, fun _ _ impossible => nomatch impossible⟩
  apply Prog.modify_then connected
  exact returns err _ connected

theorem Known.holding {client : Client} (known : Known client) :
    Stays (.holding client.sock) client :=
  ⟨known, rfl⟩

theorem safe_serverConnect (stays : Stays .fresh client) :
    SocketSafe lib build allowed serverConnect (fun _ => Known) client := by
  apply openSocket_then stays
  intro sock first created
  split
  · apply Prog.Safe.andThen (safe_keeps (indifferent_stays.call rfl) created)
    intro errno second stays
    apply Prog.Safe.andThen (safe_serverDisconnect stays.1)
    exact fun _ _ known => known
  · apply connect_then created
    intro err second known
    split
    · apply Prog.Safe.andThen (safe_serverDisconnect known)
      exact fun _ _ known => known
    · apply Thread.Terms.reply_then trivial
      intro random _
      apply change_then rfl rfl known.holding
      exact fun _ stays => stays.1

/-- An event may come in. -/
theorem pass_then {point : Point} {rest : Unit -> ClientProg A} (stays : Stays phase client)
    (goesOn : forall later, Stays phase later ->
      SocketSafe lib build allowed (rest ()) goal later) :
    SocketSafe lib build allowed (interrupts point >>= rest) goal client := by
  apply Thread.Terms.interrupts_then phase stays.2
  exact fun later known holds _ => goesOn later ⟨known, holds⟩

theorem safe_clientHandleResponse (received : Nat) (stays : Stays phase client) :
    SocketSafe lib build allowed (clientHandleResponse lib received) (fun _ => Stays phase)
      client := by
  apply pass_then stays
  intro first stays
  apply Prog.get_then stays.1
  have parsed : Stays phase (first.record (.parsed (first.coapBuf.take received))) :=
    stays.quiet rfl
  apply Prog.modify_then parsed.1
  split
  · exact parsed
  · apply pass_then parsed
    intro second stays
    apply Prog.get_then stays.1
    apply pass_then stays
    intro third stays
    apply Prog.get_then stays.1
    split
    · exact stays
    · apply pass_then stays
      intro fourth stays
      have accepted : Stays phase (fourth.record (.accepted (fourth.coapBuf.take received))) :=
        stays.quiet rfl
      apply Prog.modify_then accepted.1
      exact accepted

theorem safe_waitWhileBusy (stays : Stays .fresh client) :
    SocketSafe lib build allowed waitWhileBusy (fun _ later => NoConnect later.history)
      client := by
  apply pass_then stays
  intro first stays
  apply Prog.get_then stays.1
  split
  · exact Thread.Terms.safe_invoke () stays.2 fun _ _ _ promised => promised
  · exact stays.2

theorem safe_receiveLoop (known : Known client) :
    SocketSafe lib build allowed (receiveLoop lib) (fun _ _ => True) client := by
  apply pass_then known.holding
  intro first stays
  apply Prog.get_then stays.1
  apply Thread.Terms.reply_then trivial
  intro received _
  have again : forall later, SocketSafe lib build allowed (invoke .receiveLoop)
      (fun _ _ => True) later :=
    fun later => Thread.Terms.safe_invoke () trivial fun _ _ _ _ => trivial
  split
  · exact (safe_serverDisconnect stays.1).mono fun _ _ _ => trivial
  · split
    · exact again first
    · have copied : Stays (.holding client.sock) (first.receive received.2) := by
        have stored : Stays (.holding client.sock)
            { first with coapBuf := received.2 ++ first.coapBuf.drop received.2.length } :=
          stays.of_same rfl rfl
        exact stored.quiet rfl
      apply Prog.modify_then copied.1
      apply Prog.Safe.andThen (safe_clientHandleResponse _ copied)
      intro err second stays
      split
      · exact (safe_serverDisconnect stays.1).mono fun _ _ _ => trivial
      · exact again second

theorem safe_runClient (stays : Stays .fresh client) :
    SocketSafe lib build allowed (runClient build) (fun _ => Known) client := by
  apply Prog.Safe.andThen (safe_keeps indifferent_stays.serverResolve stays)
  intro err first stays
  split
  · exact stays.1
  · apply Prog.Safe.andThen (safe_serverConnect stays)
    intro err second known
    split
    · exact known
    · apply Prog.Safe.andThen (safe_keeps (indifferent_stays.startFixes build) known.holding)
      intro err third stays
      split
      · exact stays.1
      · exact Thread.Terms.safe_invoke () trivial fun _ _ known _ => known

theorem safe_main (stays : Stays .fresh client) :
    SocketSafe lib build allowed (main build) (fun _ _ => True) client := by
  apply Prog.Safe.andThen (safe_keeps indifferent_stays.buttonInit stays)
  intro _ first stays
  apply change_then rfl rfl stays
  intro second stays
  apply Prog.Safe.andThen (safe_keeps indifferent_stays.modemInit stays)
  intro _ third stays
  apply Prog.Safe.andThen (safe_keeps (indifferent_stays.call rfl) stays)
  intro _ fourth stays
  apply Prog.Safe.andThen (safe_keeps (indifferent_stays.call rfl) stays)
  intro _ fifth stays
  apply Prog.Safe.andThen (safe_keeps (indifferent_stays.call rfl) stays)
  intro _ sixth stays
  apply Thread.Terms.invoke_then () stays.2
  intro _ seventh known none
  have waited : Stays .fresh seventh := ⟨known, none⟩
  apply Prog.Safe.andThen (safe_keeps (indifferent_stays.call rfl) waited)
  intro _ eighth stays
  apply Prog.Safe.andThen (safe_keeps indifferent_stays.takeTimeSem stays)
  intro _ ninth stays
  apply Prog.Safe.andThen (safe_runClient stays)
  intro _ last known
  exact pass_then known.holding fun _ _ => trivial

theorem socket_bodies_meet : socketTerms.BodiesMeet (setup lib build allowed) := by
  intro proc _ client known assumed
  cases proc with
  | waitWhileBusy => exact safe_waitWhileBusy ⟨known, assumed⟩
  | receiveLoop => exact safe_receiveLoop known

end Functions

theorem stays_initial : Stays .fresh Client.initial := by
  have none : NoConnect Client.initial.history := fun _ member => nomatch member
  constructor
  · exact none.known always_nil
  · exact none

/-- In every run, whatever `coap_put_work_fn` sends on is usable if and only if
`main` is past a successful `connect` and has not called `server_disconnect`
since. -/
theorem usable_iff_online {current : ClientConfig}
    (reached : ClientReached lib build allowed current) :
    Always (AtSends fun fd before => (Usable fd before <-> Online before))
      current.state.history := by
  have keep : socketTerms.HandlersKeep (setup lib build allowed) := socket_handlers_keep
  have honours := Thread.Terms.honours keep socket_bodies_meet
  exact (System.always_of_reachable reached honours stays_initial.1 (safe_main stays_initial)).2

/-! ## Two runs -/

instance (fd : Int) (history : List Entry) : Decidable (Created fd history) :=
  inferInstanceAs (Decidable (Since _ _ history))

instance (fd : Int) (history : List Entry) : Decidable (Usable fd history) :=
  inferInstanceAs (Decidable (Since _ _ history))

instance (holds : Int -> List Entry -> Prop) [forall fd before, Decidable (holds fd before)]
    (before : List Entry) (entry : Entry) : Decidable (AtSends holds before entry) :=
  match entry with
  | .sent fd bytes => decidable_of_iff (holds fd before)
      ⟨fun here _ _ same => (Entry.sent.inj same).1 ▸ here, fun each => each fd bytes rfl⟩
  | .called _ | .returned _ _ | .received _ | .parsed _ | .accepted _ | .building | .built _ =>
      .isTrue fun _ _ impossible => nomatch impossible

/-- The button is pressed once `main` is online. -/
def onlineRun : ClientConfig :=
  scripted anyEvent 200
    (starting ++ registers ++ connecting ++ pressAndSend (.before .lteLcFuncModeSet) 1 3 36)

theorem onlineRun_usable :
    (onlineRun.state.history.any fun entry => entry matches .sent 3 _) = true ∧
      Always (AtSends fun fd before => (Usable fd before <-> Online before))
        onlineRun.state.history := by
  constructor
  · decide +kernel
  · exact usable_iff_online (scripted_reached anyEvent 200 _)

/-- The button is pressed once LTE is registered, while `main` has not noticed. -/
def earlyRun : ClientConfig :=
  scripted anyEvent 200 (starting ++ registers ++ pressAndSend .busy 1 0 22)

/-- The request is sent on descriptor zero, which nothing created. -/
theorem not_always_usable :
    ¬ forall lib build current, ClientReached lib build anyEvent current ->
      Always (AtSends Usable) current.state.history := by
  intro claim
  have usable := claim Coap.lib gnssBuild earlyRun (scripted_reached anyEvent 200 _)
  revert usable
  decide +kernel

end Socket
end GnssCoap
end NrfExamples
