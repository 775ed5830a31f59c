import NrfExamples.GnssCoap.Packets
import NrfExamples.GnssCoap.Indifferent
import NrfExamples.Traces.Past

namespace NrfExamples
namespace GnssCoap
namespace Messages

open Reentrant Prog Traces

/-!
# Datagrams and requests in one buffer

`recv` and `coap_put_work_fn` both write `coap_buf`.  If no request is built
from the arrival of a datagram until it has been handled, then the client
handles what it received, and it sends what it built.
-/

/-- Neither another datagram arrives nor another request is begun. -/
def leavesBuffer : Entry -> Bool
  | .building | .received _ => false
  | _ => true

def isReceived : Entry -> Bool
  | .received _ => true
  | _ => false

/-- The last datagram that arrived is this one. -/
def LastReceived (bytes : List UInt8) (history : List Entry) : Prop :=
  Since (fun entry => isReceived entry = false) (fun _ entry => entry = .received bytes) history

/-- And no request has been begun since. -/
def Received (bytes : List UInt8) (history : List Entry) : Prop :=
  Since (fun entry => leavesBuffer entry = true) (fun _ entry => entry = .received bytes) history

/-- This is the request that has just been built. -/
def JustBuilt (bytes : List UInt8) (history : List Entry) : Prop :=
  Since (fun entry => leavesBuffer entry = true) (fun _ entry => entry = .built bytes) history

/-- The client parses the datagram that arrived, accepts it and not a request of
its own, and sends the request that it built. -/
def Faithful (before : List Entry) : Entry -> Prop
  | .parsed bytes => LastReceived bytes before
  | .accepted bytes => Received bytes before
  | .sent _ bytes => JustBuilt bytes before
  | .called _ | .returned _ _ | .received _ | .building | .built _ => True

/-- `client_handle_response` is at work. -/
def handling : Point -> Bool
  | .beforeParse | .beforeGetToken | .beforeCompare | .beforeGetPayload => true
  | .before _ | .busy | .timeSem | .beforeRecv | .finished => false

/-- No request is built while a datagram is handled. -/
def Undisturbed (point : Point) (client : Client) (event : Event) : Prop :=
  handling point = true -> event = .work -> client.work.head? = some .coapPut -> client.sock < 0

section Histories

variable {history : List Entry} {entry : Entry} {bytes : List UInt8}

theorem Received.append (received : Received bytes history)
    (leaves : leavesBuffer entry = true) : Received bytes (history ++ [entry]) :=
  since_concat.mpr (.inr ⟨received, leaves⟩)

theorem Received.last (received : Received bytes history) : LastReceived bytes history := by
  apply Since.mono received
  intro entry leaves
  cases entry with
  | received other => cases leaves
  | _ => rfl

end Histories

/-- The datagram is at the start of the buffer. -/
def Held (bytes : List UInt8) (client : Client) : Prop :=
  client.coapBuf.take bytes.length = bytes ∧ Received bytes client.history

/-! ## The phases of `main` -/

inductive Phase
  /-- The buffer may be written. -/
  | free
  /-- This datagram is being handled. -/
  | holding (bytes : List UInt8)

def Phase.Held : Phase -> Client -> Prop
  | .free, _ => True
  | .holding bytes, client => Messages.Held bytes client

/-- A datagram is only held where it is handled. -/
def Phase.At : Phase -> Point -> Prop
  | .free, _ => True
  | .holding _, point => handling point = true

def Known (client : Client) : Prop :=
  Always Faithful client.history

/-- What is known in every state, and in the phase. -/
def Stays (phase : Phase) (client : Client) : Prop :=
  Known client ∧ phase.Held client

section Steps

variable {phase : Phase} {client later : Client} {entry : Entry} {bytes : List UInt8}

theorem Stays.of_same (stays : Stays phase client) (sameBuf : later.coapBuf = client.coapBuf)
    (sameHistory : later.history = client.history) : Stays phase later := by
  constructor
  · unfold Known
    rw [sameHistory]
    exact stays.1
  · cases phase with
    | free => trivial
    | holding bytes =>
        have held : Held bytes client := stays.2
        rw [Held, ← sameBuf, ← sameHistory] at held
        exact held

theorem Stays.record (stays : Stays phase client) (entry : Entry)
    (leaves : leavesBuffer entry = true) (faithful : Faithful client.history entry) :
    Stays phase (client.record entry) := by
  constructor
  · exact always_concat.mpr ⟨stays.1, faithful⟩
  · cases phase with
    | free => trivial
    | holding bytes => exact ⟨stays.2.1, stays.2.2.append leaves⟩

/-- An entry that says nothing of the buffer, where it may be written. -/
theorem Known.record (known : Known client) (entry : Entry)
    (faithful : Faithful client.history entry) : Known (client.record entry) :=
  always_concat.mpr ⟨known, faithful⟩

theorem indifferent_stays : Indifferent (Stays phase) where
  fields := fun _ _ _ _ sameBuf sameHistory stays => stays.of_same sameBuf sameHistory
  called := fun _ function _ stays => stays.record (.called function) rfl trivial
  returned := fun _ function result _ stays => stays.record (.returned function result) rfl trivial

/-- The datagram that arrives is held. -/
theorem Known.receive (known : Known client) (bytes : List UInt8) :
    Stays (.holding bytes) (client.receive bytes) := by
  constructor
  · exact always_concat.mpr ⟨known, trivial⟩
  · constructor
    · exact List.take_left
    · exact since_concat.mpr (.inl rfl)

end Steps

/-! ## What the procedures need and promise -/

def terms : Thread.Terms mainThread where
  Phase := Phase
  holds := fun phase point client => phase.At point ∧ phase.Held client
  always := Known
  called := fun _ _ => True
  Ghost := fun _ => Unit
  pre := fun _ _ _ => True
  post := fun _ _ _ _ => True

variable {lib : CoapLib} {build : Build}

abbrev MessagesSafe (lib : CoapLib) (build : Build) {A : Type} (program : ClientProg A)
    (goal : A -> Client -> Prop) (client : Client) : Prop :=
  program.Safe (setup lib build Undisturbed).system (terms.contract (setup lib build Undisturbed))
    goal client

section Functions

variable {phase : Phase} {client : Client} {A : Type} {goal : A -> Client -> Prop}

/-- Where the buffer may be written, all points are alike. -/
theorem safe_keeps {program : ClientProg A} (keeps : ClientKeeps (Stays .free) program)
    (known : Known client) : MessagesSafe lib build program (fun _ => Known) client := by
  have alike : forall point client, True ->
      (terms.holds Phase.free point client <-> Phase.Held .free client) :=
    fun _ _ _ => ⟨fun _ => trivial, fun _ => ⟨trivial, trivial⟩⟩
  apply (Thread.Keeps.safe keeps alike (fun _ _ => trivial) ⟨known, trivial⟩).mono
  exact fun _ _ stays => stays.1

/-- Handlers pass no point. -/
theorem safe_handler {program : ClientProg Unit} (keeps : HandlerKeeps (Stays phase) program)
    (stays : Stays phase client) :
    MessagesSafe lib build program (fun _ => Stays phase) client :=
  have alike : forall point client, False ->
      (terms.holds phase point client <-> phase.Held client) :=
    fun _ _ nowhere => nowhere.elim
  Thread.Keeps.safe keeps alike (fun _ _ => trivial) stays

/-- An event may come in, at a point where the phase allows it. -/
theorem pass_then {point : Point} {rest : Unit -> ClientProg A} (here : phase.At point)
    (stays : Stays phase client)
    (goesOn : forall later, Stays phase later -> MessagesSafe lib build (rest ()) goal later) :
    MessagesSafe lib build (interrupts point >>= rest) goal client := by
  have holds : terms.holds phase point client := ⟨here, stays.2⟩
  apply Thread.Terms.interrupts_then phase holds
  exact fun later known holds _ => goesOn later ⟨known, holds.2⟩

/-- A change where the buffer may be written. -/
theorem change_then {change : Client -> Client} {rest : Unit -> ClientProg A}
    (known : Known (change client))
    (returns : forall later, Known later -> MessagesSafe lib build (rest ()) goal later) :
    MessagesSafe lib build (.modify change >>= rest) goal client :=
  Prog.modify_then known (returns _ known)

/-! ## The work items -/

theorem safe_encode {Packet : Type} {write : List UInt8 -> Int × List UInt8 × Packet}
    {rest : Packet -> ClientProg Unit} (known : Known client)
    (returns : forall packet later, Known later ->
      MessagesSafe lib build (rest packet) (fun _ => Known) later) :
    MessagesSafe lib build (encode write rest) (fun _ => Known) client := by
  have written : Known { client with coapBuf := (write client.coapBuf).2.1 } := known
  apply Prog.perform_then written
  split
  · exact written
  · exact returns _ _ written

/-- Nothing comes between the request that was built and the one that is sent. -/
theorem safe_sendRequest (length : Nat) (known : Known client) :
    MessagesSafe lib build (sendRequest build length) (fun _ => Known) client := by
  have built : Known (client.record (.built (client.coapBuf.take length))) :=
    known.record _ trivial
  have just : JustBuilt (client.coapBuf.take length)
      (client.record (.built (client.coapBuf.take length))).history :=
    since_concat.mpr (.inl rfl)
  have sent : Known ((client.record (.built (client.coapBuf.take length))).record
      (.sent client.sock (client.coapBuf.take length))) :=
    built.record _ just
  have sending : MessagesSafe lib build
      (do
        .modify fun client => client.record (.sent client.sock (client.coapBuf.take length))
        let _ <- reply (.call (.send client.sock))
        pure ())
      (fun _ => Known) (client.record (.built (client.coapBuf.take length))) := by
    apply Prog.modify_then sent
    apply Thread.Terms.reply_then trivial
    exact fun _ _ => sent
  apply Prog.modify_then built
  apply Prog.get_then built
  dsimp only
  split
  · apply Thread.Terms.reply_then trivial
    intro err _
    split
    · exact built
    · exact sending
  · exact sending

theorem safe_coapPutWorkFn (known : Known client) :
    MessagesSafe lib build (coapPutWorkFn lib build) (fun _ => Known) client := by
  apply Prog.get_then known
  split
  · exact known
  · have advanced : Known { client with nextToken := client.nextToken + 1 } := known
    have building : Known ({ client with nextToken := client.nextToken + 1 }.record .building) :=
      advanced.record .building trivial
    apply change_then building
    intro first known
    apply Thread.Terms.reply_then trivial
    intro id _
    apply Prog.get_then known
    apply safe_encode known
    intro request second known
    apply safe_encode known
    intro request third known
    apply safe_encode known
    intro request fourth known
    apply safe_encode known
    intro request fifth known
    apply Prog.get_then known
    apply safe_encode known
    intro request last known
    exact safe_sendRequest _ known

/-- Where a datagram is held, the request is given up before the buffer is
written. -/
theorem safe_coapPutWorkFn_of_neg (stays : Stays phase client) (negative : client.sock < 0) :
    MessagesSafe lib build (coapPutWorkFn lib build) (fun _ => Stays phase) client := by
  apply Prog.get_then stays.1
  rw [if_pos negative]
  exact stays

theorem safe_runWork (here : phase = .free ∨ (client.work.head? = some .coapPut -> client.sock < 0))
    (stays : Stays phase client) :
    MessagesSafe lib build (runWork lib build) (fun _ => Stays phase) client := by
  have taken : Stays phase { client with work := client.work.tail } := stays.of_same rfl rfl
  apply Prog.get_then stays.1
  apply Prog.modify_then taken.1
  split
  · exact taken
  · exact safe_handler indifferent_stays.newFixWorkFn taken
  · rename_i tail work
    rcases here with free | negative
    · rw [free]
      apply (safe_coapPutWorkFn taken.1).mono
      exact fun _ _ known => ⟨known, trivial⟩
    · apply safe_coapPutWorkFn_of_neg taken
      apply negative
      rw [work]
      rfl

theorem handlers_keep : terms.HandlersKeep (setup lib build Undisturbed) := by
  intro point phase client event known holds allowed
  have stays : Stays phase client := ⟨known, holds.2⟩
  have handled : MessagesSafe lib build (handleEvent lib build event) (fun _ => Stays phase)
      client := by
    by_cases work : event = .work
    · rw [work]
      apply safe_runWork _ stays
      cases phase with
      | free => exact .inl rfl
      | holding bytes => exact .inr (allowed.2 holds.1 work)
    · exact safe_handler (indifferent_stays.handleEvent lib build work) stays
  exact handled.mono fun _ _ stays => ⟨holds.1, stays.2⟩

/-! ## The functions of `main` -/

/-- An event may come in where the buffer may be written. -/
theorem freely_then {point : Point} {rest : Unit -> ClientProg A} (known : Known client)
    (goesOn : forall later, Known later -> MessagesSafe lib build (rest ()) goal later) :
    MessagesSafe lib build (interrupts point >>= rest) goal client := by
  have here : Phase.At .free point := trivial
  have free : Stays .free client := ⟨known, trivial⟩
  apply pass_then here free
  exact fun later stays => goesOn later stays.1

/-- Every call, also one that connects or closes. -/
theorem safe_call (function : Call) (known : Known client) :
    MessagesSafe lib build (call function) (fun _ => Known) client := by
  apply freely_then known
  intro first known
  have called := known.record (.called function) trivial
  apply Prog.modify_then called
  apply Thread.Terms.reply_then trivial
  intro result _
  have returned := called.record (.returned function result) trivial
  exact ⟨returned, returned⟩

theorem safe_serverDisconnect (known : Known client) :
    MessagesSafe lib build serverDisconnect (fun _ => Known) client := by
  apply Prog.get_then known
  apply Prog.Safe.andThen (safe_call _ known)
  exact fun _ _ known => known

theorem safe_openSocket (known : Known client) :
    MessagesSafe lib build openSocket (fun _ => Known) client := by
  apply freely_then known
  intro first known
  have called := known.record (.called .socket) trivial
  apply Prog.modify_then called
  apply Thread.Terms.reply_then trivial
  intro sock _
  have assigned : Known { first.record (.called .socket) with sock := sock } := called
  have returned := assigned.record (.returned .socket sock) trivial
  exact ⟨returned, returned⟩

theorem safe_serverConnect (known : Known client) :
    MessagesSafe lib build serverConnect (fun _ => Known) client := by
  apply Prog.Safe.andThen (safe_openSocket known)
  intro sock first known
  split
  · apply Prog.Safe.andThen (safe_call _ known)
    intro errno second known
    apply Prog.Safe.andThen (safe_serverDisconnect known)
    exact fun _ _ known => known
  · apply Prog.Safe.andThen (safe_call _ known)
    intro err second known
    split
    · apply Prog.Safe.andThen (safe_serverDisconnect known)
      exact fun _ _ known => known
    · apply Thread.Terms.reply_then trivial
      intro random _
      exact ⟨known, known⟩

/-- What was received is what is parsed, and what is accepted. -/
theorem safe_clientHandleResponse {bytes : List UInt8} (stays : Stays (.holding bytes) client) :
    MessagesSafe lib build (clientHandleResponse lib bytes.length) (fun _ => Known) client := by
  have here : forall point, handling point = true -> Phase.At (.holding bytes) point :=
    fun _ handles => handles
  apply pass_then (here _ rfl) stays
  intro first stays
  have parsed : Stays (.holding bytes)
      (first.record (.parsed (first.coapBuf.take bytes.length))) := by
    refine stays.record _ rfl ?_
    rw [stays.2.1]
    exact stays.2.2.last
  apply Prog.get_then stays.1
  apply Prog.modify_then parsed.1
  split
  · exact parsed.1
  · apply pass_then (here _ rfl) parsed
    intro second stays
    apply Prog.get_then stays.1
    apply pass_then (here _ rfl) stays
    intro third stays
    apply Prog.get_then stays.1
    split
    · exact stays.1
    · apply pass_then (here _ rfl) stays
      intro fourth stays
      have accepted : Known (fourth.record (.accepted (fourth.coapBuf.take bytes.length))) := by
        refine stays.1.record _ ?_
        rw [stays.2.1]
        exact stays.2.2
      exact ⟨accepted, accepted⟩

theorem safe_again : MessagesSafe lib build (invoke .receiveLoop) (fun _ _ => True) client :=
  Thread.Terms.safe_invoke () trivial fun _ _ _ _ => trivial

theorem safe_receiveLoop (known : Known client) :
    MessagesSafe lib build (receiveLoop lib) (fun _ _ => True) client := by
  apply freely_then known
  intro first known
  apply Prog.get_then known
  apply Thread.Terms.reply_then trivial
  intro received mayReceive
  split
  · exact (safe_serverDisconnect known).mono fun _ _ _ => trivial
  · rename_i nonnegative
    split
    · exact safe_again
    · have length : received.1.toNat = received.2.length := by
        rcases mayReceive with negative | ⟨length, _⟩
        · exact absurd negative nonnegative
        · rw [length]
          exact Int.toNat_natCast _
      have held := known.receive received.2
      apply Prog.modify_then held.1
      rw [length]
      apply Prog.Safe.andThen (safe_clientHandleResponse held)
      intro err second known
      split
      · exact (safe_serverDisconnect known).mono fun _ _ _ => trivial
      · exact safe_again

theorem safe_runClient (known : Known client) :
    MessagesSafe lib build (runClient build) (fun _ => Known) client := by
  apply Prog.Safe.andThen (safe_keeps indifferent_stays.serverResolve known)
  intro err first known
  split
  · exact known
  · apply Prog.Safe.andThen (safe_serverConnect known)
    intro err second known
    split
    · exact known
    · apply Prog.Safe.andThen (safe_keeps (indifferent_stays.startFixes build) known)
      intro err third known
      split
      · exact known
      · exact Thread.Terms.safe_invoke () trivial fun _ _ known _ => known

theorem safe_waitWhileBusy (known : Known client) :
    MessagesSafe lib build waitWhileBusy (fun _ _ => True) client := by
  apply freely_then known
  intro first known
  apply Prog.get_then known
  split
  · exact Thread.Terms.safe_invoke () trivial fun _ _ _ _ => trivial
  · trivial

theorem safe_main (known : Known client) :
    MessagesSafe lib build (main build) (fun _ _ => True) client := by
  apply Prog.Safe.andThen (safe_keeps indifferent_stays.buttonInit known)
  intro _ first known
  have busy : Known { first with lteState := .busy } := known
  apply change_then busy
  intro second known
  apply Prog.Safe.andThen (safe_keeps indifferent_stays.modemInit known)
  intro _ third known
  apply Prog.Safe.andThen (safe_call _ known)
  intro _ fourth known
  apply Prog.Safe.andThen (safe_call _ known)
  intro _ fifth known
  apply Prog.Safe.andThen (safe_call _ known)
  intro _ sixth known
  apply Thread.Terms.invoke_then () trivial
  intro _ seventh known _
  apply Prog.Safe.andThen (safe_call _ known)
  intro _ eighth known
  apply Prog.Safe.andThen (safe_keeps indifferent_stays.takeTimeSem known)
  intro _ ninth known
  apply Prog.Safe.andThen (safe_runClient known)
  intro _ last known
  exact freely_then known fun _ _ => trivial

theorem bodies_meet : terms.BodiesMeet (setup lib build Undisturbed) := by
  intro proc _ client known _
  cases proc with
  | waitWhileBusy => exact safe_waitWhileBusy known
  | receiveLoop => exact safe_receiveLoop known

end Functions

/-- In every run in which no request is built while a datagram is handled, the
client parses what it received, accepts no request of its own, and sends what it
has just built. -/
theorem always_faithful {current : ClientConfig}
    (reached : ClientReached lib build Undisturbed current) :
    Always Faithful current.state.history := by
  have keep : terms.HandlersKeep (setup lib build Undisturbed) := handlers_keep
  have honours := Thread.Terms.honours keep bodies_meet
  have initially : Known Client.initial := always_nil
  exact System.always_of_reachable reached honours initially (safe_main initially)

/-! ## Two runs -/

instance (point : Point) (client : Client) (event : Event) :
    Decidable (Undisturbed point client event) :=
  inferInstanceAs (Decidable (_ -> _ -> _ -> _))

instance (bytes : List UInt8) (history : List Entry) : Decidable (LastReceived bytes history) :=
  inferInstanceAs (Decidable (Since _ _ history))

instance (bytes : List UInt8) (history : List Entry) : Decidable (Received bytes history) :=
  inferInstanceAs (Decidable (Since _ _ history))

instance (bytes : List UInt8) (history : List Entry) : Decidable (JustBuilt bytes history) :=
  inferInstanceAs (Decidable (Since _ _ history))

instance (before : List Entry) (entry : Entry) : Decidable (Faithful before entry) :=
  match entry with
  | .parsed bytes => inferInstanceAs (Decidable (LastReceived bytes before))
  | .accepted bytes => inferInstanceAs (Decidable (Received bytes before))
  | .sent _ bytes => inferInstanceAs (Decidable (JustBuilt bytes before))
  | .called _ | .returned _ _ | .received _ | .building | .built _ => .isTrue trivial

/-- The server has changed the resource: code 2.04, with the token of the request. -/
def response : List UInt8 :=
  [0x52, 0x44, 0x00, 0x01, 0x35, 0x12]

/-- A request is sent, and its response arrives. -/
def exchange : Script :=
  starting ++ registers ++ connecting ++
    [Call.lteLcFuncModeSet, .gnssEventHandlerSet, .gnssFixIntervalSet, .gnssFixRetrySet,
      .gnssStart].flatMap (returns 0) ++
    pressAndSend .beforeRecv 1 3 36 ++ passes .beforeRecv ++
    [⟨.reply (.recv 3), ((6 : Int), response)⟩]

/-- The response is handled to its end. -/
def handled : Script :=
  [Point.beforeParse, .beforeGetToken, .beforeCompare, .beforeGetPayload].flatMap passes

def undisturbedRun : ClientConfig :=
  scripted Undisturbed 400 (exchange ++ handled)

theorem undisturbedRun_faithful :
    .accepted response ∈ undisturbedRun.state.history ∧
      Always Faithful undisturbedRun.state.history := by
  constructor
  · decide +kernel
  · exact always_faithful (scripted_reached Undisturbed 400 _)

/-- The button is pressed again before the response is parsed. -/
def disturbedRun : ClientConfig :=
  scripted anyEvent 400 (exchange ++ pressAndSend .beforeParse 2 3 36 ++ handled)

/-- The next request is parsed in place of the response, and it is accepted: it
carries the next token. -/
theorem not_always_faithful :
    .accepted [0x52, 0x03, 0x00, 0x02, 0x36, 0x12] ∈ disturbedRun.state.history ∧
      ¬ forall lib build current, ClientReached lib build anyEvent current ->
        Always Faithful current.state.history := by
  constructor
  · decide +kernel
  · intro claim
    have faithful := claim Coap.lib gnssBuild disturbedRun (scripted_reached anyEvent 400 _)
    revert faithful
    decide +kernel

end Messages
end GnssCoap
end NrfExamples
