import Mathlib.Data.Fintype.EquivFin
import NrfExamples.Uart.Threads

namespace NrfExamples
namespace Uart

open Reentrant Traces

/-!
# Runs of the whole bridge

What `Board.Fine` says of a moment is said here of every run of the interrupts and
the threads: the heap has no lost and no doubly owned buffer, the bytes that reach
`bt_nus_send` are those that were received, and reception is never disabled for good.

These are runs in which `uart_err_check` has reported no error.  What `on_error` does
after one, with the data of the target, is not covered.
-/

section Runs

variable {cfg : BridgeConfig} {capacity : Nat} {start : World Bridge} {events : List BoardEvent}

theorem Initialised.fine (initialised : Initialised cfg capacity start) :
    Board.Fine cfg (bridge cfg capacity start).start := by
  rcases initialised with ⟨target, memory, len, reachable⟩
  have initially : Shares cfg .nothing .nothing _ := shares_initial target memory len
  have done := (System.Reachable.safe reachable heap_honours ⟨_, initially⟩
    (heapSafe_uartInit initially rfl rfl)).2
  rcases done rfl with ⟨shares, running⟩
  exact ⟨.inl running, trivial, _, shares, trivial, trivial⟩

theorem Board.Fine.step {board : Board} {event : BoardEvent} (fine : board.Fine cfg)
    (possible : board.possible cfg capacity event) : Board.Fine cfg (board.step cfg event) := by
  cases event with
  | interrupt handler later => exact fine.interrupt possible.1 possible.2
  | work block => exact fine.work possible
  | write => exact fine.write
  | packet packet => exact fine.packet possible.1 possible.2
  | receive block => exact fine.receive possible

theorem fine_run (initialised : Initialised cfg capacity start)
    (allowed : (bridge cfg capacity start).Allowed events) :
    Board.Fine cfg ((bridge cfg capacity start).run events) :=
  Machine.invariant (Board.Fine cfg) (fun _ _ => True) initialised.fine
    (fun _ _ fine possible _ => fine.step possible) allowed (fun _ _ _ _ => trivial)

/-! ## Buffers -/

/-- As long as no error is reported, each allocated buffer has exactly one owner in every
run: the adapter, one of the FIFOs, or one of the threads.  While a handler runs, at most two more are on their way
between these, and no handler writes to what a thread has in hand. -/
theorem buffers_ownedOnce (initialised : Initialised cfg capacity start)
    (allowed : (bridge cfg capacity start).Allowed events) :
    let board := (bridge cfg capacity start).run events
    board.world.app.live.Nodup ∧
      board.world.app.live.Perm
        (board.world.holders ++ board.world.app.fifoUartTxData ++ board.hands) ∧
      forall handler current, Fires board.world handler ->
        (heapSystem cfg capacity).Reachable (I := adapterInterface Bridge) (A := Unit)
          ⟨board.world, handle handler⟩ current ->
        current.state.app.live.Nodup ∧
          (exists onTheWay, onTheWay.length ≤ 2 ∧ current.state.app.live.Perm
            (current.state.holders ++ current.state.app.fifoUartTxData ++ board.hands ++ onTheWay)) ∧
          forall buf, buf ∈ board.hands -> current.state.data buf = board.world.data buf := by
  intro board
  have fine : Board.Fine cfg board := fine_run initialised allowed
  rcases fine.shares with ⟨content, shares, _, _⟩
  have custody := shares.custody
  rw [InTransit.nothing, List.append_nil, List.append_nil] at custody
  refine ⟨shares.distinct, custody, fun handler current fires reached => ?_⟩
  rcases System.always_of_reachable reached heap_honours ⟨_, shares⟩
    (heapSafe_handle handler shares fine.followed fires) with
    ⟨transit, inside⟩
  have custody := inside.custody
  rcases inside.reception with ⟨_, _, rep, _, _⟩
  rw [List.append_assoc _ transit.released] at custody
  exact ⟨inside.distinct, ⟨_, rep.few, custody⟩,
    fun buf member => (inside.untouched buf member).trans (shares.untouched buf member).symm⟩

/-! ## Bytes -/

/-- As long as no error is reported, the pieces that `bt_nus_send` has been given, what
`ble_write_thread` has in hand, the FIFO and the current buffer hold in every run the
bytes that were stored, in order. -/
theorem received_inOrder (initialised : Initialised cfg capacity start)
    (allowed : (bridge cfg capacity start).Allowed events) :
    let board := (bridge cfg capacity start).run events
    board.sent.flatten ++ board.writer.pending board.world.data ++ board.world.queuedBytes ++
      board.world.currentBytes = storedBytes board.world.log := by
  intro board
  have fine : Board.Fine cfg board := fine_run initialised allowed
  rcases fine.shares with ⟨content, shares, _, _⟩
  have pending : board.writer.pending board.world.data = board.writer.pending content := by
    cases writer : board.writer with
    | sending buf => exact shares.untouched buf (by simp [Board.hands, writer, WriterAt.hands])
    | _ => rfl
  rw [pending]
  exact shares.bytes

/-! ## Reception -/

/-- Some further statements of `uart_work_handler` enable reception. -/
def Resumes (cfg : BridgeConfig) (capacity : Nat) (start : World Bridge)
    (events : List BoardEvent) : Prop :=
  exists more, (forall event, event ∈ more -> exists block, event = .work block) ∧
    (bridge cfg capacity start).Allowed (events ++ more) ∧
    Running ((bridge cfg capacity start).run (events ++ more)).world

/-- One statement more at the beginning. -/
theorem Resumes.before {block : Option Nat}
    (resumes : Resumes cfg capacity start (events ++ [.work block])) :
    Resumes cfg capacity start events := by
  rcases resumes with ⟨more, works, allowed, running⟩
  rw [List.append_assoc, List.singleton_append] at allowed running
  refine ⟨.work block :: more, fun event member => ?_, allowed, running⟩
  rcases List.mem_cons.mp member with rfl | later
  · exact ⟨block, rfl⟩
  · exact works event later

/-- The next statement of `uart_work_handler`, after a run. -/
theorem allowed_work (block : Option Nat) (allowed : (bridge cfg capacity start).Allowed events)
    (mallocs : ((bridge cfg capacity start).run events).work = .entered ->
      ((bridge cfg capacity start).run events).world.Mallocs capacity block) :
    (bridge cfg capacity start).Allowed (events ++ [.work block]) :=
  Machine.each_concat.mpr ⟨allowed, mallocs⟩

theorem resumes_cleared (buf : Address) (initialised : Initialised cfg capacity start)
    (allowed : (bridge cfg capacity start).Allowed events)
    (here : ((bridge cfg capacity start).run events).work = .cleared buf) :
    Resumes cfg capacity start events := by
  have alert := (fine_run initialised allowed).alert
  rw [here] at alert
  have next := allowed_work none allowed fun entered => nomatch here.symm.trans entered
  refine ⟨[.work none], by simp, next, ?_⟩
  rw [Machine.run_concat]
  change Running (uartWorkHandler cfg none ((bridge cfg capacity start).run events).world
    ((bridge cfg capacity start).run events).work).2
  rw [here]
  exact ⟨rfl, rfl, alert.2⟩

theorem resumes_allocated (buf : Address) (initialised : Initialised cfg capacity start)
    (allowed : (bridge cfg capacity start).Allowed events)
    (here : ((bridge cfg capacity start).run events).work = .allocated buf) :
    Resumes cfg capacity start events := by
  have next := allowed_work none allowed fun entered => nomatch here.symm.trans entered
  refine (resumes_cleared buf initialised next ?_).before
  rw [Machine.run_concat]
  change (uartWorkHandler cfg none ((bridge cfg capacity start).run events).world
    ((bridge cfg capacity start).run events).work).1 = .cleared buf
  rw [here]
  rfl

theorem exists_mallocs {world : World Bridge} (room : world.app.live.length < capacity) :
    exists block, world.Mallocs capacity (some block) := by
  rcases Infinite.exists_notMem_finset (world.app.live.map Address.block).toFinset with
    ⟨block, fresh⟩
  exact ⟨block, room, fun member => fresh (List.mem_toFinset.mpr (List.mem_map_of_mem member))⟩

theorem resumes_entered (initialised : Initialised cfg capacity start)
    (allowed : (bridge cfg capacity start).Allowed events)
    (here : ((bridge cfg capacity start).run events).work = .entered)
    (room : ((bridge cfg capacity start).run events).world.app.live.length < capacity) :
    Resumes cfg capacity start events := by
  rcases exists_mallocs room with ⟨block, mallocs⟩
  have next := allowed_work (some block) allowed fun _ => mallocs
  refine (resumes_allocated ⟨block, 0⟩ initialised next ?_).before
  rw [Machine.run_concat]
  change (uartWorkHandler cfg (some block) ((bridge cfg capacity start).run events).world
    ((bridge cfg capacity start).run events).work).1 = .allocated ⟨block, 0⟩
  rw [here]
  rfl

theorem resumes_idle (initialised : Initialised cfg capacity start)
    (allowed : (bridge cfg capacity start).Allowed events)
    (here : ((bridge cfg capacity start).run events).work = .idle)
    (waits : ((bridge cfg capacity start).run events).world.app.uartWork = true)
    (room : ((bridge cfg capacity start).run events).world.app.live.length < capacity) :
    Resumes cfg capacity start events := by
  have next := allowed_work none allowed fun entered => nomatch here.symm.trans entered
  have entered : (bridge cfg capacity start).run (events ++ [.work none]) =
      { (bridge cfg capacity start).run events with
        work := .entered
        world := ((bridge cfg capacity start).run events).world.mapApp fun bridge =>
          { bridge with uartWork := false } } := by
    rw [Machine.run_concat]
    change Board.step cfg _ (.work none) = _
    unfold Board.step uartWorkHandler
    dsimp only
    rw [here, if_pos waits]
  refine (resumes_entered initialised next ?_ ?_).before
  · rw [entered]
  · rw [entered]
    exact room

theorem resumes_failed (initialised : Initialised cfg capacity start)
    (allowed : (bridge cfg capacity start).Allowed events)
    (here : ((bridge cfg capacity start).run events).work = .failed)
    (room : ((bridge cfg capacity start).run events).world.app.live.length < capacity) :
    Resumes cfg capacity start events := by
  have next := allowed_work none allowed fun entered => nomatch here.symm.trans entered
  have waits : (bridge cfg capacity start).run (events ++ [.work none]) =
      { (bridge cfg capacity start).run events with
        work := .idle
        world := ((bridge cfg capacity start).run events).world.mapApp Bridge.reschedule } := by
    rw [Machine.run_concat]
    change Board.step cfg _ (.work none) = _
    unfold Board.step uartWorkHandler
    dsimp only
    rw [here]
  refine (resumes_idle initialised next ?_ ?_ ?_).before
  · rw [waits]
  · rw [waits]
    rfl
  · rw [waits]
    exact room

/-- As long as no error is reported, in every run reception is enabled, or it is disabled
and `uart_work_handler` is running or will run.  In the second case, as soon as there is
room on the heap, `uart_work_handler` needs nobody else to enable reception. -/
theorem reception_returns (initialised : Initialised cfg capacity start)
    (allowed : (bridge cfg capacity start).Allowed events) :
    let board := (bridge cfg capacity start).run events
    (Running board.world ∧ board.work = .idle ∨
        Stalled board.world ∧ (board.work = .idle -> board.world.app.uartWork = true)) ∧
      (Stalled board.world -> board.world.app.live.length < capacity ->
        Resumes cfg capacity start events) := by
  intro board
  have alert : Alert board.world board.work := (fine_run initialised allowed).alert
  cases work : board.work with
  | idle =>
      rw [work] at alert
      rcases alert with running | ⟨stalled, waits⟩
      · refine ⟨.inl ⟨running, rfl⟩, fun stalled => ?_⟩
        have enabled := running.enabled
        rw [stalled.disabled] at enabled
        cases enabled
      · exact ⟨.inr ⟨stalled, fun _ => waits⟩,
          fun _ room => resumes_idle initialised allowed work waits room⟩
  | entered =>
      rw [work] at alert
      exact ⟨.inr ⟨alert.1, nofun⟩, fun _ room => resumes_entered initialised allowed work room⟩
  | allocated buf =>
      rw [work] at alert
      exact ⟨.inr ⟨alert.1, nofun⟩, fun _ _ => resumes_allocated buf initialised allowed work⟩
  | cleared buf =>
      rw [work] at alert
      exact ⟨.inr ⟨alert.1, nofun⟩, fun _ _ => resumes_cleared buf initialised allowed work⟩
  | failed =>
      rw [work] at alert
      exact ⟨.inr ⟨alert.1, nofun⟩, fun _ room => resumes_failed initialised allowed work room⟩

end Runs

/-! ## A run without memory -/

instance (cfg : BridgeConfig) (capacity : Nat) (query : Query) (world : World Bridge)
    (answer : Answer query) : Decidable ((heapSystem cfg capacity).permitted query world answer) :=
  match query, answer with
  | .next, _ => .isFalse id
  | .errCheck, err => inferInstanceAs (Decidable (err ≤ (0 : Int)))
  | .fifoFill size, ret => inferInstanceAs (Decidable (ret ≤ (size : Int)))
  | .fifoRead size, .ok bytes => inferInstanceAs (Decidable (bytes.length ≤ size))
  | .fifoRead _, .error err => inferInstanceAs (Decidable (err < 0))
  | .kMalloc, none => inferInstanceAs (Decidable (_ ≤ _))
  | .kMalloc, some _ => inferInstanceAs (Decidable (_ ∧ _))
  | .client _, _ | .flag _, _ => .isTrue trivial

/-- What a program on a heap for two buffers has come to after a script of answers. -/
def crampedScripted {A : Type} (fuel : Nat) (script : List (Sigma Answer)) (world : World Bridge)
    (prog : AdapterProg Bridge A) : Config (adapterInterface Bridge) A :=
  (heapSystem defaultConfig 2).play (I := adapterInterface Bridge) fuel script ⟨world, prog⟩

/-- `uart_init` takes the whole heap. -/
def crampedStart : Config (adapterInterface Bridge) Int :=
  crampedScripted 100 [⟨.kMalloc, some 1⟩, ⟨.kMalloc, some 2⟩]
    (World.initial .zeroed (fun _ _ => 0) (Bridge.initial fun _ => 0)) (uartInit defaultConfig)

/-- A line arrives. -/
def crampedLine : Config (adapterInterface Bridge) Unit :=
  crampedScripted 300 ([⟨.flag .irqUpdate, true⟩, ⟨.flag .irqIsPending, true⟩,
    ⟨.flag .irqTxReady, false⟩, ⟨.flag .irqTxComplete, false⟩, ⟨.flag .irqRxReady, true⟩,
    ⟨.kMalloc, none⟩, ⟨.fifoRead 40, .ok [97, 10]⟩, ⟨.fifoRead 38, .ok []⟩,
    ⟨.errCheck, (0 : Int)⟩]) crampedStart.state (handle .uartIrq)

/-- It is reported, and reception ends. -/
def crampedTimeout : Config (adapterInterface Bridge) Unit :=
  crampedScripted 300 [⟨.kMalloc, none⟩] crampedLine.state (handle .rxTimeout)

/-- `uart_work_handler` finds no memory either, and `ble_write_thread` sends the line
and frees its buffer. -/
def crampedEvents : List BoardEvent :=
  [.interrupt .uartIrq crampedLine.state, .interrupt .rxTimeout crampedTimeout.state,
    .work none, .work none, .write, .write, .write, .work none]

theorem crampedStart_initialised : Initialised defaultConfig 2 crampedStart.state := by
  have ended : crampedStart = ⟨crampedStart.state, .ret 0⟩ := eq_of_resultOf (by decide +kernel)
  have reached := (heapSystem defaultConfig 2).play_reachable (I := adapterInterface Bridge) 100
    [⟨.kMalloc, some 1⟩, ⟨.kMalloc, some 2⟩]
    ⟨World.initial .zeroed (fun _ _ => 0) (Bridge.initial fun _ => 0), uartInit defaultConfig⟩
  exact ⟨_, _, _, by rw [← ended]; exact reached⟩

theorem allowed_interrupt {cfg : BridgeConfig} {capacity : Nat} {start later : World Bridge}
    (events : List BoardEvent) (handler : Handler)
    (allowed : (bridge cfg capacity start).Allowed events)
    (fires : Fires ((bridge cfg capacity start).run events).world handler)
    (ran : (heapSystem cfg capacity).Reachable (I := adapterInterface Bridge) (A := Unit)
      ⟨((bridge cfg capacity start).run events).world, handle handler⟩ ⟨later, .ret ()⟩) :
    (bridge cfg capacity start).Allowed (events ++ [.interrupt handler later]) :=
  Machine.each_concat.mpr ⟨allowed, fires, ran⟩

theorem allowed_write {cfg : BridgeConfig} {capacity : Nat} {start : World Bridge}
    {events : List BoardEvent} (allowed : (bridge cfg capacity start).Allowed events) :
    (bridge cfg capacity start).Allowed (events ++ [.write]) :=
  Machine.each_concat.mpr ⟨allowed, trivial⟩

theorem crampedEvents_allowed :
    (bridge defaultConfig 2 crampedStart.state).Allowed crampedEvents := by
  have lineEnded : crampedLine = ⟨crampedLine.state, .ret ()⟩ := eq_of_resultOf (by decide +kernel)
  have timeoutEnded : crampedTimeout = ⟨crampedTimeout.state, .ret ()⟩ :=
    eq_of_resultOf (by decide +kernel)
  have line : (heapSystem defaultConfig 2).Reachable (I := adapterInterface Bridge) (A := Unit)
      ⟨crampedStart.state, handle .uartIrq⟩ ⟨crampedLine.state, .ret ()⟩ := by
    rw [← lineEnded]
    exact (heapSystem defaultConfig 2).play_reachable 300 _ _
  have timeout : (heapSystem defaultConfig 2).Reachable (I := adapterInterface Bridge) (A := Unit)
      ⟨crampedLine.state, handle .rxTimeout⟩ ⟨crampedTimeout.state, .ret ()⟩ := by
    rw [← timeoutEnded]
    exact (heapSystem defaultConfig 2).play_reachable 300 _ _
  have read : (bridge defaultConfig 2 crampedStart.state).Allowed
      [.interrupt .uartIrq crampedLine.state] :=
    allowed_interrupt [] .uartIrq always_nil trivial line
  have reported : (bridge defaultConfig 2 crampedStart.state).Allowed
      [.interrupt .uartIrq crampedLine.state, .interrupt .rxTimeout crampedTimeout.state] :=
    allowed_interrupt _ .rxTimeout read trivial timeout
  have entered := allowed_work none reported fun _ => by decide +kernel
  have failed := allowed_work none entered fun _ => by decide +kernel
  have sent := allowed_write (allowed_write (allowed_write failed))
  exact allowed_work none sent fun entered => absurd entered (by decide +kernel)

/-- The run after which `uart_work_handler` is to run again. -/
abbrev crampedBoard : Board :=
  (bridge defaultConfig 2 crampedStart.state).run crampedEvents

theorem crampedEvents_owned :
    crampedBoard.world.app.live = [⟨2, 0⟩] ∧
      crampedBoard.world.app.live.Perm
        (crampedBoard.world.holders ++ crampedBoard.world.app.fifoUartTxData ++
          crampedBoard.hands) :=
  ⟨by decide +kernel,
    (buffers_ownedOnce crampedStart_initialised crampedEvents_allowed).2.1⟩

theorem crampedEvents_inOrder :
    crampedBoard.sent = [[97, 10]] ∧
      crampedBoard.sent.flatten ++ crampedBoard.writer.pending crampedBoard.world.data ++
        crampedBoard.world.queuedBytes ++ crampedBoard.world.currentBytes =
          storedBytes crampedBoard.world.log :=
  ⟨by decide +kernel, received_inOrder crampedStart_initialised crampedEvents_allowed⟩

theorem crampedEvents_return :
    crampedBoard.world.adapter.rx.enabled = false ∧
      Resumes defaultConfig 2 crampedStart.state crampedEvents := by
  have returns := reception_returns crampedStart_initialised crampedEvents_allowed
  have stalled : Stalled crampedBoard.world :=
    ⟨by decide +kernel, by decide +kernel, by decide +kernel⟩
  exact ⟨stalled.disabled, returns.2 stalled (by decide +kernel)⟩

end Uart
end NrfExamples
