import NrfExamples.Uart.AsyncAdapter

namespace NrfExamples
namespace Uart

open Reentrant AdapterProg

/-!
# How the adapter is put together

Some properties of a program hold as soon as they hold of its parts.
`Composition` lists the parts of the adapter for such a property: its sections,
the functions that report what a section has made, the questions, and the
calls.  The functions that are made of them follow once and for all.  The loops
of `on_rx_ready` are left to whoever needs them.
-/

variable {App : Type}

/-- An entry of the log that is about no buffer. -/
def Obs.isMark : Obs -> Bool
  | .called _ | .callbackReturned | .dropped _ | .rxLoop _ => true
  | _ => false

/-- The sections without a value. -/
inductive PlainSection : (World App -> World App) -> Prop
  | mark (obs : Obs) (isMark : obs.isMark = true) : PlainSection fun world => world.observe obs
  | returned (call : ApiCall) (ret : Int) :
      PlainSection fun world => world.observe (.returned call ret world.now)
  | checked : PlainSection fun world =>
      world.assertNoMsg .txCurrBufSet world.adapter.tx.currBuf.isSome
  | onTxReady (ret : Int) : PlainSection (World.onTxReady ret)
  | onRxReadyBegin : PlainSection World.onRxReadyBegin
  | onRxReadyStore (bytes : List UInt8) : PlainSection (World.onRxReadyStore bytes)
  | rxDisable (dev : Device) : PlainSection (World.rxDisable dev)
  | observeForeign (evt : UartEvent) : PlainSection (World.observeForeign evt)
  | txTimerExpired : PlainSection World.txTimerExpired
  | rxTimerExpired : PlainSection World.rxTimerExpired
  | elapse (ticks : Nat) : PlainSection (World.elapse ticks)

/-- The calls that do not go through the client. -/
def ApiCall.isDirect : ApiCall -> Bool
  | .tx _ _ _ | .rxEnable _ _ _ | .rxBufRsp _ _ => true
  | _ => false

/-- A property of programs that holds of the parts of the adapter. -/
structure Composition (App : Type) where
  Holds : {B : Type} -> AdapterProg App B -> Prop
  result : forall {B : Type} (value : B), Holds (.ret value)
  andThen : forall {B C : Type} (program : AdapterProg App B) (rest : B -> AdapterProg App C),
    Holds program -> (forall value, Holds (rest value)) -> Holds (program >>= rest)
  reading : forall {B : Type} (view : AdapterData -> B), Holds (get fun world => view world.adapter)
  readingBuf : forall dev, Holds (get fun world => (world.accessDevData dev).rx.buf)
  plain : forall run, PlainSection run -> Holds (modify run)
  question : forall query, Holds (ask query)
  calling : forall proc, (forall evt, proc ≠ .userCallback evt) -> proc ≠ .dropLoop ->
    Holds (invoke proc)
  disabled : forall dev, Holds (userCallback dev .rxDisabled)
  stopped : forall reason, Holds (userCallback .adapter (.rxStopped reason))
  notifying : Holds notifyRxBuffer
  completing : Holds onTxComplete
  aborting : Holds txAbort
  switching : forall dev requestNew, Holds (switchRxBuffer dev requestNew)
  direct : forall call, call.isDirect = true -> Holds (apiCall call)

namespace Composition

variable (rule : Composition App)

theorem holds_rxDisableLoop (dev : Device) : rule.Holds (rxDisableLoop dev) := by
  apply rule.andThen _ _ (rule.readingBuf dev)
  intro buf
  split
  · apply rule.andThen _ _ (rule.switching dev false)
    exact fun _ => rule.calling _ (fun _ => nofun) nofun
  · exact rule.result _

theorem holds_rxDisable (dev : Device) : rule.Holds (rxDisable dev) := by
  apply rule.andThen _ _ (rule.plain _ (.rxDisable dev))
  intro _
  apply rule.andThen _ _ (rule.calling (.rxDisableLoop dev) (fun _ => nofun) nofun)
  intro _
  apply rule.andThen _ _ (rule.disabled dev)
  exact fun _ => rule.result _

theorem holds_apiCall (call : ApiCall) : rule.Holds (apiCall call) := by
  have logged : forall program : AdapterProg App Int, rule.Holds program -> rule.Holds (do
      modify fun world => world.observe (.called call)
      let ret <- program
      modify fun world => world.observe (.returned call ret world.now)
      pure ret) := by
    intro program holds
    apply rule.andThen _ _ (rule.plain _ (.mark (.called call) rfl))
    intro _
    apply rule.andThen _ _ holds
    intro ret
    apply rule.andThen _ _ (rule.plain _ (.returned call ret))
    exact fun _ => rule.result ret
  cases call with
  | txAbort => exact logged _ rule.aborting
  | rxDisable => exact logged _ (rule.holds_rxDisable .adapter)
  | _ => exact rule.direct _ rfl

theorem holds_onTxReady : rule.Holds (onTxReady : AdapterProg App Unit) := by
  apply rule.andThen _ _ (rule.reading fun data => data.tx.sizeLeft)
  intro sizeLeft
  split
  · apply rule.andThen _ _ (rule.plain _ .checked)
    intro _
    apply rule.andThen _ _ (rule.question (.fifoFill sizeLeft))
    exact fun ret => rule.plain _ (.onTxReady ret)
  · exact rule.result _

theorem holds_onRxReady : rule.Holds (onRxReady : AdapterProg App Unit) := by
  apply rule.andThen _ _ (rule.plain _ .onRxReadyBegin)
  intro _
  apply rule.andThen _ _ (rule.calling (.onRxReadyLoop false) (fun _ => nofun) nofun)
  intro notifyNow
  apply rule.andThen _ _ (rule.plain _ (.mark (.rxLoop false) rfl))
  intro _
  split
  · exact rule.notifying
  · exact rule.result _

theorem holds_onError (rxErr : Int) : rule.Holds (onError rxErr : AdapterProg App Unit) := by
  apply rule.andThen _ _ (rule.holds_rxDisable .target)
  exact fun _ => rule.stopped rxErr

theorem holds_whenReady (enabled : AdapterData -> Bool) (flag : Flag)
    {part : AdapterProg App Unit} (holds : rule.Holds part) :
    rule.Holds (whenReady enabled flag part) := by
  have ready : rule.Holds (enabledAnd enabled flag) := by
    apply rule.andThen _ _ (rule.reading enabled)
    intro set
    split
    · exact rule.question (.flag flag)
    · exact rule.result _
  apply rule.andThen _ _ ready
  intro isReady
  split
  · exact holds
  · exact rule.result _

theorem holds_checkErrors : rule.Holds (checkErrors : AdapterProg App Unit) := by
  apply rule.andThen _ _ (rule.question .errCheck)
  intro rxErr
  apply rule.andThen _ _ (rule.reading fun data => data.rx.enabled)
  intro enabled
  have checked : forall reason : Int, rule.Holds
      (if enabled = true ∧ reason ≠ 0 then onError reason else pure ()) := by
    intro reason
    split
    · exact rule.holds_onError reason
    · exact rule.result _
  exact checked _

theorem holds_irqPending : rule.Holds (irqPending : AdapterProg App Bool) := by
  apply rule.andThen _ _ (rule.question (.flag .irqUpdate))
  intro update
  split
  · exact rule.question (.flag .irqIsPending)
  · exact rule.result _

theorem holds_uartIrqHandler : rule.Holds (uartIrqHandler : AdapterProg App Unit) := by
  apply rule.andThen _ _ rule.holds_irqPending
  intro isPending
  split
  · apply rule.andThen _ _ (rule.holds_whenReady _ _ rule.holds_onTxReady)
    intro _
    apply rule.andThen _ _ (rule.holds_whenReady _ _ rule.completing)
    intro _
    apply rule.andThen _ _ (rule.holds_whenReady _ _ rule.holds_onRxReady)
    exact fun _ => rule.holds_checkErrors
  · exact rule.result _

theorem holds_handle (handler : Handler) :
    rule.Holds (handle handler : AdapterProg App Unit) := by
  cases handler with
  | uartIrq => exact rule.holds_uartIrqHandler
  | txTimeout =>
      apply rule.andThen _ _ (rule.plain _ .txTimerExpired)
      intro _
      apply rule.andThen _ _ rule.aborting
      exact fun _ => rule.result _
  | rxTimeout =>
      apply rule.andThen _ _ (rule.plain _ .rxTimerExpired)
      exact fun _ => rule.notifying
  | client call =>
      apply rule.andThen _ _ (rule.holds_apiCall call)
      exact fun _ => rule.result _
  | elapse ticks => exact rule.plain _ (.elapse ticks)

theorem holds_environment : rule.Holds (environment : AdapterProg App Unit) := by
  apply rule.andThen _ _ (rule.question .next)
  intro next
  apply rule.andThen _ _ (rule.calling (.handler next) (fun _ => nofun) nofun)
  exact fun _ => rule.calling .environment (fun _ => nofun) nofun

theorem holds_anyClient (evt : UartEvent) : rule.Holds (anyClient evt) := by
  apply rule.andThen _ _ (rule.question (.client evt))
  intro answer
  cases answer with
  | none => exact rule.result _
  | some call =>
      apply rule.andThen _ _ (rule.holds_apiCall call)
      exact fun _ => rule.calling (.client evt) (fun _ => nofun) nofun

end Composition

end Uart
end NrfExamples
