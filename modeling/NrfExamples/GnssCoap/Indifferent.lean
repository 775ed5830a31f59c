import NrfExamples.GnssCoap.Main

namespace NrfExamples
namespace GnssCoap

open Reentrant Prog

/-!
# What most of the program leaves alone

Only `server_connect`, `server_disconnect`, `coap_put_work_fn` and the receive
loop write `sock`, `next_token`, `coap_buf`, or record more than a call.  What
depends on these alone is kept by all the other functions and by the handlers.
-/

/-- The calls that neither connect nor close. -/
def Call.keepsSocket : Call -> Bool
  | .connect _ | .close _ => false
  | _ => true

/-- The predicate depends on the socket, the token, the buffer and the history,
and not on most calls. -/
structure Indifferent (kept : Client -> Prop) : Prop where
  fields : forall client later, later.sock = client.sock -> later.nextToken = client.nextToken ->
    later.coapBuf = client.coapBuf -> later.history = client.history -> kept client -> kept later
  called : forall client function, function.keepsSocket = true -> kept client ->
    kept (client.record (.called function))
  returned : forall client function result, function.keepsSocket = true -> kept client ->
    kept (client.record (.returned function result))

/-- Everything that a function of `main` does keeps the predicate. -/
abbrev ClientKeeps {A : Type} (kept : Client -> Prop) (program : ClientProg A) : Prop :=
  @Thread.Keeps mainThread A (fun _ => True) kept program

/-- So does everything that a handler does, which nothing interrupts. -/
abbrev HandlerKeeps (kept : Client -> Prop) (program : ClientProg Unit) : Prop :=
  @Thread.Keeps mainThread Unit (fun _ => False) kept program

section Functions

variable {kept : Client -> Prop} (indifferent : Indifferent kept)

include indifferent

theorem Indifferent.kWorkSubmit {client : Client} (item : WorkItem) (holds : kept client) :
    kept (client.kWorkSubmit item) := by
  unfold Client.kWorkSubmit
  split
  · exact holds
  · exact indifferent.fields client _ rfl rfl rfl rfl holds

theorem Indifferent.gnssSimulateFix {client : Client} (holds : kept client) :
    kept (gnssSimulateFix client) :=
  indifferent.kWorkSubmit .newFix (indifferent.fields client _ rfl rfl rfl rfl holds)

theorem Indifferent.lteHandler {client : Client} (status : Option Nat) (holds : kept client) :
    kept (lteHandler status client) := by
  unfold GnssCoap.lteHandler
  cases status with
  | none => exact holds
  | some status =>
      dsimp only
      split
      · split
        · exact indifferent.fields client _ rfl rfl rfl rfl holds
        · exact holds
      · exact indifferent.fields client _ rfl rfl rfl rfl holds

theorem Indifferent.buttonPressed {client : Client} (build : Build) (first : Bool)
    (holds : kept client) : kept (buttonPressed build first client) := by
  unfold GnssCoap.buttonPressed
  split
  · split
    · exact indifferent.gnssSimulateFix holds
    · exact indifferent.kWorkSubmit .coapPut holds
  · exact holds

theorem Indifferent.gnssEventHandler {client : Client} (err : Int) (frame : Frame)
    (holds : kept client) : kept (gnssEventHandler err frame client) := by
  unfold GnssCoap.gnssEventHandler
  split
  · exact holds
  · have read := indifferent.fields client { client with pvtData := frame } rfl rfl rfl rfl holds
    dsimp only
    split
    · exact indifferent.kWorkSubmit .newFix read
    · exact read

/-- Every handler but the one that runs a work item. -/
theorem Indifferent.handleEvent (lib : CoapLib) (build : Build) {event : Event}
    (other : event ≠ .work) : HandlerKeeps kept (handleEvent lib build event) := by
  cases event with
  | lte status => exact Thread.keeps_modify fun _ => indifferent.lteHandler status
  | dateTime =>
      exact Thread.keeps_modify fun client => indifferent.fields client _ rfl rfl rfl rfl
  | button first second => exact Thread.keeps_modify fun _ => indifferent.buttonPressed build first
  | gnssPvt err frame => exact Thread.keeps_modify fun _ => indifferent.gnssEventHandler err frame
  | gnssOther => trivial
  | timer => exact Thread.keeps_modify fun _ => indifferent.gnssSimulateFix
  | work => exact absurd rfl other

theorem Indifferent.newFixWorkFn : HandlerKeeps kept newFixWorkFn := by
  apply (Thread.keeps_get _).andThen
  intro frame
  apply (Thread.keeps_reply _).andThen
  intro printed
  split
  · exact Thread.keeps_modify fun _ => indifferent.kWorkSubmit .coapPut
  · apply Thread.keeps_modify
    intro client holds
    exact indifferent.kWorkSubmit .coapPut (indifferent.fields client _ rfl rfl rfl rfl holds)

theorem Indifferent.call {function : Call} (keeps : function.keepsSocket = true) :
    ClientKeeps kept (call function) := by
  apply (Thread.keeps_interrupts trivial).andThen
  intro _
  apply (Thread.keeps_modify fun client => indifferent.called client function keeps).andThen
  intro _
  apply (Thread.keeps_reply _).andThen
  intro result
  apply (Thread.keeps_modify fun client => indifferent.returned client function result keeps).andThen
  exact fun _ => trivial

theorem Indifferent.callAll (functions : List Call)
    (keep : forall function, function ∈ functions -> function.keepsSocket = true) :
    ClientKeeps kept (callAll functions) := by
  induction functions with
  | nil => trivial
  | cons function later inductionHypothesis =>
      apply (indifferent.call (keep function List.mem_cons_self)).andThen
      intro err
      split
      · trivial
      · exact inductionHypothesis fun other member => keep other (List.mem_cons_of_mem _ member)

theorem Indifferent.serverResolve : ClientKeeps kept serverResolve := by
  apply (indifferent.call rfl).andThen
  intro err
  split
  · trivial
  · apply (indifferent.call rfl).andThen
    intro result
    split
    · trivial
    · apply (indifferent.call rfl).andThen
      exact fun _ => trivial

theorem Indifferent.setUpButton (button : Bool) : ClientKeeps kept (setUpButton button) := by
  apply (indifferent.callAll _ (by simp [Call.keepsSocket])).andThen
  intro err
  split
  · trivial
  · apply (indifferent.call rfl).andThen
    exact fun _ => trivial

theorem Indifferent.buttonInit : ClientKeeps kept buttonInit := by
  apply (indifferent.setUpButton false).andThen
  intro err
  split
  · trivial
  · apply (indifferent.setUpButton true).andThen
    exact fun _ => trivial

theorem Indifferent.modemInit : ClientKeeps kept modemInit := by
  apply (indifferent.call rfl).andThen
  intro _
  apply (indifferent.call rfl).andThen
  exact fun _ => trivial

theorem Indifferent.gnssInitAndStart : ClientKeeps kept gnssInitAndStart := by
  apply Thread.Keeps.andThen
  · exact Thread.keeps_modify fun client => indifferent.fields client _ rfl rfl rfl rfl
  · intro _
    apply (indifferent.callAll _ (by decide)).andThen
    intro err
    split
    · trivial
    · trivial

theorem Indifferent.startFixes (build : Build) : ClientKeeps kept (startFixes build) := by
  unfold GnssCoap.startFixes
  split
  · apply (Thread.keeps_modify fun _ => indifferent.gnssSimulateFix).andThen
    intro _
    apply (indifferent.call rfl).andThen
    exact fun _ => trivial
  · exact indifferent.gnssInitAndStart

theorem Indifferent.takeTimeSem : ClientKeeps kept takeTimeSem := by
  apply (Thread.keeps_interrupts trivial).andThen
  intro _
  exact Thread.keeps_modify fun client => indifferent.fields client _ rfl rfl rfl rfl

end Functions

end GnssCoap
end NrfExamples
