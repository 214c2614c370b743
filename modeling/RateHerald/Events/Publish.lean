import RateHerald.Events.Hub
import RateHerald.Timed.Joined

/-!
# Publishing

To publish an event is to call the listeners that are registered for its kind at that moment, one
after another or all at once. No listener stops another: the failures of all of them are gathered,
in the order in which the listeners were registered.

A listener may publish in turn, so what a listener does depends on what publishing does. A
`Handler` is given the publishing as an argument, and `Handler.publisher` ties the two together for
events that are nested up to a given depth.

## Main declarations

* `Publisher` and `Handler`.
* `gather` joins the failures of listeners, `Dispatch.perform` calls them.
* `Publisher.ofCall` publishes to listeners each of which is called in the same way.
* `Handler.publisher` ties listeners and publishing together.
-/

namespace RateHerald

/-- A job on a hub. -/
abbrev HubJob (L X : Type) := Job (Hub L X)

/-- Publishes an event on a bus. -/
abbrev Publisher (L X : Type) := Nat → Event → HubJob L X (Except BusError Unit)

/-- What listeners do with an event, given how to publish. -/
abbrev Handler (L X : Type) := Publisher L X → L → Event → HubJob L X (Except BusError Unit)

/-- The failures among results, in order. -/
def failures {ε : Type} (results : List (Except ε Unit)) : List ε :=
  results.filterMap fun
    | .ok () => none
    | .error e => some e

/-- One result of all listeners. -/
def gather (kind : Kind) (results : List (Except BusError Unit)) : Except BusError Unit :=
  match failures results with
  | [] => .ok ()
  | errors => .error (.dispatch kind errors)

/-- Does jobs one after another or all at once. -/
def Dispatch.perform {σ α : Type} (d : Dispatch) (calls : List (Job σ α)) : Job σ (List α) :=
  match d with
  | .sequential => Job.inTurn calls
  | .concurrent => Job.all calls

variable {L X : Type}

namespace Publisher

/-- Calls the listeners that an event has at this moment. -/
def ofCall (call : L → Event → HubJob L X (Except BusError Unit)) : Publisher L X := fun i e => do
  let bus ← Job.change fun hub => (hub.bus i, hub.onBus i Bus.countPublished)
  let results ← bus.dispatch.perform ((bus.listenersTo e.kind).map fun listener => call listener e)
  return gather e.kind results

/-- Publishes a new event. -/
def tell (publish : Publisher L X) (i : Nat) (source : String) (kind : Kind) (payload : Payload)
    (channel : Option Nat) : HubJob L X (Except BusError Unit) := do
  publish i (← Job.change (Hub.newEvent source kind payload none channel))

end Publisher

namespace Handler

/-- Publishing to listeners that publish in turn, up to a depth; an event that is nested deeper is
never done with. -/
def publisher (handle : Handler L X) : Nat → Publisher L X
  | 0 => fun _ _ => Job.never
  | depth + 1 => Publisher.ofCall (handle (publisher handle depth))

/-- How deep events are nested at most where no other depth is given. -/
def maxDepth : Nat := 1000

end Handler

end RateHerald
