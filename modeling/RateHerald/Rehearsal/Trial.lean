import RateHerald.Rehearsal.Act

/-!
# Trials

A trial is one thing that is tried out on a hub: an event is published, or given to one listener,
with or without a channel for the answers, and then one looks at what came of it; or somebody waits
on a channel while somebody else sends at set times.

## Main declarations

* `Trial`, `Trial.publish` and `Trial.give`.
* `Trial.wait` waits while somebody sends.
-/

namespace RateHerald

/-- What came of an event that was tried out. -/
structure Trial where
  /-- The event. -/
  event : Event
  /-- How it went. -/
  result : Except BusError Unit
  /-- What the channel for the answers holds, if there is one that is open. -/
  replies : Option (List Event)

namespace Trial

variable {L X : Type}

/-- What a channel holds, if somebody may still wait on it. -/
def held (channel : Nat) (hub : Hub L X) : Option (List Event) :=
  ((hub.channel? channel).filter Channel.isOpen).map Channel.queue

/-- Tries out an event whose answers go to a channel; the channel is attached to the event if
`attached`, and nobody waits on it any more if `closed`. -/
def onChannel (tell : Event → HubJob L X (Except BusError Unit)) (d : Draft) (capacity : Nat)
    (attached closed : Bool) : HubJob L X Trial := do
  let channel ← Job.change (Hub.openChannel capacity)
  if closed then Job.modify (Hub.onChannel channel Channel.close)
  let e ← Job.change
    (Hub.newEvent d.source d.kind d.payload none (if attached then some channel else none))
  let result ← tell e
  return ⟨e, result, ← Job.get (held channel)⟩

/-- Publishes an event, with a channel for the answers if a capacity is given. -/
def publish (publish : Publisher L X) (d : Draft) (capacity : Option Nat) (closed : Bool) :
    HubJob L X Trial :=
  match capacity with
  | some n => onChannel (publish Hub.mainBus) d n true closed
  | none => do
    let e ← Job.change (Hub.newEvent d.source d.kind d.payload none none)
    return ⟨e, ← publish Hub.mainBus e, none⟩

/-! ## Waiting -/

/-- Sends events at their times, one after another. -/
def send (channel : Nat) : List (Nat × Draft) → HubJob L X (List Delivery)
  | [] => .done []
  | (time, d) :: rest => do
    Job.sleepUntil ⟨time, 0⟩
    let e ← Job.change (Hub.newEvent d.source d.kind d.payload none none)
    let delivery ← Job.change (Hub.put channel e)
    return delivery :: (← send channel rest)

/-- Waits on a channel for events of the expected kinds while somebody sends, and tells how the wait
ended and when, and what became of what was sent. Who has sent everything leaves, unless
`staying`. -/
def wait (capacity : Nat) (expected : List Kind) (deadline : Nat) (sends : List (Nat × Draft))
    (staying : Bool) : HubJob L X ((Except BusError Responses × Nat) × List Delivery) := do
  let channel ← Job.change (Hub.openChannel capacity)
  let waiting := do
    let result ← waitFor channel expected ⟨deadline, 0⟩
    Job.modify (Hub.onChannel channel Channel.close)
    return (result, (← Job.now).ms)
  let sending := do
    let deliveries ← send channel sends
    unless staying do Job.modify (Hub.onChannel channel Channel.shut)
    return deliveries
  Job.both waiting sending

end Trial

end RateHerald
