import RateHerald.Events.Request
import RateHerald.Office.Staff
import RateHerald.Rehearsal.Stage

/-!
# Guests at a rehearsal

A guest listens to events. One kind of guest only writes down what it hears; the others are actors,
who note that they were called and then do what their part says: answer, fail, publish, sleep, bring
another actor, or several things in order until one of them fails.

## Main declarations

* `Act` is a part, `Guest` a guest.
* `Act.play` does what a part says, `Guest.hear` what a guest does with an event.
-/

namespace RateHerald

/-- An event to be told, before it has a number. -/
structure Draft where
  /-- Who tells it. -/
  source : String
  /-- Its kind. -/
  kind : Kind
  /-- What it tells. -/
  payload : Payload
deriving DecidableEq

/-- What an actor does when called. -/
inductive Act where
  /-- Nothing. -/
  | nothing
  /-- Fails. -/
  | fail (cause : BusError)
  /-- Answers the event. -/
  | respond (source : String) (payload : Payload)
  /-- Puts an event that answers nothing on the channel of the event, whatever becomes of it. -/
  | interject (draft : Draft)
  /-- Publishes an event. -/
  | publish (draft : Draft)
  /-- Publishes an event that is to be answered on the channel of the event. -/
  | forward (draft : Draft)
  /-- Sleeps some milliseconds, and notes that it woke up. -/
  | sleep (ms : Nat)
  /-- Brings another actor. -/
  | bring (kind : Kind) (name : String) (act : Act)
  /-- Does several things in order, until one of them fails. -/
  | all (acts : List Act)

/-- Somebody who listens at a rehearsal. -/
inductive Guest where
  /-- Writes down what it hears. -/
  | writer
  /-- Plays a part. -/
  | actor (name : String) (act : Act)

/-- The listeners at a rehearsal. -/
abbrev Attendant := Listener Guest

/-- The hub of a rehearsal. -/
abbrev Scene := OfficeHub Guest Stage

/-- A job in a rehearsal. -/
abbrev SceneJob := HubJob Attendant (Office Stage)

/-- How events are published in a rehearsal. -/
abbrev ScenePublisher := Publisher Attendant (Office Stage)

/-- Makes a note of the present moment. -/
def Stage.noteNow (n : Nat → Note) : SceneJob Unit := do
  let m ← Job.now
  Job.modify (Office.worldPart.modify (Stage.note (n m.ms)))

/-- Gives a number to an event. -/
def Draft.event (d : Draft) (channel : Option Nat) : SceneJob Event :=
  Job.change (Hub.newEvent d.source d.kind d.payload none channel)

/-- Publishes an event. -/
def Draft.tell (d : Draft) (publish : ScenePublisher) (channel : Option Nat) :
    SceneJob (Except BusError Unit) :=
  publish.tell Hub.mainBus d.source d.kind d.payload channel

namespace Act

mutual

/-- Does what a part says when an event is heard. -/
def play (publish : ScenePublisher) (e : Event) : Act → SceneJob (Except BusError Unit)
  | .nothing => .done (.ok ())
  | .fail cause => .done (.error cause)
  | .respond source payload => Job.change (Hub.respond e source payload)
  | .interject draft => do
    let raw ← draft.event none
    match e.channel with
    | none => return .ok ()
    | some i =>
      let _ ← Job.change (Hub.put i raw)
      return .ok ()
  | .publish draft => draft.tell publish none
  | .forward draft => draft.tell publish e.channel
  | .sleep ms => do
    Job.sleep ms
    Stage.noteNow (.woke e.kind)
    return .ok ()
  | .bring kind name act => do
    Job.modify (Hub.listen Hub.mainBus kind (.guest (.actor name act)))
    return .ok ()
  | .all acts => playAll publish e acts

/-- Does what parts say, one after another, until one of them fails. -/
def playAll (publish : ScenePublisher) (e : Event) : List Act → SceneJob (Except BusError Unit)
  | [] => .done (.ok ())
  | act :: rest => do
    match ← play publish e act with
    | .error cause => return .error cause
    | .ok () => playAll publish e rest

end

end Act

/-- What a guest does with an event. -/
def Guest.hear (publish : ScenePublisher) (guest : Guest) (e : Event) :
    SceneJob (Except BusError Unit) :=
  match guest with
  | .writer => do
    Job.modify (Office.worldPart.modify (Stage.note (.written e.kind e.source e.payload)))
    return .ok ()
  | .actor name act => do
    Stage.noteNow (.heard name e.kind e.source)
    act.play publish e

end RateHerald
