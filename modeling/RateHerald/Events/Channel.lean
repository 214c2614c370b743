import RateHerald.Events.Payload

/-!
# Events and channels

An event has a number of its own, says who tells it, and may name a channel on which its answer is
expected. An answer is an event as well; it names the number of the event that it answers.

A channel holds a limited number of events. The one who waits for answers takes them out in the
order in which they were put in; what the present wait has taken is kept apart in `Channel.taken`.
Once the one who waits is gone whatever is put in is lost, and once nobody is left to put something
in the channel is sealed.

## Main declarations

* `Event` and `Channel`.
* `Channel.put` puts an event into a channel, `Channel.take` takes one out.
* `Channel.takeUntil` takes events out until they tell enough.
-/

namespace RateHerald

/-- Something that is told. -/
structure Event where
  /-- The number of the event. -/
  id : Nat
  /-- The number of the event that it answers. -/
  answers : Option Nat
  /-- Who tells it. -/
  source : String
  /-- Its kind. -/
  kind : Kind
  /-- What it tells. -/
  payload : Payload
  /-- The channel on which an answer is expected. -/
  channel : Option Nat
deriving DecidableEq

/-- A queue of answers. -/
structure Channel where
  /-- How many events it can hold. -/
  capacity : Nat
  /-- The events that it holds, in the order in which they were put in. -/
  queue : List Event
  /-- The events that the present wait has taken out, in the same order. -/
  taken : List Event
  /-- Whether somebody may still wait for answers. -/
  isOpen : Bool
  /-- Whether nobody is left to put something in. -/
  isSealed : Bool
deriving DecidableEq

/-- What becomes of an event that is put into a channel. -/
inductive Delivery where
  /-- The channel holds it. -/
  | sent
  /-- The channel has no room for it. -/
  | full
  /-- Nobody waits any more. -/
  | closed
deriving Repr, DecidableEq

/-- The delivery in a word. -/
def Delivery.name : Delivery → String
  | .sent => "sent"
  | .full => "full"
  | .closed => "closed"

namespace Channel

/-- An empty channel; it can hold at least one event. -/
def ofCapacity (n : Nat) : Channel :=
  ⟨max n 1, [], [], true, false⟩

/-- How many more events the channel can hold. -/
def free (c : Channel) : Nat :=
  c.capacity - c.queue.length

/-- Puts an event into the channel. -/
def put (c : Channel) (e : Event) : Delivery × Channel :=
  if !c.isOpen || c.isSealed then (.closed, c)
  else if c.queue.length < c.capacity then (.sent, { c with queue := c.queue ++ [e] })
  else (.full, c)

/-- Takes the first event out of the channel. -/
def take (c : Channel) : Option Event × Channel :=
  match c.queue with
  | [] => (none, c)
  | e :: rest => (some e, { c with queue := rest })

/-- Nobody waits for answers any more, and what the channel holds is lost. -/
def close (c : Channel) : Channel :=
  { c with queue := [], isOpen := false }

/-- Nobody is left to put something in. -/
def shut (c : Channel) : Channel :=
  { c with isSealed := true }

/-- Begins a wait, which has taken nothing yet. -/
def beginWait (c : Channel) : Channel :=
  { c with taken := [] }

/-- Moves events from a queue behind those that were taken, until those tell `enough`. -/
def moveUntil (enough : List Event → Bool) : List Event → List Event → List Event × List Event
  | taken, [] => (taken, [])
  | taken, e :: queue =>
    if enough taken then (taken, e :: queue) else moveUntil enough (taken ++ [e]) queue

/-- Takes events out until those that were taken tell `enough`, or none is left. -/
def takeUntil (enough : List Event → Bool) (c : Channel) : Channel :=
  let moved := moveUntil enough c.taken c.queue
  { c with taken := moved.1, queue := moved.2 }

/-- Nothing is lost between the queue and what was taken. -/
theorem moveUntil_append (enough : List Event → Bool) (taken queue : List Event) :
    (moveUntil enough taken queue).1 ++ (moveUntil enough taken queue).2 = taken ++ queue := by
  induction queue generalizing taken with
  | nil => simp [moveUntil]
  | cons e queue ih =>
    unfold moveUntil
    split
    · rfl
    · rw [ih]
      simp

end Channel

end RateHerald
