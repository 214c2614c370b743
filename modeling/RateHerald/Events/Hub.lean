import RateHerald.Events.BusError
import RateHerald.Events.Channel
import RateHerald.Events.Dispatch

/-!
# The hub

A hub holds buses and channels. A bus knows its listeners, each under the kind of event that it
listens to, in the order in which they were registered. What a listener is, the hub does not say: it
is a value of a type `L`, and whoever publishes says what such a listener does. Beside the buses and
channels there is the world outside, of which the hub says nothing either.

## Main declarations

* `Bus`, `Bus.listen` and `Bus.listenersTo`.
* `Hub`, `Hub.openChannel`, `Hub.newEvent` and `Hub.respond`.
-/

namespace RateHerald

/-- The listeners to events, and how they are called. -/
structure Bus (L : Type) where
  /-- The listeners and what they listen to, in the order in which they were registered. -/
  listeners : List (Kind × L)
  /-- How the listeners to one event are called. -/
  dispatch : Dispatch
  /-- How many events were published. -/
  published : Nat

namespace Bus

variable {L : Type}

/-- A bus without listeners. -/
def empty (dispatch : Dispatch) : Bus L :=
  ⟨[], dispatch, 0⟩

/-- Registers a listener. -/
def listen (bus : Bus L) (kind : Kind) (listener : L) : Bus L :=
  { bus with listeners := bus.listeners ++ [(kind, listener)] }

/-- The listeners to a kind of event, in the order in which they were registered. -/
def listenersTo (bus : Bus L) (kind : Kind) : List L :=
  (bus.listeners.filter fun entry => entry.1 == kind).map Prod.snd

/-- Counts one more event. -/
def countPublished (bus : Bus L) : Bus L :=
  { bus with published := bus.published + 1 }

/-- The bus in words. -/
def toText (bus : Bus L) : String :=
  "EventBus \x7b dispatch: " ++ bus.dispatch.title ++ ", published: " ++ toString bus.published ++
    " \x7d"

end Bus

/-- Buses and channels, and the world outside. -/
structure Hub (L X : Type) where
  /-- The buses. -/
  buses : List (Bus L)
  /-- The channels. -/
  channels : List Channel
  /-- How many events there were. -/
  events : Nat
  /-- The world outside. -/
  outside : X

namespace Hub

variable {L X : Type}

/-- A hub with one bus and without channels. -/
def ofDispatch (dispatch : Dispatch) (outside : X) : Hub L X :=
  ⟨[Bus.empty dispatch], [], 0, outside⟩

/-! ## Buses -/

/-- The number of the bus that everybody shares. -/
def mainBus : Nat := 0

/-- A bus. -/
def bus (hub : Hub L X) (i : Nat) : Bus L :=
  hub.buses.getD i (Bus.empty .sequential)

/-- Changes a bus. -/
def onBus (i : Nat) (f : Bus L → Bus L) (hub : Hub L X) : Hub L X :=
  { hub with buses := hub.buses.modify i f }

/-- Adds a bus. -/
def addBus (dispatch : Dispatch) (hub : Hub L X) : Nat × Hub L X :=
  (hub.buses.length, { hub with buses := hub.buses ++ [Bus.empty dispatch] })

/-- Registers a listener on a bus. -/
def listen (i : Nat) (kind : Kind) (listener : L) (hub : Hub L X) : Hub L X :=
  hub.onBus i fun bus => bus.listen kind listener

/-! ## Channels -/

/-- A channel. -/
def channel? (hub : Hub L X) (i : Nat) : Option Channel :=
  hub.channels[i]?

/-- Changes a channel. -/
def onChannel (i : Nat) (f : Channel → Channel) (hub : Hub L X) : Hub L X :=
  { hub with channels := hub.channels.modify i f }

/-- Opens a channel. -/
def openChannel (capacity : Nat) (hub : Hub L X) : Nat × Hub L X :=
  (hub.channels.length, { hub with channels := hub.channels ++ [Channel.ofCapacity capacity] })

/-- Puts an event into a channel. -/
def put (i : Nat) (e : Event) (hub : Hub L X) : Delivery × Hub L X :=
  match hub.channel? i with
  | none => (.closed, hub)
  | some c => ((c.put e).1, hub.onChannel i fun c => (c.put e).2)

/-- Takes the first event out of a channel. -/
def take (i : Nat) (hub : Hub L X) : Option Event × Hub L X :=
  match hub.channel? i with
  | none => (none, hub)
  | some c => (c.take.1, hub.onChannel i fun c => c.take.2)

/-! ## Events -/

/-- An event with a number of its own. -/
def newEvent (source : String) (kind : Kind) (payload : Payload) (answers channel : Option Nat)
    (hub : Hub L X) : Event × Hub L X :=
  (⟨hub.events, answers, source, kind, payload, channel⟩, { hub with events := hub.events + 1 })

/-- Answers an event: the answer goes into the channel of the event. That nobody waits any more is
no failure of the one who answers. -/
def respond (e : Event) (source : String) (payload : Payload) (hub : Hub L X) :
    Except BusError Unit × Hub L X :=
  match e.channel with
  | none => (.error .noChannel, hub)
  | some i =>
    let (answer, hub) := hub.newEvent source payload.kind payload (some e.id) none
    let (delivery, hub) := hub.put i answer
    match delivery with
    | .sent => (.ok (), hub)
    | .full => (.error .channelFull, hub)
    | .closed => (.ok (), hub)

end Hub

end RateHerald
