import RateHerald.Mailing.Notifier
import RateHerald.Rates.Chain
import RateHerald.Rates.Desk

/-!
# The office

The office keeps the tally of how providers did, a disk, and whatever the world outside keeps. Its
staff are the listeners: the rate desk answers who asks for a rate, the subscriber desk answers who
asks for subscribers, one notes and one counts how providers did. Guests may listen too.

## Main declarations

* `Office` and its parts.
* `Listener` names the listeners, `Staff` is what they work with, `Staff.handler` what they do.
* `Office.registerRateDesk` and `Office.registerSubscriberDesk` register them.
-/

namespace RateHerald

/-- What the office keeps. -/
structure Office (W : Type) where
  /-- How providers did. -/
  tally : Tally
  /-- The disk. -/
  disk : Disk
  /-- What the world outside keeps. -/
  world : W

/-- The listeners of the office; a guest is a value of type `G`. -/
inductive Listener (G : Type) where
  /-- Answers who asks for a rate. -/
  | rateDesk
  /-- Notes how providers did. -/
  | outcomeNoter
  /-- Counts how providers did. -/
  | outcomeCounter
  /-- Answers who asks for subscribers. -/
  | subscriberDesk
  /-- Somebody else. -/
  | guest (g : G)
deriving Repr, DecidableEq

/-- The name of the one who counts. -/
def Listener.counterName : String := "provider_stats"

/-- The hub of an office. -/
abbrev OfficeHub (G W : Type) := Hub (Listener G) (Office W)

namespace Office

variable {G W : Type}

/-- The tally as a part of the hub. -/
def tallyPart : Part (OfficeHub G W) Tally where
  get hub := hub.outside.tally
  set tally hub := { hub with outside := { hub.outside with tally := tally } }

/-- The disk as a part of the hub. -/
def diskPart : Part (OfficeHub G W) Disk where
  get hub := hub.outside.disk
  set disk hub := { hub with outside := { hub.outside with disk := disk } }

/-- The world outside as a part of the hub. -/
def worldPart : Part (OfficeHub G W) W where
  get hub := hub.outside.world
  set world hub := { hub with outside := { hub.outside with world := world } }

/-- Registers those who answer for rates, and those who note and count how providers did. -/
def registerRateDesk (hub : OfficeHub G W) : OfficeHub G W :=
  let outcomes := fun (hub : OfficeHub G W) (kind : Kind) =>
    (hub.listen Hub.mainBus kind .outcomeNoter).listen Hub.mainBus kind .outcomeCounter
  [Kind.providerFetched, Kind.providerFailed].foldl outcomes
    (hub.listen Hub.mainBus .rateRequested .rateDesk)

/-- Registers those who answer for subscribers. -/
def registerSubscriberDesk (hub : OfficeHub G W) : OfficeHub G W :=
  hub.listen Hub.mainBus .subscribersRequested .subscriberDesk

/-- Counts how a provider did, as an event tells it. -/
def count (e : Event) : HubJob (Listener G) (Office W) (Except BusError Unit) :=
  (Job.change (Desk.countOutcome e)).on tallyPart

end Office

/-- What the staff of an office work with. -/
structure Staff (G W : Type) where
  /-- The provider that the rate desk asks, given how it can publish. -/
  provider : Publisher (Listener G) (Office W) → Provider (OfficeHub G W)
  /-- Where subscriptions are kept. -/
  repository : Repository (OfficeHub G W)
  /-- What guests do. -/
  guest : Publisher (Listener G) (Office W) → G → Event →
    HubJob (Listener G) (Office W) (Except BusError Unit)

namespace Staff

variable {G W : Type} (staff : Staff G W)

/-- What the listeners of an office do with an event. -/
def handler : Handler (Listener G) (Office W) := fun publish listener e =>
  match listener with
  | .rateDesk => Desk.respondRate (staff.provider publish) e
  | .outcomeNoter => .done (Desk.noteOutcome e)
  | .outcomeCounter => Office.count e
  | .subscriberDesk => Desk.respondSubscribers staff.repository e
  | .guest g => staff.guest publish g e

/-- How events are published in an office. -/
def publisher : Publisher (Listener G) (Office W) :=
  staff.handler.publisher Handler.maxDepth

/-- The provider that the rate desk asks. -/
def rateProvider : Provider (OfficeHub G W) :=
  staff.provider staff.publisher

end Staff

end RateHerald
