import RateHerald.Rate

/-!
# What events tell

Six kinds of event travel over the bus: somebody asks for a rate or for the subscribers of a pair,
somebody answers, and a provider that was asked gave a rate or failed. Each kind has its payload.

## Main declarations

* `Kind` is the kind of an event, `Kind.name` its name.
* `Payload` is what an event tells, `Payload.kind` the kind it belongs to.
* `Payload.pair?`, `Payload.rate?` and `Payload.subscribers?` look into a payload.
-/

namespace RateHerald

/-- The kind of an event. -/
inductive Kind where
  /-- A rate is asked for. -/
  | rateRequested
  /-- A rate is told. -/
  | rateResponded
  /-- The subscribers of a pair are asked for. -/
  | subscribersRequested
  /-- The subscribers of a pair are told. -/
  | subscribersResponded
  /-- A provider gave a rate. -/
  | providerFetched
  /-- A provider failed. -/
  | providerFailed
deriving Repr, DecidableEq

namespace Kind

/-- All kinds. -/
def all : List Kind :=
  [.rateRequested, .rateResponded, .subscribersRequested, .subscribersResponded, .providerFetched,
    .providerFailed]

/-- The name of a kind. -/
def name : Kind → String
  | .rateRequested => "rate.requested"
  | .rateResponded => "rate.responded"
  | .subscribersRequested => "subscribers.requested"
  | .subscribersResponded => "subscribers.responded"
  | .providerFetched => "provider.fetched"
  | .providerFailed => "provider.failed"

/-- The kind with a given name. -/
def ofName? (s : String) : Option Kind :=
  all.find? (·.name == s)

/-- The kind as a JSON text. -/
def toJson : Kind → Json
  | .rateRequested => .text "RateRequested"
  | .rateResponded => .text "RateResponded"
  | .subscribersRequested => .text "SubscribersRequested"
  | .subscribersResponded => .text "SubscribersResponded"
  | .providerFetched => .text "ProviderFetched"
  | .providerFailed => .text "ProviderFailed"

end Kind

/-- What an event tells. -/
inductive Payload where
  /-- What is the rate of this pair? -/
  | rateRequested (pair : Pair)
  /-- This is the rate. -/
  | rateResponded (rate : Rate)
  /-- Who wants to hear about this pair? -/
  | subscribersRequested (topic : Pair)
  /-- These want to hear about this pair. -/
  | subscribersResponded (topic : Pair) (subscribers : List String)
  /-- This provider gave this rate. -/
  | providerFetched (provider : String) (rate : Rate)
  /-- This provider failed to give the rate of this pair, for this reason. -/
  | providerFailed (provider : String) (pair : Pair) (error : String)
deriving DecidableEq

namespace Payload

/-- The kind that a payload belongs to. -/
def kind : Payload → Kind
  | .rateRequested _ => .rateRequested
  | .rateResponded _ => .rateResponded
  | .subscribersRequested _ => .subscribersRequested
  | .subscribersResponded _ _ => .subscribersResponded
  | .providerFetched _ _ => .providerFetched
  | .providerFailed _ _ _ => .providerFailed

/-- The pair that a payload is about. -/
def pair : Payload → Pair
  | .rateRequested pair => pair
  | .rateResponded rate => rate.pair
  | .subscribersRequested topic => topic
  | .subscribersResponded topic _ => topic
  | .providerFetched _ rate => rate.pair
  | .providerFailed _ pair _ => pair

/-- The rate that a payload tells, if it does. -/
def rate? : Payload → Option Float
  | .rateResponded rate => some rate.value
  | .providerFetched _ rate => some rate.value
  | _ => none

/-- The subscribers that a payload tells, if it does. -/
def subscribers? : Payload → Option (List String)
  | .subscribersResponded _ subscribers => some subscribers
  | _ => none

/-- The record of a payload: its type, then its parts. -/
def toJson : Payload → Json
  | .rateRequested pair => .object [("type", .text "rate_requested"), ("pair", pair.toJson)]
  | .rateResponded rate => .object [("type", .text "rate_responded"), ("rate", rate.toJson)]
  | .subscribersRequested topic =>
    .object [("type", .text "subscribers_requested"), ("topic", topic.toJson)]
  | .subscribersResponded topic subscribers =>
    .object [("type", .text "subscribers_responded"), ("topic", topic.toJson),
      ("subscribers", .list (subscribers.map .text))]
  | .providerFetched provider rate =>
    .object [("type", .text "provider_fetched"), ("provider", .text provider),
      ("rate", rate.toJson)]
  | .providerFailed provider pair error =>
    .object [("type", .text "provider_failed"), ("provider", .text provider),
      ("pair", pair.toJson), ("error", .text error)]

end Payload

end RateHerald
