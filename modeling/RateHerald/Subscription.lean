import RateHerald.Mailbox
import RateHerald.Pair

/-!
# Subscriptions

A subscription is a mailbox that wants to hear about a pair. It is stored under a key made of the
address in lower case and the two codes, so that a person can subscribe to a pair once only, however
the address is spelled.

## Main declarations

* `Subscription.key` is the key, `Subscription.toText` the shown form.
* `Subscription.toJson` and `Subscription.shape` write and read the record.
-/

namespace RateHerald

/-- A mailbox and the pair it wants to hear about. -/
structure Subscription where
  /-- Who is told. -/
  mailbox : Mailbox
  /-- What is told. -/
  topic : Pair
deriving Repr, DecidableEq

namespace Subscription

/-- The key under which the subscription is stored. -/
def key (s : Subscription) : String :=
  s.mailbox.normalized ++ "_" ++ s.topic.base.code ++ "_" ++ s.topic.quote.code

/-- The subscription as it is shown. -/
def toText (s : Subscription) : String :=
  s.mailbox.address ++ " -> " ++ s.topic.toText

/-- The record of a subscription: the mailbox stands in a record of its own. -/
def toJson (s : Subscription) : Json :=
  .object [("subscriber", .object [("address", s.mailbox.toJson)]), ("topic", s.topic.toJson)]

/-- How the record of a subscriber is read. -/
def subscriberShape : Json.Shape (Option Mailbox) Mailbox where
  name := "Subscriber"
  fields := [.ofReader "address" Mailbox.shape.read id fun _ m => some m]
  empty := none
  finish := id

/-- How the record of a subscription is read. -/
def shape : Json.Shape (Option Mailbox × Option Pair) Subscription where
  name := "Subscription"
  fields := [
    .ofReader "subscriber" subscriberShape.read (·.1) fun s m => (some m, s.2),
    .ofReader "topic" Pair.shape.read (·.2) fun s p => (s.1, some p)]
  empty := (none, none)
  finish := fun s => do
    let mailbox ← s.1
    let topic ← s.2
    some ⟨mailbox, topic⟩

end Subscription

end RateHerald
