import RateHerald.Events.Request
import RateHerald.Mailing.NotifyError
import RateHerald.Mailing.Repository
import RateHerald.Message

/-!
# Telling subscribers

The notifier takes subscriptions, answers the question who has subscribed to a pair, and mails the
rate of a pair to all who have. It asks for the rate and for the subscribers in one request over the
bus. A mail that cannot be sent does not keep the others from being sent; what went wrong is told at
the end, in the order of the subscribers.

## Main declarations

* `Mailer` sends mails, `Notifier` is what the notifier works with.
* `Desk.respondSubscribers` answers who has subscribed.
* `Notifier.subscribe`, `Notifier.subscriptions`, `Notifier.requestRate`,
  `Notifier.requestBulletin` and `Notifier.sendMails`.
-/

namespace RateHerald

/-- Somebody who sends mails. -/
abbrev Mailer (σ : Type) := Message → Job σ (Except MailError Unit)

variable {L X : Type}

/-- Answers an event that asks who has subscribed to a pair; without a channel for the answer nobody
is asked. -/
def Desk.respondSubscribers (repository : Repository (Hub L X)) (e : Event) :
    HubJob L X (Except BusError Unit) :=
  match e.payload with
  | .subscribersRequested topic =>
    if e.channel.isNone then .done (.error .noChannel)
    else do
      match ← repository.list with
      | .error cause => return .error (.listener (.repository cause))
      | .ok subscriptions =>
        let followers := subscriptions.filter fun s => s.topic == topic
        let names := followers.map fun s => s.mailbox.toText
        Job.change (Hub.respond e "subscription" (.subscribersResponded topic names))
  | _ => .done (.error (.invalidEvent "SubscribersRequested" e.kind))

/-- What the subscribers of a pair are told, and who they are. -/
structure Bulletin where
  /-- The rate of the pair. -/
  rate : Rate
  /-- The subscribers. -/
  subscribers : List String
deriving DecidableEq

/-- What the notifier works with. -/
structure Notifier (L X : Type) where
  /-- How events are published. -/
  publish : Publisher L X
  /-- Where subscriptions are kept. -/
  repository : Repository (Hub L X)
  /-- Who sends the mails. -/
  mailer : Mailer (Hub L X)
  /-- What time it is. -/
  clock : HubJob L X Stamp
  /-- The sender that mails name. -/
  sender : Option Mailbox
  /-- How long a request may take. -/
  timeout : Span

namespace Notifier

variable (n : Notifier L X)

/-! ## Subscriptions -/

/-- Adds a subscription to a pair of currencies. -/
def subscribe (s : Subscription) : HubJob L X (Except NotifyError Unit) :=
  match s.topic.validate with
  | .error e => .done (.error (.invalid e))
  | .ok () => do
    return (← n.repository.add s).mapError .ofRepository

/-- Lists all subscriptions. -/
def subscriptions : HubJob L X (Except NotifyError (List Subscription)) := do
  return (← n.repository.list).mapError .ofRepository

/-! ## Requests -/

/-- What is asked to learn the rate of a pair. -/
def rateAsk (topic : Pair) : Payload × Kind :=
  (.rateRequested topic, .rateResponded)

/-- What is asked to learn the subscribers of a pair. -/
def subscribersAsk (topic : Pair) : Payload × Kind :=
  (.subscribersRequested topic, .subscribersResponded)

/-- Requests something over the bus. -/
def request (asks : List (Payload × Kind)) : HubJob L X (Except NotifyError Responses) := do
  return (← n.publish.request Hub.mainBus ⟨"subscription", asks, n.timeout⟩).mapError .bus

/-- The rate in the answers. -/
def rateOf (r : Responses) : Except NotifyError Float :=
  match r.rate? with
  | some value => .ok value
  | none => .error (.missing "exchange rate")

/-- The rate and the subscribers in the answers. -/
def bulletinOf (topic : Pair) (r : Responses) : Except NotifyError Bulletin :=
  match rateOf r with
  | .error e => .error e
  | .ok value =>
    match r.subscribers? with
    | some subscribers => .ok ⟨⟨value, topic⟩, subscribers⟩
    | none => .error (.missing "subscribers")

/-- Requests the rate of a pair. -/
def requestRate (topic : Pair) : HubJob L X (Except NotifyError Float) := do
  return (← n.request [rateAsk topic]).bind rateOf

/-- Requests the rate and the subscribers of a pair. -/
def requestBulletin (topic : Pair) : HubJob L X (Except NotifyError Bulletin) := do
  return (← n.request [rateAsk topic, subscribersAsk topic]).bind (bulletinOf topic)

/-! ## Mails -/

/-- Sends one mail to a subscriber as the bus names it. -/
def sendTo (compose : Mailbox → Message) (subscriber : String) :
    HubJob L X (Except MailError Unit) :=
  match Mailbox.parse subscriber with
  | .error e => .done (.error ⟨subscriber, e.message, false⟩)
  | .ok mailbox => n.mailer (compose mailbox)

/-- What became of all mails: how many were sent, if all were. -/
def tellDeliveries (results : List (Except MailError Unit)) : Except NotifyError Nat :=
  match failures results with
  | [] => .ok results.length
  | errors => .error (.delivery (results.length - errors.length) errors)

/-- Mails the rate of a pair to all its subscribers, one after another; tells how many mails were
sent. -/
def sendMails (topic : Pair) : HubJob L X (Except NotifyError Nat) :=
  match topic.validate with
  | .error e => .done (.error (.invalid e))
  | .ok () => do
    match ← n.requestBulletin topic with
    | .error e => return .error e
    | .ok bulletin =>
      if bulletin.subscribers.isEmpty then return .error (.noSubscribers topic)
      else do
        let stamp ← n.clock
        let compose := fun mailbox => Message.compose n.sender bulletin.rate mailbox stamp
        return tellDeliveries (← Job.inTurn (bulletin.subscribers.map (n.sendTo compose)))

end Notifier

end RateHerald
