import RateHerald.Events.BusError

/-!
# Why subscribers are not told

## Main declarations

* `MailError` is the failure to send one mail.
* `NotifyError` lists what can go wrong when people subscribe and when they are told a rate.
-/

namespace RateHerald

/-- The failure to send one mail. -/
structure MailError where
  /-- To whom it was addressed. -/
  recipient : String
  /-- Why it was not sent. -/
  reason : String
  /-- Whether another try may succeed. -/
  retryable : Bool
deriving Repr, DecidableEq

/-- The failure in words. -/
def MailError.message (e : MailError) : String :=
  "sending to " ++ e.recipient ++ ": " ++ e.reason

/-- What can go wrong with subscriptions. -/
inductive NotifyError where
  /-- The pair or the address is refused. -/
  | invalid (cause : InputError)
  /-- The subscription is there already. -/
  | alreadySubscribed (address : String) (topic : Pair)
  /-- Nobody wants to hear about the pair. -/
  | noSubscribers (topic : Pair)
  /-- Something is absent from an answer. -/
  | missing (what : String)
  /-- Some mails could not be sent. -/
  | delivery (sent : Nat) (errors : List MailError)
  /-- The store of subscriptions fails. -/
  | storage (cause : StoreError)
  /-- The bus fails. -/
  | bus (cause : BusError)
deriving Repr

namespace NotifyError

/-- A failure of the list of subscriptions. -/
def ofRepository : RepositoryError → NotifyError
  | .alreadySubscribed address topic => .alreadySubscribed address topic
  | .storage cause => .storage cause
  | .missing what => .missing what

/-- Whether asking again may succeed. -/
def isRetryable : NotifyError → Bool
  | .bus cause => cause.isRetryable
  | .delivery _ errors => errors.any (·.retryable)
  | _ => false

/-- The code of the failure. -/
def code : NotifyError → String
  | .invalid cause => cause.code
  | .alreadySubscribed _ _ => "SUBSCRIPTION_EXISTS"
  | .noSubscribers _ => "NO_SUBSCRIBERS"
  | .missing _ => "MISSING_RESPONSE"
  | .delivery _ _ => "DELIVERY_FAILED"
  | .storage cause => cause.code
  | .bus cause => cause.code

/-- The failure in words. -/
def message : NotifyError → String
  | .invalid cause => "invalid subscription: " ++ cause.message
  | .alreadySubscribed address topic => address ++ " is already subscribed to " ++ topic.toText
  | .noSubscribers topic => "no subscribers for " ++ topic.toText
  | .missing what => "missing " ++ what ++ " in response"
  | .delivery _ errors =>
    "failed to send " ++ toString errors.length ++ " message(s): " ++
      Text.joinWith "; " (errors.map MailError.message)
  | .storage cause => "subscription storage: " ++ cause.message
  | .bus cause => "event bus: " ++ cause.message

end NotifyError

end RateHerald
