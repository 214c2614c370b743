import RateHerald.Events.Payload
import RateHerald.Rates.RateError
import RateHerald.Records.StoreError

/-!
# What can go wrong on the bus

A listener that fails does not stop the others; their failures are gathered into one, and since a
listener may publish in turn, failures form a tree. `BusError.flatten` lists the whole tree, every
failure before those it was gathered from, and questions about a failure are asked of that list.

## Main declarations

* `ListenerError` is what a listener reports, `BusError` what can go wrong on the bus.
* `BusError.flatten`, `BusError.any` and `BusError.findListenerError?`.
-/

namespace RateHerald

/-- Why the list of subscriptions cannot be kept or read. -/
inductive RepositoryError where
  /-- The subscription is there already. -/
  | alreadySubscribed (address : String) (topic : Pair)
  /-- The store fails. -/
  | storage (cause : StoreError)
  /-- Something is absent from an answer. -/
  | missing (what : String)
deriving Repr, DecidableEq

namespace RepositoryError

/-- The failure in words. -/
def message : RepositoryError → String
  | .alreadySubscribed address topic => address ++ " is already subscribed to " ++ topic.toText
  | .storage cause => "subscription storage: " ++ cause.message
  | .missing what => "missing " ++ what ++ " in response"

/-- The code of the failure. -/
def code : RepositoryError → String
  | .alreadySubscribed _ _ => "SUBSCRIPTION_EXISTS"
  | .storage cause => cause.code
  | .missing _ => "MISSING_RESPONSE"

end RepositoryError

/-- Why a listener failed. -/
inductive ListenerError where
  /-- There is no rate. -/
  | rate (cause : RateError)
  /-- A typed text is refused. -/
  | input (cause : InputError)
  /-- The subscriptions cannot be read. -/
  | repository (cause : RepositoryError)
deriving Repr, DecidableEq

/-- The failure in words. -/
def ListenerError.message : ListenerError → String
  | .rate cause => cause.message
  | .input cause => cause.message
  | .repository cause => cause.message

/-- What can go wrong on the bus. -/
inductive BusError where
  /-- An event is not one of those that are expected. -/
  | invalidEvent (expected : String) (actual : Kind)
  /-- There is no channel for the answer. -/
  | noChannel
  /-- The channel has no room for the answer. -/
  | channelFull
  /-- No answer of these kinds came in time. -/
  | timeout (missing : List Kind)
  /-- A listener failed for a reason of its own. -/
  | listener (cause : ListenerError)
  /-- Listeners to an event failed. -/
  | dispatch (kind : Kind) (errors : List BusError)
deriving Repr

namespace BusError

/-- The code of a failure. -/
def code : BusError → String
  | .invalidEvent _ _ => "INVALID_EVENT"
  | .noChannel => "INVALID_CHANNEL"
  | .channelFull => "RESPONSE_CHANNEL_FULL"
  | .timeout _ => "TIMEOUT"
  | .listener _ => "LISTENER_FAILED"
  | .dispatch _ _ => "DISPATCH_FAILED"

mutual

/-- A failure in words. -/
def message : BusError → String
  | .invalidEvent expected actual =>
    "invalid event: expected " ++ expected ++ ", got " ++ actual.name
  | .noChannel => "response channel is not initialized"
  | .channelFull => "response channel is full"
  | .timeout missing =>
    "timed out waiting for responses: " ++ Text.joinWith "; " (missing.map Kind.name)
  | .listener cause => "listener failed: " ++ cause.message
  | .dispatch kind errors =>
    "dispatch " ++ kind.name ++ ": " ++ Text.joinWith "; " (messages errors)

/-- Failures in words. -/
def messages : List BusError → List String
  | [] => []
  | e :: rest => message e :: messages rest

end

mutual

/-- A failure and all failures it was gathered from, itself first. -/
def flatten : BusError → List BusError
  | .invalidEvent expected actual => [.invalidEvent expected actual]
  | .noChannel => [.noChannel]
  | .channelFull => [.channelFull]
  | .timeout missing => [.timeout missing]
  | .listener cause => [.listener cause]
  | .dispatch kind errors => .dispatch kind errors :: flattenAll errors

/-- Failures and all failures they were gathered from. -/
def flattenAll : List BusError → List BusError
  | [] => []
  | e :: rest => flatten e ++ flattenAll rest

end

/-- Whether the failure, or one that it was gathered from, satisfies `p`. -/
def any (e : BusError) (p : BusError → Bool) : Bool :=
  e.flatten.any p

/-- Whether waiting longer, or asking again, may succeed. -/
def isRetryable : BusError → Bool
  | .timeout _ => true
  | _ => false

/-- Whether the failure is that no answer came in time. -/
def isTimeout : BusError → Bool
  | .timeout _ => true
  | _ => false

/-- What a listener reported, if the failure is that of a listener. -/
def listenerError? : BusError → Option ListenerError
  | .listener cause => some cause
  | _ => none

/-- The first report of a listener, in the order of `flatten`, that `pick` takes. -/
def findListenerError? {α : Type} (e : BusError) (pick : ListenerError → Option α) : Option α :=
  e.flatten.findSome? fun inner => inner.listenerError?.bind pick

/-- The first report of a listener that there is no rate. -/
def rateError? (e : BusError) : Option RateError :=
  e.findListenerError? fun
    | .rate cause => some cause
    | _ => none

/-- The first report of a listener that a typed text is refused. -/
def inputError? (e : BusError) : Option InputError :=
  e.findListenerError? fun
    | .input cause => some cause
    | _ => none

end BusError

end RateHerald
