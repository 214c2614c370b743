import RateHerald.InputError

/-!
# Why there is no rate

Asking a web service for a rate can fail before the question is sent, on the way, and in the answer.
Some failures may pass by themselves, and only those are worth another try.

## Main declarations

* `RateError` lists the failures; `RateError.code` and `RateError.message` tell them.
* `RateError.isRetryable` says which are worth another try.
-/

namespace RateHerald

/-- Why there is no rate. -/
inductive RateError where
  /-- The pair is not acceptable. -/
  | invalidPair (text : String)
  /-- There is nobody to ask. -/
  | noProviders
  /-- Everybody who was asked failed; the last failure is kept. -/
  | unavailable (provider : String) (cause : RateError)
  /-- The question or its answer was lost on the way. -/
  | transport (provider : String) (text : String) (retryable : Bool)
  /-- The service answered with a status other than success. -/
  | status (provider : String) (value : Nat)
  /-- The answer holds no rate that can be read. -/
  | malformed (provider : String) (text : String)
  /-- The question cannot be put with the given settings. -/
  | misconfigured (provider : String) (text : String)
  /-- The service took too long. -/
  | timeout (provider : String)
deriving Repr, DecidableEq

namespace RateError

/-- Whether another try may succeed: the way can be repaired, a service can recover, and two
statuses say that the question came too slowly or too often. -/
def isRetryable : RateError → Bool
  | .transport _ _ retryable => retryable
  | .status _ n => n == 408 || n == 429 || (500 ≤ n && n < 600)
  | .timeout _ => true
  | _ => false

/-- The code of the failure. -/
def code : RateError → String
  | .invalidPair _ => "INVALID_CURRENCY"
  | .noProviders => "NO_PROVIDERS"
  | .unavailable _ _ => "PROVIDER_UNAVAILABLE"
  | .transport _ _ _ => "PROVIDER_HTTP"
  | .status _ _ => "PROVIDER_STATUS"
  | .malformed _ _ => "PROVIDER_PARSE"
  | .misconfigured _ _ => "PROVIDER_CONFIG"
  | .timeout _ => "PROVIDER_TIMEOUT"

/-- The failure in words. -/
def message : RateError → String
  | .invalidPair text => "invalid currency pair: " ++ text
  | .noProviders => "no rate providers configured"
  | .unavailable provider cause =>
    "all rate providers failed, last was " ++ provider ++ ": " ++ cause.message
  | .transport provider text _ => provider ++ ": request failed: " ++ text
  | .status provider n => provider ++ ": unexpected status " ++ toString n
  | .malformed provider text => provider ++ ": parsing response: " ++ text
  | .misconfigured provider text => provider ++ ": invalid configuration: " ++ text
  | .timeout provider => provider ++ ": timed out"

/-- A fault in typed text, as a reason for there being no rate. -/
def ofInput : InputError → RateError
  | .invalidCurrency text => .invalidPair text
  | e => .invalidPair e.message

end RateError

end RateHerald
