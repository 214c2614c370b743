import RateHerald.Rate
import RateHerald.Rates.Backoff
import RateHerald.Rates.RateError
import RateHerald.Timed.Joined

/-!
# Providers of rates

A provider has a name and can be asked for the rate of a pair, which takes time and may fail. A
provider that fails for a reason that may pass can be asked again, after a while that grows as a
`Backoff` says.

## Main declarations

* `Provider`, and `Provider.on` for a provider that works on a part of the state.
* `Provider.retrying` asks a provider again.
-/

namespace RateHerald

/-- Somebody who may know the rate of a pair. -/
structure Provider (σ : Type) where
  /-- The name. -/
  name : String
  /-- Asks for the rate of a pair. -/
  fetch : Pair → Job σ (Except RateError Rate)

namespace Provider

variable {σ τ : Type}

/-- A provider that works on a part of the state. -/
def on (part : Part σ τ) (p : Provider τ) : Provider σ :=
  ⟨p.name, fun pair => (p.fetch pair).on part⟩

/-! ## Asking again -/

/-- The milliseconds that a wait of some nanoseconds takes. -/
def wholeMilliseconds (nanos : Nat) : Nat :=
  (nanos + Backoff.millisecond - 1) / Backoff.millisecond

/-- Waits before another try; `draw` gives the random factor where there is one. -/
def waitBefore (backoff : Backoff) (draw : Job σ Float) (attempt : Nat) : Job σ Unit := do
  let scale ← if backoff.isJittered then draw else .done 1.0
  match backoff.delay attempt scale with
  | .error fault => .halt fault.message
  | .ok nanos => Job.sleep (wholeMilliseconds nanos)

/-- Asks until there is a rate, or a failure that does not pass, or `retries` more tries have
failed; `attempt` counts the tries so far. -/
def askAgain (ask : Job σ (Except RateError Rate)) (backoff : Backoff) (draw : Job σ Float) :
    (retries attempt : Nat) → Job σ (Except RateError Rate)
  | 0, _ => ask
  | retries + 1, attempt => do
    match ← ask with
    | .ok rate => return .ok rate
    | .error e =>
      if e.isRetryable then do
        waitBefore backoff draw attempt
        askAgain ask backoff draw retries (attempt + 1)
      else return .error e

/-- A provider that is asked again, at most `maxRetries` times. -/
def retrying (p : Provider σ) (maxRetries : Nat) (backoff : Backoff) (draw : Job σ Float) :
    Provider σ :=
  ⟨p.name, fun pair => askAgain (p.fetch pair) backoff draw maxRetries 0⟩

end Provider

end RateHerald
