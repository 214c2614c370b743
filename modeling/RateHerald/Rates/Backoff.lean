import RateHerald.Decimal.Parts

/-!
# How long to wait before another try

Before a service is asked again some time passes: always the same, or growing by a factor with every
try up to a limit. A growing delay may be scaled by a random factor, so that many clients do not
come back at once; the factor is given here from outside.

Delays are counted in nanoseconds. The growing delay is computed in floating point, in seconds, and
rounded to the nearest nanosecond, a half to the even one. A factor that makes it negative or too
large has no delay at all.

## Main declarations

* `Backoff.delay` is the delay before a try.
* `power` is a floating-point power with a natural exponent, by repeated squaring.
* `nanosOf` turns seconds into nanoseconds.
-/

namespace RateHerald

/-- Why a count of seconds is no delay. -/
inductive DelayFault where
  /-- It is less than zero. -/
  | negative
  /-- It is too large, or not a number. -/
  | tooLarge
deriving Repr, DecidableEq

/-- The fault in words. -/
def DelayFault.message : DelayFault → String
  | .negative => "cannot convert float seconds to Duration: value is negative"
  | .tooLarge => "cannot convert float seconds to Duration: value is either too big or NaN"

/-- How long to wait before another try. -/
inductive Backoff where
  /-- The same time before every try, in nanoseconds. -/
  | fixed (delay : Nat)
  /-- `base` nanoseconds at first, `factor` times longer before each later try, at most `max`
  nanoseconds; with `jitter` scaled at random. -/
  | exponential (base : Nat) (factor : Float) (max : Nat) (jitter : Bool)
deriving DecidableEq

namespace Backoff

/-- Nanoseconds in a second. -/
def second : Nat := 1000000000

/-- Nanoseconds in a millisecond. -/
def millisecond : Nat := 1000000

/-- A fifth of a second, doubled with every try up to three seconds, scaled at random. -/
def standard : Backoff :=
  .exponential (200 * millisecond) 2.0 (3 * second) true

/-- Nanoseconds as a floating-point count of seconds. -/
def secondsOf (nanos : Nat) : Float :=
  Float.ofNat (nanos / second) + Float.ofNat (nanos % second) / 1e9

/-- The nearest count of nanoseconds to a floating-point count of seconds. -/
def nanosOf (seconds : Float) : Except DelayFault Nat :=
  if seconds < 0 then .error .negative
  else
    match Decimal.Parts.of seconds with
    | .finite _ mantissa exponent _ =>
      let (up, down) := Decimal.twoPower exponent
      let nanos := Decimal.roundHalfEven (mantissa * up * second) down
      if nanos < UInt64.size * second then .ok nanos else .error .tooLarge
    | _ => .error .tooLarge

/-- The product of `r` with the `n`-th power of `a`, squaring `a` for each binary digit of `n`. -/
def powerFrom (r a : Float) (n : Nat) : Float :=
  if n / 2 = 0 then (if n % 2 = 1 then r * a else r)
  else powerFrom (if n % 2 = 1 then r * a else r) (a * a) (n / 2)
termination_by n
decreasing_by omega

/-- The `n`-th power of `a`. -/
def power (a : Float) (n : Nat) : Float :=
  powerFrom 1.0 a n

/-- The smaller of two numbers; one that is not a number is passed over. -/
def smaller (x y : Float) : Float :=
  if x.isNaN then y else if y.isNaN then x else if x < y then x else y

/-- The largest exponent to which a factor is raised. -/
def maxExponent : Nat := Nat.pow 2 31 - 1

/-- The delay before the try after try number `attempt`, without the random factor. -/
def plainDelay (b : Backoff) (attempt : Nat) : Except DelayFault Nat :=
  match b with
  | .fixed delay => .ok delay
  | .exponential base factor max _ =>
    let grown := secondsOf base * power factor (min attempt maxExponent)
    nanosOf (smaller grown (secondsOf max))

/-- Whether the delay is scaled at random. -/
def isJittered : Backoff → Bool
  | .fixed _ => false
  | .exponential _ _ _ jitter => jitter

/-- The delay before the try after try number `attempt`, in nanoseconds; `scale` is the random
factor. -/
def delay (b : Backoff) (attempt : Nat) (scale : Float) : Except DelayFault Nat := do
  let plain ← b.plainDelay attempt
  if b.isJittered then nanosOf (scale * secondsOf plain) else .ok plain

end Backoff

end RateHerald
