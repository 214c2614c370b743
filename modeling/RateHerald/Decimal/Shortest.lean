import RateHerald.Decimal.Parts

/-!
# The shortest decimal that reads back

Of all decimals that round to a given floating-point number, the one with the fewest digits is
shown, and of those the nearest. A decimal rounds to the number when it lies in the interval that
reaches half-way to both neighbours; the ends belong to it when the mantissa is even. On the grid of
decimals with a given number of places, if any point lies in the interval then one of the two grid
points next to the number does, so two candidates per grid are enough.

## Main declarations

* `Digits` is a decimal `value * 10 ^ scale`.
* `Tie` says which of two equally near decimals is taken.
* `shortest` finds the digits of a positive number.
-/

namespace RateHerald.Decimal

/-- The decimal `value * 10 ^ scale`. -/
structure Digits where
  /-- The digits, read as one number. -/
  value : Nat
  /-- The place of the last digit. -/
  scale : Int
deriving Repr, DecidableEq

/-- The half-open description of the numbers that round to one floating-point number. All four
fractions have the same denominator. -/
structure Neighbourhood where
  /-- Numerator of the number itself. -/
  centre : Nat
  /-- Numerator of the lower end. -/
  low : Nat
  /-- Numerator of the upper end. -/
  high : Nat
  /-- The common denominator. -/
  unit : Nat
  /-- Whether the ends round to the number too. -/
  closed : Bool
deriving Repr

/-- The neighbourhood of `mantissa * 2 ^ exponent`: half a gap on either side, a quarter of one
below a power of two. -/
def Neighbourhood.of (mantissa : Nat) (exponent : Int) (evenGaps : Bool) : Neighbourhood :=
  let (up, down) := twoPower exponent
  { centre := 4 * mantissa * up
    low := (4 * mantissa - if evenGaps then 2 else 1) * up
    high := (4 * mantissa + 2) * up
    unit := 4 * down
    closed := mantissa % 2 == 0 }

/-- Whether the fraction `num / den` rounds to the number in the middle. -/
def Neighbourhood.holds (n : Neighbourhood) (num den : Nat) : Bool :=
  let x := num * n.unit
  if n.closed then n.low * den ≤ x && x ≤ n.high * den else n.low * den < x && x < n.high * den

/-- Which of two equally near decimals is taken. -/
inductive Tie where
  /-- The one whose last digit is even. -/
  | even
  /-- The larger one. -/
  | up
deriving Repr, DecidableEq

/-- Whether the lower of two neighbours is taken, the number lying `rest / den` above it. -/
def Tie.takesLower (tie : Tie) (below rest den : Nat) : Bool :=
  2 * rest < den || (2 * rest == den && tie == .even && below % 2 == 0)

/-- The nearest decimal with last place `scale` that rounds to the number, if any does. -/
def Neighbourhood.onGrid? (n : Neighbourhood) (tie : Tie) (scale : Int) : Option Digits :=
  let (tenUp, tenDown) := tenPower scale
  let num := n.centre * tenDown
  let den := n.unit * tenUp
  let below := num / den
  let fits := fun v => n.holds (v * tenUp) tenDown
  let lowFits := below != 0 && fits below
  let highFits := fits (below + 1)
  if lowFits && highFits then
    some ⟨if tie.takesLower below (num % den) den then below else below + 1, scale⟩
  else if lowFits then some ⟨below, scale⟩
  else if highFits then some ⟨below + 1, scale⟩
  else none

/-- The place of the first digit of `num / den`: the largest `k` with `10 ^ k ≤ num / den`, found
from an estimate by the number of binary digits. -/
def leadingPlace (num den : Nat) : Int :=
  let estimate : Int := ((num.log2 : Int) - den.log2) * 30103 / 100000 - 2
  let atMost := fun k : Int => let (up, down) := tenPower k; up * den ≤ num * down
  [5, 4, 3, 2, 1].foldl
    (fun found (step : Int) =>
      if found = estimate ∧ atMost (estimate + step) then estimate + step else found) estimate

/-- Tries the grids from `scale` downwards, `fuel` of them. -/
def Neighbourhood.firstFit (n : Neighbourhood) (tie : Tie) (scale : Int) : Nat → Option Digits
  | 0 => none
  | fuel + 1 =>
    match n.onGrid? tie scale with
    | some d => some d
    | none => n.firstFit tie (scale - 1) fuel

/-- The digits of the shortest decimal that reads back as `mantissa * 2 ^ exponent`, for a positive
mantissa. Seventeen digits are always enough; the first grid tried has one digit, or none when the
number is next to the power of ten above it. -/
def shortest (tie : Tie) (mantissa : Nat) (exponent : Int) (evenGaps : Bool) : Digits :=
  let n := Neighbourhood.of mantissa exponent evenGaps
  let place := leadingPlace n.centre n.unit
  (n.firstFit tie (place + 1) 20).getD ⟨0, 0⟩

end RateHerald.Decimal
