/-!
# The exact value of a floating-point number

Rates are 64-bit floating-point numbers. Everything that is printed about them is computed from
their exact value, a whole number of units `2 ^ exponent`, in exact arithmetic on natural numbers.

## Main declarations

* `Parts` splits a number into not-a-number, an infinity, or sign, mantissa and exponent.
* `Parts.of` takes the parts from the bits of a `Float`.
* `roundHalfEven` divides two natural numbers and rounds to the nearest whole number.
-/

namespace RateHerald.Decimal

/-- What a 64-bit floating-point number stands for. -/
inductive Parts where
  /-- Not a number. -/
  | nan
  /-- One of the two infinities. -/
  | infinite (negative : Bool)
  /-- The number `± mantissa * 2 ^ exponent`; `exact` tells whether the gap below the number is
  as wide as the gap above it, which fails at powers of two only. -/
  | finite (negative : Bool) (mantissa : Nat) (exponent : Int) (evenGaps : Bool)
deriving Repr, DecidableEq

/-- The parts of a number, from its bits. A normal number has a leading one that is not stored; a
subnormal number has none. -/
def Parts.of (x : Float) : Parts :=
  let bits : Nat := x.toBits.toNat
  let negative := bits ≥ Nat.pow 2 63
  let field : Nat := bits / Nat.pow 2 52 % Nat.pow 2 11
  let fraction : Nat := bits % Nat.pow 2 52
  if field = 2047 then if fraction = 0 then .infinite negative else .nan
  else if field = 0 then .finite negative fraction (-1074) true
  else
    .finite negative (Nat.pow 2 52 + fraction) ((field : Int) - 1075)
      (fraction != 0 || field == 1)

/-- The nearest whole number to `num / den`; of two equally near ones the even one. -/
def roundHalfEven (num den : Nat) : Nat :=
  let q := num / den
  let r := num % den
  if 2 * r < den then q
  else if 2 * r = den then q + q % 2
  else q + 1

/-- `10 ^ k` as a fraction, for any whole `k`. -/
def tenPower (k : Int) : Nat × Nat :=
  if 0 ≤ k then (Nat.pow 10 k.toNat, 1) else (1, Nat.pow 10 (-k).toNat)

/-- `2 ^ k` as a fraction, for any whole `k`. -/
def twoPower (k : Int) : Nat × Nat :=
  if 0 ≤ k then (Nat.pow 2 k.toNat, 1) else (1, Nat.pow 2 (-k).toNat)

end RateHerald.Decimal
