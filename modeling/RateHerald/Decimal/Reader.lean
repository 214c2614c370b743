import RateHerald.Text.Case
import RateHerald.Decimal.Written

/-!
# Reading a number from its text

A number in a text is an optional sign and then either a decimal with at least one digit, an
optional point and an optional exponent, or one of the names `inf`, `infinity` and `nan` in any
letter case. The value is the floating-point number nearest to the decimal, whatever its length.

## Main declarations

* `Numeral` is a decimal read from a text, `Numeral.read?` its grammar.
* `Numeral.toFloat` is the nearest floating-point number.
* `parse` reads a whole text, with the two ways to fail of `NumberFault`.
-/

namespace RateHerald.Decimal

/-- Why a text is not a number. -/
inductive NumberFault where
  /-- There is no text. -/
  | empty
  /-- The text does not have the form of a number. -/
  | invalid
deriving Repr, DecidableEq

/-- The fault in words. -/
def NumberFault.message : NumberFault → String
  | .empty => "cannot parse float from empty string"
  | .invalid => "invalid float literal"

/-- The decimal `value * 10 ^ exponent`. -/
structure Numeral where
  /-- All digits, before and after the point, read as one number. -/
  value : Nat
  /-- The place of the last digit. -/
  exponent : Int
deriving Repr, DecidableEq

/-- The value of a row of decimal digits. -/
def digitsValue (cs : List Char) : Nat :=
  cs.foldl (fun n c => 10 * n + (c.toNat - 48)) 0

/-- Splits the leading decimal digits off. -/
def spanDigits (cs : List Char) : List Char × List Char :=
  (cs.takeWhile Char.isDigit, cs.dropWhile Char.isDigit)

/-- A sign and whether it is a minus. -/
def spanSign : List Char → Bool × List Char
  | '+' :: rest => (false, rest)
  | '-' :: rest => (true, rest)
  | rest => (false, rest)

/-- The exponent part: nothing, or the letter, an optional sign and at least one digit. -/
def readExponent? : List Char → Option Int
  | [] => some 0
  | c :: rest =>
    if c = 'e' ∨ c = 'E' then
      let (negative, rest) := spanSign rest
      let (ds, rest) := spanDigits rest
      if ds = [] ∨ rest ≠ [] then none
      else some (if negative then -(digitsValue ds : Int) else digitsValue ds)
    else none

/-- An unsigned decimal that takes up the whole text. -/
def Numeral.read? (cs : List Char) : Option Numeral :=
  let (whole, rest) := spanDigits cs
  let (fraction, rest) := match rest with
    | '.' :: rest => spanDigits rest
    | rest => ([], rest)
  if whole = [] ∧ fraction = [] then none
  else (readExponent? rest).map fun e =>
    ⟨digitsValue (whole ++ fraction), e - (fraction.length : Int)⟩

/-- The floating-point number nearest to the decimal. Decimals beyond the range of all numbers are
recognised by the place of their first digit. -/
def Numeral.toFloat (n : Numeral) : Float :=
  let first := n.exponent + (digits n.value).length
  if n.value = 0 then 0.0
  else if first > 400 then Float.ofBits 0x7FF0000000000000
  else if first < -400 then 0.0
  else if 0 ≤ n.exponent then Float.ofScientific n.value false n.exponent.toNat
  else Float.ofScientific n.value true (-n.exponent).toNat

/-- The numbers with names. -/
def named? (cs : List Char) : Option Float :=
  let name := cs.map Char.toLower
  if name = "inf".toList ∨ name = "infinity".toList then some (Float.ofBits 0x7FF0000000000000)
  else if name = "nan".toList then some (Float.ofBits 0x7FF8000000000000)
  else none

/-- The number a whole text stands for. -/
def parse (s : String) : Except NumberFault Float :=
  if s.isEmpty then .error .empty
  else
    let (negative, cs) := spanSign s.toList
    match (Numeral.read? cs).map Numeral.toFloat <|> named? cs with
    | some x => .ok (if negative then -x else x)
    | none => .error .invalid

end RateHerald.Decimal
