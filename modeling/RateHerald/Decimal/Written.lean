import RateHerald.Decimal.Shortest

/-!
# How numbers are written

A rate is written in three ways: positionally for people, as a JSON number in stored records and
answers, and with six places in a mail. The first two show the shortest decimal that reads back and
differ in a few decisions, which are kept together in one value per form.

## Main declarations

* `Layout` holds the decisions; `plainLayout` and `jsonLayout` are the two forms.
* `Layout.write` writes a number; `plain` and `json?` are the two instances.
* `fixed` writes a number with a given count of places, rounded from its exact value.
-/

namespace RateHerald.Decimal

/-- The decisions of a form in which shortest decimals are written. -/
structure Layout where
  /-- Which of two equally near decimals is taken. -/
  tie : Tie
  /-- Whether a number whose first digit has this place is written without an exponent. -/
  positional : Int → Bool
  /-- Whether a whole number is written with a point and a zero. -/
  marksWhole : Bool

/-- Never an exponent, and no point in a whole number. -/
def plainLayout : Layout where
  tie := .up
  positional := fun _ => true
  marksWhole := false

/-- An exponent below `10 ^ -5` and from `10 ^ 16` on, and a point in every positional number. -/
def jsonLayout : Layout where
  tie := .even
  positional := fun place => -5 ≤ place && place < 16
  marksWhole := true

/-- The decimal digits of a natural number. -/
def digits (n : Nat) : List Char :=
  Nat.toDigits 10 n

/-- `count` zeros. -/
def zeros (count : Nat) : List Char :=
  List.replicate count '0'

/-- The decimal in positional notation. -/
def Digits.positional (d : Digits) (marksWhole : Bool) : List Char :=
  let ds := digits d.value
  if 0 ≤ d.scale then
    ds ++ zeros d.scale.toNat ++ if marksWhole then ['.', '0'] else []
  else
    let places := (-d.scale).toNat
    if places < ds.length then
      ds.take (ds.length - places) ++ '.' :: ds.drop (ds.length - places)
    else
      '0' :: '.' :: zeros (places - ds.length) ++ ds

/-- The decimal with one digit before the point and a signed exponent. -/
def Digits.scientific (d : Digits) : List Char :=
  let ds := digits d.value
  let place := d.scale + ds.length - 1
  let mantissa := match ds with
    | [] => []
    | [c] => [c]
    | c :: rest => c :: '.' :: rest
  mantissa ++ 'e' :: (if place < 0 then '-' else '+') :: digits place.natAbs

/-- The decimal without zeros at its end. -/
def Digits.normal (d : Digits) : Digits :=
  let ds := digits d.value
  let kept := ds.reverse.dropWhile (· == '0')
  ⟨d.value / Nat.pow 10 (ds.length - kept.length), d.scale + (ds.length - kept.length : Nat)⟩

/-- A minus sign in front, if asked for. -/
def signed (negative : Bool) (cs : List Char) : List Char :=
  if negative then '-' :: cs else cs

/-- The number in the given form; infinities and not-a-number have names. -/
def Layout.write (layout : Layout) (x : Float) : String :=
  String.ofList <| match Parts.of x with
    | .nan => ['N', 'a', 'N']
    | .infinite negative => signed negative ['i', 'n', 'f']
    | .finite negative mantissa exponent evenGaps =>
      signed negative <|
        if mantissa = 0 then '0' :: if layout.marksWhole then ['.', '0'] else []
        else
          let d := (shortest layout.tie mantissa exponent evenGaps).normal
          let place := d.scale + (digits d.value).length - 1
          if layout.positional place then d.positional layout.marksWhole else d.scientific

/-- The number for people: never an exponent. -/
def plain (x : Float) : String :=
  plainLayout.write x

/-- The JSON number, if there is one: JSON has no infinities. -/
def json? (x : Float) : Option String :=
  if x.isFinite then some (jsonLayout.write x) else none

/-- The number with `places` digits after the point, rounded from its exact value, a half going to
the even neighbour. -/
def fixed (places : Nat) (x : Float) : String :=
  String.ofList <| match Parts.of x with
    | .nan => ['N', 'a', 'N']
    | .infinite negative => signed negative ['i', 'n', 'f']
    | .finite negative mantissa exponent _ =>
      let (up, down) := twoPower exponent
      let scaled := roundHalfEven (mantissa * up * Nat.pow 10 places) down
      let ds := digits scaled
      let padded := zeros (places + 1 - ds.length) ++ ds
      signed negative <|
        if places = 0 then padded
        else padded.take (padded.length - places) ++ '.' :: padded.drop (padded.length - places)

end RateHerald.Decimal
