import RateHerald.Currency
import RateHerald.InputError
import RateHerald.Text.Quoted

/-!
# Currency pairs

A pair asks what one unit of its base is worth in its quote. It is shown as `BASE/QUOTE`, and typed
with a slash, an underscore or a hyphen between the codes. A pair may hold codes that are not
acceptable; whoever acts on a pair validates it first.

## Main declarations

* `Pair.ofTexts` makes a pair, `Pair.validate` accepts or refuses it.
* `Pair.toText` shows a pair and `Pair.parse` reads one, refusing what is not acceptable.
* `Pair.toJson` and `Pair.shape` write and read the record of a pair.
-/

namespace RateHerald

/-- A base currency and the currency it is quoted in. -/
structure Pair where
  /-- The currency whose worth is asked. -/
  base : Currency
  /-- The currency in which it is told. -/
  quote : Currency
deriving Repr, DecidableEq

namespace Pair

/-- The pair that two texts name. -/
def ofTexts (base quote : String) : Pair :=
  ⟨Currency.ofText base, Currency.ofText quote⟩

/-- Whether both codes are acceptable. -/
def isValid (p : Pair) : Bool :=
  p.base.isValid && p.quote.isValid

/-- Accepts the pair if both codes are acceptable. -/
def validate (p : Pair) : Except InputError Unit :=
  if p.isValid then .ok ()
  else .error (.invalidCurrency (Text.quoted p.base.code ++ "/" ++ Text.quoted p.quote.code))

theorem validate_eq_ok_iff {p : Pair} : p.validate = .ok () ↔ p.isValid = true := by
  rw [validate]
  split <;> simp [*]

/-- The pair as it is shown. -/
def toText (p : Pair) : String :=
  p.base.code ++ "/" ++ p.quote.code

/-- Whether a character divides the two codes of a typed pair. -/
def isDivider (c : Char) : Bool :=
  c == '/' || c == '_' || c == '-'

/-- The texts before and after the first divider. -/
def split? (cs : List Char) : Option (List Char × List Char) :=
  match cs.dropWhile fun c => !isDivider c with
  | [] => none
  | _ :: rest => some (cs.takeWhile fun c => !isDivider c, rest)

/-- Reads a typed pair. -/
def parse (s : String) : Except InputError Pair :=
  match split? s.toList with
  | none => .error (.invalidCurrency s)
  | some (base, quote) => do
    let p := ofTexts (String.ofList base) (String.ofList quote)
    p.validate
    .ok p

/-- The record of a pair. -/
def toJson (p : Pair) : Json :=
  .object [("base", p.base.toJson), ("quote", p.quote.toJson)]

/-- How the record of a pair is read. -/
def shape : Json.Shape (Option Currency × Option Currency) Pair where
  name := "CurrencyPair"
  fields := [
    .ofReader "base" Currency.reader (·.1) fun s c => (some c, s.2),
    .ofReader "quote" Currency.reader (·.2) fun s c => (s.1, some c)]
  empty := (none, none)
  finish := fun s => do
    let base ← s.1
    let quote ← s.2
    some ⟨base, quote⟩

end Pair

end RateHerald
