import RateHerald.Text.Spelling
import RateHerald.Json.Record
import RateHerald.Json.Written

/-!
# Currencies

A currency is known by its code. Codes are kept in one spelling, without blanks around them and in
upper case, so that two spellings of one code are the same currency. A code need not be acceptable:
`Currency.isValid` says whether it is.

## Main declarations

* `Currency.ofText` is the currency of a text; every currency is made by it.
* `Currency.isValid` is the rule for acceptable codes.
* `Currency.toJson` and `Currency.reader` write and read a currency.
-/

namespace RateHerald

/-- The one spelling of a code. -/
def Currency.spelling (cs : List Char) : List Char :=
  Text.upper (Text.trim cs)

theorem Currency.spelling_spelling (cs : List Char) : spelling (spelling cs) = spelling cs := by
  rw [spelling, spelling, Text.trim_upper_trim, Text.upper_upper]

/-- A currency, by its code. -/
structure Currency where
  /-- The code, trimmed and in upper case. -/
  code : String
  /-- The code stands in its one spelling. -/
  spelled : Currency.spelling code.toList = code.toList
deriving Repr, DecidableEq

namespace Currency

/-- The currency that a text names. -/
def ofText (s : String) : Currency where
  code := String.ofList (spelling s.toList)
  spelled := by rw [String.toList_ofList, spelling_spelling]

/-- The code of a currency names it. -/
@[simp] theorem ofText_code (c : Currency) : ofText c.code = c := by
  obtain ⟨code, spelled⟩ := c
  simp only [ofText, mk.injEq]
  rw [spelled, String.ofList_toList]

/-- Whether a character may stand in an acceptable code. -/
def isCodeChar (c : Char) : Bool :=
  c.isAlphanum

/-- Whether the code is acceptable: letters and digits of ASCII, at least one. -/
def isValid (c : Currency) : Bool :=
  !c.code.isEmpty && c.code.toList.all isCodeChar

/-- The currency as a JSON text. -/
def toJson (c : Currency) : Json :=
  .text c.code

/-- Reads a currency; the text is brought to the one spelling. -/
def reader : Json.Reader Currency := fun c => do
  let (s, c) ← Json.readText c
  .ok (ofText s, c)

end Currency

end RateHerald
