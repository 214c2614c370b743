import RateHerald.Text.Quoted
import RateHerald.Decimal.Written

/-!
# What can be wrong with a JSON text

A reader of JSON stops at the first thing that is wrong and says what it is and where. The place is
kept as a count of bytes read, and turned into a line and a column only when the fault is put into
words.

## Main declarations

* `Cause` lists what can be wrong, `Cause.message` words it.
* `Fault` is a cause with its place, `Fault.describe` the full sentence.
-/

namespace RateHerald.Json

/-- A value that was found where another was expected. -/
inductive Found where
  /-- The value `null`. -/
  | null
  /-- A truth value. -/
  | boolean (b : Bool)
  /-- A whole number that fits in 64 bits. -/
  | integer (n : Int)
  /-- Any other number. -/
  | float (x : Float)
  /-- A text. -/
  | text (s : String)
  /-- The beginning of a list. -/
  | list
  /-- The beginning of an object. -/
  | object

/-- The found value in words. -/
def Found.describe : Found → String
  | .null => "null"
  | .boolean b => "boolean `" ++ (if b then "true" else "false") ++ "`"
  | .integer n => "integer `" ++ toString n ++ "`"
  | .float x => "floating point `" ++ Decimal.jsonLayout.write x ++ "`"
  | .text s => "string " ++ Text.quoted s
  | .list => "sequence"
  | .object => "map"

/-- What can be wrong with a JSON text. -/
inductive Cause where
  /-- No value begins here. -/
  | expectedValue
  /-- A word that is none of `null`, `true` and `false`. -/
  | expectedWord
  /-- A key is not followed by a colon. -/
  | expectedColon
  /-- An object goes on with neither a comma nor its end. -/
  | expectedMemberEnd
  /-- A list goes on with neither a comma nor its end. -/
  | expectedItemEnd
  /-- A member does not begin with a text. -/
  | keyNotText
  /-- A comma stands before the end. -/
  | trailingComma
  /-- Something follows the value. -/
  | trailingCharacters
  /-- The text ends where a value should be. -/
  | endInValue
  /-- The text ends inside a text. -/
  | endInText
  /-- The text ends inside a list. -/
  | endInList
  /-- The text ends inside an object. -/
  | endInObject
  /-- The form of a number is broken. -/
  | invalidNumber
  /-- A number is too large. -/
  | numberTooLarge
  /-- An escape is not one of the known ones. -/
  | invalidEscape
  /-- The second half of a pair of escapes is absent. -/
  | halfPair
  /-- The halves of a pair of escapes do not fit. -/
  | brokenPair
  /-- A control character stands inside a text. -/
  | controlInText
  /-- A field is absent. -/
  | missingField (name : String)
  /-- A field is given twice. -/
  | repeatedField (name : String)
  /-- A value has the wrong type. -/
  | wrongType (found : Found) (expected : String)
  /-- A list has too few items. -/
  | wrongLength (count : Nat) (expected : String)

/-- The cause in words. -/
def Cause.message : Cause → String
  | .expectedValue => "expected value"
  | .expectedWord => "expected ident"
  | .expectedColon => "expected `:`"
  | .expectedMemberEnd => "expected `,` or `\x7d`"
  | .expectedItemEnd => "expected `,` or `]`"
  | .keyNotText => "key must be a string"
  | .trailingComma => "trailing comma"
  | .trailingCharacters => "trailing characters"
  | .endInValue => "EOF while parsing a value"
  | .endInText => "EOF while parsing a string"
  | .endInList => "EOF while parsing a list"
  | .endInObject => "EOF while parsing an object"
  | .invalidNumber => "invalid number"
  | .numberTooLarge => "number out of range"
  | .invalidEscape => "invalid escape"
  | .halfPair => "unexpected end of hex escape"
  | .brokenPair => "lone leading surrogate in hex escape"
  | .controlInText => "control character (\\u0000-\\u001F) found while parsing a string"
  | .missingField name => "missing field `" ++ name ++ "`"
  | .repeatedField name => "duplicate field `" ++ name ++ "`"
  | .wrongType found expected => "invalid type: " ++ found.describe ++ ", expected " ++ expected
  | .wrongLength count expected =>
    "invalid length " ++ toString count ++ ", expected " ++ expected

/-- A cause and the count of bytes read when it was noticed. -/
structure Fault where
  /-- What is wrong. -/
  cause : Cause
  /-- How many bytes had been read. -/
  offset : Nat

/-- The line and column reached after `offset` bytes: lines count from one, and the column is the
count of bytes since the line began. -/
def locate (cs : List Char) (offset : Nat) : Nat × Nat :=
  let (_, line, start) := cs.foldl
    (fun (at_, line, start) c =>
      let next := at_ + c.utf8Size
      if c = '\n' ∧ at_ < offset then (next, line + 1, next) else (next, line, start))
    ((0, 1, 0) : Nat × Nat × Nat)
  (line, offset - start)

/-- The fault in words, with its place in the text it was found in. -/
def Fault.describe (f : Fault) (text : String) : String :=
  let (line, column) := locate text.toList f.offset
  f.cause.message ++ " at line " ++ toString line ++ " column " ++ toString column

end RateHerald.Json
