import RateHerald.Text.Quoted
import RateHerald.Decimal.Written

/-!
# JSON texts

Records, events and counters are written as JSON. The compact form has no blanks; the pretty form
puts every member on a line of its own, two spaces deeper than its object. In a text, the quote,
the backslash and the controls below the space are escaped and every other character stands for
itself. A number that JSON cannot write is `null`.

## Main declarations

* `Json` is a value to be written: `Json.compact` and `Json.pretty` write it.
* `escapeChar` and `text` give the form of a character and of a text.
-/

namespace RateHerald

/-- A JSON value to be written. Members keep the order in which they are given. -/
inductive Json where
  /-- The value `null`. -/
  | null
  /-- A count. -/
  | natural (n : Nat)
  /-- A floating-point number. -/
  | number (x : Float)
  /-- A text. -/
  | text (s : String)
  /-- A list. -/
  | list (items : List Json)
  /-- An object. -/
  | object (members : List (String × Json))

namespace Json

/-- The four hexadecimal digits of a control character. -/
def fourHex (n : Nat) : List Char :=
  let ds := Text.hexDigits n
  Decimal.zeros (4 - ds.length) ++ ds

/-- A character inside a JSON text. -/
def escapeChar (c : Char) : List Char :=
  if c = '"' then ['\\', '"']
  else if c = '\\' then ['\\', '\\']
  else if c.toNat = 8 then ['\\', 'b']
  else if c.toNat = 12 then ['\\', 'f']
  else if c = '\n' then ['\\', 'n']
  else if c = '\r' then ['\\', 'r']
  else if c = '\t' then ['\\', 't']
  else if c.toNat < 0x20 then ['\\', 'u'] ++ fourHex c.toNat
  else [c]

/-- A text between quotes. -/
def quote (s : String) : List Char :=
  '"' :: s.toList.flatMap escapeChar ++ ['"']

/-- A floating-point number, or `null` if it is not finite. -/
def ofFloat (x : Float) : List Char :=
  ((Decimal.json? x).getD "null").toList

/-- Lists with commas between them. -/
def separated : List (List Char) → List Char
  | [] => []
  | [x] => x
  | x :: y :: rest => x ++ ',' :: separated (y :: rest)

mutual

/-- The characters of the compact form. -/
def chars : Json → List Char
  | .null => ['n', 'u', 'l', 'l']
  | .natural n => Decimal.digits n
  | .number x => ofFloat x
  | .text s => quote s
  | .list items => '[' :: separated (itemChars items) ++ [']']
  | .object members => '\x7b' :: separated (memberChars members) ++ ['\x7d']

/-- The items of a list in compact form. -/
def itemChars : List Json → List (List Char)
  | [] => []
  | v :: rest => chars v :: itemChars rest

/-- The members of an object in compact form. -/
def memberChars : List (String × Json) → List (List Char)
  | [] => []
  | (name, v) :: rest => (quote name ++ ':' :: chars v) :: memberChars rest

end

/-- The compact form. -/
def compact (v : Json) : String :=
  String.ofList v.chars

/-- The beginning of a line that is `depth` objects deep. -/
def indent (depth : Nat) : List Char :=
  '\n' :: List.replicate (2 * depth) ' '

mutual

/-- The pretty form of a value that stands `depth` objects deep. -/
def prettyChars (depth : Nat) : Json → List Char
  | .list [] => ['[', ']']
  | .list items =>
    '[' :: separated (prettyItems (depth + 1) items) ++ indent depth ++ [']']
  | .object [] => ['\x7b', '\x7d']
  | .object members =>
    '\x7b' :: separated (prettyMembers (depth + 1) members) ++ indent depth ++ ['\x7d']
  | v => chars v

/-- The items of a list, one to a line. -/
def prettyItems (depth : Nat) : List Json → List (List Char)
  | [] => []
  | v :: rest => (indent depth ++ prettyChars depth v) :: prettyItems depth rest

/-- The members of an object, one to a line. -/
def prettyMembers (depth : Nat) : List (String × Json) → List (List Char)
  | [] => []
  | (name, v) :: rest =>
    (indent depth ++ quote name ++ ':' :: ' ' :: prettyChars depth v) :: prettyMembers depth rest

end

/-- The pretty form. -/
def pretty (v : Json) : String :=
  String.ofList (prettyChars 0 v)

end Json

end RateHerald
