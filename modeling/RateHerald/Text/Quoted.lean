import RateHerald.Text.Hidden

/-!
# Quoted texts

Messages show a text that a person typed between double quotes, so that blanks and odd characters
can be seen. A quote and a backslash get a backslash, five controls have a letter of their own, and
every other character that would not be seen is written by its number as `\u{…}`.
-/

namespace RateHerald.Text

/-- The number in base sixteen, small letters, without leading zeros. -/
def hexDigits (n : Nat) : List Char :=
  Nat.toDigits 16 n

/-- How a character stands in a quoted text. -/
def quotedChar (c : Char) : List Char :=
  if c = '"' then ['\\', '"']
  else if c = '\\' then ['\\', '\\']
  else if c = '\n' then ['\\', 'n']
  else if c = '\r' then ['\\', 'r']
  else if c = '\t' then ['\\', 't']
  else if c.toNat = 0 then ['\\', '0']
  else if isHidden c then ['\\', 'u', '\x7b'] ++ hexDigits c.toNat ++ ['\x7d']
  else [c]

/-- The text between double quotes, every character readable. -/
def quoted (s : String) : String :=
  String.ofList ('"' :: s.toList.flatMap quotedChar ++ ['"'])

/-- Texts one after another with a separator between neighbours. -/
def joinWith (separator : String) (parts : List String) : String :=
  separator.intercalate parts

end RateHerald.Text
