/-!
# Percent-encoding

Characters that may not stand in a part of an address are written by the bytes of their UTF-8 form,
each as a percent sign and two capital hexadecimal digits. Every part has its own set of such
characters of ASCII; outside of ASCII all characters are encoded.

## Main declarations

* `encodeChar` and `encode` encode what is in a set; the sets are `isControl`, `inFragment`,
  `inQuery`, `inSpecialQuery`, `inPath` and `inUserInfo`.
* `decode` takes encoded bytes back and leaves a stray percent sign alone.
-/

namespace RateHerald.Url

/-- A hexadecimal digit, capital letters. -/
def hexDigit (n : Nat) : Char :=
  Char.ofNat (if n < 10 then 48 + n else 55 + n)

/-- A byte as a percent sign and two digits. -/
def encodeByte (b : UInt8) : List Char :=
  ['%', hexDigit (b.toNat / 16), hexDigit (b.toNat % 16)]

/-- A character, encoded if it is in the set or outside of ASCII. -/
def encodeChar (set : Char → Bool) (c : Char) : List Char :=
  if c.toNat ≥ 0x80 || set c then (String.utf8EncodeChar c).flatMap encodeByte else [c]

/-- A text, every character encoded that is in the set or outside of ASCII. -/
def encode (set : Char → Bool) (cs : List Char) : List Char :=
  cs.flatMap (encodeChar set)

/-- The controls. -/
def isControl (c : Char) : Bool :=
  c.toNat < 0x20 || c.toNat == 0x7F

/-- What a fragment may not hold. -/
def inFragment (c : Char) : Bool :=
  isControl c || c == ' ' || c == '"' || c == '<' || c == '>' || c.toNat == 0x60

/-- What a query may not hold. -/
def inQuery (c : Char) : Bool :=
  isControl c || c == ' ' || c == '"' || c == '#' || c == '<' || c == '>'

/-- What the query of a web address may not hold. -/
def inSpecialQuery (c : Char) : Bool :=
  inQuery c || c == '\''

/-- What a segment of a path may not hold. -/
def inPath (c : Char) : Bool :=
  inFragment c || c == '#' || c == '?' || c == '\x7b' || c == '\x7d'

/-- What a user name or password may not hold. -/
def inUserInfo (c : Char) : Bool :=
  inPath c || c == '/' || c == ':' || c == ';' || c == '=' || c == '@' || c == '[' || c == '\\' ||
    c == ']' || c == '^' || c == '|'

/-- The value of a hexadecimal digit. -/
def hexValue? (c : Char) : Option Nat :=
  if '0' ≤ c ∧ c ≤ '9' then some (c.toNat - 48)
  else if 'a' ≤ c ∧ c ≤ 'f' then some (c.toNat - 87)
  else if 'A' ≤ c ∧ c ≤ 'F' then some (c.toNat - 55)
  else none

/-- The byte written at the beginning of a text. -/
def encodedByte? : List Char → Option UInt8
  | '%' :: a :: b :: _ => do
    let a ← hexValue? a
    let b ← hexValue? b
    some (UInt8.ofNat (16 * a + b))
  | _ => none

/-- The bytes of a text, encoded ones taken back; `skip` characters belong to a byte already
taken. -/
def decodeFrom : Nat → List Char → List UInt8
  | _, [] => []
  | skip + 1, _ :: rest => decodeFrom skip rest
  | 0, c :: rest =>
    match encodedByte? (c :: rest) with
    | some b => b :: decodeFrom 2 rest
    | none => String.utf8EncodeChar c ++ decodeFrom 0 rest

/-- The bytes of a text, encoded ones taken back. -/
def decode (cs : List Char) : List UInt8 :=
  decodeFrom 0 cs

/-- The text with these bytes, if they are the UTF-8 form of one. -/
def ofBytes? (bs : List UInt8) : Option (List Char) :=
  (String.fromUTF8? ⟨bs.toArray⟩).map String.toList

end RateHerald.Url
