import RateHerald.Json.Fault
import RateHerald.Decimal.Reader

/-!
# Reading JSON: blanks, words, texts and numbers

A cursor is a place in a text: what is left of it and how many bytes have been read. A reader takes
a cursor to a value and a later cursor, or to a fault.

Numbers are read the way streaming readers do: up to nineteen or twenty digits are gathered in a
64-bit word, later digits only move the exponent, and the word is multiplied or divided by a power
of ten in floating point. The result can differ from the nearest number in its last bit.

## Main declarations

* `Cursor`, `Reader` and the two ways to fail, `Cursor.failHere` and `Cursor.failNext`.
* `readTextBody` reads the rest of a text after its opening quote.
* `readNumber` reads a number after its sign.
* `failOnType` explains why the next value is not the expected one.
-/

namespace RateHerald.Json

/-- A place in a text. -/
structure Cursor where
  /-- How many bytes have been read. -/
  offset : Nat
  /-- The characters that are left. -/
  rest : List Char

/-- A reader takes a place to a value and a later place. -/
abbrev Reader (α : Type) := Cursor → Except Fault (α × Cursor)

namespace Cursor

/-- The beginning of a text. -/
def start (s : String) : Cursor :=
  ⟨0, s.toList⟩

/-- The count of bytes in a list of characters. -/
def bytes (cs : List Char) : Nat :=
  cs.foldr (fun c count => c.utf8Size + count) 0

/-- The place after the next `n` characters. -/
def skip (c : Cursor) (n : Nat) : Cursor :=
  ⟨c.offset + bytes (c.rest.take n), c.rest.drop n⟩

/-- Whether a character is blank in JSON. -/
def isBlank (c : Char) : Bool :=
  c == ' ' || c == '\n' || c == '\t' || c == '\r'

/-- The place after the blanks. -/
def skipBlanks (c : Cursor) : Cursor :=
  ⟨c.offset + (c.rest.takeWhile isBlank).length, c.rest.dropWhile isBlank⟩

/-- A fault at this place. -/
def failHere {α : Type} (c : Cursor) (cause : Cause) : Except Fault α :=
  .error ⟨cause, c.offset⟩

/-- A fault about the next byte, which is counted too unless the text is over. -/
def failNext {α : Type} (c : Cursor) (cause : Cause) : Except Fault α :=
  .error ⟨cause, if c.rest.isEmpty then c.offset else c.offset + 1⟩

end Cursor

/-- Reads the letters of a word. -/
def readWord : List Char → Reader Unit
  | [], c => .ok ((), c)
  | w :: word, c =>
    match c.rest with
    | [] => c.failHere .endInValue
    | d :: _ => if d = w then readWord word (c.skip 1) else c.failNext .expectedWord

/-- The value of a hexadecimal digit. -/
def hexValue? (c : Char) : Option Nat :=
  if '0' ≤ c ∧ c ≤ '9' then some (c.toNat - 48)
  else if 'a' ≤ c ∧ c ≤ 'f' then some (c.toNat - 87)
  else if 'A' ≤ c ∧ c ≤ 'F' then some (c.toNat - 55)
  else none

/-- The number written by four hexadecimal digits. -/
def fourHex? : List Char → Option Nat
  | a :: b :: c :: d :: _ => do
    let a ← hexValue? a
    let b ← hexValue? b
    let c ← hexValue? c
    let d ← hexValue? d
    some (((a * 16 + b) * 16 + c) * 16 + d)
  | _ => none

/-- Four hexadecimal digits at a place, or why there are none: too few bytes are left, or one of
the next four is not a digit. -/
def readFourHex (c : Cursor) : Except Fault Nat :=
  match fourHex? c.rest with
  | some n => .ok n
  | none =>
    let left := Cursor.bytes c.rest
    if left < 4 then .error ⟨.endInText, c.offset + left⟩
    else .error ⟨.invalidEscape, c.offset + 4⟩

/-- Whether a 16-bit unit is the first half of a pair. -/
def isHighHalf (n : Nat) : Bool :=
  0xD800 ≤ n && n ≤ 0xDBFF

/-- Whether a 16-bit unit is the second half of a pair. -/
def isLowHalf (n : Nat) : Bool :=
  0xDC00 ≤ n && n ≤ 0xDFFF

/-- The character of a pair of 16-bit units. -/
def joinPair (high low : Nat) : Char :=
  Char.ofNat (0x10000 + (high - 0xD800) * 0x400 + (low - 0xDC00))

/-- Reads the second half of a pair, after the six characters of the first. -/
def readLowHalf (high : Nat) (c : Cursor) : Except Fault Char :=
  match c.rest with
  | [] => c.failHere .endInText
  | '\\' :: [] => (c.skip 1).failHere .endInText
  | '\\' :: 'u' :: _ => do
    let low ← readFourHex (c.skip 2)
    if isLowHalf low then .ok (joinPair high low) else (c.skip 6).failHere .brokenPair
  | '\\' :: _ :: _ => (c.skip 1).failNext .halfPair
  | _ :: _ => c.failNext .halfPair

/-- The characters with a one-letter escape. -/
def shortEscape? (c : Char) : Option Char :=
  if c = '"' ∨ c = '\\' ∨ c = '/' then some c
  else if c = 'b' then some '\x08'
  else if c = 'f' then some '\x0c'
  else if c = 'n' then some '\n'
  else if c = 'r' then some '\r'
  else if c = 't' then some '\t'
  else none

/-- Reads an escape after its backslash: the character it stands for and its length. -/
def readEscape (c : Cursor) : Except Fault (Char × Nat) :=
  match c.rest with
  | [] => c.failHere .endInText
  | 'u' :: _ => do
    let unit ← readFourHex (c.skip 1)
    if isLowHalf unit then (c.skip 5).failHere .brokenPair
    else if isHighHalf unit then
      let whole ← readLowHalf unit (c.skip 5)
      .ok (whole, 11)
    else .ok (Char.ofNat unit, 5)
  | e :: _ =>
    match shortEscape? e with
    | some ch => .ok (ch, 1)
    | none => c.failNext .invalidEscape

/-- Reads the rest of a text after its opening quote. -/
def readTextBody (acc : List Char) (offset : Nat) (cs : List Char) :
    Except Fault (List Char × Cursor) :=
  match cs with
  | [] => .error ⟨.endInText, offset⟩
  | '"' :: rest => .ok (acc.reverse, ⟨offset + 1, rest⟩)
  | '\\' :: rest =>
    match readEscape ⟨offset + 1, rest⟩ with
    | .error f => .error f
    | .ok (c, n) => readTextBody (c :: acc) (offset + 1 + n) (rest.drop n)
  | c :: rest =>
    if c.toNat < 0x20 then .error ⟨.controlInText, offset + 1⟩
    else readTextBody (c :: acc) (offset + c.utf8Size) rest
termination_by cs.length
decreasing_by
  all_goals simp only [List.length_cons, List.length_drop]; omega

/-- A number as it is read: whole if it fits in 64 bits, else in floating point. -/
inductive Number where
  /-- A whole number without a sign. -/
  | natural (n : Nat)
  /-- A whole number with a minus sign. -/
  | negative (n : Nat)
  /-- Any other number. -/
  | float (x : Float)

/-- The number in floating point. -/
def Number.toFloat : Number → Float
  | .natural n => n.toUInt64.toFloat
  | .negative n => -n.toUInt64.toFloat
  | .float x => x

/-- The number as a found value. -/
def Number.found : Number → Found
  | .natural n => .integer n
  | .negative n => .integer (-(n : Int))
  | .float x => .float x

/-- The largest number that fits in 64 bits. -/
def maxWord : Nat := UInt64.size - 1

/-- Gathers digits in a number as long as it fits in 64 bits: the number and how many digits it
took. -/
def gather (acc : Nat) : List Char → Nat × Nat
  | [] => (acc, 0)
  | d :: ds =>
    let next := 10 * acc + (d.toNat - 48)
    if next ≤ maxWord then
      let (n, used) := gather next ds
      (n, used + 1)
    else (acc, 0)

/-- The floating-point power of ten. -/
def powerOfTen (k : Nat) : Float :=
  Float.ofScientific 1 false k

/-- The number `x * 10 ^ e` in floating point, if it is not too large. An exponent that no power
of ten can meet at once is met in steps. -/
def scale? (x : Float) (e : Int) : Option Float :=
  if 0 ≤ e then
    if e ≤ 308 then
      let y := x * powerOfTen e.toNat
      if y.isInf then none else some y
    else if x == 0 then some x
    else none
  else if -308 ≤ e then some (x / powerOfTen (-e).toNat)
  else if x == 0 then some x
  else scale? (x / powerOfTen 308) (e + 308)
termination_by (-e).toNat

/-- The number with these parts. -/
def assemble (minus : Bool) (word : Nat) (e : Int) (c : Cursor) : Except Fault (Number × Cursor) :=
  match scale? word.toUInt64.toFloat e with
  | some x => .ok (.float (if minus then -x else x), c)
  | none => c.failHere .numberTooLarge

/-- How many digits of an exponent are read before it leaves 31 bits, if it does. -/
def exponentOverflow? (acc count : Nat) : List Char → Option Nat
  | [] => none
  | d :: ds =>
    let next := 10 * acc + (d.toNat - 48)
    if count ≠ 0 ∧ next > 2147483647 then some (count + 1)
    else exponentOverflow? next (count + 1) ds

/-- Reads the exponent after its letter. -/
def readExponent (minus : Bool) (word : Nat) (e : Int) (c : Cursor) :
    Except Fault (Number × Cursor) :=
  let (down, c) := match c.rest with
    | '+' :: _ => (false, c.skip 1)
    | '-' :: _ => (true, c.skip 1)
    | _ => (false, c)
  match c.rest with
  | [] => c.failHere .endInValue
  | d :: _ =>
    if !d.isDigit then c.failNext .invalidNumber
    else
      let ds := c.rest.takeWhile Char.isDigit
      match exponentOverflow? 0 0 ds with
      | some count =>
        if word ≠ 0 ∧ !down then (c.skip count).failHere .numberTooLarge
        else .ok (.float (if minus then -0.0 else 0.0), c.skip ds.length)
      | none =>
        let step : Int := Decimal.digitsValue ds
        assemble minus word (if down then e - step else e + step) (c.skip ds.length)

/-- Whether a place stands before the letter of an exponent. -/
def atExponent (c : Cursor) : Bool :=
  match c.rest with
  | d :: _ => d == 'e' || d == 'E'
  | [] => false

/-- Reads the digits after a point and what follows them. -/
def readFraction (minus : Bool) (word : Nat) (e : Int) (c : Cursor) :
    Except Fault (Number × Cursor) :=
  let ds := c.rest.takeWhile Char.isDigit
  if ds.isEmpty then
    c.failNext (if c.rest.isEmpty then .endInValue else .invalidNumber)
  else
    let (word, used) := gather word ds
    let c := c.skip ds.length
    if atExponent c then readExponent minus word (e - used) (c.skip 1)
    else assemble minus word (e - used) c

/-- Reads a number after its sign. -/
def readNumber (minus : Bool) : Reader Number := fun c =>
  match c.rest with
  | [] => c.failHere .endInValue
  | d :: rest =>
    if !d.isDigit then c.failNext .invalidNumber
    else if d = '0' ∧ (rest.head?.any Char.isDigit) then (c.skip 1).failNext .invalidNumber
    else
      let ds := c.rest.takeWhile Char.isDigit
      let (word, used) := gather 0 ds
      let e : Int := ((ds.length - used : Nat) : Int)
      let c := c.skip ds.length
      match c.rest with
      | '.' :: _ => readFraction minus word e (c.skip 1)
      | _ =>
        if atExponent c then readExponent minus word e (c.skip 1)
        else if used < ds.length then assemble minus word e c
        else if !minus then .ok (.natural word, c)
        else if word = 0 ∨ word > UInt64.size / 2 then .ok (.float (-word.toUInt64.toFloat), c)
        else .ok (.negative word, c)

/-- Explains why the next value is not the expected one. Words, numbers and texts are read first, so
that a fault inside them is told instead. -/
def failOnType {α : Type} (expected : String) (c : Cursor) : Except Fault α :=
  let wrong := fun (found : Found) (c : Cursor) => c.failHere (.wrongType found expected)
  match c.rest with
  | 'n' :: _ => do
    let ((), c) ← readWord ['u', 'l', 'l'] (c.skip 1)
    wrong .null c
  | 't' :: _ => do
    let ((), c) ← readWord ['r', 'u', 'e'] (c.skip 1)
    wrong (.boolean true) c
  | 'f' :: _ => do
    let ((), c) ← readWord ['a', 'l', 's', 'e'] (c.skip 1)
    wrong (.boolean false) c
  | '-' :: _ => do
    let (n, c) ← readNumber true (c.skip 1)
    wrong n.found c
  | '"' :: rest => do
    let (s, c) ← readTextBody [] (c.offset + 1) rest
    wrong (.text (String.ofList s)) c
  | '[' :: _ => wrong .list c
  | '\x7b' :: _ => wrong .object c
  | d :: _ =>
    if d.isDigit then do
      let (n, c) ← readNumber false c
      wrong n.found c
    else c.failNext .expectedValue
  | [] => c.failNext .expectedValue

/-- Reads a text, blanks before it skipped. -/
def readText : Reader String := fun c =>
  let c := c.skipBlanks
  match c.rest with
  | [] => c.failNext .endInValue
  | '"' :: rest => do
    let (s, c) ← readTextBody [] (c.offset + 1) rest
    .ok (String.ofList s, c)
  | _ => failOnType "a string" c

/-- Reads a floating-point number, blanks before it skipped. -/
def readFloat : Reader Float := fun c =>
  let c := c.skipBlanks
  match c.rest with
  | [] => c.failNext .endInValue
  | '-' :: _ => do
    let (n, c) ← readNumber true (c.skip 1)
    .ok (n.toFloat, c)
  | d :: _ =>
    if d.isDigit then do
      let (n, c) ← readNumber false c
      .ok (n.toFloat, c)
    else failOnType "f64" c

/-- Reads `null` or a text. -/
def readTextOrNull : Reader (Option String) := fun c =>
  let c := c.skipBlanks
  match c.rest with
  | 'n' :: _ => do
    let ((), c) ← readWord ['u', 'l', 'l'] (c.skip 1)
    .ok (none, c)
  | _ => do
    let (s, c) ← readText c
    .ok (some s, c)

end RateHerald.Json
