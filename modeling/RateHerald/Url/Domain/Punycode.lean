/-!
# Punycode

A label with characters outside of ASCII is written in ASCII by its characters of ASCII, a hyphen,
and a text that tells which characters are to be inserted, and where. Characters are inserted in the
order of their code points, those of one code point from the left to the right. Each insertion is
one number, the count of possible insertions that are passed over since the last one. A number is
written in base thirty-six, least digit first, and a digit that lies below the threshold of its
place ends it; the thresholds follow the numbers that were written before.

## Main declarations

* `encode` and `decode?`.
* `insertions` are the characters to be inserted and their places.
-/

namespace RateHerald.Url.Punycode

/-! ## Digits -/

/-- The digit of a value below thirty-six. -/
def digit (n : Nat) : Char :=
  Char.ofNat (if n < 26 then 97 + n else 22 + n)

/-- The value of a digit. -/
def digitValue? (c : Char) : Option Nat :=
  if 'a' ≤ c ∧ c ≤ 'z' then some (c.toNat - 97)
  else if '0' ≤ c ∧ c ≤ '9' then some (c.toNat - 22)
  else none

/-- The threshold of a place; `place` grows by thirty-six. -/
def threshold (bias place : Nat) : Nat :=
  min 26 (max 1 (place - bias))

theorem threshold_pos (bias place : Nat) : 0 < threshold bias place := by
  unfold threshold
  omega

/-- The bias before the first number. -/
def firstBias : Nat := 72

/-- The bias that suits numbers of the size of `n`. -/
def biasOf (n : Nat) : Nat :=
  if h : 455 < n then 36 + biasOf (n / 35) else 36 * n / (n + 38)
termination_by n
decreasing_by omega

/-- The bias after a number, by which a text came to have `count` characters. -/
def nextBias (n count : Nat) (isFirst : Bool) : Nat :=
  let n := if isFirst then n / 700 else n / 2
  biasOf (n + n / count)

/-- A number from the digit of a place on. -/
def encodeNumber (bias place n : Nat) : List Char :=
  let t := threshold bias place
  if n < t then [digit n]
  else digit (t + (n - t) % (36 - t)) :: encodeNumber bias (place + 36) ((n - t) / (36 - t))
termination_by n
decreasing_by
  have := threshold_pos bias place
  have := Nat.div_le_self (n - threshold bias place) (36 - threshold bias place)
  omega

/-! ## Encoding -/

/-- Whether a character belongs to ASCII. -/
def isBasic (c : Char) : Bool :=
  c.toNat < 0x80

/-- The characters to be inserted, by their code points, and their places among those that are there
by then, in the order in which they are inserted; `before` are the characters passed already. -/
def insertionsAfter (before : List Char) : List Char → List (Nat × Nat)
  | [] => []
  | c :: rest =>
    let others := insertionsAfter (before ++ [c]) rest
    if isBasic c then others else (c.toNat, (before.filter (· ≤ c)).length) :: others

/-- The characters to be inserted and their places, in the order in which they are inserted. -/
def insertions (cs : List Char) : List (Nat × Nat) :=
  (insertionsAfter [] cs).mergeSort fun a b => a.1 < b.1 || (a.1 = b.1 && a.2 ≤ b.2)

/-- The numbers of insertions into a text of `count` characters, where `code` and `place` are those
that come next. -/
def encodeInsertions (bias code place count : Nat) (isFirst : Bool) :
    List (Nat × Nat) → List Char
  | [] => []
  | (c, p) :: rest =>
    let n := (c - code) * (count + 1) + p - place
    encodeNumber bias 36 n ++
      encodeInsertions (nextBias n (count + 1) isFirst) c (p + 1) (count + 1) false rest

/-- A label in ASCII. -/
def encode (cs : List Char) : List Char :=
  let basic := cs.filter isBasic
  (if basic.isEmpty then [] else basic ++ ['-']) ++
    encodeInsertions firstBias 128 0 basic.length true (insertions cs)

/-! ## Decoding -/

/-- How far the decoding has come. -/
structure Progress where
  /-- The characters that are there. -/
  text : List Char
  /-- The code point of the last insertion. -/
  code : Nat
  /-- The place behind the last insertion. -/
  index : Nat
  /-- The bias of the present number. -/
  bias : Nat
  /-- Whether the present number is the first. -/
  isFirst : Bool
  /-- The place of the present digit. -/
  place : Nat
  /-- What a digit at that place counts. -/
  weight : Nat
  /-- The number as far as it was read. -/
  number : Nat

namespace Progress

/-- The progress before the first number. -/
def ofBasic (basic : List Char) : Progress :=
  ⟨basic, 128, 0, firstBias, true, 36, 1, 0⟩

/-- Inserts the character that the number tells. -/
def insert? (p : Progress) : Option Progress :=
  let count := p.text.length + 1
  let index := p.index + p.number
  let code := p.code + index / count
  if code.isValidChar then
    some ⟨p.text.insertIdx (index % count) (Char.ofNat code), code, index % count + 1,
      nextBias p.number count p.isFirst, false, 36, 1, 0⟩
  else none

/-- Reads one digit. -/
def read? (p : Progress) (c : Char) : Option Progress := do
  let d ← digitValue? c
  let t := threshold p.bias p.place
  let p := { p with number := p.number + d * p.weight }
  if d < t then p.insert?
  else some { p with place := p.place + 36, weight := p.weight * (36 - t) }

end Progress

/-- Reads the numbers of all insertions; the last one must have ended. -/
def decodeInsertions? (p : Progress) (cs : List Char) : Option (List Char) := do
  let p ← cs.foldlM Progress.read? p
  if p.place = 36 then some p.text else none

/-- The label that a text in ASCII stands for. -/
def decode? (cs : List Char) : Option (List Char) :=
  let tail := (cs.reverse.takeWhile (· ≠ '-')).reverse
  let basic := cs.take (cs.length - tail.length - 1)
  if tail.length < cs.length ∧ basic.isEmpty then none
  else decodeInsertions? (.ofBasic basic) tail

end RateHerald.Url.Punycode
