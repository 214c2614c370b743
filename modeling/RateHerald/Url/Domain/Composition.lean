import RateHerald.Url.Domain.CompositionTable
import RateHerald.Url.Domain.Marks

/-!
# Composing characters

One text can be written in several ways: a letter with a mark as one character or as two, marks in
any order. In the composed form marks stand in the order of their classes and whatever can be one
character is one.

## Main declarations

* `decompose` takes characters apart, `inOrder` orders marks, `compose` puts characters together.
* `composed` is the composed form of a text.
-/

namespace RateHerald.Url.Domain

/-! ## Single characters -/

/-- The characters that are made of two others, and these two. -/
def composites : List (Char × Char × Char) :=
  compositeLines.flatMap fun line => (line.splitOn " ").filterMap fun word =>
    match word.toList with
    | [c, a, b] => some (c, a, b)
    | _ => none

/-- The first syllable of Hangul. -/
def firstSyllable : Nat := 0xAC00

/-- The first leading consonant of Hangul, one of nineteen. -/
def firstLeading : Nat := 0x1100

/-- The first vowel of Hangul, one of twenty-one. -/
def firstVowel : Nat := 0x1161

/-- What stands for no trailing consonant of Hangul, one of twenty-eight. -/
def noTrailing : Nat := 0x11A7

/-- The two parts of a syllable of Hangul. -/
def syllableParts? (c : Char) : Option (Char × Char) :=
  let n := c.toNat - firstSyllable
  if firstSyllable ≤ c.toNat ∧ n < 19 * 21 * 28 then
    if n % 28 = 0 then
      some (Char.ofNat (firstLeading + n / 588), Char.ofNat (firstVowel + n % 588 / 28))
    else some (Char.ofNat (firstSyllable + n / 28 * 28), Char.ofNat (noTrailing + n % 28))
  else none

/-- The syllable of Hangul with two parts. -/
def syllableOf? (a b : Char) : Option Char :=
  let l := a.toNat - firstLeading
  let v := b.toNat - firstVowel
  let s := a.toNat - firstSyllable
  let t := b.toNat - noTrailing
  if firstLeading ≤ a.toNat ∧ l < 19 ∧ firstVowel ≤ b.toNat ∧ v < 21 then
    some (Char.ofNat (firstSyllable + (l * 21 + v) * 28))
  else if firstSyllable ≤ a.toNat ∧ s < 19 * 21 * 28 ∧ s % 28 = 0 ∧ 0 < t ∧ t < 28 then
    some (Char.ofNat (a.toNat + t))
  else none

/-- The two parts of a character. -/
def parts? (c : Char) : Option (Char × Char) :=
  if c.toNat < 0x80 then none
  else (syllableParts? c).or (composites.lookup c)

/-- The character with two parts. -/
def whole? (a b : Char) : Option Char :=
  if b.toNat < 0x80 then none
  else (syllableOf? a b).or
    ((composites.find? fun (_, a', b') => a' == a && b' == b).map Prod.fst)

/-! ## Texts -/

/-- A character taken apart, its first part again, and so on, at most `depth` times. -/
def decomposeChar : Nat → Char → List Char
  | 0, c => [c]
  | depth + 1, c =>
    match parts? c with
    | some (a, b) => decomposeChar depth a ++ [b]
    | none => [c]

/-- How often the first part of a character can be taken apart. -/
def compositeDepth : Nat := 4

/-- A text with all its characters taken apart. -/
def decompose (cs : List Char) : List Char :=
  cs.flatMap (decomposeChar compositeDepth)

/-- Puts a character behind others, the nearest of which comes first; a mark goes before marks of a
greater class. -/
def settle (c : Char) : List Char → List Char
  | [] => [c]
  | d :: rest =>
    if 0 < markClass c ∧ markClass c < markClass d then d :: settle c rest else c :: d :: rest

/-- A text with its marks in order. -/
def inOrder (cs : List Char) : List Char :=
  (cs.foldl (fun before c => settle c before) []).reverse

/-- Puts the characters behind `head` together with it where they can be; `marks` are the marks
between, the nearest first. A mark is kept from `head` by a mark of its own class. -/
def composeAfter (head : Char) (marks : List Char) : List Char → List Char
  | [] => head :: marks.reverse
  | c :: rest =>
    let isFree := marks.head?.all fun m => markClass m < markClass c
    match if isFree then whole? head c else none with
    | some whole => composeAfter whole marks rest
    | none =>
      if markClass c = 0 then head :: marks.reverse ++ composeAfter c [] rest
      else composeAfter head (c :: marks) rest

/-- A text whose characters are put together where they can be. -/
def compose : List Char → List Char
  | [] => []
  | c :: rest => if markClass c = 0 then composeAfter c [] rest else c :: compose rest

/-- The composed form of a text. -/
def composed (cs : List Char) : List Char :=
  compose (inOrder (decompose cs))

end RateHerald.Url.Domain
