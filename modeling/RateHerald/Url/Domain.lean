import RateHerald.Text.Case
import RateHerald.Url.Form
import RateHerald.Url.Domain.Composition
import RateHerald.Url.Domain.Direction
import RateHerald.Url.Domain.ImageTable
import RateHerald.Url.Domain.Joining
import RateHerald.Url.Domain.Punycode

/-!
# Domain names

A domain name is a list of labels with points between them. It is kept in plain letters: characters
are replaced by their images and composed, and a label that still holds others than those of ASCII
is written by `xn--` and its punycode. A label that is written so already must stand for a label
that is its own image.

## Main declarations

* `image?` is what a character becomes.
* `Label` is a label in its two forms, `Label.ofChars?` reads one.
* `toAscii?` is the form of a domain name in plain letters.
-/

namespace RateHerald.Url.Domain

/-! ## Images -/

/-- The images that are listed one by one. -/
def listedImages : List (Char × List Char) :=
  imageLines.flatMap fun line => (line.splitOn " ").filterMap fun word =>
    match word.toList with
    | c :: image => some (c, image)
    | [] => none

/-- The character that a run of characters moves `n` to. -/
def movedBy? (n : Nat) (run : Nat × Nat × Nat × Int) : Option Char :=
  let (first, last, step, distance) := run
  if first ≤ n ∧ n ≤ last ∧ (n - first) % step = 0 then
    some (Char.ofNat ((n : Int) + distance).toNat)
  else none

/-- What a character becomes in a domain name, if it may stand in one. -/
def image? (c : Char) : Option (List Char) :=
  if c.toNat < 0x80 then some [c.toLower]
  else if Text.inRanges ignoredRanges c.toNat then some []
  else if Text.inRanges refusedRanges c.toNat then none
  else
    match imageRuns.findSome? (movedBy? c.toNat) with
    | some image => some [image]
    | none => some ((listedImages.lookup c).getD (Text.lowerChar c))

/-- What a text becomes in a domain name: the images of its characters, composed. -/
def imageOf? (cs : List Char) : Option (List Char) :=
  (cs.mapM image?).map fun images => composed images.flatten

/-! ## Labels -/

/-- Whether no domain name may hold the character. -/
def isForbidden (c : Char) : Bool :=
  c.toNat ≤ 0x20 || c.toNat == 0x7F || c == '#' || c == '/' || c == ':' || c == '<' || c == '>' ||
    c == '?' || c == '@' || c == '[' || c == '\\' || c == ']' || c == '^' || c == '|' || c == '%'

/-- A label as it is read and as it is written. -/
structure Label where
  /-- The label itself. -/
  read : List Char
  /-- The label in plain letters. -/
  written : List Char
deriving Repr, DecidableEq

namespace Label

/-- What stands before the punycode of a label. -/
def punycodeMark : List Char := ['x', 'n', '-', '-']

/-- Whether a label that holds more than plain letters may be read. -/
def isFit (cs : List Char) : Bool :=
  !(cs.head?.any isMark) && joinersFit cs

/-- Reads a label whose characters have been replaced. -/
def ofChars? (cs : List Char) : Option Label :=
  let isPlain := cs.all Punycode.isBasic
  if punycodeMark.isPrefixOf cs then
    match isPlain, Punycode.decode? (cs.drop punycodeMark.length) with
    | true, some read =>
      if !read.all Punycode.isBasic && !read.contains '.' && imageOf? read = some read &&
        isFit read && !punycodeMark.isPrefixOf read then some ⟨read, cs⟩
      else none
    | _, _ => none
  else if isPlain then some ⟨cs, cs⟩
  else if isFit cs then some ⟨cs, punycodeMark ++ Punycode.encode cs⟩
  else none

end Label

/-! ## Names -/

/-- The form of a domain name in plain letters, if it is one. -/
def toAscii? (cs : List Char) : Option (List Char) := do
  let cs ← imageOf? cs
  let labels ← (Form.splitAt '.' cs).mapM Label.ofChars?
  let isMixed := labels.any fun l => l.read.any runsRightToLeft
  let written := ['.'].intercalate (labels.map Label.written)
  if (isMixed && !labels.all fun l => keepsDirection l.read) || written.any isForbidden then none
  else some written

end RateHerald.Url.Domain
