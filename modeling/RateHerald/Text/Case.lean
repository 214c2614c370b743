import RateHerald.Text.CaseTable

/-!
# Letter case

Upper and lower case of a text by the full mappings of Unicode: one character may become several
(`ß` is `SS` in upper case, `ﬁ` is `FI`), and a capital sigma is written differently at the end of
a word. A character with no entry in a table stands for itself.

## Main declarations

* `upperChar` and `upper`: upper case of a character and of a text; the text's is the concatenation
  of its characters'.
* `lowerChar` and `lower`: lower case, with the final sigma.
* `asciiLower` changes the twenty-six plain letters only.
-/

namespace RateHerald.Text

/-- The image of a code point under a mapping kept as expansions and runs. -/
def mapCase (expansions : List (Nat × List Nat)) (runs : List CaseRun) (n : Nat) : List Nat :=
  match expansions.lookup n with
  | some image => image
  | none => [(runs.findSome? (·.image? n)).getD n]

/-- Upper case of one character. -/
def upperChar (c : Char) : List Char :=
  if c.toNat < 0x80 then [c.toUpper]
  else (mapCase upperExpansions upperRuns c.toNat).map Char.ofNat

/-- Upper case of a text. -/
def upper (cs : List Char) : List Char :=
  cs.flatMap upperChar

/-- Lower case of one character, its place in a word left aside. -/
def lowerChar (c : Char) : List Char :=
  if c.toNat < 0x80 then [c.toLower]
  else (mapCase lowerExpansions lowerRuns c.toNat).map Char.ofNat

/-- Whether the first character that is not passed over has a case. -/
def casedNext (cs : List Char) : Bool :=
  match cs.dropWhile fun c => inRanges caseIgnorableRanges c.toNat with
  | [] => false
  | c :: _ => inRanges casedRanges c.toNat

/-- Lower case of a text that follows the characters `before`, the nearest first. A capital sigma
with a letter before it and none after it ends its word. -/
def lowerAfter (before : List Char) : List Char → List Char
  | [] => []
  | c :: rest =>
    let image :=
      if c = 'Σ' then [if casedNext before && !casedNext rest then 'ς' else 'σ'] else lowerChar c
    image ++ lowerAfter (c :: before) rest

/-- Lower case of a text. -/
def lower (cs : List Char) : List Char :=
  lowerAfter [] cs

/-- The text with its twenty-six plain capital letters made small. -/
def asciiLower (s : String) : String :=
  String.ofList (s.toList.map Char.toLower)

/-- The text with its twenty-six plain small letters made capital. -/
def asciiUpper (s : String) : String :=
  String.ofList (s.toList.map Char.toUpper)

@[simp] theorem upper_append (cs ds : List Char) : upper (cs ++ ds) = upper cs ++ upper ds :=
  List.flatMap_append

end RateHerald.Text
