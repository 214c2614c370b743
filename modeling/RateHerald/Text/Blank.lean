/-!
# Blanks

Which characters count as blank at the ends of a text, and how they are taken off. The set is the
Unicode property `White_Space`, twenty-five characters in ten runs: it holds the no-break space and
the ideographic space, and it does not hold the zero-width ones.

## Main declarations

* `isBlank` is the set, `trim` takes blanks off both ends of a list of characters, `trimmed` of a
  string.
* `isControl` is the class `Cc`.
-/

namespace RateHerald.Text

/-- Whether the character is white space. -/
def isBlank (c : Char) : Bool :=
  let n := c.toNat
  (9 ≤ n && n ≤ 13) || n == 0x20 || n == 0x85 || n == 0xA0 || n == 0x1680 ||
    (0x2000 ≤ n && n ≤ 0x200A) || n == 0x2028 || n == 0x2029 || n == 0x202F || n == 0x205F ||
    n == 0x3000

/-- Whether the character is a control character. -/
def isControl (c : Char) : Bool :=
  c.toNat < 0x20 || (0x7F ≤ c.toNat && c.toNat ≤ 0x9F)

/-- The list without the longest tail of characters that satisfy `p`. -/
def dropEnd (p : Char → Bool) (cs : List Char) : List Char :=
  (cs.reverse.dropWhile p).reverse

/-- The list without the characters that satisfy `p` at both ends. -/
def strip (p : Char → Bool) (cs : List Char) : List Char :=
  dropEnd p (cs.dropWhile p)

/-- The list without blanks at both ends. -/
def trim (cs : List Char) : List Char :=
  strip isBlank cs

/-- The string without blanks at both ends. -/
def trimmed (s : String) : String :=
  String.ofList (trim s.toList)

/-- Whether the string has a character that is not blank. -/
def isFilled (s : String) : Bool :=
  s.toList.any fun c => !isBlank c

theorem dropEnd_isPrefixOf (p : Char → Bool) (cs : List Char) : dropEnd p cs <+: cs := by
  rw [dropEnd, ← List.reverse_suffix, List.reverse_reverse]
  exact List.dropWhile_suffix p

theorem dropEnd_eq_self {p : Char → Bool} {cs : List Char} (h : cs.getLast?.all (!p ·) = true) :
    dropEnd p cs = cs := by
  rw [← List.head?_reverse] at h
  rw [dropEnd]
  cases hr : cs.reverse with
  | nil => simpa using hr.symm
  | cons c rest =>
    rw [hr, List.head?_cons, Option.all_some, Bool.not_eq_true'] at h
    rw [List.dropWhile_cons_of_neg (by simp [h]), ← hr, List.reverse_reverse]

/-- A text begins with no character that was stripped off. -/
theorem head?_strip (p : Char → Bool) (cs : List Char) : (strip p cs).head?.all (!p ·) = true := by
  have hhead := List.head?_dropWhile_not p cs
  obtain ⟨rest, hrest⟩ := dropEnd_isPrefixOf p (cs.dropWhile p)
  cases hs : strip p cs with
  | nil => rfl
  | cons c ds =>
    rw [strip] at hs
    rw [← hrest, hs, List.cons_append, List.head?_cons] at hhead
    simpa using hhead

/-- A text ends in no character that was stripped off. -/
theorem getLast?_strip (p : Char → Bool) (cs : List Char) :
    (strip p cs).getLast?.all (!p ·) = true := by
  rw [strip, dropEnd, List.getLast?_reverse]
  have h := List.head?_dropWhile_not p (cs.dropWhile p).reverse
  cases hd : ((cs.dropWhile p).reverse.dropWhile p).head? with
  | none => rfl
  | some c =>
    rw [hd] at h
    simpa using h

theorem mem_of_mem_strip {p : Char → Bool} {c : Char} {cs : List Char} (h : c ∈ strip p cs) :
    c ∈ cs :=
  (List.dropWhile_suffix p).subset ((dropEnd_isPrefixOf p _).subset h)

theorem strip_eq_self {p : Char → Bool} {cs : List Char} (hhead : cs.head?.all (!p ·) = true)
    (hlast : cs.getLast?.all (!p ·) = true) : strip p cs = cs := by
  have hkeep : cs.dropWhile p = cs := by
    cases cs with
    | nil => rfl
    | cons c rest =>
      rw [List.head?_cons, Option.all_some, Bool.not_eq_true'] at hhead
      exact List.dropWhile_cons_of_neg (by simp [hhead])
  rw [strip, hkeep, dropEnd_eq_self hlast]

end RateHerald.Text
