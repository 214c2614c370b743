import Mathlib.Data.List.Basic
import RateHerald.Proofs.Json.Reading

/-!
# The grammar of JSON

What a JSON text looks like is said here without a word about how it is read: blanks may stand
around every value, a text is a row of characters and escapes, a number has a whole part, perhaps a
fraction and perhaps an exponent, and lists and objects hold values to any depth.

A name or a text stands for characters only if its numbered escapes can be put together: the halves
of a pair stand side by side, the first half first.

## Main declarations

* `Blanks`, `Piece`, `Item` and `Entry` are the parts of a text.
* `IsNumber` and `IsValue` say what a number and a value look like.
* `Piece.decode?` tells the characters that a text stands for.
* `Ends` says that what follows does not continue a value.
-/

namespace RateHerald.Json

/-! ## Blanks -/

/-- Characters that count for nothing between values. -/
structure Blanks where
  /-- The characters. -/
  chars : List Char
  /-- All of them are blank. -/
  isBlank : ∀ c ∈ chars, Cursor.isBlank c = true

namespace Blanks

/-- No blanks at all. -/
def none : Blanks :=
  ⟨[], fun _ h => absurd h List.not_mem_nil⟩

@[simp] theorem chars_none : none.chars = [] := rfl

theorem utf8Size_of_isBlank {c : Char} (h : Cursor.isBlank c = true) : c.utf8Size = 1 := by
  simp only [Cursor.isBlank, Bool.or_eq_true, beq_iff_eq] at h
  rcases h with ((rfl | rfl) | rfl) | rfl <;> rfl

/-- A blank takes one byte. -/
theorem bytes_chars (b : Blanks) : Cursor.bytes b.chars = b.chars.length := by
  obtain ⟨cs, h⟩ := b
  dsimp only
  induction cs with
  | nil => rfl
  | cons c cs ih =>
    obtain ⟨hc, hcs⟩ := List.forall_mem_cons.1 h
    rw [Cursor.bytes_cons, utf8Size_of_isBlank hc, ih hcs, List.length_cons, Nat.add_comm]

/-- Blanks are skipped, and then those that follow. -/
theorem skipBlanks_append (b : Blanks) (offset : Nat) (rest : List Char) :
    Cursor.skipBlanks ⟨offset, b.chars ++ rest⟩ =
      Cursor.skipBlanks ⟨offset + Cursor.bytes b.chars, rest⟩ := by
  rw [Cursor.skipBlanks, Cursor.skipBlanks, List.takeWhile_append_of_pos b.isBlank,
    List.dropWhile_append_of_pos b.isBlank, b.bytes_chars, List.length_append, Nat.add_assoc]

/-- Blanks are skipped up to a character that is not blank. -/
theorem skipBlanks_append_cons (b : Blanks) (offset : Nat) {d : Char} (rest : List Char)
    (h : Cursor.isBlank d = false) :
    Cursor.skipBlanks ⟨offset, b.chars ++ d :: rest⟩ =
      ⟨offset + Cursor.bytes b.chars, d :: rest⟩ := by
  rw [skipBlanks_append, Cursor.skipBlanks_cons _ _ h]

end Blanks

/-- As many characters are skipped as there are in front. -/
theorem Cursor.skip_append (offset : Nat) (cs rest : List Char) :
    skip ⟨offset, cs ++ rest⟩ cs.length = ⟨offset + bytes cs, rest⟩ := by
  rw [skip, List.take_left, List.drop_left]

/-! ## Texts -/

/-- A letter that makes an escape is one byte, and it is not the one before a number. -/
theorem spec_of_shortEscape? {e c : Char} (h : shortEscape? e = some c) :
    e ≠ 'u' ∧ e.utf8Size = 1 := by
  have hletter :
      e = '"' ∨ e = '\\' ∨ e = '/' ∨ e = 'b' ∨ e = 'f' ∨ e = 'n' ∨ e = 'r' ∨ e = 't' := by
    refine Decidable.byContradiction fun hne => ?_
    simp only [not_or] at hne
    simp [shortEscape?, hne] at h
  rcases hletter with rfl | rfl | rfl | rfl | rfl | rfl | rfl | rfl <;> exact ⟨by decide, rfl⟩

theorem utf8Size_of_hexValue? {c : Char} {n : Nat} (h : hexValue? c = some n) :
    c.utf8Size = 1 := by
  have hascii : c.toNat ≤ 127 := by
    unfold hexValue? at h
    simp only [Char.le_def, UInt32.le_iff_toNat_le] at h
    repeat' split at h
    · next hc => exact Nat.le_trans hc.2 (by decide)
    · next hc => exact Nat.le_trans hc.2 (by decide)
    · next hc => exact Nat.le_trans hc.2 (by decide)
    · cases h
  exact Char.utf8Size_eq_one_iff.2 (UInt32.le_iff_toNat_le.2 hascii)

/-- Four digits are four bytes. -/
theorem bytes_of_fourHex? {ds : List Char} {n : Nat} (hlength : ds.length = 4)
    (h : fourHex? ds = some n) : Cursor.bytes ds = 4 := by
  match ds, hlength with
  | [a, b, c, d], _ =>
    simp only [fourHex?, Option.bind_eq_bind, Option.bind_eq_some_iff] at h
    obtain ⟨_, ha, _, hb, _, hc, _, hd, _⟩ := h
    simp [utf8Size_of_hexValue? ha, utf8Size_of_hexValue? hb, utf8Size_of_hexValue? hc,
      utf8Size_of_hexValue? hd]

/-- A piece of a text. -/
inductive Piece where
  /-- A character that stands for itself. -/
  | plain (c : Char) (hcontrol : 0x20 ≤ c.toNat) (hquote : c ≠ '"') (hback : c ≠ '\\')
  /-- A backslash and the letter of a character. -/
  | short (e c : Char) (h : shortEscape? e = some c)
  /-- A backslash, the letter `u` and the number of a 16-bit unit. -/
  | unit (ds : List Char) (n : Nat) (hlength : ds.length = 4) (h : fourHex? ds = some n)

namespace Piece

/-- The piece as it is written. -/
def chars : Piece → List Char
  | plain c _ _ _ => [c]
  | short e _ _ => ['\\', e]
  | unit ds _ _ _ => '\\' :: 'u' :: ds

/-- The characters that the pieces stand for, if they are Unicode text: the first half of a pair is
followed by the second, and a second half by itself stands for nothing. -/
def decode? : List Piece → Option (List Char)
  | [] => some []
  | plain c _ _ _ :: ps => (decode? ps).map (c :: ·)
  | short _ c _ :: ps => (decode? ps).map (c :: ·)
  | unit _ n _ _ :: ps =>
    if isLowHalf n then none
    else if isHighHalf n then
      match ps with
      | unit _ low _ _ :: ps =>
        if isLowHalf low then (decode? ps).map (joinPair n low :: ·) else none
      | _ => none
    else (decode? ps).map (Char.ofNat n :: ·)

end Piece

/-- Pieces between quotes. -/
def quoted (ps : List Piece) : List Char :=
  '"' :: ps.flatMap Piece.chars ++ ['"']

theorem quoted_append (ps : List Piece) (rest : List Char) :
    quoted ps ++ rest = '"' :: (ps.flatMap Piece.chars ++ '"' :: rest) := by
  rw [quoted, List.append_assoc, List.cons_append, List.singleton_append]

/-! ## Numbers -/

/-- A row of digits that is not empty. -/
structure IsDigits (ds : List Char) : Prop where
  /-- There is a digit. -/
  ne_nil : ds ≠ []
  /-- Every character is a digit. -/
  isDigit : ∀ d ∈ ds, d.isDigit = true

/-- The whole part of a number, which begins with a zero only if that is all of it. -/
structure IsWhole (ds : List Char) : Prop extends IsDigits ds where
  /-- Nothing follows a zero at the beginning. -/
  zero : ds.head? = some '0' → ds = ['0']

/-- What stands behind the whole part: nothing, or a point and digits. -/
inductive IsFraction : List Char → Prop
  | none : IsFraction []
  | digits {ds : List Char} (h : IsDigits ds) : IsFraction ('.' :: ds)

/-- What stands at the end of a number: nothing, or a letter, perhaps a sign, and digits. -/
inductive IsExponent : List Char → Prop
  | none : IsExponent []
  | digits {letter : Char} {sign ds : List Char} (hletter : letter = 'e' ∨ letter = 'E')
      (hsign : sign = [] ∨ sign = ['+'] ∨ sign = ['-']) (h : IsDigits ds) :
      IsExponent (letter :: (sign ++ ds))

/-- A number without a sign. -/
inductive IsNumber : List Char → Prop
  | parts {whole fraction exponent : List Char} (hwhole : IsWhole whole)
      (hfraction : IsFraction fraction) (hexponent : IsExponent exponent) :
      IsNumber (whole ++ (fraction ++ exponent))

theorem ne_of_isDigit {d mark : Char} (hd : d.isDigit = true) (hmark : mark.isDigit = false) :
    d ≠ mark := by
  rintro rfl
  rw [hmark] at hd
  cases hd

theorem isBlank_of_isDigit {d : Char} (hd : d.isDigit = true) : Cursor.isBlank d = false := by
  have hne := fun mark hmark => beq_eq_false_iff_ne.2 (@ne_of_isDigit d mark hd hmark)
  simp only [Cursor.isBlank, hne ' ' rfl, hne '\n' rfl, hne '\t' rfl, hne '\r' rfl, Bool.or_self]

/-! ## Values -/

/-- An item of a list: a value and the blanks around it. -/
structure Item where
  /-- The blanks before the value. -/
  before : Blanks
  /-- The value. -/
  value : List Char
  /-- The blanks behind the value. -/
  after : Blanks

/-- The item as it is written. -/
def Item.chars (i : Item) : List Char :=
  i.before.chars ++ (i.value ++ i.after.chars)

/-- A member of an object: its key, a colon, a value, and the blanks around them. -/
structure Entry extends Item where
  /-- The blanks before the key. -/
  margin : Blanks
  /-- The pieces of the key. -/
  key : List Piece
  /-- The blanks before the colon. -/
  gap : Blanks

namespace Entry

/-- The key of a member and its colon. -/
def label (e : Entry) : List Char :=
  quoted e.key ++ (e.gap.chars ++ [':'])

/-- The member as it is written. -/
def chars (e : Entry) : List Char :=
  e.margin.chars ++ (e.label ++ e.toItem.chars)

/-- The name of the member, if its key is Unicode text. -/
def name? (e : Entry) : Option String :=
  (Piece.decode? e.key).map String.ofList

end Entry

/-- A list as it is written. -/
def listChars (items : List Item) (last : Blanks) : List Char :=
  '[' :: (separated (items.map Item.chars) ++ (last.chars ++ [']']))

/-- An object as it is written. -/
def objectChars (entries : List Entry) (last : Blanks) : List Char :=
  '\x7b' :: (separated (entries.map Entry.chars) ++ (last.chars ++ ['\x7d']))

/-- A value, without the blanks around it. -/
inductive IsValue : List Char → Prop
  | null : IsValue ['n', 'u', 'l', 'l']
  | yes : IsValue ['t', 'r', 'u', 'e']
  | no : IsValue ['f', 'a', 'l', 's', 'e']
  | number {cs : List Char} (h : IsNumber cs) : IsValue cs
  | negative {cs : List Char} (h : IsNumber cs) : IsValue ('-' :: cs)
  | text (ps : List Piece) : IsValue (quoted ps)
  | list (items : List Item) (last : Blanks) (h : ∀ i ∈ items, IsValue i.value) :
      IsValue (listChars items last)
  | object (entries : List Entry) (last : Blanks) (h : ∀ e ∈ entries, IsValue e.value) :
      IsValue (objectChars entries last)

/-- The whole part of a number is a number by itself. -/
theorem IsWhole.isValue {ds : List Char} (h : IsWhole ds) : IsValue ds := by
  have hnumber := IsNumber.parts h .none .none
  rw [List.append_nil, List.append_nil] at hnumber
  exact .number hnumber

/-! ## What follows a value or a part of it -/

/-- What follows does not continue a value: it is a blank, a comma, a closing bracket or nothing. -/
def Ends (rest : List Char) : Prop :=
  ∀ d ∈ rest.head?, Cursor.isBlank d = true ∨ d = ',' ∨ d = ']' ∨ d = '\x7d'

theorem ends_nil : Ends [] :=
  fun _ h => by cases h

theorem ends_cons {d : Char} (h : Cursor.isBlank d = true ∨ d = ',' ∨ d = ']' ∨ d = '\x7d')
    (rest : List Char) : Ends (d :: rest) := by
  intro c hc
  obtain rfl := Option.some.inj hc
  exact h

theorem ends_blanks_append (b : Blanks) {rest : List Char} (h : Ends rest) :
    Ends (b.chars ++ rest) := by
  obtain ⟨_ | ⟨c, cs⟩, hcs⟩ := b
  · exact h
  · exact ends_cons (.inl (hcs c List.mem_cons_self)) _

/-- What follows does not continue a row of digits. -/
def Halts (rest : List Char) : Prop :=
  ∀ d ∈ rest.head?, d.isDigit = false

theorem halts_cons {d : Char} (h : d.isDigit = false) (rest : List Char) : Halts (d :: rest) := by
  intro c hc
  obtain rfl := Option.some.inj hc
  exact h

/-- What is true of the seven characters that may follow a value is true of the one that does. -/
theorem Ends.forall_head {P : Char → Prop} {rest : List Char} (h : Ends rest)
    (hP : [' ', '\n', '\t', '\r', ',', ']', '\x7d'].Forall P) : ∀ d ∈ rest.head?, P d := by
  intro d hd
  refine List.forall_iff_forall_mem.1 hP d ?_
  rcases h d hd with hblank | rfl | rfl | rfl
  · simp only [Cursor.isBlank, Bool.or_eq_true, beq_iff_eq] at hblank
    rcases hblank with ((rfl | rfl) | rfl) | rfl <;> decide
  all_goals decide

theorem Ends.halts {rest : List Char} (h : Ends rest) : Halts rest :=
  h.forall_head (by decide)

theorem IsExponent.halts {exponent rest : List Char} (h : IsExponent exponent) (hrest : Ends rest) :
    Halts (exponent ++ rest) := by
  cases h with
  | none => exact hrest.halts
  | digits hletter hsign h => rcases hletter with rfl | rfl <;> exact halts_cons rfl _

theorem utf8Size_of_letter {letter : Char} (h : letter = 'e' ∨ letter = 'E') :
    letter.utf8Size = 1 := by
  rcases h with rfl | rfl <;> rfl

theorem atExponent_of_letter {letter : Char} (h : letter = 'e' ∨ letter = 'E') (offset : Nat)
    (rest : List Char) : atExponent ⟨offset, letter :: rest⟩ = true := by
  rcases h with rfl | rfl <;> rfl

theorem atExponent_of_ends {rest : List Char} (h : Ends rest) (offset : Nat) :
    atExponent ⟨offset, rest⟩ = false := by
  cases rest with
  | nil => rfl
  | cons d rest =>
    have hd : (d == 'e' || d == 'E') = false :=
      h.forall_head (P := fun d => (d == 'e' || d == 'E') = false) (by decide) d rfl
    exact hd

/-- No point comes after the digits of a number that has no fraction. -/
theorem IsExponent.ne_point {exponent rest : List Char} (h : IsExponent exponent)
    (hrest : Ends rest) (digits : List Char) : exponent ++ rest ≠ '.' :: digits := by
  intro heq
  cases h with
  | none =>
    rw [List.nil_append] at heq
    have hne : ∀ d ∈ rest.head?, d ≠ '.' := hrest.forall_head (by decide)
    exact hne '.' (by rw [heq]; rfl) rfl
  | digits hletter hsign h =>
    obtain rfl := (List.cons.inj heq).1
    rcases hletter with hletter | hletter <;> cases hletter

theorem IsFraction.halts {fraction rest : List Char} (h : IsFraction fraction)
    (hrest : Halts rest) : Halts (fraction ++ rest) := by
  cases h with
  | none => exact hrest
  | digits h => exact halts_cons rfl _

/-- The digits in front are all that is taken. -/
theorem IsDigits.takeWhile_append {ds rest : List Char} (h : IsDigits ds) (hrest : Halts rest) :
    (ds ++ rest).takeWhile Char.isDigit = ds := by
  rw [List.takeWhile_append_of_pos h.isDigit]
  cases rest with
  | nil => rw [List.takeWhile_nil, List.append_nil]
  | cons d rest => rw [List.takeWhile_cons_of_neg (by rw [hrest d rfl]; decide), List.append_nil]

/-- Only a zero stands by itself, so no digit follows it. -/
theorem IsWhole.not_zero {d : Char} {ds rest : List Char} (h : IsWhole (d :: ds))
    (hrest : Halts rest) : ¬(d = '0' ∧ (ds ++ rest).head?.any Char.isDigit) := by
  rintro ⟨hzero, hany⟩
  obtain rfl := (List.cons.inj (h.zero (congrArg some hzero))).2
  cases rest with
  | nil => cases hany
  | cons c rest => exact Bool.false_ne_true ((hrest c rfl).symm.trans hany)

theorem IsDigits.exists_cons {ds : List Char} (h : IsDigits ds) :
    ∃ d rest, ds = d :: rest ∧ d.isDigit = true := by
  obtain ⟨d, rest, rfl⟩ := List.exists_cons_of_ne_nil h.ne_nil
  exact ⟨d, rest, rfl, h.isDigit d List.mem_cons_self⟩

theorem IsNumber.exists_cons {cs : List Char} (h : IsNumber cs) :
    ∃ d rest, cs = d :: rest ∧ d.isDigit = true := by
  cases h with
  | parts hwhole _ _ =>
    obtain ⟨d, ds, rfl, hd⟩ := hwhole.exists_cons
    exact ⟨d, _, rfl, hd⟩

/-- No value begins with a blank or a closing bracket. -/
theorem IsValue.exists_cons {v : List Char} (h : IsValue v) :
    ∃ d rest, v = d :: rest ∧ Cursor.isBlank d = false ∧ d ≠ ']' := by
  cases h with
  | number h =>
    obtain ⟨d, rest, rfl, hd⟩ := h.exists_cons
    exact ⟨d, rest, rfl, isBlank_of_isDigit hd, ne_of_isDigit hd rfl⟩
  | _ => exact ⟨_, _, rfl, rfl, by decide⟩

end RateHerald.Json
