import RateHerald.Proofs.Text.Slices
import RateHerald.Text.Spelling

/-!
# What upper case keeps

Upper case keeps blanks as they are and makes none, so a text may be trimmed before or after it. It
keeps those plain characters that are no letters, and what is in upper case has no small plain
letters.

## Main declarations

* `upperChar_of_isBlank` and `upperChar_of_plain`: what becomes of blanks and of plain characters.
* `trim_upper`: trimming and upper case may change places.
* `isCapital_of_mem_upper`: the plain letters of an upper case are capitals.
-/

namespace RateHerald.Text

variable {c : Char} {cs : List Char}

/-! ## Characters -/

theorem mapCase_blank : ∀ n ∈ blankCodes, mapCase upperExpansions upperRuns n = [n] := by
  decide +kernel

/-- A blank is its own upper case. -/
theorem upperChar_of_isBlank (h : isBlank c = true) : upperChar c = [c] := by
  rw [upperChar_eq_map, mapCase_blank _ (mem_blankCodes h), List.map_singleton, Char.ofNat_toNat]

/-- What is true of the plain characters one by one is true of every plain character. -/
theorem forall_plain {P : Char → Prop} (h : ∀ n < 0x80, P (Char.ofNat n)) (c : Char)
    (hc : c.toNat < 0x80) : P c := by
  have hplain := h c.toNat hc
  rwa [Char.ofNat_toNat] at hplain

theorem upperChar_of_plain (h : c.toNat < 0x80) : upperChar c = [c.toUpper] := by
  rw [upperChar, if_pos h]

theorem toNat_lt_of_isAlphanum (h : c.isAlphanum = true) : c.toNat < 0x80 := by
  delta Char.isAlphanum Char.isAlpha Char.isUpper Char.isLower Char.isDigit at h
  simp only [Bool.or_eq_true, Bool.and_eq_true, decide_eq_true_eq, UInt32.le_iff_toNat_le] at h
  have hcapital : 'Z'.val.toNat = 90 := rfl
  have hsmall : 'z'.val.toNat = 122 := rfl
  have hdigit : '9'.val.toNat = 57 := rfl
  rw [Char.toNat]
  omega

/-- Whether a character is a capital letter or a digit of the plain ones. -/
def isCapital (c : Char) : Bool :=
  ('A' ≤ c && c ≤ 'Z') || ('0' ≤ c && c ≤ '9')

theorem isCapital_of_toUpper : ∀ c : Char, c.toNat < 0x80 → c.isAlphanum = true →
    c.toUpper = c → isCapital c = true :=
  forall_plain (by decide +kernel)

theorem isAlphanum_of_isCapital (h : isCapital c = true) : c.isAlphanum = true := by
  simp only [isCapital, Bool.or_eq_true, Bool.and_eq_true, decide_eq_true_eq] at h
  delta Char.isAlphanum Char.isAlpha Char.isUpper Char.isDigit
  simp only [Bool.or_eq_true, Bool.and_eq_true, decide_eq_true_eq]
  exact h.imp (fun h => .inl h) id

/-- A plain letter or digit that is its own upper case is no small letter. -/
theorem isCapital_of_upperChar (hplain : c.isAlphanum = true) (h : upperChar c = [c]) :
    isCapital c = true := by
  have hlt := toNat_lt_of_isAlphanum hplain
  rw [upperChar_of_plain hlt, List.cons.injEq] at h
  exact isCapital_of_toUpper c hlt hplain h.1

/-! ## Texts -/

theorem isCapital_of_mem_upper (hplain : c.isAlphanum = true) (h : c ∈ upper cs) :
    isCapital c = true := by
  obtain ⟨d, -, hd⟩ := List.mem_flatMap.1 h
  exact isCapital_of_upperChar hplain (upperChar_of_mem hd)

theorem Strips.upper {t : List Char} (h : Strips isBlank cs t) :
    Strips isBlank (upper cs) (upper t) := by
  obtain ⟨⟨left, right, rfl, hleft, hright⟩, hhead, hlast⟩ := h
  refine ⟨⟨left, right, ?_, hleft, hright⟩, head?_upper hhead, getLast?_upper hlast⟩
  rw [upper_append, upper_append, upper_eq_self fun c hc => upperChar_of_isBlank (hleft c hc),
    upper_eq_self fun c hc => upperChar_of_isBlank (hright c hc)]

/-- Trimming and upper case may change places. -/
theorem trim_upper (cs : List Char) : trim (upper cs) = upper (trim cs) :=
  strip_eq_iff.2 (strips_strip isBlank cs).upper

end RateHerald.Text
