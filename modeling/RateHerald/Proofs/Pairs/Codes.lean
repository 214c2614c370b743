import RateHerald.Currency
import RateHerald.Proofs.Text.Capitals

/-!
# Spellings of a code

Texts name the same currency if one is had from the other by putting blanks around it or taking them
off and by writing it in upper case, however often and in whatever order. That these steps lead to
no other currency rests on the upper case of a text being the same before and after it is trimmed.
That there are enough of them is plain, since the one spelling of a code is reached from each text
by two of them.

## Main declarations

* `Currency.Respells`: one text is had from the other by such steps.
* `Currency.ofText_eq_ofText_iff`: texts name the same currency exactly if they respell each other.
* `Currency.IsPlain` and `Currency.isValid_iff`: the codes that are acceptable.
* `Currency.IsVariant`: the ways to write a code.
-/

namespace RateHerald.Currency

variable {c : Currency} {cs ds es : List Char} {ch : Char}

/-! ## Acceptable codes -/

/-- The code has a character, and all of them are capital letters and digits of the plain ones. -/
def IsPlain (cs : List Char) : Prop :=
  cs ≠ [] ∧ ∀ c ∈ cs, ('A' ≤ c ∧ c ≤ 'Z') ∨ ('0' ≤ c ∧ c ≤ '9')

theorem isCapital_iff : Text.isCapital ch = true ↔
    ('A' ≤ ch ∧ ch ≤ 'Z') ∨ ('0' ≤ ch ∧ ch ≤ '9') := by
  simp only [Text.isCapital, Bool.or_eq_true, Bool.and_eq_true, decide_eq_true_eq]

/-- A code stands in upper case, so that an acceptable one has no small letters. -/
theorem isValid_iff : c.isValid = true ↔ IsPlain c.code.toList := by
  rw [isValid, IsPlain, Bool.and_eq_true, List.all_eq_true, Bool.not_eq_true',
    ← Bool.not_eq_true, String.isEmpty_iff, ← String.toList_eq_nil_iff]
  refine and_congr_right fun _ => forall₂_congr fun ch hch => ?_
  rw [← isCapital_iff]
  constructor
  · intro hplain
    rw [← c.spelled] at hch
    exact Text.isCapital_of_mem_upper hplain hch
  · exact Text.isAlphanum_of_isCapital

theorem isAlphanum_of_isValid (h : c.isValid = true) (hch : ch ∈ c.code.toList) :
    ch.isAlphanum = true := by
  rw [isValid, Bool.and_eq_true, List.all_eq_true] at h
  exact h.2 ch hch

theorem eq_of_code {c c' : Currency} (h : c.code.toList = c'.code.toList) : c = c' := by
  rw [← ofText_code c, ← ofText_code c', String.toList_inj.1 h]

/-! ## The one spelling -/

theorem toList_ofText (s : String) : (ofText s).code.toList = spelling s.toList := by
  rw [ofText, String.toList_ofList]

theorem ofText_eq_iff {s : String} : ofText s = c ↔ spelling s.toList = c.code.toList := by
  rw [← toList_ofText]
  exact ⟨fun h => by rw [h], eq_of_code⟩

theorem spelling_append {left right : List Char} (hleft : ∀ ch ∈ left, Text.isBlank ch = true)
    (hright : ∀ ch ∈ right, Text.isBlank ch = true) (cs : List Char) :
    spelling (left ++ (cs ++ right)) = spelling cs := by
  have htrim : Text.trim (left ++ (cs ++ right)) = Text.trim cs :=
    Text.strip_eq_iff.2 ((Text.strips_strip _ cs).widen hleft hright)
  rw [spelling, htrim, spelling]

theorem spelling_upper (cs : List Char) : spelling (Text.upper cs) = spelling cs := by
  rw [spelling, Text.trim_upper, Text.upper_upper, spelling]

/-! ## Respelling -/

/-- The second text is another spelling of the first one. -/
inductive Respells : List Char → List Char → Prop where
  /-- Blanks are put around it. -/
  | spaced {left right : List Char} (cs : List Char)
      (hleft : ∀ ch ∈ left, Text.isBlank ch = true)
      (hright : ∀ ch ∈ right, Text.isBlank ch = true) : Respells cs (left ++ (cs ++ right))
  /-- It is written in upper case. -/
  | upper (cs : List Char) : Respells cs (Text.upper cs)
  /-- It is had from the other one. -/
  | symm {cs ds : List Char} : Respells cs ds → Respells ds cs
  /-- It is had in several steps. -/
  | trans {cs ds es : List Char} : Respells cs ds → Respells ds es → Respells cs es

theorem Respells.spelling_eq (h : Respells cs ds) : spelling cs = spelling ds := by
  induction h with
  | spaced cs hleft hright => rw [spelling_append hleft hright]
  | upper cs => rw [spelling_upper]
  | symm _ ih => exact ih.symm
  | trans _ _ ih ih' => exact ih.trans ih'

theorem respells_trim (cs : List Char) : Respells cs (Text.trim cs) := by
  obtain ⟨left, right, hcs, hleft, hright⟩ := (Text.strips_strip Text.isBlank cs).around
  have h := Respells.spaced (Text.trim cs) hleft hright
  rw [Text.trim, ← hcs] at h
  exact h.symm

/-- The one spelling of a code is a spelling of it. -/
theorem respells_spelling (cs : List Char) : Respells cs (spelling cs) :=
  (respells_trim cs).trans (.upper _)

theorem spelling_eq_spelling_iff : spelling cs = spelling ds ↔ Respells cs ds := by
  refine ⟨fun h => ?_, Respells.spelling_eq⟩
  have hback := (respells_spelling ds).symm
  rw [← h] at hback
  exact (respells_spelling cs).trans hback

/-- Texts name the same currency exactly if they respell each other. -/
theorem ofText_eq_ofText_iff {s t : String} :
    ofText s = ofText t ↔ Respells s.toList t.toList := by
  rw [ofText_eq_iff, toList_ofText, spelling_eq_spelling_iff]

/-! ## Ways to write a code -/

/-- The text is the code in any letter case, and there may be blanks around it. -/
def IsVariant (c : Currency) (cs : List Char) : Prop :=
  ∃ left body right, cs = left ++ (body ++ right) ∧ (∀ ch ∈ left, Text.isBlank ch = true) ∧
    (∀ ch ∈ right, Text.isBlank ch = true) ∧ Text.upper body = c.code.toList

theorem IsVariant.spelling_eq (h : c.IsVariant cs) : spelling cs = c.code.toList := by
  obtain ⟨left, body, right, rfl, hleft, hright, hbody⟩ := h
  rw [spelling_append hleft hright, ← spelling_upper, hbody, c.spelled]

theorem isVariant_self (c : Currency) : c.IsVariant c.code.toList := by
  refine ⟨[], c.code.toList, [], by simp, by simp, by simp, ?_⟩
  rw [← c.spelled, spelling, Text.upper_upper]

end RateHerald.Currency
