import RateHerald.Decimal.Reader
import RateHerald.Proofs.Decimal.Finite
import RateHerald.Proofs.Text.Capitals

/-!
# Texts that stand for no finite number

A decimal is read as the nearest number, so it is finite unless the decimal is `overflow` or more,
however many digits it has. A text is read as a number that is not finite exactly if it is such a
decimal or one of the names, in any letter case and with or without a sign.

## Main declarations

* `Numeral.toRat` is what a decimal stands for; `Numeral.isFinite_toFloat_iff`: whether it is too
  large for a number.
* `NamesNoFinite` says of a text that it stands for no finite number.
* `exists_parse_iff`: these are the texts that are read so.
-/

namespace RateHerald.Decimal

open Float.Model Float.Model.UnpackedFloat

variable {n : Nat}

/-! ## Decimals -/

theorem overflow_le : overflow ≤ 10 ^ (309 : ℤ) := by
  have hunit : (0 : ℚ) ≤ 2 ^ (971 : ℤ) := (zpow_pos two_pos _).le
  calc overflow ≤ 2 ^ (53 : ℤ) * 2 ^ (971 : ℤ) := mul_le_mul_of_nonneg_right (by norm_num) hunit
    _ = 2 ^ (1024 : ℤ) := by rw [← zpow_add₀ two_ne_zero]; rfl
    _ ≤ 10 ^ (309 : ℤ) := by
      rw [zpow_ofNat, zpow_ofNat]
      exact_mod_cast (by decide +kernel : 2 ^ 1024 ≤ 10 ^ 309)

theorem lt_overflow {q : ℚ} (h : q ≤ 10 ^ (292 : ℤ)) : q < overflow := by
  have hunit : (0 : ℚ) < 2 ^ (971 : ℤ) := zpow_pos two_pos _
  calc q ≤ 10 ^ (292 : ℤ) := h
    _ ≤ 2 ^ (971 : ℤ) := by
      rw [zpow_ofNat, zpow_ofNat]
      exact_mod_cast (by decide +kernel : 10 ^ 292 ≤ 2 ^ 971)
    _ = 1 * 2 ^ (971 : ℤ) := (one_mul _).symm
    _ < overflow := mul_lt_mul_of_pos_right (by norm_num) hunit

theorem zpow_ten_pos (e : Int) : (0 : ℚ) < 10 ^ e :=
  zpow_pos (by norm_num) e

/-- A decimal is the nearest number; it is too large for one from the bound on. -/
theorem isFinite_ofModel_ofScientific (m : Nat) (e : Int) :
    (Float.ofModel (Float.Model.ofScientific m e)).isFinite = true ↔
      (m : ℚ) * 10 ^ e < overflow := by
  rw [Float.Model.ofScientific, UnpackedFloat.ofScientific]
  split
  · next hzero =>
    refine iff_of_true isFinite_ofModel_zero ?_
    rw [hzero, Nat.cast_zero, zero_mul]
    exact lt_overflow (zpow_ten_pos _).le
  · next hpos =>
    have hm : (1 : ℚ) ≤ m := by exact_mod_cast Nat.pos_of_ne_zero hpos
    split
    · next hlarge =>
      refine iff_of_false Bool.false_ne_true (not_lt.2 ?_)
      change e > 2 ^ 11 at hlarge
      calc overflow ≤ 10 ^ (309 : ℤ) := overflow_le
        _ ≤ 10 ^ e := zpow_le_zpow_right₀ (by norm_num) (by omega)
        _ ≤ m * 10 ^ e := le_mul_of_one_le_left (zpow_ten_pos e).le hm
    · split
      · next hsmall =>
        refine iff_of_true isFinite_ofModel_zero (lt_overflow ?_)
        change e < -(2 ^ 11 + (m.log2 : Int)) at hsmall
        have hlt : m < 10 ^ (m.log2 + 1) := Nat.lt_of_lt_of_le Nat.lt_log2_self
          (Nat.pow_le_pow_left (by decide) _)
        have hlt' : (m : ℚ) ≤ 10 ^ ((m.log2 + 1 : Nat) : ℤ) := by
          rw [zpow_natCast]
          exact_mod_cast hlt.le
        calc (m : ℚ) * 10 ^ e ≤ 10 ^ ((m.log2 + 1 : Nat) : ℤ) * 10 ^ e :=
              mul_le_mul_of_nonneg_right hlt' (zpow_ten_pos e).le
          _ = 10 ^ (((m.log2 + 1 : Nat) : ℤ) + e) := (zpow_add₀ (by norm_num) _ _).symm
          _ ≤ 10 ^ (292 : ℤ) := zpow_le_zpow_right₀ (by norm_num) (by omega)
      · split
        · next hnonneg =>
          have hvalue : (m : ℚ) * (10 : ℚ) ^ e =
              ((m <<< 53 * 10 ^ e.toNat : Nat) : ℚ) * (2 : ℚ) ^ (-((53 : Nat) : Int) + 0) := by
            have hexponent : (10 : ℚ) ^ e = 10 ^ e.toNat := by
              rw [← zpow_natCast, Int.toNat_of_nonneg hnonneg]
            rw [hexponent, Nat.shiftLeft_eq, add_zero, zpow_neg, zpow_natCast]
            push_cast
            field_simp
            norm_num
          rw [hvalue]
          exact isFinite_ofModel_round (tells_exact _) (.inl (by decide))
        · next hneg =>
          obtain ⟨t, shift, hcore, hshift, -⟩ := divCore_eq m 0 (10 ^ (-e).toNat) 0
          have hvalue : (m : ℚ) * (10 : ℚ) ^ e =
              ((m * 2 ^ shift : Nat) : ℚ) / ((10 ^ (-e).toNat : Nat) : ℚ) * (2 : ℚ) ^ t := by
            have hexponent : (10 : ℚ) ^ e = (10 ^ (-e).toNat)⁻¹ := by
              rw [← zpow_natCast, ← zpow_neg, Int.toNat_of_nonneg (by omega), neg_neg]
            have hunit : (2 : ℚ) ^ t = (2 ^ shift)⁻¹ := by
              rw [← zpow_natCast, ← zpow_neg, hshift]
              congr 1
              omega
            rw [hexponent, hunit]
            push_cast
            field_simp
          rw [hvalue, UnpackedFloat.div, hcore]
          exact isFinite_ofModel_round (tells_fraction _ (Nat.pow_pos (by decide)))
            (.inl (by omega))

theorem of_mem_exactlyRepresentable : ∀ x ∈ Float.exactlyRepresentablePowersOfTen,
    (∃ d, magnitude? x = some d ∧ 0 ≤ d) ∧ IsWithin 22 x := by
  have hall : Float.exactlyRepresentablePowersOfTen.all (fun x =>
      (magnitude? x).any (fun d => 0 ≤ d) && decide (HasUnit 22 x.toModel.unpack)) = true := by
    decide +kernel
  intro x hx
  have hx := Array.all_eq_true_iff_forall_mem.1 hall x hx
  rw [Bool.and_eq_true, Option.any_eq_true, decide_eq_true_iff] at hx
  obtain ⟨⟨d, hd, hd'⟩, hunit⟩ := hx
  exact ⟨⟨d, hd, of_decide_eq_true hd'⟩, hunit⟩

/-- A decimal in its parts is the nearest number. -/
theorem isFinite_ofScientific (m : Nat) (down : Bool) (k : Nat) :
    (Float.ofScientific m down k).isFinite = true ↔
      (m : ℚ) * 10 ^ (if down then -(k : Int) else k) < overflow := by
  rw [Float.ofScientific]
  split
  · next hsmall =>
    obtain ⟨⟨d, hd, hd'⟩, hten⟩ := of_mem_exactlyRepresentable _ (Array.getElem_mem _)
    refine iff_of_true ?_ (lt_overflow ?_)
    · dsimp only
      split
      · exact (isWithin_div (isWithin_toFloat _) hd (by omega : (12 : Int) < 13 + d) (by decide)
          (by decide)).isFinite (by decide)
      · exact (isWithin_mul (isWithin_toFloat _) hten (by decide)).isFinite (by decide)
    · have hm : (m : ℚ) ≤ 10 ^ (16 : ℤ) := by
        rw [zpow_ofNat]
        exact_mod_cast (by omega : m ≤ 10 ^ 16)
      have hten : (10 : ℚ) ^ (if down then -(k : Int) else k) ≤ 10 ^ (22 : ℤ) :=
        zpow_le_zpow_right₀ (by norm_num) (by split <;> omega)
      calc (m : ℚ) * 10 ^ (if down then -(k : Int) else k) ≤ 10 ^ (16 : ℤ) * 10 ^ (22 : ℤ) :=
            mul_le_mul hm hten (zpow_ten_pos _).le (zpow_ten_pos _).le
        _ = 10 ^ (16 + 22 : ℤ) := (zpow_add₀ (by norm_num) _ _).symm
        _ ≤ 10 ^ (292 : ℤ) := zpow_le_zpow_right₀ (by norm_num) (by decide)
  · dsimp only
    rw [isFinite_ofModel_ofScientific]
    cases down with
    | false => rfl
    | true =>
      rw [if_pos rfl, if_pos rfl, Int.negOfNat_eq]
      rfl

/-- The number that a decimal stands for. -/
def Numeral.toRat (n : Numeral) : ℚ :=
  n.value * 10 ^ n.exponent

theorem length_digits (h : n ≠ 0) :
    10 ^ ((digits n).length - 1) ≤ n ∧ n < 10 ^ (digits n).length := by
  have hpos : 0 < (digits n).length := Nat.length_toDigits_pos
  refine ⟨?_, (Nat.length_toDigits_le_iff (by decide) hpos).1 le_rfl⟩
  rcases Nat.eq_zero_or_pos ((digits n).length - 1) with hzero | hmore
  · rw [hzero]
    exact Nat.pos_of_ne_zero h
  · by_contra hlt
    have hle := (Nat.length_toDigits_le_iff (n := n) (b := 10) (by decide) hmore).2 (by omega)
    change (digits n).length ≤ _ at hle
    omega

/-- The place of the first digit bounds a decimal on both sides. -/
theorem Numeral.toRat_bounds (n : Numeral) (h : n.value ≠ 0) :
    (10 : ℚ) ^ (n.exponent + (digits n.value).length - 1) ≤ n.toRat ∧
      n.toRat ≤ (10 : ℚ) ^ (n.exponent + (digits n.value).length) := by
  obtain ⟨hlower, hupper⟩ := length_digits h
  have hpos : 0 < (digits n.value).length := Nat.length_toDigits_pos
  have hsplit : n.exponent + (digits n.value).length - 1 =
      (((digits n.value).length - 1 : Nat) : Int) + n.exponent := by omega
  have hten : (10 : ℚ) ≠ 0 := by norm_num
  rw [Numeral.toRat, hsplit, zpow_add₀ hten, add_comm n.exponent, zpow_add₀ hten, zpow_natCast,
    zpow_natCast]
  constructor
  · exact mul_le_mul_of_nonneg_right (by exact_mod_cast hlower) (zpow_ten_pos _).le
  · exact mul_le_mul_of_nonneg_right (by exact_mod_cast hupper.le) (zpow_ten_pos _).le

/-- A decimal that is read is a finite number if it is below the bound, and only then. -/
theorem Numeral.isFinite_toFloat_iff (n : Numeral) :
    n.toFloat.isFinite = true ↔ n.toRat < overflow := by
  rw [Numeral.toFloat]
  split
  · next hzero =>
    refine iff_of_true (by decide) (lt_overflow ?_)
    rw [Numeral.toRat, hzero, Nat.cast_zero, zero_mul]
    exact (zpow_ten_pos _).le
  · next hpos =>
    obtain ⟨hlower, hupper⟩ := n.toRat_bounds hpos
    split
    · next hlarge =>
      refine iff_of_false (by decide) (not_lt.2 (overflow_le.trans (le_trans ?_ hlower)))
      exact zpow_le_zpow_right₀ (by norm_num) (by omega)
    · split
      · next hsmall =>
        refine iff_of_true (by decide) (lt_overflow (hupper.trans ?_))
        exact zpow_le_zpow_right₀ (by norm_num) (by omega)
      · split
        · next hnonneg =>
          rw [isFinite_ofScientific, Numeral.toRat, if_neg Bool.false_ne_true,
            Int.toNat_of_nonneg hnonneg]
        · next hneg =>
          rw [isFinite_ofScientific, Numeral.toRat, if_pos rfl,
            Int.toNat_of_nonneg (by omega), neg_neg]

/-! ## Texts -/

/-- The names of numbers that are not finite. -/
def boundlessNames : List (List Char) :=
  ["inf".toList, "infinity".toList, "nan".toList]

/-- The text, which has no sign, stands for a number that is not finite. -/
inductive IsBoundless (cs : List Char) : Prop where
  /-- A name in any letter case. -/
  | named (h : cs.map Char.toLower ∈ boundlessNames)
  /-- A decimal that is too large. -/
  | decimal (n : Numeral) (h : Numeral.read? cs = some n) (hlarge : overflow ≤ n.toRat)

/-- The text stands for a number that is not finite. -/
inductive NamesNoFinite : List Char → Prop where
  /-- Without a sign. -/
  | unsigned {cs : List Char} (h : IsBoundless cs) : NamesNoFinite cs
  /-- With a plus sign. -/
  | plus {cs : List Char} (h : IsBoundless cs) : NamesNoFinite ('+' :: cs)
  /-- With a minus sign. -/
  | minus {cs : List Char} (h : IsBoundless cs) : NamesNoFinite ('-' :: cs)

variable {c : Char} {cs : List Char}

theorem read?_eq_none (hdigit : c.isDigit = false) (hpoint : c ≠ '.') (cs : List Char) :
    Numeral.read? (c :: cs) = none := by
  have htake : (c :: cs).takeWhile Char.isDigit = [] := List.takeWhile_cons_of_neg (by simp [hdigit])
  have hdrop : (c :: cs).dropWhile Char.isDigit = c :: cs :=
    List.dropWhile_cons_of_neg (by simp [hdigit])
  rw [Numeral.read?, spanDigits, htake, hdrop]
  dsimp only
  split
  · next heq => exact absurd (List.cons.inj heq).1 hpoint
  · rw [if_pos ⟨rfl, rfl⟩]

/-- No name begins with what a decimal begins with. -/
theorem toLower_of_numeral : ∀ c : Char, c.toNat < 0x80 →
    c.isDigit = true ∨ c = '.' ∨ c = '+' ∨ c = '-' → c.toLower ≠ 'i' ∧ c.toLower ≠ 'n' :=
  Text.forall_plain (by decide +kernel)

theorem head_of_named (h : (c :: cs).map Char.toLower ∈ boundlessNames) :
    c.isDigit = false ∧ c ≠ '.' ∧ c ≠ '+' ∧ c ≠ '-' := by
  have hhead : c.toLower = 'i' ∨ c.toLower = 'n' := by
    have hnames : ∀ name ∈ boundlessNames, name.head? = some 'i' ∨ name.head? = some 'n' := by
      decide
    have hhead := hnames _ h
    rwa [List.map_cons, List.head?_cons, Option.some_inj, Option.some_inj] at hhead
  by_contra hnumeral
  have hc : c.isDigit = true ∨ c = '.' ∨ c = '+' ∨ c = '-' := by
    by_contra hnot
    rw [not_or, not_or, not_or, Bool.not_eq_true] at hnot
    exact hnumeral hnot
  have hlt : c.toNat < 0x80 := by
    rcases hc with hdigit | rfl | rfl | rfl
    · exact Text.toNat_lt_of_isAlphanum (by rw [Char.isAlphanum, hdigit, Bool.or_true])
    all_goals decide
  obtain ⟨hi, hn⟩ := toLower_of_numeral c hlt hc
  exact hhead.elim hi hn

theorem read?_of_named (h : cs.map Char.toLower ∈ boundlessNames) : Numeral.read? cs = none := by
  cases cs with
  | nil => exact absurd h (by decide)
  | cons c cs =>
    obtain ⟨hdigit, hpoint, -⟩ := head_of_named h
    exact read?_eq_none hdigit hpoint cs

theorem IsBoundless.head_ne (h : IsBoundless (c :: cs)) : c ≠ '+' ∧ c ≠ '-' := by
  cases h with
  | named h => exact (head_of_named h).2.2
  | decimal n h hlarge =>
    constructor <;> rintro rfl <;> rw [read?_eq_none (by decide) (by decide)] at h <;> cases h

theorem namesNoFinite_iff : NamesNoFinite cs ↔ IsBoundless (spanSign cs).2 := by
  constructor
  · intro h
    cases h with
    | unsigned h =>
      fun_cases spanSign cs with
      | case1 rest => exact absurd rfl h.head_ne.1
      | case2 rest => exact absurd rfl h.head_ne.2
      | case3 => exact h
    | plus h => exact h
    | minus h => exact h
  · intro h
    revert h
    fun_cases spanSign cs with
    | case1 rest => exact .plus
    | case2 rest => exact .minus
    | case3 => exact .unsigned

theorem named?_of_mem (h : cs.map Char.toLower ∈ boundlessNames) :
    ∃ x, named? cs = some x ∧ x.isFinite = false := by
  rw [named?]
  split
  · exact ⟨_, rfl, by decide⟩
  · next hinfinite =>
    split
    · exact ⟨_, rfl, by decide⟩
    · next hnan => simp_all [boundlessNames]

theorem named?_of_not_mem (h : cs.map Char.toLower ∉ boundlessNames) : named? cs = none := by
  rw [named?]
  simp_all [boundlessNames]

theorem isBoundless_iff : IsBoundless cs ↔
    ∃ x, ((Numeral.read? cs).map Numeral.toFloat <|> named? cs) = some x ∧
      x.isFinite = false := by
  cases hread : Numeral.read? cs with
  | some n =>
    have hlarge : IsBoundless cs ↔ overflow ≤ n.toRat := by
      refine ⟨fun h => ?_, .decimal n hread⟩
      cases h with
      | named h =>
        rw [read?_of_named h] at hread
        cases hread
      | decimal n' h hlarge =>
        rw [hread] at h
        exact Option.some.inj h ▸ hlarge
    rw [hlarge, ← not_lt, ← n.isFinite_toFloat_iff, Bool.not_eq_true]
    exact ⟨fun h => ⟨_, rfl, h⟩, fun ⟨x, hx, h⟩ => Option.some.inj hx ▸ h⟩
  | none =>
    by_cases hnamed : cs.map Char.toLower ∈ boundlessNames
    · exact iff_of_true (.named hnamed) (named?_of_mem hnamed)
    · refine iff_of_false (fun h => ?_) ?_
      · cases h with
        | named h => exact hnamed h
        | decimal n h hlarge =>
          rw [hread] at h
          cases h
      · rintro ⟨x, hx, -⟩
        rw [named?_of_not_mem hnamed] at hx
        cases hx

/-- A text is read as a number that is not finite exactly if it stands for one. -/
theorem exists_parse_iff (t : String) :
    (∃ x, parse t = .ok x ∧ x.isFinite = false) ↔ NamesNoFinite t.toList := by
  rw [namesNoFinite_iff, isBoundless_iff, parse]
  split
  · next hempty =>
    obtain rfl := String.isEmpty_iff.1 hempty
    refine iff_of_false ?_ ?_
    · rintro ⟨x, hx, -⟩
      cases hx
    · rintro ⟨x, hx, -⟩
      cases hx
  · dsimp only
    have hsign : ∀ x : Float, ∀ negative : Bool, (if negative then -x else x).isFinite =
        x.isFinite := fun x negative => by
      cases negative with
      | false => rfl
      | true => exact isFinite_neg
    split
    · next x hx =>
      rw [hx]
      constructor
      · rintro ⟨y, hy, hfinite⟩
        cases hy
        exact ⟨x, rfl, hsign x _ ▸ hfinite⟩
      · rintro ⟨y, hy, hfinite⟩
        cases hy
        exact ⟨_, rfl, (hsign x _).trans hfinite⟩
    · next hnone =>
      rw [hnone]
      exact iff_of_false (fun ⟨x, hx, _⟩ => nomatch hx) (fun ⟨x, hx, _⟩ => nomatch hx)

end RateHerald.Decimal
