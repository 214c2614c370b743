import RateHerald.Proofs.Decimal.Finite

/-!
# The nearest floating-point number

Rounding goes to the nearest whole number of units, and to the even one if two are equally near. A
larger number has a larger unit, and in one unit a larger number is rounded to a larger one, so
rounding keeps the order of numbers. That is all that is needed to compare results of different
computations, however many times they were rounded on the way. How far a number is moved by rounding
is told by its unit.

The unit has no largest value here. Whoever rounds to a floating-point number cuts off what is too
large.

## Main declarations

* `IsNearest` says that a whole number is the nearest one; `IsNearest.le` keeps the order.
* `nearest` rounds to a mantissa of 53 digits; `nearest_le_nearest` keeps the order,
  `abs_nearest_sub_le` bounds the distance, and `nearest_units` finds what needs no rounding.
* `cutMantissa_eq_nearest`: mantissas are rounded so.
-/

namespace RateHerald.Decimal

open Float.Model Float.Model.UnpackedFloat

variable {m n n' : Nat} {e : Int} {em : ExtendedMantissa} {accuracy : Accuracy} {x y p q : ℚ}

/-! ## Whole numbers -/

/-- No whole number is nearer, and the even one is taken of two that are equally near. -/
structure IsNearest (n : Nat) (x : ℚ) : Prop where
  /-- The distance is half a unit at most. -/
  near : |(n : ℚ) - x| ≤ 1 / 2
  /-- In the middle between two whole numbers it is the even one. -/
  even : |(n : ℚ) - x| = 1 / 2 → n % 2 = 0

/-- Rounding keeps the order. -/
theorem IsNearest.le (h : IsNearest n x) (h' : IsNearest n' y) (hle : x ≤ y) : n ≤ n' := by
  by_contra hlt
  have hsucc : (n' : ℚ) + 1 ≤ n := by exact_mod_cast Nat.lt_of_not_le hlt
  obtain ⟨hlow, hhigh⟩ := abs_le.1 h.near
  obtain ⟨hlow', hhigh'⟩ := abs_le.1 h'.near
  -- both are in the middle between the two whole numbers, and one of these is odd
  have hmiddle : |(n : ℚ) - x| = 1 / 2 := by rw [abs_of_nonneg] <;> linarith
  have hmiddle' : |(n' : ℚ) - y| = 1 / 2 := by rw [abs_of_nonpos] <;> linarith
  have hnext : n = n' + 1 := by
    have hle : (n : ℚ) ≤ n' + 1 := by linarith
    have hle' : n ≤ n' + 1 := by exact_mod_cast hle
    omega
  have heven := h.even hmiddle
  have heven' := h'.even hmiddle'
  omega

theorem IsNearest.unique (h : IsNearest n x) (h' : IsNearest n' x) : n = n' :=
  Nat.le_antisymm (h.le h' le_rfl) (h'.le h le_rfl)

theorem isNearest_natCast (n : Nat) : IsNearest n n := by
  constructor <;> simp

theorem isNearest_roundHalfEven (num : Nat) {den : Nat} (hden : 0 < den) :
    IsNearest (roundHalfEven num den) (num / den) := by
  have hpos : (0 : ℚ) < den := by exact_mod_cast hden
  have hvalue : (num : ℚ) / den = (num / den : Nat) + ((num % den : Nat) : ℚ) / den := by
    rw [div_eq_iff hpos.ne', add_mul, div_mul_cancel₀ _ hpos.ne', mul_comm]
    exact_mod_cast (Nat.div_add_mod num den).symm
  have hrest : (0 : ℚ) ≤ ((num % den : Nat) : ℚ) / den := by positivity
  rw [hvalue, roundHalfEven]
  split
  · next hlt =>
    have hhalf : ((num % den : Nat) : ℚ) / den < 1 / 2 := by
      rw [div_lt_div_iff₀ hpos two_pos]
      exact_mod_cast (by omega : num % den * 2 < 1 * den)
    constructor <;> rw [sub_add_cancel_left, abs_neg, abs_of_nonneg hrest]
    · exact hhalf.le
    · exact fun heq => absurd heq hhalf.ne
  · split
    · next heq =>
      have hhalf : ((num % den : Nat) : ℚ) / den = 1 / 2 := by
        rw [div_eq_div_iff hpos.ne' two_ne_zero]
        exact_mod_cast (by omega : num % den * 2 = 1 * den)
      rw [hhalf]
      rcases Nat.mod_two_eq_zero_or_one (num / den) with hmod | hmod <;> rw [hmod]
      · constructor <;> norm_num [abs_of_nonneg]
        exact hmod
      · constructor <;> norm_num [abs_of_nonneg]
        omega
    · next hlt hne =>
      have hhalf : 1 / 2 < ((num % den : Nat) : ℚ) / den := by
        rw [div_lt_div_iff₀ two_pos hpos]
        exact_mod_cast (by omega : 1 * den < num % den * 2)
      have hless : ((num % den : Nat) : ℚ) / den < 1 :=
        (div_lt_one hpos).2 (by exact_mod_cast Nat.mod_lt num hden)
      have hdistance : |((num / den + 1 : Nat) : ℚ) -
          ((num / den : Nat) + ((num % den : Nat) : ℚ) / den)| =
          1 - ((num % den : Nat) : ℚ) / den := by
        rw [abs_of_nonneg] <;> push_cast <;> linarith
      constructor <;> rw [hdistance]
      · linarith
      · intro heq
        linarith

/-- What is known of the digits behind a mantissa suffices to round it. -/
theorem Tells.isNearest (h : Tells em x) : IsNearest em.roundedMantissa x := by
  obtain ⟨m, round, sticky⟩ := em
  have hlower := h.lower
  have hupper := h.upper
  have hexact := h.exact_iff
  cases round <;> cases sticky <;>
    simp only [ExtendedMantissa.roundedMantissa, ExtendedMantissa.accuracy,
      Accuracy.roundToNearestEven, Bool.toNat_false, Bool.toNat_true, Nat.cast_zero, Nat.cast_one,
      zero_div, add_zero, true_iff, reduceCtorEq, false_iff] at hlower hupper hexact ⊢
  · -- nothing is behind the mantissa
    rw [hexact]
    exact isNearest_natCast m
  · constructor <;> rw [abs_of_nonpos (by linarith)]
    · linarith
    · intro heq
      linarith
  · -- just half a unit is behind it
    rw [hexact]
    rcases Nat.mod_two_eq_zero_or_one m with hmod | hmod <;> rw [hmod]
    · constructor <;> norm_num [abs_of_nonneg]
      exact hmod
    · constructor <;> norm_num [abs_of_nonneg]
      omega
  · have hless : (m : ℚ) + 1 / 2 < x := lt_of_le_of_ne hlower (Ne.symm hexact)
    have hdistance : |((m + 1 : Nat) : ℚ) - x| = m + 1 - x := by
      rw [abs_of_nonneg] <;> push_cast <;> linarith
    constructor <;> rw [hdistance]
    · linarith
    · intro heq
      linarith

/-- The nearest whole number. -/
def whole (x : ℚ) : Nat :=
  roundHalfEven x.num.toNat x.den

theorem isNearest_whole (hx : 0 ≤ x) : IsNearest (whole x) x := by
  have hnum : ((x.num.toNat : Nat) : ℚ) = x.num := by
    exact_mod_cast Int.toNat_of_nonneg (Rat.num_nonneg.2 hx)
  have h := isNearest_roundHalfEven x.num.toNat x.den_pos
  rwa [hnum, Rat.num_div_den] at h

theorem whole_eq (h : IsNearest n x) (hx : 0 ≤ x) : whole x = n :=
  (isNearest_whole hx).unique h

theorem whole_le_whole (hx : 0 ≤ x) (hle : x ≤ y) : whole x ≤ whole y :=
  (isNearest_whole hx).le (isNearest_whole (hx.trans hle)) hle

@[simp] theorem whole_natCast (n : Nat) : whole n = n :=
  whole_eq (isNearest_natCast n) (Nat.cast_nonneg n)

/-! ## Units -/

/-- The unit in which a number is rounded is this power of two: a full mantissa has 53 digits, and
no unit is smaller than `2 ^ -1074`. -/
def unitOf (q : ℚ) : ℤ :=
  max (Int.log 2 q - 52) (-1074)

theorem unitOf_le_unitOf (hp : 0 < p) (hle : p ≤ q) : unitOf p ≤ unitOf q := by
  have hlog := Int.log_mono_right (b := 2) hp hle
  rw [unitOf, unitOf]
  omega

/-- The unit of a number below a power of two. -/
theorem unitOf_le (hq : 0 < q) (hlt : q < 2 ^ (e + 53)) (he : -1074 ≤ e) : unitOf q ≤ e := by
  have hlog : Int.log 2 q < e + 53 :=
    (Int.lt_zpow_iff_log_lt (by decide) hq).1 (by exact_mod_cast hlt)
  rw [unitOf]
  omega

theorem lt_two_zpow_unitOf (q : ℚ) : q < 2 ^ (53 + unitOf q) := by
  have hlt := Int.lt_zpow_succ_log_self (b := 2) (by decide) q
  refine lt_of_lt_of_le (by exact_mod_cast hlt) (zpow_le_zpow_right₀ one_le_two ?_)
  rw [unitOf]
  omega

/-- Above the smallest unit the mantissa is full. -/
theorem two_zpow_unitOf_le (hq : 0 < q) (hunit : -1074 < unitOf q) :
    (2 : ℚ) ^ (52 + unitOf q) ≤ q := by
  have hle := Int.zpow_log_le_self (b := 2) (by decide) hq
  have hlog : 52 + unitOf q = Int.log 2 q := by
    rw [unitOf] at hunit ⊢
    omega
  rw [hlog]
  exact_mod_cast hle

/-- The nearest number that can be written with a mantissa of 53 digits. -/
def nearest (q : ℚ) : ℚ :=
  whole (q / 2 ^ unitOf q) * 2 ^ unitOf q

theorem nearest_nonneg (q : ℚ) : 0 ≤ nearest q :=
  mul_nonneg (Nat.cast_nonneg _) (zpow_pos two_pos _).le

@[simp] theorem nearest_zero : nearest 0 = 0 := by
  have hwhole : whole 0 = 0 := by exact_mod_cast whole_natCast 0
  rw [nearest, zero_div, hwhole, Nat.cast_zero, zero_mul]

/-- Rounding moves a number by half a unit at most. -/
theorem abs_nearest_sub_le (hq : 0 ≤ q) : |nearest q - q| ≤ 2 ^ unitOf q / 2 := by
  have hpos : (0 : ℚ) < 2 ^ unitOf q := zpow_pos two_pos _
  have hnear := (isNearest_whole (div_nonneg hq hpos.le)).near
  have hsplit : nearest q - q = (whole (q / 2 ^ unitOf q) - q / 2 ^ unitOf q) * 2 ^ unitOf q := by
    rw [nearest, sub_mul, div_mul_cancel₀ _ hpos.ne']
  rw [hsplit, abs_mul, abs_of_pos hpos]
  linarith [mul_le_mul_of_nonneg_right hnear hpos.le]

/-- A whole number of units that does not exceed the mantissas is not rounded. -/
theorem nearest_units (hm : m < 2 ^ 53) (he : -1074 ≤ e) :
    nearest (m * 2 ^ e) = m * 2 ^ e := by
  rcases Nat.eq_zero_or_pos m with rfl | hpos
  · simp
  · have hpow : (0 : ℚ) < 2 ^ e := zpow_pos two_pos _
    have hq : (0 : ℚ) < m * 2 ^ e := mul_pos (by exact_mod_cast hpos) hpow
    have hlt : (m : ℚ) * 2 ^ e < 2 ^ (e + 53) := by
      rw [zpow_add₀ two_ne_zero, mul_comm]
      exact mul_lt_mul_of_pos_left (by exact_mod_cast hm) hpow
    have hunit := unitOf_le hq hlt he
    have hshift : (m : ℚ) * 2 ^ e / 2 ^ unitOf (m * 2 ^ e) =
        (m * 2 ^ (e - unitOf (m * 2 ^ e)).toNat : Nat) := by
      push_cast
      rw [mul_div_assoc, ← zpow_sub₀ two_ne_zero, ← zpow_natCast, Int.toNat_of_nonneg (by omega)]
    rw [nearest, hshift, whole_natCast, ← hshift, div_mul_cancel₀ _ (zpow_pos two_pos _).ne']

theorem nearest_two_zpow (he : -1074 ≤ e) : nearest (2 ^ e) = 2 ^ e := by
  have h := nearest_units (m := 1) (by decide) he
  rwa [Nat.cast_one, one_mul] at h

/-- A number does not leave its unit upwards by more than one digit. -/
theorem nearest_le_two_zpow (hq : 0 ≤ q) : nearest q ≤ 2 ^ (53 + unitOf q) := by
  have hpos : (0 : ℚ) < 2 ^ unitOf q := zpow_pos two_pos _
  have hlt : q / 2 ^ unitOf q ≤ (2 ^ 53 : Nat) := by
    rw [div_le_iff₀ hpos, Nat.cast_pow, Nat.cast_ofNat, ← zpow_natCast, ← zpow_add₀ two_ne_zero]
    exact (lt_two_zpow_unitOf q).le
  have hwhole := whole_le_whole (div_nonneg hq hpos.le) hlt
  rw [whole_natCast] at hwhole
  rw [nearest, zpow_add₀ two_ne_zero]
  exact mul_le_mul_of_nonneg_right (by exact_mod_cast hwhole) hpos.le

theorem two_zpow_le_nearest (hq : 0 < q) (hunit : -1074 < unitOf q) :
    (2 : ℚ) ^ (52 + unitOf q) ≤ nearest q := by
  have hpos : (0 : ℚ) < 2 ^ unitOf q := zpow_pos two_pos _
  have hle : ((2 ^ 52 : Nat) : ℚ) ≤ q / 2 ^ unitOf q := by
    rw [le_div_iff₀ hpos, Nat.cast_pow, Nat.cast_ofNat, ← zpow_natCast, ← zpow_add₀ two_ne_zero]
    exact two_zpow_unitOf_le hq hunit
  have hwhole := whole_le_whole (Nat.cast_nonneg _) hle
  rw [whole_natCast] at hwhole
  rw [nearest, zpow_add₀ two_ne_zero]
  exact mul_le_mul_of_nonneg_right (by exact_mod_cast hwhole) hpos.le

/-- Rounding keeps the order. -/
theorem nearest_le_nearest (hp : 0 ≤ p) (hle : p ≤ q) : nearest p ≤ nearest q := by
  rcases hp.eq_or_lt with rfl | hpos
  · rw [nearest_zero]
    exact nearest_nonneg q
  · rcases (unitOf_le_unitOf hpos hle).eq_or_lt with heq | hlt
    · have hunit : (0 : ℚ) < 2 ^ unitOf q := zpow_pos two_pos _
      rw [nearest, nearest, heq]
      refine mul_le_mul_of_nonneg_right ?_ hunit.le
      exact_mod_cast whole_le_whole (div_nonneg hp hunit.le)
        (div_le_div_of_nonneg_right hle hunit.le)
    · -- the larger unit begins where the smaller one ends
      have hleast : -1074 ≤ unitOf p := le_max_right _ _
      calc nearest p ≤ 2 ^ (53 + unitOf p) := nearest_le_two_zpow hp
        _ ≤ 2 ^ (52 + unitOf q) := zpow_le_zpow_right₀ one_le_two (by omega)
        _ ≤ nearest q := two_zpow_le_nearest (hpos.trans_le hle) (by omega)

theorem le_nearest_of_le (he : -1074 ≤ e) (hle : 2 ^ e ≤ q) : 2 ^ e ≤ nearest q := by
  have h := nearest_le_nearest (zpow_pos two_pos _).le hle
  rwa [nearest_two_zpow he] at h

theorem nearest_le_of_le (he : -1074 ≤ e) (hq : 0 ≤ q) (hle : q ≤ 2 ^ e) : nearest q ≤ 2 ^ e := by
  have h := nearest_le_nearest hq hle
  rwa [nearest_two_zpow he] at h

/-- The nearest number, where the unit is known. -/
theorem nearest_eq (hlow : 2 ^ (52 + e) ≤ q) (hhigh : q < 2 ^ (e + 53)) (he : -1074 ≤ e)
    (h : IsNearest n (q / 2 ^ e)) : nearest q = n * 2 ^ e := by
  have hq : 0 < q := (zpow_pos two_pos _).trans_le hlow
  have hlog : 52 + e ≤ Int.log 2 q :=
    (Int.zpow_le_iff_le_log (by decide) hq).1 (by exact_mod_cast hlow)
  have hunit : unitOf q = e :=
    le_antisymm (unitOf_le hq hhigh he) ((by omega : e ≤ Int.log 2 q - 52).trans (le_max_left _ _))
  rw [nearest, hunit, whole_eq h (div_nonneg hq.le (zpow_pos two_pos _).le)]

/-- A number between zero and a power of two is moved by half the unit below that power. -/
theorem abs_nearest_sub_le_of_le (hq : 0 ≤ q) (hle : q ≤ 2 ^ (e + 53)) (he : -1074 ≤ e) :
    |nearest q - q| ≤ 2 ^ e / 2 := by
  rcases hq.eq_or_lt with rfl | hpos
  · rw [nearest_zero, sub_self, abs_zero]
    positivity
  · rcases hle.eq_or_lt with rfl | hlt
    · rw [nearest_two_zpow (by omega), sub_self, abs_zero]
      positivity
    · refine (abs_nearest_sub_le hq).trans ?_
      have hunit : (2 : ℚ) ^ unitOf q ≤ 2 ^ e :=
        zpow_le_zpow_right₀ one_le_two (unitOf_le hpos hlt he)
      linarith

/-- What is not too small is enlarged by one part in `2 ^ 53` at most. -/
theorem nearest_le_mul (hq : q = 0 ∨ 2 ^ (-1022 : ℤ) ≤ q) : nearest q ≤ q * (1 + 1 / 2 ^ 53) := by
  rcases hq with rfl | hlarge
  · rw [nearest_zero, zero_mul]
  · have hpos : (0 : ℚ) < q := lt_of_lt_of_le (zpow_pos two_pos _) hlarge
    have hlog : -1022 ≤ Int.log 2 q :=
      (Int.zpow_le_iff_le_log (by decide) hpos).1 (by exact_mod_cast hlarge)
    have hunit : unitOf q = Int.log 2 q - 52 := by
      rw [unitOf]
      omega
    have hle : (2 : ℚ) ^ Int.log 2 q ≤ q := by
      exact_mod_cast Int.zpow_log_le_self (b := 2) (by decide) hpos
    have hhalf : (2 : ℚ) ^ unitOf q / 2 = 2 ^ Int.log 2 q * (1 / 2 ^ 53) := by
      rw [hunit, zpow_sub₀ two_ne_zero]
      norm_num
      ring
    have hdistance := (abs_le.1 (abs_nearest_sub_le hpos.le)).2
    have hpart : (2 : ℚ) ^ Int.log 2 q * (1 / 2 ^ 53) ≤ q * (1 / 2 ^ 53) :=
      mul_le_mul_of_nonneg_right hle (by positivity)
    linarith

/-! ## Mantissas -/

/-- The digits that do not fit are those below the unit. -/
theorem surplus_eq_unitOf (hx : Tells (.ofMantissaAndAccuracy m accuracy) x)
    (hm : e ≤ -1074 ∨ 2 ^ 52 ≤ m) (hpos : 0 < x) : e + surplus m e = unitOf (x * 2 ^ e) := by
  have hsurplus := surplus_eq m e
  have hlower := hx.le
  have hupper := hx.lt_succ
  rw [mantissa_ofMantissaAndAccuracy] at hlower hupper
  have hpow : (0 : ℚ) < 2 ^ e := zpow_pos two_pos _
  have hq : 0 < x * 2 ^ e := mul_pos hpos hpow
  rcases Nat.eq_zero_or_pos m with rfl | hm'
  · -- less than the smallest unit
    have hlog : Int.log 2 (x * 2 ^ e) < e := by
      refine (Int.lt_zpow_iff_log_lt (by decide) hq).1 ?_
      rw [Nat.cast_zero, zero_add] at hupper
      exact_mod_cast mul_lt_of_lt_one_left hpow hupper
    rw [Nat.log2_zero] at hsurplus
    rw [unitOf]
    omega
  · have hlog : Int.log 2 (x * 2 ^ e) = m.log2 + e := by
      apply le_antisymm
      · refine Int.lt_add_one_iff.1 ((Int.lt_zpow_iff_log_lt (by decide) hq).1 ?_)
        have hdigits : ((m : ℚ) + 1) ≤ 2 ^ (m.log2 + 1) := by
          exact_mod_cast (Nat.lt_log2_self : m < 2 ^ (m.log2 + 1))
        have hsplit : (2 : ℚ) ^ (m.log2 + e + 1) = 2 ^ (m.log2 + 1) * 2 ^ e := by
          rw [← zpow_natCast, ← zpow_add₀ two_ne_zero]
          congr 1
          push_cast
          ring
        push_cast
        rw [hsplit]
        exact mul_lt_mul_of_pos_right (hupper.trans_le hdigits) hpow
      · refine (Int.zpow_le_iff_le_log (by decide) hq).1 ?_
        have hdigits : (2 : ℚ) ^ m.log2 ≤ m := by
          exact_mod_cast Nat.log2_self_le hm'.ne'
        push_cast
        rw [zpow_add₀ two_ne_zero, zpow_natCast]
        exact mul_le_mul_of_nonneg_right (hdigits.trans hlower) hpow.le
    have hfull : 2 ^ 52 ≤ m → 52 ≤ m.log2 := (Nat.le_log2 hm'.ne').2
    rw [unitOf, hlog]
    omega

/-- A mantissa is rounded to the nearest number. It must have all its digits, or its unit must not
be above the smallest one. -/
theorem cutMantissa_eq_nearest (hx : Tells (.ofMantissaAndAccuracy m accuracy) x)
    (hm : e ≤ -1074 ∨ 2 ^ 52 ≤ m) :
    (cutMantissa m e accuracy : ℚ) * 2 ^ (e + surplus m e) = nearest (x * 2 ^ e) := by
  have hnear := (hx.shiftRight (surplus m e)).isNearest
  have hle := hx.le
  rw [mantissa_ofMantissaAndAccuracy] at hle
  have hnonneg : 0 ≤ x := le_trans (Nat.cast_nonneg m) hle
  have hscale : x / 2 ^ surplus m e = x * 2 ^ e / 2 ^ (e + surplus m e) := by
    rw [zpow_add₀ two_ne_zero, zpow_natCast]
    field_simp
  rcases hnonneg.eq_or_lt with rfl | hpos
  · rw [zero_div] at hnear
    have hzero : cutMantissa m e accuracy = 0 :=
      hnear.unique (by exact_mod_cast isNearest_natCast 0)
    rw [hzero, Nat.cast_zero, zero_mul, zero_mul, nearest_zero]
  · have hcut : whole (x / 2 ^ surplus m e) = cutMantissa m e accuracy :=
      whole_eq hnear (by positivity)
    rw [nearest, ← surplus_eq_unitOf hx hm hpos, ← hscale, hcut]

end RateHerald.Decimal
