import RateHerald.Proofs.Decimal.Binary

/-!
# When a rounded number is finite

A number that is rounded to floating point is given by a mantissa of any length and by what is known
of the digits behind it: whether there are any and on which side of a half they are. Shifting keeps
this exact, so rounding depends on the number alone. It comes to infinity for the numbers from
`overflow` on, which lies in the middle between the largest floating-point number and the next power
of two, and for no others.

## Main declarations

* `Tells` says of which number a mantissa holds the first digits.
* `isFinite_ofModel_round`: what is rounded is finite below `overflow`.
* `isFinite_mul_of_unit` and `isFinite_div`: products and quotients that are finite.
-/

namespace RateHerald.Decimal

open Float.Model Float.Model.UnpackedFloat

variable {m m' n : Nat} {e e' : Int} {s : Sign} {em : ExtendedMantissa} {accuracy : Accuracy}
  {x : ℚ}

/-! ## Digits of a number -/

/-- The mantissa holds the first digits of a number. Of what is behind them the round bit says
whether it is half a unit or more, and the sticky bit whether it is something else than nothing or
just half a unit. -/
structure Tells (em : ExtendedMantissa) (x : ℚ) : Prop where
  /-- What is told is not too much. -/
  lower : em.mantissa + (em.roundBit.toNat : ℚ) / 2 ≤ x
  /-- Less than half a unit is left. -/
  upper : x < em.mantissa + (em.roundBit.toNat : ℚ) / 2 + 1 / 2
  /-- Whether anything is left. -/
  exact_iff : em.stickyBit = false ↔ x = em.mantissa + (em.roundBit.toNat : ℚ) / 2

theorem tells_exact (m : Nat) : Tells (.ofMantissaAndAccuracy m .exact) m := by
  constructor <;> simp [ExtendedMantissa.ofMantissaAndAccuracy]

/-- The whole part of a fraction, with the remainder compared to a half. -/
theorem tells_fraction (m : Nat) {d : Nat} (hd : 0 < d) :
    Tells (.ofMantissaAndAccuracy (m / d) (accuracyOfFraction (m % d) d)) (m / d) := by
  have hpos : (0 : ℚ) < d := by exact_mod_cast hd
  have hlt : ((m % d : Nat) : ℚ) < d := by exact_mod_cast Nat.mod_lt m hd
  have hdiv : (m : ℚ) / d = (m / d : Nat) + ((m % d : Nat) : ℚ) / d := by
    rw [div_eq_iff hpos.ne', add_mul, div_mul_cancel₀ _ hpos.ne', mul_comm]
    exact_mod_cast (Nat.div_add_mod m d).symm
  rw [accuracyOfFraction, hdiv]
  split
  · next hzero =>
    constructor <;> simp [ExtendedMantissa.ofMantissaAndAccuracy, hzero]
  · next hne =>
    have hrest : 0 < ((m % d : Nat) : ℚ) / d :=
      div_pos (by exact_mod_cast Nat.pos_of_ne_zero hne) hpos
    have hrest' : ((m % d : Nat) : ℚ) / d < 1 := (div_lt_one hpos).2 hlt
    cases hcompare : compare (2 * (m % d)) d with
    | lt =>
      have hhalf : ((m % d : Nat) : ℚ) / d < 1 / 2 := by
        rw [div_lt_div_iff₀ hpos two_pos]
        exact_mod_cast (by have := Nat.compare_eq_lt.1 hcompare; omega : m % d * 2 < 1 * d)
      constructor <;> simp only [ExtendedMantissa.ofMantissaAndAccuracy, Bool.toNat_false,
        Nat.cast_zero, zero_div, add_zero]
      · linarith
      · linarith
      · simp [hrest.ne']
    | eq =>
      have hhalf : ((m % d : Nat) : ℚ) / d = 1 / 2 := by
        rw [div_eq_div_iff hpos.ne' two_ne_zero]
        exact_mod_cast (by have := Nat.compare_eq_eq.1 hcompare; omega : m % d * 2 = 1 * d)
      constructor <;> simp [ExtendedMantissa.ofMantissaAndAccuracy, hhalf]
    | gt =>
      have hhalf : 1 / 2 < ((m % d : Nat) : ℚ) / d := by
        rw [div_lt_div_iff₀ two_pos hpos]
        exact_mod_cast (by have := Nat.compare_eq_gt.1 hcompare; omega : 1 * d < m % d * 2)
      constructor <;> simp only [ExtendedMantissa.ofMantissaAndAccuracy, Bool.toNat_true,
        Nat.cast_one]
      · linarith
      · linarith
      · simpa using hhalf.ne'

theorem Tells.lt_succ (h : Tells em x) : x < em.mantissa + 1 := by
  have hbit : (em.roundBit.toNat : ℚ) ≤ 1 := by exact_mod_cast em.roundBit.toNat_le
  linarith [h.upper]

theorem Tells.le (h : Tells em x) : em.mantissa ≤ x := by
  have hbit : (0 : ℚ) ≤ em.roundBit.toNat := Nat.cast_nonneg _
  linarith [h.lower]

theorem Tells.shiftRightOne (h : Tells em x) : Tells em.shiftRightOne (x / 2) := by
  have hbit : ((em.mantissa % 2 != 0).toNat : ℚ) = (em.mantissa % 2 : Nat) := by
    rcases Nat.mod_two_eq_zero_or_one em.mantissa with hlast | hlast <;> rw [hlast] <;> rfl
  have hhalf : ((em.mantissa / 2 : Nat) : ℚ) + ((em.mantissa % 2 != 0).toNat : ℚ) / 2 =
      (em.mantissa : ℚ) / 2 := by
    have hsplit : (em.mantissa : ℚ) = 2 * (em.mantissa / 2 : Nat) + (em.mantissa % 2 : Nat) := by
      exact_mod_cast (Nat.div_add_mod em.mantissa 2).symm
    rw [hbit]
    linarith
  refine ⟨?_, ?_, ?_⟩ <;> simp only [ExtendedMantissa.shiftRightOne, hhalf]
  · linarith [h.le]
  · linarith [h.lt_succ]
  · -- nothing is behind the digits if nothing was and both bits are zero
    rw [Bool.or_eq_false_iff, h.exact_iff, div_left_inj' two_ne_zero]
    cases hround : em.roundBit with
    | false => simp
    | true =>
      have hlower := h.lower
      simp only [hround, Bool.toNat_true, Nat.cast_one] at hlower
      simp only [Bool.true_eq_false, false_and, false_iff]
      intro heq
      linarith

/-- Shifting loses nothing of what is known. -/
theorem Tells.shiftRight (h : Tells em x) (n : Nat) : Tells (em >>> n) (x / 2 ^ n) := by
  induction n with
  | zero =>
    rw [pow_zero, div_one]
    exact h
  | succ n ih =>
    rw [pow_succ, ← div_div]
    exact ih.shiftRightOne

theorem mantissa_le_roundedMantissa (em : ExtendedMantissa) :
    em.mantissa ≤ em.roundedMantissa := by
  obtain ⟨m, round, sticky⟩ := em
  cases round <;> cases sticky <;>
    simp [ExtendedMantissa.roundedMantissa, ExtendedMantissa.accuracy, Accuracy.roundToNearestEven]

/-- At an odd mantissa a half is rounded up. -/
theorem roundedMantissa_of_odd (h : em.mantissa % 2 = 1) :
    em.roundedMantissa = em.mantissa + em.roundBit.toNat := by
  obtain ⟨m, round, sticky⟩ := em
  cases round <;> cases sticky <;>
    simp_all [ExtendedMantissa.roundedMantissa, ExtendedMantissa.accuracy,
      Accuracy.roundToNearestEven]

/-- What is rounded to an odd number or less. -/
theorem Tells.roundedMantissa_le_iff (h : Tells em x) (hn : n % 2 = 1) :
    em.roundedMantissa ≤ n ↔ x < n + 1 / 2 := by
  have hle := roundedMantissa_le em
  have hge := mantissa_le_roundedMantissa em
  rcases Nat.lt_trichotomy em.mantissa n with hlt | heq | hgt
  · have hsucc : (em.mantissa : ℚ) + 1 ≤ n := by exact_mod_cast hlt
    exact iff_of_true (by omega) (by linarith [h.lt_succ])
  · rw [roundedMantissa_of_odd (heq ▸ hn), heq]
    have hlower := h.lower
    have hupper := h.upper
    rw [heq] at hlower hupper
    cases hround : em.roundBit with
    | false =>
      simp only [hround, Bool.toNat_false, Nat.cast_zero] at hupper
      exact iff_of_true le_rfl (by linarith)
    | true =>
      simp only [hround, Bool.toNat_true, Nat.cast_one] at hlower
      exact iff_of_false (by simp) (by linarith)
  · have hsucc : (n : ℚ) + 1 ≤ em.mantissa := by exact_mod_cast hgt
    exact iff_of_false (by omega) (by linarith [h.le])

/-! ## Finite numbers -/

theorem isFinite_ofModel_pack (u : UnpackedFloat) :
    (Float.ofModel (.pack u)).isFinite =
      (UnpackedFloat.unpack .binary64 (UnpackedFloat.pack .binary64 u)).isFinite :=
  rfl

/-- Numbers are finite as long as their field for the unit is not full. -/
theorem isFinite_unpack_packComponents {exponent : BitVec 11} (h : exponent ≠ -1#11)
    (mantissa : BitVec 52) :
    (UnpackedFloat.unpack .binary64 (packComponents .binary64 s exponent mantissa)).isFinite =
      true := by
  rw [UnpackedFloat.unpack]
  simp only [unpackExponent_packComponents]
  rw [if_neg h]
  split
  · split <;> rfl
  · rfl

theorem isFinite_ofModel_finite (hm : 0 < m) :
    (Float.ofModel (.pack (.finite s m e hm))).isFinite = true ↔ e ≤ 971 := by
  rw [isFinite_ofModel_pack, pack_finite]
  split
  · next hlarge =>
    refine iff_of_false ?_ (by omega)
    cases s <;> decide
  · next hsmall =>
    refine iff_of_true ?_ (by omega)
    split
    · refine isFinite_unpack_packComponents (fun heq => ?_) _
      have hfield := congrArg BitVec.toNat heq
      rw [BitVec.toNat_ofNat, Nat.mod_eq_of_lt (by omega)] at hfield
      change _ = 2047 at hfield
      omega
    · exact isFinite_unpack_packComponents (by decide) _

theorem isFinite_ofModel_zero : (Float.ofModel (.pack (.zero s))).isFinite = true := by
  cases s <;> decide

/-- The least number that is rounded to infinity: half a unit above the largest finite one. -/
def overflow : ℚ :=
  (2 ^ 53 - 1 / 2) * 2 ^ (971 : ℤ)

/-- A mantissa that is cut below a larger unit than `2 ^ limit` has all its digits. -/
theorem le_div_surplus {limit : Int} (hlimit : -1074 ≤ limit) (hm : e ≤ limit ∨ 2 ^ 52 ≤ m)
    (hlarge : limit < e + surplus m e) : 2 ^ 52 ≤ m / 2 ^ surplus m e := by
  have hsurplus := surplus_eq m e
  by_cases hzero : surplus m e = 0
  · rw [hzero, Nat.pow_zero, Nat.div_one]
    exact hm.resolve_left (by omega)
  · have hlog : m.log2 = 52 + surplus m e := by omega
    rw [Nat.le_div_iff_mul_le (Nat.two_pow_pos _), ← Nat.pow_add, ← hlog]
    exact Nat.log2_self_le (by rintro rfl; rw [Nat.log2_zero] at hlog; omega)

/-- Whether the unit of a rounded number is too large. -/
theorem isFinite_ofModel_round_iff (hm : e ≤ 971 ∨ 2 ^ 52 ≤ m) :
    (Float.ofModel (.pack (roundWithAccuracy .binary64 s m e accuracy))).isFinite = true ↔
      e + surplus m e < 971 ∨
        (e + surplus m e = 971 ∧ cutMantissa m e accuracy ≤ 2 ^ 53 - 1) := by
  have hsurplus := surplus_eq m e
  have hsurplus' := surplus_eq (cutMantissa m e accuracy) (e + surplus m e)
  have hle := cutMantissa_le m e accuracy
  have hge : m / 2 ^ surplus m e ≤ cutMantissa m e accuracy := by
    have hge := mantissa_le_roundedMantissa
      (ExtendedMantissa.ofMantissaAndAccuracy m accuracy >>> surplus m e)
    rwa [mantissa_shiftRight, mantissa_ofMantissaAndAccuracy] at hge
  have hlog : (cutMantissa m e accuracy ≤ 2 ^ 53 - 1 → (cutMantissa m e accuracy).log2 ≤ 52) ∧
      (cutMantissa m e accuracy = 2 ^ 53 → (cutMantissa m e accuracy).log2 = 53) := by
    refine ⟨fun hsmall => ?_, fun heq => by rw [heq, Nat.log2_two_pow]⟩
    by_cases hzero : cutMantissa m e accuracy = 0
    · rw [hzero]
      decide
    · exact Nat.le_of_lt_succ ((Nat.log2_lt hzero).2 (by omega))
  rcases round_cases s m e accuracy with ⟨hzero, hround⟩ | ⟨hpos, hround⟩
  · -- a mantissa with all its digits does not vanish
    have hsmall : cutMantissa m e accuracy < 2 ^ 52 := by
      by_contra hlarge
      refine absurd hzero (Nat.ne_of_gt (Nat.div_pos ?_ (Nat.two_pow_pos _)))
      have hpow : 2 ^ surplus (cutMantissa m e accuracy) (e + surplus m e) ≤ 2 ^ 1 :=
        Nat.pow_le_pow_right Nat.two_pos (by omega)
      omega
    have hfull := le_div_surplus (by decide) hm
    rw [hround]
    refine iff_of_true isFinite_ofModel_zero ?_
    omega
  · rw [hround, isFinite_ofModel_finite]
    omega

/-- What a number is rounded to is finite if it is below this bound, and only then. The mantissa
must have all its digits, or its unit must not be too large. -/
theorem isFinite_ofModel_round (hx : Tells (.ofMantissaAndAccuracy m accuracy) x)
    (hm : e ≤ 971 ∨ 2 ^ 52 ≤ m) :
    (Float.ofModel (.pack (roundWithAccuracy .binary64 s m e accuracy))).isFinite = true ↔
      x * 2 ^ e < overflow := by
  -- the number in the unit of the mantissa that is cut
  have hy := hx.shiftRight (surplus m e)
  have hvalue : x * 2 ^ e = x / 2 ^ surplus m e * 2 ^ (e + surplus m e) := by
    rw [zpow_add₀ two_ne_zero, zpow_natCast]
    field_simp
  rw [hvalue, isFinite_ofModel_round_iff hm]
  generalize x / 2 ^ surplus m e = y at hy
  have hcut : (ExtendedMantissa.ofMantissaAndAccuracy m accuracy >>> surplus m e).mantissa =
      m / 2 ^ surplus m e := by
    rw [mantissa_shiftRight, mantissa_ofMantissaAndAccuracy]
  have hpos : (0 : ℚ) < 2 ^ (e + surplus m e) := zpow_pos two_pos _
  have hpos' : (0 : ℚ) < 2 ^ (971 : ℤ) := zpow_pos two_pos _
  rcases lt_trichotomy (e + surplus m e) 971 with hlt | heq | hgt
  · refine iff_of_true (.inl hlt) ?_
    have hupper : y < 2 ^ 53 := by
      have hsucc : ((m / 2 ^ surplus m e : Nat) : ℚ) + 1 ≤ 2 ^ 53 := by
        exact_mod_cast div_surplus_lt m e
      have hlt := hy.lt_succ
      rw [hcut] at hlt
      linarith
    have hunit : (2 : ℚ) ^ (e + surplus m e) * 2 ≤ 2 ^ (971 : ℤ) := by
      rw [← zpow_add_one₀ two_ne_zero]
      exact zpow_le_zpow_right₀ one_le_two (by omega)
    calc y * 2 ^ (e + surplus m e) < 2 ^ 53 * 2 ^ (e + surplus m e) :=
          mul_lt_mul_of_pos_right hupper hpos
      _ ≤ (2 ^ 53 - 1 / 2) * (2 ^ (e + surplus m e) * 2) := by linarith
      _ ≤ overflow := mul_le_mul_of_nonneg_left hunit (by norm_num)
  · rw [heq, cutMantissa, hy.roundedMantissa_le_iff (by decide), overflow,
      mul_lt_mul_iff_of_pos_right hpos']
    norm_num
  · refine iff_of_false (by omega) (not_lt.2 ?_)
    have hfull : (2 : ℚ) ^ 52 ≤ y := by
      have hle := hy.le
      rw [hcut] at hle
      exact le_trans (by exact_mod_cast le_div_surplus (by decide) hm hgt) hle
    have hunit : (2 : ℚ) ^ (971 : ℤ) * 2 ≤ 2 ^ (e + surplus m e) := by
      rw [← zpow_add_one₀ two_ne_zero]
      exact zpow_le_zpow_right₀ one_le_two (by omega)
    calc overflow ≤ 2 ^ 53 * 2 ^ (971 : ℤ) := mul_le_mul_of_nonneg_right (by norm_num) hpos'.le
      _ = 2 ^ 52 * (2 ^ (971 : ℤ) * 2) := by ring
      _ ≤ 2 ^ 52 * 2 ^ (e + surplus m e) := mul_le_mul_of_nonneg_left hunit (by norm_num)
      _ ≤ y * 2 ^ (e + surplus m e) := mul_le_mul_of_nonneg_right hfull hpos.le

end RateHerald.Decimal
