import RateHerald.Proofs.Decimal.Ordered

/-!
# Rounded results

Sums, products and quotients of numbers that are not negative come to the nearest number to the
exact result, and to infinity if that is too large. Since rounding keeps the order, so do these
operations.

Zero times infinity is not a number. That is the one thing to look out for: products keep the order
among positive numbers.

## Main declarations

* `IsRounded` says what a number is rounded from, with one lemma for each operation.
* `product_le_product`: products of positive numbers keep the order.
-/

namespace RateHerald.Decimal

open Float.Model Float.Model.UnpackedFloat

variable {m m' n : Nat} {e e' : Int} {accuracy : Accuracy} {x x' y y' z : Float} {p q : ℚ}
  {u : UnpackedFloat}

/-! ## Rounding -/

/-- A number is what an exact number, which is not negative, is rounded to. -/
structure IsRounded (x : Float) (q : ℚ) : Prop where
  /-- The number is not negative. -/
  nonneg : 0 ≤ x
  /-- The number is the nearest one, or infinity. -/
  size_eq : size x = min (nearest q) beyond

/-- Rounding keeps the order. -/
theorem IsRounded.le (h : IsRounded x p) (h' : IsRounded y q) (hp : 0 ≤ p) (hle : p ≤ q) :
    x ≤ y := by
  rw [le_iff_size h.nonneg h'.nonneg, h.size_eq, h'.size_eq]
  exact min_le_min_right _ (nearest_le_nearest hp hle)

theorem nearest_beyond : nearest beyond = beyond :=
  nearest_two_zpow (by decide)

/-- What is a number already is not rounded. -/
theorem IsAmount.nearest_eq (h : IsAmount u) : nearest (partsSize u) = partsSize u := by
  cases h with
  | zero s => exact nearest_zero
  | finite hm h he => exact nearest_units h.lt h.least
  | infinite => exact nearest_beyond

theorem nearest_size (hx : 0 ≤ x) : nearest (size x) = size x :=
  (nonneg_iff_isAmount.1 hx).nearest_eq

theorem isRounded_pack (h : IsAmount u) : IsRounded (.ofModel (.pack u)) (partsSize u) := by
  refine ⟨nonneg_iff_isAmount.2 (h.unpack_ofModel.symm ▸ h), ?_⟩
  rw [size, h.unpack_ofModel, h.nearest_eq, min_eq_left h.size_le]

theorem isRounded_infinite (hq : beyond ≤ q) :
    IsRounded (.ofModel (.pack (.infinity .positive))) q :=
  ⟨(isRounded_pack .infinite).nonneg, (min_eq_right (le_nearest_of_le (by decide) hq)).symm⟩

/-- The last step of rounding moves the unit only. -/
theorem surplus_cutMantissa (m : Nat) (e : Int) (accuracy : Accuracy) :
    (cutMantissa m e accuracy < 2 ^ 53 ∧
      surplus (cutMantissa m e accuracy) (e + surplus m e) = 0) ∨
    (cutMantissa m e accuracy = 2 ^ 53 ∧
      surplus (cutMantissa m e accuracy) (e + surplus m e) = 1) := by
  have hle := cutMantissa_le m e accuracy
  have hsurplus := surplus_eq m e
  have hsurplus' := surplus_eq (cutMantissa m e accuracy) (e + surplus m e)
  rcases hle.eq_or_lt with heq | hlt
  · have hlog : (cutMantissa m e accuracy).log2 = 53 := by rw [heq, Nat.log2_two_pow]
    exact .inr ⟨heq, by omega⟩
  · have hlog : (cutMantissa m e accuracy).log2 ≤ 52 := by
      by_cases hzero : cutMantissa m e accuracy = 0
      · rw [hzero]
        decide
      · exact Nat.le_of_lt_succ ((Nat.log2_lt hzero).2 hlt)
    exact .inl ⟨hlt, by omega⟩

/-- A mantissa with all its digits, or with a unit that is small enough, is rounded to the nearest
number. -/
theorem isRounded_round {q : ℚ} (hq : Tells (.ofMantissaAndAccuracy m accuracy) q)
    (hm : e ≤ -1074 ∨ 2 ^ 52 ≤ m) :
    IsRounded (.ofModel (.pack (roundWithAccuracy .binary64 .positive m e accuracy)))
      (q * 2 ^ e) := by
  have hnearest := cutMantissa_eq_nearest hq hm
  have hsurplus := surplus_eq m e
  have hcut : -1074 < e + surplus m e → 2 ^ 52 ≤ cutMantissa m e accuracy := by
    intro hlarge
    have hge := mantissa_le_roundedMantissa
      (ExtendedMantissa.ofMantissaAndAccuracy m accuracy >>> surplus m e)
    rw [mantissa_shiftRight, mantissa_ofMantissaAndAccuracy] at hge
    exact (le_div_surplus le_rfl hm hlarge).trans hge
  -- the mantissa and the unit that come out, which may be too large
  obtain ⟨hvalue, hlt, hleast, hfull⟩ : (fittedMantissa m e accuracy : ℚ) *
        2 ^ (e + surplus m e + surplus (cutMantissa m e accuracy) (e + surplus m e)) =
        nearest (q * 2 ^ e) ∧ fittedMantissa m e accuracy < 2 ^ 53 ∧
      -1074 ≤ e + surplus m e + surplus (cutMantissa m e accuracy) (e + surplus m e) ∧
      (2 ^ 52 ≤ fittedMantissa m e accuracy ∨
        e + surplus m e + surplus (cutMantissa m e accuracy) (e + surplus m e) = -1074) := by
    rw [fittedMantissa, ← hnearest]
    rcases surplus_cutMantissa m e accuracy with ⟨hlt, hzero⟩ | ⟨heq, hone⟩
    · rw [hzero, Nat.pow_zero, Nat.div_one, Nat.cast_zero, add_zero]
      exact ⟨rfl, hlt, by omega, by omega⟩
    · rw [hone, heq]
      refine ⟨?_, by decide, by omega, .inl (by decide)⟩
      rw [Nat.cast_one, zpow_add_one₀ two_ne_zero]
      norm_num
      ring
  rcases round_cases .positive m e accuracy with ⟨hzero, hround⟩ | ⟨hpos, hround⟩
  · rw [hzero, Nat.cast_zero, zero_mul] at hvalue
    rw [hround]
    refine ⟨(isRounded_pack (.zero .positive)).nonneg, ?_⟩
    rw [(isRounded_pack (.zero .positive)).size_eq, ← hvalue]
    exact congrArg (min · beyond) nearest_zero
  · rw [hround]
    generalize e + surplus m e + surplus (cutMantissa m e accuracy) (e + surplus m e) = e' at *
    rcases le_or_gt e' 971 with hsmall | hlarge
    · have hpacked := isRounded_pack (.finite hpos ⟨hlt, hleast, hfull⟩ hsmall)
      refine ⟨hpacked.nonneg, ?_⟩
      rw [hpacked.size_eq, ← hvalue]
      exact congrArg (min · beyond) (nearest_units hlt hleast)
    · have hinfinite := ofUnits_of_large hpos hlarge
      rw [ofUnits, infinite] at hinfinite
      rw [hinfinite]
      refine ⟨(isRounded_pack .infinite).nonneg, ?_⟩
      rw [(isRounded_infinite le_rfl).size_eq, ← hvalue]
      have hbeyond := beyond_le (hfull.resolve_right (by omega)) hlarge
      rw [min_eq_right hbeyond, nearest_beyond, min_self]

/-- A number of units is rounded, whatever the unit. -/
theorem isRounded_units (hm : 0 < m) (e : Int) :
    IsRounded (.ofModel (.pack (UnpackedFloat.round .binary64 .positive m e))) (m * 2 ^ e) := by
  have htarget := targetExponent_binary64 m e
  generalize hshift : (e - Format.binary64.targetExponent (totalExponent m e)).toNat = shift
  have hround : UnpackedFloat.round .binary64 .positive m e =
      roundWithAccuracy .binary64 .positive (m * 2 ^ shift) (e - (shift : Nat)) .exact := by
    rw [← Nat.shiftLeft_eq, ← hshift]
    rfl
  have hvalue : (m : ℚ) * 2 ^ e = ((m * 2 ^ shift : Nat) : ℚ) * 2 ^ (e - (shift : Nat)) := by
    rw [Nat.cast_mul, Nat.cast_pow, Nat.cast_ofNat, mul_assoc, ← zpow_natCast,
      ← zpow_add₀ two_ne_zero, add_sub_cancel]
  rw [hround, hvalue]
  refine isRounded_round (tells_exact _) ?_
  by_cases hfull : 2 ^ 52 ≤ m * 2 ^ shift
  · exact .inr hfull
  · have hlog : (m * 2 ^ shift).log2 < 52 :=
      (Nat.log2_lt (Nat.mul_pos hm (Nat.two_pow_pos _)).ne').2 (Nat.lt_of_not_le hfull)
    rw [log2_mul_two_pow hm.ne'] at hlog
    exact .inl (by omega)

theorem isRounded_normalize (m : Nat) (e : Int) :
    IsRounded (.ofModel (.pack (UnpackedFloat.normalize .binary64 (m : Int) e .positive)))
      (m * 2 ^ e) := by
  rcases Nat.eq_zero_or_pos m with rfl | hm
  · have hvalue : ((0 : Nat) : ℚ) * 2 ^ e = partsSize (.zero .positive) := by
      rw [Nat.cast_zero, zero_mul, partsSize]
    rw [hvalue]
    exact isRounded_pack (.zero .positive)
  · have hgt : compare (m : Int) 0 = .gt := Int.compare_eq_gt.2 (by omega)
    rw [UnpackedFloat.normalize, hgt]
    exact isRounded_units hm e

/-! ## Operations -/

/-- A number that is not too large has units. -/
theorem IsAmount.cases_of_lt (h : IsAmount u) (hlt : partsSize u < beyond) :
    (∃ s, u = .zero s) ∨ ∃ m e hm, u = .finite .positive m e hm ∧ IsCanonical m e := by
  cases h with
  | zero s => exact .inl ⟨s, rfl⟩
  | finite hm h he => exact .inr ⟨_, _, hm, rfl, h⟩
  | infinite => exact absurd hlt (lt_irrefl _)

/-- Two canonical mantissas have a product with all its digits, or its unit is small enough. -/
theorem IsCanonical.mul (h : IsCanonical m e) (h' : IsCanonical m' e') (hm : 0 < m) (hm' : 0 < m') :
    e + e' ≤ -1074 ∨ 2 ^ 52 ≤ m * m' := by
  rcases h.full with hfull | hleast
  · exact .inr (hfull.trans (Nat.le_mul_of_pos_right m hm'))
  · rcases h'.full with hfull' | hleast'
    · exact .inr (hfull'.trans (Nat.le_mul_of_pos_left m' hm))
    · exact .inl (by omega)

theorem isRounded_mul (hx : 0 ≤ x) (hx' : size x < beyond) (hy : 0 ≤ y) (hy' : size y < beyond) :
    IsRounded (x * y) (size x * size y) := by
  rw [mul_eq]
  rcases (nonneg_iff_isAmount.1 hx).cases_of_lt hx' with ⟨s, hu⟩ | ⟨m, e, hm, hu, hc⟩ <;>
    rcases (nonneg_iff_isAmount.1 hy).cases_of_lt hy' with ⟨s', hv⟩ | ⟨m', e', hm', hv, hc'⟩ <;>
    simp only [size, hu, hv, partsSize, zero_mul, mul_zero]
  · exact isRounded_pack (.zero (s * s'))
  · exact isRounded_pack (.zero (s * Sign.positive))
  · exact isRounded_pack (.zero (Sign.positive * s'))
  · have hvalue : (m : ℚ) * 2 ^ e * (m' * 2 ^ e') = ((m * m' : Nat) : ℚ) * 2 ^ (e + e') := by
      rw [zpow_add₀ two_ne_zero]
      push_cast
      ring
    rw [hvalue]
    exact isRounded_round (tells_exact _) (hc.mul hc' hm hm')

/-- A product with infinity is infinity, unless the other factor is zero. -/
theorem mul_eq_infinite (hx : 0 < x) (hy : 0 < y) (h : beyond ≤ size x ∨ beyond ≤ size y) :
    x * y = .ofModel (.pack (.infinity .positive)) := by
  have hpositive : ∀ z : Float, 0 < z → IsAmount z.toModel.unpack ∧
      ∀ s, z.toModel.unpack ≠ .zero s := by
    intro z hz
    have hzero : (0 : Float).toModel.unpack = .zero .positive := rfl
    rw [lt_iff, hzero] at hz
    have hle : (0 : Float) ≤ z := by
      rw [le_iff, hzero, hz]
      rfl
    refine ⟨nonneg_iff_isAmount.1 hle, fun s hs => ?_⟩
    rw [hs] at hz
    cases hz
  obtain ⟨hu, hne⟩ := hpositive x hx
  obtain ⟨hv, hne'⟩ := hpositive y hy
  rw [mul_eq]
  simp only [size] at h
  generalize x.toModel.unpack = u at hu hne h
  generalize y.toModel.unpack = v at hv hne' h
  cases hu with
  | zero s => exact absurd rfl (hne s)
  | infinite =>
    cases hv with
    | zero s => exact absurd rfl (hne' s)
    | finite hm h he => rfl
    | infinite => rfl
  | finite hm hc he =>
    cases hv with
    | zero s => exact absurd rfl (hne' s)
    | infinite => rfl
    | finite hm' hc' he' =>
      rcases h with hlarge | hlarge
      · exact absurd (lt_beyond hc he) (not_lt.2 hlarge)
      · exact absurd (lt_beyond hc' he') (not_lt.2 hlarge)

/-- Zero times infinity is not a number. -/
theorem isNaN_mul (hx : 0 ≤ x) (hzero : size x = 0) (hy : 0 ≤ y) (hlarge : size y = beyond) :
    (x * y).isNaN = true := by
  have hu := nonneg_iff_isAmount.1 hx
  have hv := nonneg_iff_isAmount.1 hy
  rw [mul_eq]
  rw [size] at hzero hlarge
  generalize x.toModel.unpack = u at hu hzero
  generalize y.toModel.unpack = v at hv hlarge
  cases hu with
  | finite hm h he => exact absurd hzero (mul_pos (by exact_mod_cast hm) (zpow_pos two_pos _)).ne'
  | infinite => exact absurd hzero beyond_pos.ne'
  | zero s =>
    cases hv with
    | zero s' => exact absurd hlarge beyond_pos.ne
    | finite hm h he => exact absurd hlarge (lt_beyond h he).ne
    | infinite => cases s <;> rfl

theorem isRounded_add (hx : 0 ≤ x) (hy : 0 ≤ y) : IsRounded (x + y) (size x + size y) := by
  have hadd : x + y = .ofModel (.pack (UnpackedFloat.add .binary64 x.toModel.unpack
    y.toModel.unpack)) := rfl
  have hu := nonneg_iff_isAmount.1 hx
  have hv := nonneg_iff_isAmount.1 hy
  rw [hadd, size, size]
  generalize x.toModel.unpack = u at hu
  generalize y.toModel.unpack = v at hv
  cases hu with
  | zero s =>
    rw [partsSize, zero_add]
    cases hv with
    | zero s' =>
      rw [UnpackedFloat.add]
      split <;> exact isRounded_pack (.zero _)
    | finite hm h he => exact isRounded_pack (.finite hm h he)
    | infinite => exact isRounded_pack .infinite
  | infinite =>
    have hlarge := le_add_of_nonneg_right (a := beyond) hv.size_nonneg
    cases hv <;> exact isRounded_infinite hlarge
  | @finite m e hm h he =>
    cases hv with
    | zero s =>
      rw [partsSize, partsSize, add_zero]
      exact isRounded_pack (.finite hm h he)
    | infinite =>
      exact isRounded_infinite (le_add_of_nonneg_left (IsAmount.finite hm h he).size_nonneg)
    | @finite m' e' hm' h' he' =>
      -- both mantissas are brought to the smaller unit
      have hsum : UnpackedFloat.add .binary64 (.finite .positive m e hm)
          (.finite .positive m' e' hm') = UnpackedFloat.normalize .binary64
            ((m * 2 ^ (e - min e e').toNat + m' * 2 ^ (e' - min e e').toNat : Nat) : Int)
            (min e e') .positive := by
        rw [← Nat.shiftLeft_eq, ← Nat.shiftLeft_eq]
        rfl
      have hvalue : partsSize (.finite .positive m e hm) + partsSize (.finite .positive m' e' hm') =
          ((m * 2 ^ (e - min e e').toNat + m' * 2 ^ (e' - min e e').toNat : Nat) : ℚ) *
            2 ^ min e e' := by
        rw [partsSize, partsSize, Nat.cast_add, Nat.cast_mul, Nat.cast_mul, Nat.cast_pow,
          Nat.cast_pow, Nat.cast_ofNat, add_mul, mul_assoc, mul_assoc, ← zpow_natCast,
          ← zpow_natCast, ← zpow_add₀ two_ne_zero, ← zpow_add₀ two_ne_zero]
        congr 3 <;> omega
      rw [hsum, hvalue]
      exact isRounded_normalize _ _

theorem isRounded_div (hx : 0 ≤ x) (hx' : size x < beyond) (hy : 0 ≤ y) (hy' : size y < beyond)
    (hpos : 0 < size y) : IsRounded (x / y) (size x / size y) := by
  rw [div_eq]
  rcases (nonneg_iff_isAmount.1 hy).cases_of_lt hy' with ⟨s', hv⟩ | ⟨m', e', hm', hv, hc'⟩
  · rw [size, hv] at hpos
    exact absurd hpos (lt_irrefl _)
  · rcases (nonneg_iff_isAmount.1 hx).cases_of_lt hx' with ⟨s, hu⟩ | ⟨m, e, hm, hu, hc⟩ <;>
      simp only [size, hu, hv, partsSize, zero_div]
    · exact isRounded_pack (.zero (s / Sign.positive))
    · obtain ⟨t, shift, hcore, hshift, ht⟩ := divCore_eq m e m' e'
      have hvalue : (m : ℚ) * 2 ^ e / (m' * 2 ^ e') =
          ((m * 2 ^ shift : Nat) : ℚ) / (m' : ℚ) * 2 ^ t := by
        have hm'' : (m' : ℚ) ≠ 0 := by exact_mod_cast hm'.ne'
        have hsplit : (2 : ℚ) ^ e = 2 ^ shift * 2 ^ t * 2 ^ e' := by
          rw [← zpow_natCast, hshift, ← zpow_add₀ two_ne_zero, ← zpow_add₀ two_ne_zero]
          congr 1
          omega
        have hunit : (2 : ℚ) ^ e' ≠ 0 := (zpow_pos two_pos _).ne'
        rw [hsplit]
        push_cast
        field_simp
      rw [UnpackedFloat.div, hcore, hvalue]
      refine isRounded_round (tells_fraction _ hm') ?_
      -- the quotient was computed with enough digits
      rcases le_or_gt t (-1074) with hsmall | hlarge
      · exact .inl hsmall
      · refine .inr ((Nat.le_div_iff_mul_le hm').2 ?_)
        have hdigits : m.log2 + shift = m'.log2 + 53 ∨ m'.log2 + 53 < m.log2 + shift := by omega
        calc 2 ^ 52 * m' ≤ 2 ^ 52 * 2 ^ (m'.log2 + 1) :=
              Nat.mul_le_mul_left _ Nat.lt_log2_self.le
          _ = 2 ^ (m'.log2 + 53) := by rw [← Nat.pow_add]; congr 1; omega
          _ ≤ 2 ^ (m.log2 + shift) := Nat.pow_le_pow_right Nat.two_pos (by omega)
          _ = 2 ^ m.log2 * 2 ^ shift := Nat.pow_add _ _ _
          _ ≤ m * 2 ^ shift := Nat.mul_le_mul_right _ (Nat.log2_self_le hm.ne')

/-- A number that does not exceed the exact product does not exceed the rounded one. -/
theorem le_product (hx : 0 ≤ x) (hpos : 0 < size x) (hy : 0 ≤ y) (hpos' : 0 < size y) (hz : 0 ≤ z)
    (hle : size z ≤ size x * size y) : 0 ≤ x * y ∧ z ≤ x * y := by
  by_cases hlarge : beyond ≤ size x ∨ beyond ≤ size y
  · rw [mul_eq_infinite ((pos_iff_size hx).2 hpos) ((pos_iff_size hy).2 hpos') hlarge]
    have hinfinite := (isRounded_pack .infinite).nonneg
    exact ⟨hinfinite, (le_iff_size hz hinfinite).2 (size_le_beyond hz)⟩
  · rw [not_or, not_le, not_le] at hlarge
    have hproduct := isRounded_mul hx hlarge.1 hy hlarge.2
    refine ⟨hproduct.nonneg, (le_iff_size hz hproduct.nonneg).2 ?_⟩
    rw [hproduct.size_eq, ← nearest_size hz]
    exact le_min (nearest_le_nearest (size_nonneg hz) hle)
      ((nearest_size hz).le.trans (size_le_beyond hz))

/-- Products of positive numbers keep the order. -/
theorem product_le_product (hx : 0 ≤ x) (hpos : 0 < size x) (hxx' : x ≤ x') (hy : 0 ≤ y)
    (hpos' : 0 < size y) (hyy' : y ≤ y') : 0 ≤ x * y ∧ x * y ≤ x' * y' := by
  have hx' := nonneg_of_le hx hxx'
  have hy' := nonneg_of_le hy hyy'
  rw [le_iff_size hx hx'] at hxx'
  rw [le_iff_size hy hy'] at hyy'
  have hproduct := (le_product hx hpos hy hpos' (z := 0) (by decide) (by positivity)).1
  refine ⟨hproduct, ?_⟩
  by_cases hlarge : beyond ≤ size x' ∨ beyond ≤ size y'
  · rw [mul_eq_infinite ((pos_iff_size hx').2 (hpos.trans_le hxx'))
      ((pos_iff_size hy').2 (hpos'.trans_le hyy')) hlarge,
      le_iff_size hproduct (isRounded_pack .infinite).nonneg]
    exact size_le_beyond hproduct
  · rw [not_or, not_le, not_le] at hlarge
    exact (isRounded_mul hx (hxx'.trans_lt hlarge.1) hy (hyy'.trans_lt hlarge.2)).le
      (isRounded_mul hx' hlarge.1 hy' hlarge.2) (mul_nonneg hpos.le hpos'.le)
      (mul_le_mul_of_nonneg hxx' hyy' hpos.le (hpos'.le.trans hyy'))

/-! ## Natural numbers -/

theorem size_one : size 1.0 = 1 := by
  have hone : (1.0 : Float).toModel.unpack = .finite .positive (2 ^ 52) (-52) (by decide) := by rfl
  rw [size, hone, partsSize, zpow_neg, zpow_ofNat]
  norm_num

/-- What needs no rounding is what it is rounded from. -/
theorem IsRounded.size_of_exact (h : IsRounded x q) (hq : nearest q = q) (hle : q ≤ beyond) :
    size x = q := by
  rw [h.size_eq, hq, min_eq_left hle]

theorem nearest_natCast (hn : n < 2 ^ 53) : nearest n = n := by
  have h := nearest_units (e := 0) hn (by decide)
  rwa [zpow_zero, mul_one] at h

theorem natCast_lt_beyond (hn : n ≤ 2 ^ 64) : (n : ℚ) < beyond := by
  have hle : (n : ℚ) ≤ 2 ^ 64 := by exact_mod_cast hn
  refine hle.trans_lt ?_
  rw [beyond, ← zpow_natCast]
  exact zpow_lt_zpow_right₀ one_lt_two (by decide)

theorem isRounded_ofNat (n : Nat) : IsRounded (Float.ofNat n) n := by
  change IsRounded (Float.ofScientific n false 0) n
  rw [Float.ofScientific]
  split
  · next hsmall =>
    -- a number of at most 53 digits, times one
    have hword : n.toUInt64.toNat = n := by
      rw [Nat.toUInt64, UInt64.toNat_ofNat_of_lt']
      exact Nat.lt_trans hsmall.1 (by decide)
    have hfloat : IsRounded n.toUInt64.toFloat n.toUInt64.toNat := by
      have h := isRounded_normalize n.toUInt64.toNat 0
      rwa [zpow_zero, mul_one] at h
    rw [hword] at hfloat
    have hlt := natCast_lt_beyond (Nat.lt_trans hsmall.1 (by decide)).le
    have hsize := hfloat.size_of_exact (nearest_natCast hsmall.1) hlt.le
    have hone : (0 : Float) ≤ 1.0 := by decide
    have hbeyond : size 1.0 < beyond := by
      rw [size_one, ← Nat.cast_one]
      exact natCast_lt_beyond (by decide)
    have hproduct := isRounded_mul hfloat.nonneg (hsize ▸ hlt) hone hbeyond
    rw [hsize, size_one, mul_one] at hproduct
    exact hproduct
  · next hlarge =>
    have hpos : n ≠ 0 := by
      rintro rfl
      exact hlarge ⟨by decide, by decide⟩
    have hmore : ¬((0 : Int) < -((2 ^ 11 : Int) + n.log2)) := by omega
    have hdigits : n <<< 53 * 10 ^ (0 : Int).toNat = n * 2 ^ 53 := by
      rw [Nat.shiftLeft_eq, Int.toNat_zero, Nat.pow_zero, Nat.mul_one]
    have hvalue : (n : ℚ) = ((n <<< 53 * 10 ^ (0 : Int).toNat : Nat) : ℚ) *
        2 ^ (-((53 : Nat) : Int) + 0) := by
      rw [hdigits, add_zero, zpow_neg, zpow_natCast, Nat.cast_mul, Nat.cast_pow, Nat.cast_ofNat,
        mul_assoc, mul_inv_cancel₀ (by positivity), mul_one]
    have hfull : 2 ^ 52 ≤ n <<< 53 * 10 ^ (0 : Int).toNat := by
      rw [hdigits]
      omega
    rw [hvalue]
    have hround := isRounded_round (tells_exact _) (.inr hfull) (e := -((53 : Nat) : Int) + 0)
    have hscientific : UnpackedFloat.ofScientific .binary64 n 0 = roundWithAccuracy .binary64
        .positive (n <<< 53 * 10 ^ (0 : Int).toNat) (-((53 : Nat) : Int) + 0) .exact := by
      rw [UnpackedFloat.ofScientific, dif_neg hpos, if_neg (by decide), if_neg hmore,
        if_pos le_rfl]
      rfl
    rw [← hscientific] at hround
    exact hround

end RateHerald.Decimal
