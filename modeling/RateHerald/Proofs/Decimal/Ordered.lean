import RateHerald.Proofs.Decimal.Nearest

/-!
# Numbers that are not negative

A floating-point number that is not negative is compared by what it comes to, where an infinity
counts as the first power of two that is too large. Mantissas are full unless the unit is the
smallest one, so that a number with a larger unit is larger.

## Main declarations

* `IsUnpacked` and `isUnpacked_of`: the parts taken from the bits are those that are unpacked.
* `IsCanonical` says how a mantissa and a unit are kept.
* `size` is what a number comes to; `le_iff_size` and `lt_iff_size` compare by it.
-/

namespace RateHerald.Decimal

open Float.Model Float.Model.UnpackedFloat

variable {m m' : Nat} {e e' : Int} {s : Sign} {x y z : Float} {u v : UnpackedFloat}

/-! ## Parts -/

/-- What the parts of a number say that is unpacked. -/
inductive IsUnpacked : Parts → UnpackedFloat → Prop
  /-- A number of units. -/
  | finite (negative evenGaps : Bool) (s : Sign) (m : Nat) (e : Int) (hm : 0 < m) :
    IsUnpacked (.finite negative m e evenGaps) (.finite s m e hm)
  /-- Zero is no unit. -/
  | zero (negative evenGaps : Bool) (s : Sign) (e : Int) :
    IsUnpacked (.finite negative 0 e evenGaps) (.zero s)
  /-- Infinity. -/
  | infinite (negative : Bool) (s : Sign) : IsUnpacked (.infinite negative) (.infinity s)
  /-- Not a number. -/
  | nan : IsUnpacked .nan .notANumber

theorem toNat_unpackMantissa (x : Float) :
    (@unpackMantissa .binary64 x.toModel.toBits.toBitVec).toNat = x.toBits.toNat % 2 ^ 52 := by
  rw [unpackMantissa, BitVec.toNat_cast, BitVec.extractLsb_toNat]
  rfl

theorem toNat_unpackExponent (x : Float) :
    (@unpackExponent .binary64 x.toModel.toBits.toBitVec).toNat =
      x.toBits.toNat / 2 ^ 52 % 2 ^ 11 := by
  rw [unpackExponent, BitVec.toNat_cast, BitVec.extractLsb_toNat, Nat.shiftRight_eq_div_pow]
  rfl

/-- The parts that are taken from the bits are those that are unpacked. -/
theorem isUnpacked_of (x : Float) : IsUnpacked (Parts.of x) x.toModel.unpack := by
  have hmantissa : _ = x.toBits.toNat % Nat.pow 2 52 := toNat_unpackMantissa x
  have hexponent : _ = x.toBits.toNat / Nat.pow 2 52 % Nat.pow 2 11 := toNat_unpackExponent x
  have hbits := (@unpackMantissa .binary64 x.toModel.toBits.toBitVec).isLt
  have hspecial : (@unpackExponent .binary64 x.toModel.toBits.toBitVec).toNat = 2047 ↔ _ :=
    BitVec.toNat_inj (y := -1#11)
  have hleast : (@unpackExponent .binary64 x.toModel.toBits.toBitVec).toNat = 0 ↔ _ :=
    BitVec.toNat_inj (y := 0#11)
  have hnone : (@unpackMantissa .binary64 x.toModel.toBits.toBitVec).toNat = 0 ↔ _ :=
    BitVec.toNat_inj (y := 0#52)
  change IsUnpacked (Parts.of x) (UnpackedFloat.unpack .binary64 x.toModel.toBits.toBitVec)
  rw [Parts.of, UnpackedFloat.unpack]
  dsimp only
  rw [← hexponent, ← hmantissa]
  by_cases hone : @unpackExponent .binary64 x.toModel.toBits.toBitVec = -1#11
  · rw [if_pos (hspecial.2 hone), if_pos hone]
    by_cases hfraction : @unpackMantissa .binary64 x.toModel.toBits.toBitVec = 0#52
    · rw [if_pos (hnone.2 hfraction), if_pos hfraction]
      exact .infinite _ _
    · rw [if_neg (hnone.not.2 hfraction), if_neg hfraction]
      exact .nan
  · rw [if_neg (hspecial.not.2 hone), if_neg hone]
    by_cases hzero : @unpackExponent .binary64 x.toModel.toBits.toBitVec = 0#11
    · rw [if_pos (hleast.2 hzero), if_pos hzero, hzero]
      by_cases hfraction : @unpackMantissa .binary64 x.toModel.toBits.toBitVec = 0#52
      · rw [dif_pos hfraction, hfraction]
        exact .zero _ _ _ _
      · rw [dif_neg hfraction]
        exact .finite _ _ _ _ _ _
    · have happend : (1#1 ++ @unpackMantissa .binary64 x.toModel.toBits.toBitVec).toNat =
          Nat.pow 2 52 + (@unpackMantissa .binary64 x.toModel.toBits.toBitVec).toNat := by
        rw [BitVec.toNat_append, ← Nat.shiftLeft_add_eq_or_of_lt hbits]
        rfl
      rw [if_neg (hleast.not.2 hzero), if_neg hzero, ← happend]
      exact .finite _ _ _ _ _ _

/-! ## Canonical form -/

/-- A mantissa and a unit as they are kept: the mantissa is full, unless the unit is the smallest
one. -/
structure IsCanonical (m : Nat) (e : Int) : Prop where
  /-- The mantissa has 53 digits at most. -/
  lt : m < 2 ^ 53
  /-- The unit is not too small. -/
  least : -1074 ≤ e
  /-- The mantissa is full. -/
  full : 2 ^ 52 ≤ m ∨ e = -1074

theorem isCanonical_of_unpack {hm : 0 < m} (hx : x.toModel.unpack = .finite s m e hm) :
    IsCanonical m e := by
  have hlt := mantissa_lt hx
  change UnpackedFloat.unpack .binary64 x.toModel.toBits.toBitVec = _ at hx
  rw [UnpackedFloat.unpack] at hx
  dsimp only at hx
  split at hx
  · split at hx <;> cases hx
  · split at hx
    · next hzero =>
      split at hx
      · cases hx
      · cases hx
        refine ⟨hlt, ?_, .inr ?_⟩ <;> rw [hzero] <;> decide
    · next hne =>
      cases hx
      have hfield : (@unpackExponent .binary64 x.toModel.toBits.toBitVec).toNat ≠ 0 :=
        fun heq => hne (BitVec.eq_of_toNat_eq heq)
      refine ⟨hlt, ?_, .inl ?_⟩
      · change -1074 ≤ ((@unpackExponent .binary64 x.toModel.toBits.toBitVec).toNat : Int) -
          ((1023 : Nat) + (52 : Nat))
        omega
      · have hbits := (@unpackMantissa .binary64 x.toModel.toBits.toBitVec).isLt
        rw [BitVec.toNat_append, ← Nat.shiftLeft_add_eq_or_of_lt hbits]
        exact Nat.le_add_right (2 ^ 52) _

theorem IsCanonical.log2_eq (h : IsCanonical m e) (hfull : 2 ^ 52 ≤ m) : m.log2 = 52 :=
  (Nat.log2_eq_iff (by omega)).2 ⟨hfull, h.lt⟩

/-- What is packed in canonical form is unpacked again. -/
theorem unpack_ofModel_finite (hm : 0 < m) (h : IsCanonical m e) (he : e ≤ 971) :
    (Float.ofModel (.pack (.finite .positive m e hm))).toModel.unpack =
      .finite .positive m e hm := by
  rcases Nat.lt_or_ge m (2 ^ 52) with hless | hfull
  · obtain rfl : e = -1074 := h.full.resolve_left (Nat.not_le.2 hless)
    have hlog : m.log2 ≠ 52 := Nat.ne_of_lt ((Nat.log2_lt hm.ne').2 hless)
    have hmantissa : (BitVec.ofNat 52 m).toNat = m := by
      rw [BitVec.toNat_ofNat, Nat.mod_eq_of_lt hless]
    have hne : BitVec.ofNat 52 m ≠ 0#52 := fun heq => by
      rw [heq] at hmantissa
      exact hm.ne hmantissa
    change UnpackedFloat.unpack .binary64 (UnpackedFloat.pack .binary64 _) = _
    rw [pack_finite, if_neg (by omega), if_neg hlog, UnpackedFloat.unpack]
    simp only [unpackMantissa_packComponents, unpackExponent_packComponents, sign_packComponents]
    rw [if_neg (by decide), if_pos (by decide), dif_neg hne]
    simp only [hmantissa]
    rfl
  · exact unpack_ofUnits hm (h.log2_eq hfull) h.least he

/-! ## What a number comes to -/

/-- The first power of two that is too large for a number. -/
def beyond : ℚ :=
  2 ^ (1024 : ℤ)

theorem beyond_pos : 0 < beyond :=
  zpow_pos two_pos _

/-- What the parts come to without their sign. -/
def partsSize : UnpackedFloat → ℚ
  | .finite _ m e _ => m * 2 ^ e
  | .zero _ => 0
  | .infinity _ => beyond
  | .notANumber => beyond

/-- What a number comes to without its sign. -/
def size (x : Float) : ℚ :=
  partsSize x.toModel.unpack

/-- The parts of a number that is not negative. -/
inductive IsAmount : UnpackedFloat → Prop
  /-- Zero, whatever its sign. -/
  | zero (s : Sign) : IsAmount (.zero s)
  /-- A number of units. -/
  | finite {m : Nat} {e : Int} (hm : 0 < m) (h : IsCanonical m e) (he : e ≤ 971) :
    IsAmount (.finite .positive m e hm)
  /-- Infinity. -/
  | infinite : IsAmount (.infinity .positive)

theorem nonneg_iff_isAmount : 0 ≤ x ↔ IsAmount x.toModel.unpack := by
  have hzero : (0 : Float).toModel.unpack = .zero .positive := rfl
  rw [le_iff, hzero]
  cases hx : x.toModel.unpack with
  | notANumber => exact iff_of_false Bool.false_ne_true nofun
  | zero s => exact iff_of_true rfl (.zero s)
  | infinity s =>
    cases s with
    | negative => exact iff_of_false Bool.false_ne_true nofun
    | positive => exact iff_of_true rfl .infinite
  | finite s m e hm =>
    cases s with
    | negative => exact iff_of_false Bool.false_ne_true nofun
    | positive => exact iff_of_true rfl (.finite hm (isCanonical_of_unpack hx) (unit_le hx))

theorem IsAmount.size_nonneg (h : IsAmount u) : 0 ≤ partsSize u := by
  cases h <;> simp only [partsSize, beyond] <;> positivity

theorem size_nonneg (hx : 0 ≤ x) : 0 ≤ size x :=
  (nonneg_iff_isAmount.1 hx).size_nonneg

/-- Numbers whose unit is not larger are below the first power of two that needs a larger one. -/
theorem IsCanonical.lt_two_zpow (h : IsCanonical m e) (hle : e ≤ e') :
    (m : ℚ) * 2 ^ e < 2 ^ (53 + e') := by
  rw [zpow_add₀ two_ne_zero]
  exact mul_lt_mul (by exact_mod_cast h.lt) (zpow_le_zpow_right₀ one_le_two hle)
    (zpow_pos two_pos _) (by positivity)

/-- A full mantissa with a larger unit is not below that power. -/
theorem two_zpow_le (hfull : 2 ^ 52 ≤ m) (hlt : e' < e) : (2 : ℚ) ^ (53 + e') ≤ m * 2 ^ e := by
  have hsplit : (2 : ℚ) ^ (53 + e') = 2 ^ 52 * 2 ^ (e' + 1) := by
    rw [← zpow_natCast, ← zpow_add₀ two_ne_zero]
    congr 1
    push_cast
    ring
  rw [hsplit]
  exact mul_le_mul (by exact_mod_cast hfull) (zpow_le_zpow_right₀ one_le_two hlt)
    (zpow_pos two_pos _).le (Nat.cast_nonneg _)

theorem lt_beyond (h : IsCanonical m e) (he : e ≤ 971) : (m : ℚ) * 2 ^ e < beyond :=
  h.lt_two_zpow he

theorem beyond_le (hfull : 2 ^ 52 ≤ m) (he : 971 < e) : beyond ≤ (m : ℚ) * 2 ^ e :=
  two_zpow_le hfull he

/-- A number with a larger unit is larger. -/
theorem zpow_mul_lt (h : IsCanonical m e) (h' : IsCanonical m' e') (hlt : e < e') :
    (m : ℚ) * 2 ^ e < m' * 2 ^ e' := by
  have hfull : 2 ^ 52 ≤ m' := h'.full.resolve_right (by have := h.least; omega)
  exact (h.lt_two_zpow le_rfl).trans_le (two_zpow_le hfull hlt)

theorem IsAmount.size_le (h : IsAmount u) : partsSize u ≤ beyond := by
  cases h with
  | zero s => exact beyond_pos.le
  | finite hm h he => exact (lt_beyond h he).le
  | infinite => exact le_rfl

/-- Below a power of two there is a largest number. -/
theorem IsAmount.size_le_of_lt (h : IsAmount u) (he : -1074 ≤ e) (he' : e ≤ 971)
    (hlt : partsSize u < 2 ^ (53 + e)) : partsSize u ≤ (2 ^ 53 - 1) * 2 ^ e := by
  cases h with
  | zero s => exact mul_nonneg (by norm_num) (zpow_pos two_pos _).le
  | infinite =>
    have hle : (2 : ℚ) ^ (53 + e) ≤ beyond :=
      zpow_le_zpow_right₀ one_le_two (add_le_add_right he' 53)
    exact absurd hlt (not_lt.2 hle)
  | @finite m' e' hm' h' hunit =>
    rcases le_or_gt e' e with hle | hgt
    · have hm : (m' : ℚ) ≤ 2 ^ 53 - 1 := by
        have hsucc : ((m' + 1 : Nat) : ℚ) ≤ (2 ^ 53 : Nat) := Nat.cast_le.2 h'.lt
        push_cast at hsucc
        linarith
      exact mul_le_mul hm (zpow_le_zpow_right₀ one_le_two hle) (zpow_pos two_pos _).le
        (by norm_num)
    · have hfull : 2 ^ 52 ≤ m' := h'.full.resolve_right (by omega)
      exact absurd hlt (not_lt.2 (two_zpow_le hfull hgt))

/-- Numbers that are not negative are compared by what they come to. -/
theorem IsAmount.compare_eq (hu : IsAmount u) (hv : IsAmount v) :
    u.compare v = some (compare (partsSize u) (partsSize v)) := by
  have hbeyond := beyond_pos
  cases hu with
  | zero s =>
    cases hv with
    | zero s' => exact congrArg some (compare_eq_iff_eq.2 rfl).symm
    | finite hm h he =>
      exact congrArg some (compare_lt_iff_lt.2 (mul_pos (by exact_mod_cast hm)
        (zpow_pos two_pos _))).symm
    | infinite => exact congrArg some (compare_lt_iff_lt.2 hbeyond).symm
  | infinite =>
    cases hv with
    | zero s' => exact congrArg some (compare_gt_iff_gt.2 hbeyond).symm
    | finite hm h he => exact congrArg some (compare_gt_iff_gt.2 (lt_beyond h he)).symm
    | infinite => exact congrArg some (compare_eq_iff_eq.2 rfl).symm
  | @finite m e hm h he =>
    cases hv with
    | zero s' =>
      exact congrArg some (compare_gt_iff_gt.2 (mul_pos (by exact_mod_cast hm)
        (zpow_pos two_pos _))).symm
    | infinite => exact congrArg some (compare_lt_iff_lt.2 (lt_beyond h he)).symm
    | @finite m' e' hm' h' he' =>
      change some ((compare e e').then (compare m m')) =
        some (compare ((m : ℚ) * 2 ^ e) (m' * 2 ^ e'))
      rcases lt_trichotomy e e' with hlt | rfl | hgt
      · rw [compare_lt_iff_lt.2 hlt, compare_lt_iff_lt.2 (zpow_mul_lt h h' hlt)]
        rfl
      · have hunit : (0 : ℚ) < 2 ^ e := zpow_pos two_pos _
        rw [compare_eq_iff_eq.2 rfl, Ordering.eq_then]
        rcases lt_trichotomy m m' with hless | rfl | hmore
        · rw [compare_lt_iff_lt.2 hless, compare_lt_iff_lt.2]
          exact mul_lt_mul_of_pos_right (by exact_mod_cast hless) hunit
        · rw [compare_eq_iff_eq.2 rfl, compare_eq_iff_eq.2 rfl]
        · rw [compare_gt_iff_gt.2 hmore, compare_gt_iff_gt.2]
          exact mul_lt_mul_of_pos_right (by exact_mod_cast hmore) hunit
      · rw [compare_gt_iff_gt.2 hgt, compare_gt_iff_gt.2 (zpow_mul_lt h' h hgt)]
        rfl

theorem le_iff_size (hx : 0 ≤ x) (hy : 0 ≤ y) : x ≤ y ↔ size x ≤ size y := by
  rw [le_iff, (nonneg_iff_isAmount.1 hx).compare_eq (nonneg_iff_isAmount.1 hy), Option.any_some,
    Ordering.isLE_iff_ne_gt]
  exact compare_le_iff_le

theorem lt_iff_size (hx : 0 ≤ x) (hy : 0 ≤ y) : x < y ↔ size x < size y := by
  rw [lt_iff, (nonneg_iff_isAmount.1 hx).compare_eq (nonneg_iff_isAmount.1 hy), Option.some_inj,
    compare_lt_iff_lt]
  rfl

theorem pos_iff_size (hx : 0 ≤ x) : 0 < x ↔ 0 < size x :=
  lt_iff_size (nonneg_iff_isAmount.2 (.zero .positive)) hx

theorem size_le_beyond (hx : 0 ≤ x) : size x ≤ beyond :=
  (nonneg_iff_isAmount.1 hx).size_le

theorem nonneg_of_le (hx : 0 ≤ x) (hle : x ≤ y) : 0 ≤ y := by
  have hzero : (0 : Float).toModel.unpack = .zero .positive := rfl
  rw [le_iff] at hle ⊢
  rw [hzero]
  have hamount := nonneg_iff_isAmount.1 hx
  generalize x.toModel.unpack = u at hamount hle
  cases hy : y.toModel.unpack with
  | notANumber =>
    rw [hy] at hle
    cases hamount <;> exact absurd hle Bool.false_ne_true
  | zero s => rfl
  | infinity s =>
    cases s with
    | negative =>
      rw [hy] at hle
      cases hamount <;> exact absurd hle Bool.false_ne_true
    | positive => rfl
  | finite s m e hm =>
    cases s with
    | negative =>
      rw [hy] at hle
      cases hamount <;> exact absurd hle Bool.false_ne_true
    | positive => rfl

theorem le_self (hx : 0 ≤ x) : x ≤ x :=
  (le_iff_size hx hx).2 le_rfl

theorem le_of_le_of_le (hx : 0 ≤ x) (hxy : x ≤ y) (hyz : y ≤ z) : x ≤ z := by
  have hy := nonneg_of_le hx hxy
  have hz := nonneg_of_le hy hyz
  rw [le_iff_size hx hy] at hxy
  rw [le_iff_size hy hz] at hyz
  exact (le_iff_size hx hz).2 (hxy.trans hyz)

theorem isNaN_eq_false (hx : 0 ≤ x) : x.isNaN = false := by
  have hamount := nonneg_iff_isAmount.1 hx
  change x.toModel.unpack.isNaN = false
  generalize x.toModel.unpack = u at hamount
  cases hamount <;> rfl

theorem not_lt_of_isNaN (hx : x.isNaN = true) (y : Float) : ¬x < y := by
  change x.toModel.unpack.isNaN = true at hx
  rw [lt_iff]
  generalize x.toModel.unpack = u at hx
  cases u with
  | notANumber => nofun
  | zero s => nomatch hx
  | infinity s => nomatch hx
  | finite s m e hm => nomatch hx

theorem isInf_iff (hx : 0 ≤ x) : x.isInf = true ↔ size x = beyond := by
  have hamount := nonneg_iff_isAmount.1 hx
  change x.toModel.unpack.isInf = true ↔ partsSize x.toModel.unpack = beyond
  generalize x.toModel.unpack = u at hamount
  cases hamount with
  | zero s => exact iff_of_false Bool.false_ne_true beyond_pos.ne
  | finite hm h he => exact iff_of_false Bool.false_ne_true (lt_beyond h he).ne
  | infinite => exact iff_of_true rfl rfl

/-- What is packed is unpacked again. -/
theorem IsAmount.unpack_ofModel (h : IsAmount u) :
    (Float.ofModel (.pack u)).toModel.unpack = u := by
  cases h with
  | zero s => cases s <;> rfl
  | finite hm h he => exact unpack_ofModel_finite hm h he
  | infinite => rfl

end RateHerald.Decimal
