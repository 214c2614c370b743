import RateHerald.Proofs.Decimal.Rounding

/-!
# Finite numbers

Which operations on finite numbers give finite numbers is read off the units: a product has hardly a
larger unit than its factors together, and a quotient by two or more has no larger unit than the
dividend. A product that is too large is infinite, so that this can be noticed.

## Main declarations

* `IsWithin` bounds the unit of a finite number; `isWithin_iff_isFinite` is about the largest unit.
* `isWithin_mul`, `isWithin_div` and `isWithin_toFloat` carry the bound on.
* `isFinite_neg` and `isFinite_mul`.
-/

namespace RateHerald.Decimal

open Float.Model Float.Model.UnpackedFloat

variable {m m' n : Nat} {e e' limit limit' : Int} {s s' : Sign} {x y : Float}

/-! ## Units -/

/-- The unit of a number is no larger than the largest one. -/
theorem unit_le {hm : 0 < m} (hx : x.toModel.unpack = .finite s m e hm) : e ≤ 971 := by
  have hfield := (@unpackExponent .binary64 x.toModel.toBits.toBitVec).isLt
  change UnpackedFloat.unpack .binary64 x.toModel.toBits.toBitVec = _ at hx
  rw [UnpackedFloat.unpack] at hx
  dsimp only at hx
  split at hx
  · split at hx <;> cases hx
  · next hone =>
    split at hx
    · next hzero =>
      split at hx <;> cases hx
      rw [hzero]
      decide
    · cases hx
      have hne : (@unpackExponent .binary64 x.toModel.toBits.toBitVec).toNat ≠ 2047 :=
        fun heq => hone (BitVec.eq_of_toNat_eq heq)
      change _ < 2 ^ 11 at hfield
      change ((@unpackExponent .binary64 x.toModel.toBits.toBitVec).toNat : Int) -
        ((1023 : Nat) + (52 : Nat)) ≤ 971
      omega

/-- The parts are those of a finite number, with a unit of at most `2 ^ limit`. -/
def HasUnit (limit : Int) : UnpackedFloat → Prop
  | .finite _ _ e _ => e ≤ limit
  | .zero _ => True
  | _ => False

instance (limit : Int) : DecidablePred (HasUnit limit)
  | .finite _ _ e _ => inferInstanceAs (Decidable (e ≤ limit))
  | .zero _ => isTrue trivial
  | .infinity _ => isFalse id
  | .notANumber => isFalse id

/-- The number is finite, and its unit is at most `2 ^ limit`. -/
def IsWithin (limit : Int) (x : Float) : Prop :=
  HasUnit limit x.toModel.unpack

theorem isWithin_iff_isFinite : IsWithin 971 x ↔ x.isFinite = true := by
  change HasUnit 971 x.toModel.unpack ↔ x.toModel.unpack.isFinite = true
  cases hx : x.toModel.unpack with
  | finite s m e hm => exact iff_of_true (unit_le hx) rfl
  | zero s => exact iff_of_true trivial rfl
  | infinity s => exact iff_of_false id Bool.false_ne_true
  | notANumber => exact iff_of_false id Bool.false_ne_true

theorem isWithin_iff : IsWithin limit x ↔ (∃ s, x.toModel.unpack = .zero s) ∨
    ∃ s m e hm, x.toModel.unpack = .finite s m e hm ∧ e ≤ limit := by
  rw [IsWithin]
  cases x.toModel.unpack <;> simp [HasUnit, *]

theorem IsWithin.mono (hx : IsWithin limit x) (hle : limit ≤ limit') : IsWithin limit' x := by
  rcases isWithin_iff.1 hx with hzero | ⟨s, m, e, hm, hx, he⟩
  · exact isWithin_iff.2 (.inl hzero)
  · exact isWithin_iff.2 (.inr ⟨s, m, e, hm, hx, Int.le_trans he hle⟩)

theorem IsWithin.isFinite (hx : IsWithin limit x) (hle : limit ≤ 971) : x.isFinite = true :=
  isWithin_iff_isFinite.1 (hx.mono hle)

theorem isWithin_ofModel_zero : IsWithin limit (.ofModel (.pack (.zero s))) := by
  cases s <;> trivial

theorem hasUnit_unpack_packComponents {exponent : BitVec 11} (hlimit : -1074 ≤ limit)
    (hlimit' : limit ≤ 971) (h : (exponent.toNat : Int) ≤ limit + 1075) (mantissa : BitVec 52) :
    HasUnit limit
      (UnpackedFloat.unpack .binary64 (packComponents .binary64 s exponent mantissa)) := by
  have hone : exponent ≠ -1#11 := by
    rintro rfl
    change (2047 : Int) ≤ _ at h
    omega
  rw [UnpackedFloat.unpack]
  simp only [unpackExponent_packComponents]
  rw [if_neg hone]
  split
  · next hzero =>
    subst hzero
    split
    · trivial
    · change ((0 : Nat) : Int) - ((1023 : Nat) + (52 : Nat)) + 1 ≤ limit
      omega
  · change (exponent.toNat : Int) - ((1023 : Nat) + (52 : Nat)) ≤ limit
    omega

/-- What is packed has no larger unit afterwards. -/
theorem isWithin_ofModel_finite (hm : 0 < m) (he : e ≤ limit) (hlimit : -1074 ≤ limit)
    (hlimit' : limit ≤ 971) : IsWithin limit (.ofModel (.pack (.finite s m e hm))) := by
  change HasUnit limit (UnpackedFloat.unpack .binary64 (UnpackedFloat.pack .binary64 _))
  rw [pack_finite, if_neg (by omega)]
  split
  · refine hasUnit_unpack_packComponents hlimit hlimit' ?_ _
    rw [BitVec.toNat_ofNat, Nat.mod_eq_of_lt (by omega)]
    omega
  · refine hasUnit_unpack_packComponents hlimit hlimit' ?_ _
    change (0 : Int) ≤ _
    omega

/-- A number that is rounded stays within a limit above its last digit that fits. -/
theorem isWithin_ofModel_round {accuracy : Accuracy} (hlimit : -1074 < limit)
    (hlimit' : limit ≤ 971) (he : e < limit) (hlog : (m.log2 : Int) + e - 52 < limit) :
    IsWithin limit (.ofModel (.pack (roundWithAccuracy .binary64 s m e accuracy))) := by
  rcases exponent_round_le hlimit he hlog with hzero | ⟨m', e', hpos, hround, hle⟩
  · rw [hzero]
    exact isWithin_ofModel_zero
  · rw [hround]
    exact isWithin_ofModel_finite hpos hle (by omega) hlimit'

/-! ## Operations -/

theorem isFinite_neg : (-x).isFinite = x.isFinite := by
  change (UnpackedFloat.unpack .binary64
    (UnpackedFloat.pack .binary64 x.toModel.unpack.neg)).isFinite = x.toModel.unpack.isFinite
  cases hx : x.toModel.unpack with
  | finite s m e hm => exact (isFinite_ofModel_finite hm).2 (unit_le hx)
  | zero s => exact isFinite_ofModel_zero
  | infinity s => cases s <;> rfl
  | notANumber => rfl

theorem log2_lt {hm : 0 < m} (hx : x.toModel.unpack = .finite s m e hm) : m.log2 ≤ 52 :=
  Nat.le_of_lt_succ ((Nat.log2_lt (Nat.ne_of_gt hm)).2 (mantissa_lt hx))

theorem mul_eq (x y : Float) :
    x * y = .ofModel (.pack (UnpackedFloat.mul .binary64 x.toModel.unpack y.toModel.unpack)) :=
  rfl

theorem div_eq (x y : Float) :
    x / y = .ofModel (.pack (UnpackedFloat.div .binary64 x.toModel.unpack y.toModel.unpack)) :=
  rfl

/-- The unit of a product. -/
theorem isWithin_mul (hx : IsWithin limit x) (hy : IsWithin limit' y)
    (hle : limit + limit' + 53 < 971) : IsWithin 971 (x * y) := by
  rw [mul_eq]
  rcases isWithin_iff.1 hx with ⟨s, hx⟩ | ⟨s, m, e, hm, hx, he⟩ <;>
    rcases isWithin_iff.1 hy with ⟨s', hy⟩ | ⟨s', m', e', hm', hy, he'⟩ <;> rw [hx, hy]
  · exact isWithin_ofModel_zero
  · exact isWithin_ofModel_zero
  · exact isWithin_ofModel_zero
  · have hdigits : (m * m').log2 ≤ 105 := by
      have hlt := Nat.mul_lt_mul'' (mantissa_lt hx) (mantissa_lt hy)
      exact Nat.le_of_lt_succ ((Nat.log2_lt (Nat.mul_pos hm hm').ne').2 hlt)
    exact isWithin_ofModel_round (by decide) le_rfl (by omega) (by omega)

theorem isInf_ofModel_finite (hm : 0 < m) (he : 971 < e) :
    (Float.ofModel (.pack (.finite s m e hm))).isInf = true := by
  change (UnpackedFloat.unpack .binary64 (UnpackedFloat.pack .binary64 _)).isInf = true
  rw [pack_finite, if_pos he]
  cases s <;> decide

/-- A product of finite numbers that is too large is infinite. -/
theorem isFinite_mul (hx : x.isFinite = true) (hy : y.isFinite = true)
    (h : (x * y).isInf = false) : (x * y).isFinite = true := by
  rw [mul_eq] at h ⊢
  rcases isWithin_iff.1 (isWithin_iff_isFinite.2 hx) with ⟨s, hx⟩ | ⟨s, m, e, hm, hx, -⟩ <;>
    rcases isWithin_iff.1 (isWithin_iff_isFinite.2 hy) with ⟨s', hy⟩ | ⟨s', m', e', hm', hy, -⟩ <;>
    rw [hx, hy] at h ⊢
  · exact isFinite_ofModel_zero
  · exact isFinite_ofModel_zero
  · exact isFinite_ofModel_zero
  · rw [UnpackedFloat.mul] at h ⊢
    rcases round_cases (s * s') (m * m') (e + e') .exact with ⟨-, hround⟩ | ⟨hpos, hround⟩
    · rw [hround]
      exact isFinite_ofModel_zero
    · rw [hround] at h ⊢
      refine (isFinite_ofModel_finite hpos).2 (Int.not_lt.1 fun hlarge => ?_)
      rw [isInf_ofModel_finite hpos hlarge] at h
      cases h

theorem log2_div_add_log2 {d : Nat} (h : m / d ≠ 0) : (m / d).log2 + d.log2 ≤ m.log2 := by
  have hm : m ≠ 0 := by
    rintro rfl
    exact h (Nat.zero_div d)
  have hd : d ≠ 0 := by
    rintro rfl
    exact h (Nat.div_zero m)
  rw [Nat.le_log2 hm, Nat.pow_add]
  calc 2 ^ (m / d).log2 * 2 ^ d.log2 ≤ m / d * d :=
        Nat.mul_le_mul (Nat.log2_self_le h) (Nat.log2_self_le hd)
    _ ≤ m := Nat.div_mul_le_self m d

/-- The mantissa and the unit of a quotient, before it is rounded. -/
theorem divCore_eq (m : Nat) (e : Int) (m' : Nat) (e' : Int) :
    ∃ (t : Int) (shift : Nat), UnpackedFloat.divCore .binary64 m e m' e' =
        (m * 2 ^ shift / m', t, accuracyOfFraction (m * 2 ^ shift % m') m') ∧
      (shift : Int) = e - e' - t ∧ t ≤ max (m.log2 + e - m'.log2 - e' - 53) (-1074) := by
  refine ⟨_, _, by rw [UnpackedFloat.divCore, Nat.shiftLeft_eq], ?_, ?_⟩
  · exact Int.toNat_of_nonneg (by omega)
  · refine Int.le_trans (Int.min_le_right _ _) ?_
    change max ((m.log2 : Int) + 1 + e - ((m'.log2 : Int) + 1 + e') - 53) (3 - 2 ^ 10 - 53) ≤ _
    omega

/-- How many binary digits a finite number has before the point, if it is not zero: `0` stands for
one digit. -/
def magnitude? (x : Float) : Option Int :=
  match x.toModel.unpack with
  | .finite _ m e _ => some (m.log2 + e)
  | _ => none

theorem exists_of_magnitude? {d : Int} (h : magnitude? x = some d) :
    ∃ s m e hm, x.toModel.unpack = .finite s m e hm ∧ m.log2 + e = d := by
  rw [magnitude?] at h
  split at h
  · next heq => exact ⟨_, _, _, _, heq, Option.some.inj h⟩
  · cases h

theorem isFinite_of_magnitude? {d : Int} (h : magnitude? x = some d) : x.isFinite = true := by
  obtain ⟨s, m, e, hm, hx, -⟩ := exists_of_magnitude? h
  change x.toModel.unpack.isFinite = true
  rw [hx]
  rfl

/-- A quotient has a smaller unit than the dividend by the magnitude of the divisor. -/
theorem isWithin_div {d : Int} (hx : IsWithin limit x) (hy : magnitude? y = some d)
    (hle : limit < limit' + d) (hlimit : -1074 < limit') (hlimit' : limit' ≤ 971) :
    IsWithin limit' (x / y) := by
  obtain ⟨s', m', e', hm', hy, hd⟩ := exists_of_magnitude? hy
  rw [div_eq, hy]
  rcases isWithin_iff.1 hx with ⟨s, hx⟩ | ⟨s, m, e, hm, hx, he⟩ <;> rw [hx]
  · exact isWithin_ofModel_zero
  · obtain ⟨t, shift, hcore, hshift, ht⟩ := divCore_eq m e m' e'
    have hdigits := log2_lt hx
    rw [UnpackedFloat.div, hcore]
    refine isWithin_ofModel_round hlimit hlimit' (by omega) ?_
    by_cases hzero : m * 2 ^ shift / m' = 0
    · rw [hzero, Nat.log2_zero]
      omega
    · have hlog := log2_div_add_log2 hzero
      rw [log2_mul_two_pow hm.ne'] at hlog
      omega

theorem isWithin_toFloat (n : UInt64) : IsWithin 12 n.toFloat := by
  change IsWithin 12 (.ofModel (.pack (UnpackedFloat.normalize .binary64 (n.toNat : Int) 0
    .positive)))
  rw [UnpackedFloat.normalize]
  split
  · next hlt => exact absurd (Int.compare_eq_lt.1 hlt) (by omega)
  · exact isWithin_ofModel_zero
  · next hgt =>
    have hpos := Int.compare_eq_gt.1 hgt
    have hlog : n.toNat.log2 < 64 := (Nat.log2_lt (by omega)).2 n.toNat_lt
    rw [Int.toNat_natCast]
    change IsWithin 12 (.ofModel (.pack (roundWithAccuracy .binary64 .positive
      (n.toNat <<< (0 - Format.binary64.targetExponent (totalExponent n.toNat 0)).toNat)
      (0 - ((0 - Format.binary64.targetExponent (totalExponent n.toNat 0)).toNat : Nat)) .exact)))
    rw [Nat.shiftLeft_eq]
    refine isWithin_ofModel_round (by decide) (by decide) (by omega) ?_
    rw [log2_mul_two_pow (by omega)]
    omega

end RateHerald.Decimal
