import Mathlib
import RateHerald.Decimal.Parts

/-!
# Products of floating-point numbers

A positive number is a whole number of units, each a power of two, and it is normal if it takes a
full mantissa to write it. Multiplying it by a power of two moves the unit and rounds nothing, and
what comes out is infinity if the unit is too large.

## Main declarations

* `ofUnits` is a number of units; `unpack_ofUnits` and `unpack_ofUnits_of_large` take it apart.
* `ofUnits_mul_twoPower` multiplies by a power of two, `twoTo_mul_twoTo` two powers of two.
* `lt_iff` and `le_iff` compare numbers by their parts.
-/

namespace RateHerald.Decimal

open Float.Model Float.Model.UnpackedFloat

variable {m m' n : Nat} {e e' : Int}

/-! ## Shifting -/

theorem mantissa_shiftRight (em : ExtendedMantissa) (n : Nat) :
    (em >>> n).mantissa = em.mantissa / 2 ^ n := by
  induction n with
  | zero => exact (Nat.div_one _).symm
  | succ n ih =>
    change (em >>> n).mantissa / 2 = _
    rw [ih, Nat.div_div_eq_div_mul, Nat.pow_succ]

/-- Shifting out zeros loses nothing. -/
theorem shiftRight_mul_two_pow (m n : Nat) :
    (⟨m * 2 ^ n, false, false⟩ : ExtendedMantissa) >>> n = ⟨m, false, false⟩ := by
  induction n generalizing m with
  | zero =>
    rw [Nat.pow_zero, Nat.mul_one]
    rfl
  | succ n ih =>
    have hsplit : m * 2 ^ (n + 1) = m * 2 * 2 ^ n := by rw [Nat.pow_succ']; ac_rfl
    change ((⟨m * 2 ^ (n + 1), false, false⟩ : ExtendedMantissa) >>> n).shiftRightOne = _
    rw [hsplit, ih, ExtendedMantissa.shiftRightOne]
    simp

theorem roundedMantissa_le (em : ExtendedMantissa) : em.roundedMantissa ≤ em.mantissa + 1 := by
  obtain ⟨m, round, sticky⟩ := em
  cases round <;> cases sticky <;>
    simp [ExtendedMantissa.roundedMantissa, ExtendedMantissa.accuracy, Accuracy.roundToNearestEven]
  omega

theorem log2_mul_two_pow (hm : m ≠ 0) (n : Nat) : (m * 2 ^ n).log2 = m.log2 + n := by
  induction n with
  | zero => rw [Nat.pow_zero, Nat.mul_one, Nat.add_zero]
  | succ n ih =>
    have hne : m * 2 ^ n ≠ 0 := Nat.mul_ne_zero hm (Nat.ne_of_gt (Nat.two_pow_pos n))
    rw [Nat.pow_succ', Nat.mul_left_comm, Nat.log2_two_mul hne, ih, Nat.add_assoc]

/-! ## Rounding -/

theorem targetExponent_binary64 (m : Nat) (e : Int) :
    Format.binary64.targetExponent (totalExponent m e) = max (m.log2 + e - 52) (-1074) := by
  change max ((m.log2 : Int) + 1 + e - 53) (3 - 2 ^ 10 - 53) = _
  omega

/-- How a mantissa is rounded that is moved by `n` digits and then fits. -/
theorem round_eq_of_shift {s : Sign} {em : ExtendedMantissa}
    (htarget : Format.binary64.targetExponent (totalExponent m e) = e + n)
    (hem : (⟨m, false, false⟩ : ExtendedMantissa) >>> n = em)
    (hfits : Format.binary64.targetExponent (totalExponent em.roundedMantissa (e + n)) = e + n)
    (hpos : 0 < em.roundedMantissa) :
    roundWithAccuracy .binary64 s m e .exact = .finite s em.roundedMantissa (e + n) hpos := by
  have hfirst : (e + n - e).toNat = n := by omega
  have hsecond : (e + n - (e + n)).toNat = 0 := by omega
  have hzero : ∀ em : ExtendedMantissa, em >>> (0 : Nat) = em := fun _ => rfl
  simp only [roundWithAccuracy, shiftToTargetExponent, shiftToExponent, htarget, hfirst, hem, hfits,
    hsecond, ExtendedMantissa.ofMantissaAndAccuracy, hzero, Nat.ne_of_gt hpos]
  simp

/-- A full mantissa with zeros behind it is not rounded. -/
theorem round_mul_two_pow (s : Sign) (hm : 0 < m) (hlog : m.log2 = 52) (n : Nat)
    (he : -1074 ≤ e + n) :
    roundWithAccuracy .binary64 s (m * 2 ^ n) e .exact = .finite s m (e + n) hm := by
  have hlog' : (m * 2 ^ n).log2 = 52 + n := by
    rw [log2_mul_two_pow (Nat.ne_of_gt hm), hlog]
  refine round_eq_of_shift ?_ (shiftRight_mul_two_pow m n) ?_ hm
  · rw [targetExponent_binary64, hlog']
    omega
  · change Format.binary64.targetExponent (totalExponent m (e + n)) = e + n
    rw [targetExponent_binary64, hlog]
    omega

/-- How many digits of a mantissa do not fit. -/
def surplus (m : Nat) (e : Int) : Nat :=
  (Format.binary64.targetExponent (totalExponent m e) - e).toNat

theorem surplus_eq (m : Nat) (e : Int) :
    surplus m e = (max (m.log2 + e - 52) (-1074) - e).toNat := by
  rw [surplus, targetExponent_binary64]

/-- The mantissa is cut to the digits that fit. -/
theorem div_surplus_lt (m : Nat) (e : Int) : m / 2 ^ surplus m e < 2 ^ 53 := by
  have hsurplus := surplus_eq m e
  rw [Nat.div_lt_iff_lt_mul (Nat.two_pow_pos _), ← Nat.pow_add]
  have hdigits : 2 ^ (m.log2 + 1) ≤ 2 ^ (53 + surplus m e) :=
    Nat.pow_le_pow_right Nat.two_pos (by omega)
  exact Nat.lt_of_lt_of_le Nat.lt_log2_self hdigits

/-- The mantissa that is rounded to the digits that fit. -/
def cutMantissa (m : Nat) (e : Int) (accuracy : Accuracy) : Nat :=
  (ExtendedMantissa.ofMantissaAndAccuracy m accuracy >>> surplus m e).roundedMantissa

theorem mantissa_ofMantissaAndAccuracy (m : Nat) (accuracy : Accuracy) :
    (ExtendedMantissa.ofMantissaAndAccuracy m accuracy).mantissa = m := by
  fun_cases ExtendedMantissa.ofMantissaAndAccuracy m accuracy <;> rfl

/-- Rounding may take one more digit. -/
theorem cutMantissa_le (m : Nat) (e : Int) (accuracy : Accuracy) :
    cutMantissa m e accuracy ≤ 2 ^ 53 := by
  have hle := roundedMantissa_le
    (ExtendedMantissa.ofMantissaAndAccuracy m accuracy >>> surplus m e)
  rw [mantissa_shiftRight, mantissa_ofMantissaAndAccuracy] at hle
  have hlt := div_surplus_lt m e
  exact Nat.le_trans hle hlt

/-- The mantissa that is rounded and then cut once more, if rounding took one more digit. -/
def fittedMantissa (m : Nat) (e : Int) (accuracy : Accuracy) : Nat :=
  cutMantissa m e accuracy / 2 ^ surplus (cutMantissa m e accuracy) (e + surplus m e)

/-- What a number is rounded to. -/
theorem round_cases (s : Sign) (m : Nat) (e : Int) (accuracy : Accuracy) :
    (fittedMantissa m e accuracy = 0 ∧ roundWithAccuracy .binary64 s m e accuracy = .zero s) ∨
    ∃ hpos, roundWithAccuracy .binary64 s m e accuracy =
      .finite s (fittedMantissa m e accuracy)
        (e + surplus m e + surplus (cutMantissa m e accuracy) (e + surplus m e)) hpos := by
  have hfitted : (ExtendedMantissa.ofMantissaAndAccuracy (cutMantissa m e accuracy) .exact >>>
      surplus (cutMantissa m e accuracy) (e + surplus m e)).mantissa =
      fittedMantissa m e accuracy := by
    rw [mantissa_shiftRight, mantissa_ofMantissaAndAccuracy, fittedMantissa]
  by_cases hzero : fittedMantissa m e accuracy = 0
  · exact .inl ⟨hzero, dif_pos (hfitted.trans hzero)⟩
  · refine .inr ⟨Nat.pos_of_ne_zero hzero, ?_⟩
    simp only [← hfitted] at hzero ⊢
    exact dif_neg hzero

/-- The unit of a rounded number is hardly larger than the last digit that fits. -/
theorem exponent_round_le {s : Sign} {accuracy : Accuracy} {limit : Int} (hlimit : -1074 < limit)
    (he : e < limit) (hlog : (m.log2 : Int) + e - 52 < limit) :
    roundWithAccuracy .binary64 s m e accuracy = .zero s ∨
      ∃ m' e' hpos, roundWithAccuracy .binary64 s m e accuracy = .finite s m' e' hpos ∧
        e' ≤ limit := by
  rcases round_cases s m e accuracy with ⟨-, hzero⟩ | ⟨hpos, hround⟩
  · exact .inl hzero
  · refine .inr ⟨_, _, hpos, hround, ?_⟩
    have hle := cutMantissa_le m e accuracy
    have hlog' : (cutMantissa m e accuracy).log2 ≤ 53 := by
      by_cases hzero : cutMantissa m e accuracy = 0
      · rw [hzero]
        decide
      · exact Nat.le_of_lt_succ ((Nat.log2_lt hzero).2 (by omega))
    have hsurplus := surplus_eq m e
    have hsurplus' := surplus_eq (cutMantissa m e accuracy) (e + surplus m e)
    omega

/-! ## Numbers of units -/

/-- The positive number of so many units `2 ^ e`, or infinity if it is too large. -/
def ofUnits (m : Nat) (hm : 0 < m) (e : Int) : Float :=
  .ofModel (.pack (.finite .positive m e hm))

/-- The bits of a number of units. -/
theorem pack_finite (s : Sign) (hm : 0 < m) (e : Int) :
    UnpackedFloat.pack .binary64 (.finite s m e hm) =
      if 971 < e then packedInfinity .binary64 s
      else if m.log2 = 52 then
        packComponents .binary64 s (BitVec.ofNat 11 (e + 1075).toNat) (BitVec.ofNat 52 m)
      else packComponents .binary64 s 0 (BitVec.ofNat 52 m) := by
  have hbias : (e + (1023 : Nat) + (52 : Nat)).toNat = (e + 1075).toNat := by omega
  have hlarge : 2 ^ 11 ≤ (e + 1075).toNat + 1 ↔ 971 < e := by omega
  have hfull : m.log2 + 1 = 1 + 52 ↔ m.log2 = 52 := by omega
  change (if 2 ^ 11 ≤ (e + (1023 : Nat) + (52 : Nat)).toNat + 1 then _
    else if m.log2 + 1 = 1 + 52 then packComponents .binary64 s
      (BitVec.ofNat 11 (e + (1023 : Nat) + (52 : Nat)).toNat) _ else _ : BitVec _) = _
  rw [hbias]
  simp only [hlarge, hfull]
  rfl

/-- Infinity. -/
def infinite : Float :=
  .ofModel (.pack (.infinity .positive))

theorem ofUnits_of_large (hm : 0 < m) (he : 971 < e) : ofUnits m hm e = infinite := by
  have hbits : UnpackedFloat.pack .binary64 (.finite .positive m e hm) =
      packedInfinity .binary64 .positive := by
    rw [pack_finite, if_pos he]
  rw [ofUnits, infinite, Float.ofModel.injEq, Float.Model.pack, Float.Model.mk.injEq, hbits]
  rfl

theorem sign_packComponents (s : Sign) (exponent : BitVec 11) (mantissa : BitVec 52) :
    Sign.ofBitVec (unpackSign (packComponents .binary64 s exponent mantissa)) = s := by
  simp only [unpackSign, packComponents, BitVec.extractLsb]
  rw [BitVec.extractLsb'_append_eq_of_le (by decide),
    BitVec.extractLsb'_append_eq_of_le (by decide)]
  cases s <;> rfl

theorem toNat_one_append (hlog : m.log2 = 52) : (1#1 ++ BitVec.ofNat 52 m).toNat = m := by
  obtain ⟨hle, hlt⟩ := (Nat.log2_eq_iff (by rintro rfl; cases hlog)).1 hlog
  rw [BitVec.toNat_append, ← Nat.shiftLeft_add_eq_or_of_lt (BitVec.ofNat 52 m).isLt,
    BitVec.toNat_ofNat]
  change 1 <<< 52 + m % 2 ^ 52 = m
  omega

/-- A number with a full mantissa is what it was made of, unless it is too large or too small. -/
theorem unpack_ofUnits (hm : 0 < m) (hlog : m.log2 = 52) (he : -1074 ≤ e) (he' : e ≤ 971) :
    (ofUnits m hm e).toModel.unpack = .finite .positive m e hm := by
  have hexponent : (BitVec.ofNat 11 (e + 1075).toNat).toNat = (e + 1075).toNat := by
    rw [BitVec.toNat_ofNat, Nat.mod_eq_of_lt (by omega)]
  have hone : BitVec.ofNat 11 (e + 1075).toNat ≠ -1#11 := fun heq => by
    rw [heq] at hexponent
    change 2047 = _ at hexponent
    omega
  have hzero : BitVec.ofNat 11 (e + 1075).toNat ≠ 0#11 := fun heq => by
    rw [heq] at hexponent
    change 0 = _ at hexponent
    omega
  change UnpackedFloat.unpack .binary64 (UnpackedFloat.pack .binary64 _) = _
  rw [pack_finite, if_neg (by omega), if_pos hlog, UnpackedFloat.unpack]
  simp only [unpackMantissa_packComponents, unpackExponent_packComponents, sign_packComponents]
  rw [if_neg hone, if_neg hzero]
  have hmantissa := toNat_one_append hlog
  have hunit :
      ((BitVec.ofNat 11 (e + 1075).toNat).toNat : Int) - ((1023 : Nat) + (52 : Nat)) = e := by
    omega
  change UnpackedFloat.finite .positive (1#1 ++ BitVec.ofNat 52 m).toNat
    (((BitVec.ofNat 11 (e + 1075).toNat).toNat : Int) - ((1023 : Nat) + (52 : Nat))) _ = _
  simp only [hmantissa, hunit]

/-! ## Products -/

/-- Multiplying by a power of two moves the unit. -/
theorem ofUnits_mul_twoPower (hm : 0 < m) (hlog : m.log2 = 52) (he : -1074 ≤ e) (hle : e ≤ 971)
    (he' : -1074 ≤ e') (hle' : e' ≤ 971) (hsum : -1074 ≤ e + e' + 52) :
    ofUnits m hm e * ofUnits (2 ^ 52) (by decide) e' = ofUnits m hm (e + e' + 52) := by
  change Float.ofModel (.pack (UnpackedFloat.mul .binary64 (ofUnits m hm e).toModel.unpack
    (ofUnits (2 ^ 52) _ e').toModel.unpack)) = _
  rw [unpack_ofUnits hm hlog he hle, unpack_ofUnits _ Nat.log2_two_pow he' hle', UnpackedFloat.mul]
  rw [round_mul_two_pow _ hm hlog 52 (by omega)]
  rfl

theorem infinite_mul (hm : 0 < m) (hlog : m.log2 = 52) (he : -1074 ≤ e) (hle : e ≤ 971) :
    infinite * ofUnits m hm e = infinite := by
  change Float.ofModel (.pack (UnpackedFloat.mul .binary64 infinite.toModel.unpack
    (ofUnits m hm e).toModel.unpack)) = _
  rw [unpack_ofUnits hm hlog he hle]
  rfl

theorem mul_infinite (hm : 0 < m) (hlog : m.log2 = 52) (he : -1074 ≤ e) (hle : e ≤ 971) :
    ofUnits m hm e * infinite = infinite := by
  change Float.ofModel (.pack (UnpackedFloat.mul .binary64 (ofUnits m hm e).toModel.unpack
    infinite.toModel.unpack)) = _
  rw [unpack_ofUnits hm hlog he hle]
  rfl

/-- The `n`-th power of two, or infinity if it is too large. -/
def twoTo (n : Nat) : Float :=
  ofUnits (2 ^ 52) (by decide) (n - 52)

theorem twoTo_of_large (h : 1024 ≤ n) : twoTo n = infinite :=
  ofUnits_of_large _ (by omega)

/-- Powers of two are multiplied by adding their exponents, also when they are too large. -/
theorem twoTo_mul_twoTo (m n : Nat) : twoTo m * twoTo n = twoTo (m + n) := by
  by_cases hm : 1024 ≤ m
  · rw [twoTo_of_large hm, twoTo_of_large (Nat.le_add_right_of_le hm)]
    by_cases hn : 1024 ≤ n
    · rw [twoTo_of_large hn]
      rfl
    · exact infinite_mul _ Nat.log2_two_pow (by omega) (by omega)
  · by_cases hn : 1024 ≤ n
    · rw [twoTo_of_large hn, twoTo_of_large (Nat.le_add_left_of_le hn)]
      exact mul_infinite _ Nat.log2_two_pow (by omega) (by omega)
    · have hunit : (m : Int) - 52 + (n - 52) + 52 = (m + n : Nat) - 52 := by omega
      rw [twoTo, twoTo, ofUnits_mul_twoPower _ Nat.log2_two_pow (by omega) (by omega) (by omega)
        (by omega) (by omega), hunit]
      rfl

/-! ## Comparing -/

theorem lt_iff {x y : Float} :
    x < y ↔ x.toModel.unpack.compare y.toModel.unpack = some .lt := by
  change decide ((x.toModel.unpack.compare y.toModel.unpack == some .lt) = true) = true ↔ _
  rw [decide_eq_true_iff, beq_iff_eq]

theorem le_iff {x y : Float} :
    x ≤ y ↔ (x.toModel.unpack.compare y.toModel.unpack).any (·.isLE) = true := by
  change decide ((x.toModel.unpack.compare y.toModel.unpack).any (·.isLE) = true) = true ↔ _
  rw [decide_eq_true_iff]

/-! ## Bits -/

/-- A mantissa has 53 digits. -/
theorem mantissa_lt {x : Float} {s : Sign} {hm : 0 < m} (hx : x.toModel.unpack = .finite s m e hm) :
    m < 2 ^ 53 := by
  have hbits := (@unpackMantissa .binary64 x.toModel.toBits.toBitVec).isLt
  change UnpackedFloat.unpack .binary64 x.toModel.toBits.toBitVec = _ at hx
  rw [UnpackedFloat.unpack] at hx
  dsimp only at hx
  split at hx
  · split at hx <;> cases hx
  · split at hx
    · split at hx <;> cases hx
      exact Nat.lt_trans hbits (by decide)
    · cases hx
      rw [BitVec.toNat_append, ← Nat.shiftLeft_add_eq_or_of_lt hbits]
      change 1 <<< 52 + _ < 2 ^ 53
      change _ < 2 ^ 52 at hbits
      omega

end RateHerald.Decimal
