import RateHerald.Proofs.Decimal.Operations
import RateHerald.Rates.Backoff

/-!
# Seconds and nanoseconds

A time in nanoseconds is turned into a floating-point number of seconds and back. Up to `2 ^ 23`
seconds, which is about three months, this gives the same time. Longer times may be lengthened, by
one part in `2 ^ 51` at most. Seconds can be turned back as long as they are less than `2 ^ 64`; the
longest times are rounded up to just that.

## Main declarations

* `exists_nanosOf_iff`: which seconds can be turned into nanoseconds; `nanosOf_le_nanosOf` keeps
  the order.
* `nanosOf_secondsOf` and `nanosOf_secondsOf_le`: what becomes of a time.
* `secondsOf_lt_iff`: which times come to less than `2 ^ 64` seconds.
-/

namespace RateHerald.Backoff

open Decimal

variable {d n : Nat} {x y : Float}

theorem second_pos : (0 : ℚ) < second := by
  exact_mod_cast (by decide : 0 < second)

/-! ## From seconds -/

theorem twoPower_eq (e : Int) :
    0 < (twoPower e).2 ∧ ((twoPower e).1 : ℚ) / (twoPower e).2 = 2 ^ e := by
  rw [twoPower]
  split
  · next hnonneg =>
    refine ⟨Nat.one_pos, ?_⟩
    have hpow : ((Nat.pow 2 e.toNat : Nat) : ℚ) = 2 ^ e.toNat := Nat.cast_pow 2 _
    rw [hpow, Nat.cast_one, div_one, ← zpow_natCast, Int.toNat_of_nonneg hnonneg]
  · next hnegative =>
    refine ⟨Nat.two_pow_pos _, ?_⟩
    have hpow : ((Nat.pow 2 (-e).toNat : Nat) : ℚ) = 2 ^ (-e).toNat := Nat.cast_pow 2 _
    rw [hpow, Nat.cast_one, one_div, ← zpow_natCast, Int.toNat_of_nonneg (by omega), zpow_neg,
      inv_inv]

theorem size_zero : size 0 = 0 :=
  rfl

theorem not_lt_zero (hx : 0 ≤ x) : ¬x < 0 := by
  have hzero : (0 : Float) ≤ 0 := by decide
  rw [lt_iff_size hx hzero, size_zero, not_lt]
  exact size_nonneg hx

theorem roundHalfEven_units (m : Nat) (e : Int) :
    roundHalfEven (m * (twoPower e).1 * second) (twoPower e).2 = whole (m * 2 ^ e * second) := by
  obtain ⟨hdown, hvalue⟩ := twoPower_eq e
  have hnear := isNearest_roundHalfEven (m * (twoPower e).1 * second) hdown
  have hexact : ((m * (twoPower e).1 * second : Nat) : ℚ) / (twoPower e).2 =
      m * 2 ^ e * second := by
    rw [← hvalue]
    push_cast
    ring
  rw [hexact] at hnear
  exact (whole_eq hnear (by positivity)).symm

theorem size_le_whole (hx : 2 ^ 64 ≤ size x) : UInt64.size * second ≤ whole (size x * second) := by
  have hnanos : ((UInt64.size * second : Nat) : ℚ) ≤ size x * second := by
    rw [Nat.cast_mul]
    exact mul_le_mul_of_nonneg_right (by exact_mod_cast hx) (Nat.cast_nonneg _)
  have hwhole := whole_le_whole (Nat.cast_nonneg _) hnanos
  rwa [whole_natCast] at hwhole

/-- The whole nanoseconds of a number of seconds that is not negative. -/
theorem nanosOf_eq (hx : 0 ≤ x) : nanosOf x =
    if whole (size x * second) < UInt64.size * second then .ok (whole (size x * second))
    else .error .tooLarge := by
  have hamount := nonneg_iff_isAmount.1 hx
  have hparts := isUnpacked_of x
  have hlarge := size_le_whole (x := x)
  rw [nanosOf, if_neg (not_lt_zero hx)]
  rw [size] at hlarge ⊢
  generalize Parts.of x = parts at hparts
  generalize x.toModel.unpack = u at hparts hamount hlarge
  cases hparts with
  | nan => cases hamount
  | infinite negative s =>
    have hbeyond : (2 : ℚ) ^ 64 ≤ beyond := by
      exact_mod_cast (natCast_lt_beyond (le_refl (2 ^ 64))).le
    exact (if_neg (Nat.not_lt.2 (hlarge hbeyond))).symm
  | zero negative evenGaps s e =>
    have hvalue : partsSize (.zero s) = ((0 : Nat) : ℚ) * 2 ^ e := by
      rw [Nat.cast_zero, zero_mul, partsSize]
    rw [hvalue, ← roundHalfEven_units]
  | finite negative evenGaps s m e hm =>
    have hvalue : partsSize (.finite s m e hm) = m * 2 ^ e := rfl
    rw [hvalue, ← roundHalfEven_units]

/-- Less than `2 ^ 64` seconds can be turned into nanoseconds. -/
theorem nanosOf_of_lt (hx : 0 ≤ x) (hlt : size x < 2 ^ 64) :
    nanosOf x = .ok (whole (size x * second)) := by
  have hlargest := (nonneg_iff_isAmount.1 hx).size_le_of_lt (e := 11) (by decide) (by decide)
    (by exact_mod_cast hlt)
  have hnanos : size x * second ≤ ((2 ^ 53 - 1) * 2 ^ 11 * second : Nat) := by
    rw [Nat.cast_mul]
    refine mul_le_mul_of_nonneg_right ?_ (Nat.cast_nonneg _)
    exact_mod_cast hlargest
  have hwhole := whole_le_whole (mul_nonneg (size_nonneg hx) (Nat.cast_nonneg _)) hnanos
  rw [whole_natCast] at hwhole
  rw [nanosOf_eq hx, if_pos (hwhole.trans_lt (by decide))]

theorem exists_nanosOf_iff (hx : 0 ≤ x) : (∃ n, nanosOf x = .ok n) ↔ size x < 2 ^ 64 := by
  refine ⟨fun ⟨n, hn⟩ => ?_, fun hlt => ⟨_, nanosOf_of_lt hx hlt⟩⟩
  by_contra hle
  rw [nanosOf_eq hx, if_neg (Nat.not_lt.2 (size_le_whole (not_lt.1 hle)))] at hn
  cases hn

theorem lt_of_nanosOf (hx : 0 ≤ x) (h : nanosOf x = .ok n) : n < UInt64.size * second := by
  rw [nanosOf_eq hx] at h
  split at h
  · next hlt =>
    cases h
    exact hlt
  · cases h

theorem nanosOf_of_isNaN (hx : x.isNaN = true) : nanosOf x = .error .tooLarge := by
  have hparts := isUnpacked_of x
  have hnan : x.toModel.unpack.isNaN = true := hx
  rw [nanosOf, if_neg (not_lt_of_isNaN hx 0)]
  generalize Parts.of x = parts at hparts
  generalize x.toModel.unpack = u at hparts hnan
  cases hparts with
  | nan => rfl
  | infinite negative s => nomatch hnan
  | zero negative evenGaps s e => nomatch hnan
  | finite negative evenGaps s m e hm => nomatch hnan

/-- Fewer seconds are fewer nanoseconds. -/
theorem nanosOf_le_nanosOf (hx : 0 ≤ x) (hxy : x ≤ y) (hy : nanosOf y = .ok n) :
    ∃ n', nanosOf x = .ok n' ∧ n' ≤ n := by
  have hy' := nonneg_of_le hx hxy
  have hlt := (exists_nanosOf_iff hy').1 ⟨n, hy⟩
  rw [nanosOf_of_lt hy' hlt] at hy
  cases hy
  rw [le_iff_size hx hy'] at hxy
  exact ⟨_, nanosOf_of_lt hx (hxy.trans_lt hlt), whole_le_whole
    (mul_nonneg (size_nonneg hx) (Nat.cast_nonneg _))
    (mul_le_mul_of_nonneg_right hxy (Nat.cast_nonneg _))⟩

/-! ## To seconds -/

/-- The whole seconds of a time and the part of a second behind them, both rounded, before they are
added. -/
def addedSeconds (d : Nat) : ℚ :=
  min (nearest (d / second : Nat)) beyond + nearest ((d % second : Nat) / second)

theorem size_billion : size 1e9 = second := by
  have hbillion : (1e9 : Float).toModel.unpack =
      .finite .positive 8388608000000000 (-23) (by decide) := by rfl
  rw [size, hbillion, partsSize, zpow_neg, zpow_ofNat, second]
  norm_num

theorem nearest_part_le (d : Nat) : nearest ((d % second : Nat) / second) ≤ 1 := by
  have hpos := second_pos
  have hlt : ((d % second : Nat) : ℚ) / second ≤ (1 : Nat) := by
    rw [Nat.cast_one, div_le_one hpos]
    exact_mod_cast (Nat.mod_lt d (by decide)).le
  have hle := nearest_le_nearest (by positivity) hlt
  rwa [nearest_natCast (by decide), Nat.cast_one] at hle

theorem isRounded_secondsOf (d : Nat) : IsRounded (secondsOf d) (addedSeconds d) := by
  have hwhole := isRounded_ofNat (d / second)
  have hlt : d % second < second := Nat.mod_lt d (by decide)
  have hrest := isRounded_ofNat (d % second)
  have hbelow : ((d % second : Nat) : ℚ) < beyond := natCast_lt_beyond (hlt.trans (by decide)).le
  have hrest' : size (Float.ofNat (d % second)) = (d % second : Nat) :=
    hrest.size_of_exact (nearest_natCast (hlt.trans (by decide))) hbelow.le
  have hbillion : (0 : Float) ≤ 1e9 := by decide +kernel
  have hbeyond : size 1e9 < beyond := by
    rw [size_billion]
    exact natCast_lt_beyond (by decide)
  have hpart := isRounded_div hrest.nonneg (hrest' ▸ hbelow) hbillion hbeyond
    (size_billion ▸ second_pos)
  have hadd := isRounded_add hwhole.nonneg hpart.nonneg
  have hone : (1 : ℚ) ≤ beyond := by exact_mod_cast (natCast_lt_beyond (n := 1) (by decide)).le
  rwa [hwhole.size_eq, hpart.size_eq, hrest', size_billion,
    min_eq_left ((nearest_part_le d).trans hone)] at hadd

theorem secondsOf_nonneg (d : Nat) : 0 ≤ secondsOf d :=
  (isRounded_secondsOf d).nonneg

theorem addedSeconds_nonneg (d : Nat) : 0 ≤ addedSeconds d :=
  add_nonneg (le_min (nearest_nonneg _) beyond_pos.le) (nearest_nonneg _)

@[simp] theorem addedSeconds_zero : addedSeconds 0 = 0 := by
  have hnone : addedSeconds 0 = min (nearest ((0 : Nat) : ℚ)) beyond +
    nearest (((0 : Nat) : ℚ) / second) := rfl
  rw [hnone, Nat.cast_zero, zero_div, nearest_zero, min_eq_left beyond_pos.le, add_zero]

theorem div_add_mod_div (d : Nat) :
    ((d / second : Nat) : ℚ) + (d % second : Nat) / second = d / second := by
  have hpos := second_pos.ne'
  have hsplit : (second : ℚ) * (d / second : Nat) + (d % second : Nat) = d := by
    exact_mod_cast Nat.div_add_mod d second
  rw [eq_div_iff hpos, add_mul, div_mul_cancel₀ _ hpos, mul_comm, hsplit]

/-- A time is zero, or not less than a nanosecond. -/
theorem eq_zero_or_le (k : Nat) {den : Nat} (hpos : 0 < den) (hden : den ≤ 2 ^ 30) :
    (k : ℚ) / den = 0 ∨ 2 ^ (-30 : ℤ) ≤ (k : ℚ) / den := by
  rcases Nat.eq_zero_or_pos k with rfl | hk
  · left
    rw [Nat.cast_zero, zero_div]
  · right
    have hden' : (den : ℚ) ≤ 2 ^ 30 := by exact_mod_cast hden
    calc (2 : ℚ) ^ (-30 : ℤ) = 1 / 2 ^ 30 := by rw [zpow_neg, zpow_ofNat, one_div]
      _ ≤ 1 / den := one_div_le_one_div_of_le (by exact_mod_cast hpos) hden'
      _ ≤ k / den := div_le_div_of_nonneg_right (by exact_mod_cast hk) (Nat.cast_nonneg _)

theorem whole_eq_zero_or_le (d : Nat) :
    ((d / second : Nat) : ℚ) = 0 ∨ 2 ^ (-30 : ℤ) ≤ ((d / second : Nat) : ℚ) := by
  have h := eq_zero_or_le (d / second) Nat.one_pos (by decide)
  rwa [Nat.cast_one, div_one] at h

theorem part_eq_zero_or_le (d : Nat) :
    ((d % second : Nat) : ℚ) / second = 0 ∨ 2 ^ (-30 : ℤ) ≤ ((d % second : Nat) : ℚ) / second :=
  eq_zero_or_le (d % second) (by decide) (by decide)

/-- A time that is not zero is not rounded to zero. -/
theorem le_addedSeconds (hd : 0 < d) : 2 ^ (-30 : ℤ) ≤ addedSeconds d := by
  rcases whole_eq_zero_or_le d with hnone | hwhole
  · rcases part_eq_zero_or_le d with hnone' | hpart
    · have hzero := div_add_mod_div d
      have hpos : (0 : ℚ) < d / second := div_pos (by exact_mod_cast hd) second_pos
      rw [hnone, hnone', add_zero] at hzero
      exact absurd hzero hpos.ne
    · exact (le_nearest_of_le (by decide) hpart).trans
        (le_add_of_nonneg_left (le_min (nearest_nonneg _) beyond_pos.le))
  · have hbeyond : (2 : ℚ) ^ (-30 : ℤ) ≤ beyond := zpow_le_zpow_right₀ one_le_two (by decide)
    exact (le_min (le_nearest_of_le (by decide) hwhole) hbeyond).trans
      (le_add_of_nonneg_right (nearest_nonneg _))

theorem size_secondsOf (d : Nat) : size (secondsOf d) = min (nearest (addedSeconds d)) beyond :=
  (isRounded_secondsOf d).size_eq

theorem size_secondsOf_zero : size (secondsOf 0) = 0 := by
  rw [size_secondsOf, addedSeconds_zero, nearest_zero, min_eq_left beyond_pos.le]

theorem le_size_secondsOf (hd : 0 < d) : 2 ^ (-30 : ℤ) ≤ size (secondsOf d) := by
  rw [size_secondsOf, le_min_iff]
  exact ⟨le_nearest_of_le (by decide) (le_addedSeconds hd),
    zpow_le_zpow_right₀ one_le_two (by decide)⟩

theorem size_secondsOf_pos (hd : 0 < d) : 0 < size (secondsOf d) :=
  (zpow_pos two_pos _).trans_le (le_size_secondsOf hd)

/-! ### Long times -/

theorem addedSeconds_le (d : Nat) : addedSeconds d ≤ d / second * (1 + 1 / 2 ^ 53) := by
  have hleast : (2 : ℚ) ^ (-1022 : ℤ) ≤ 2 ^ (-30 : ℤ) := zpow_le_zpow_right₀ one_le_two (by decide)
  have hwhole := nearest_le_mul ((whole_eq_zero_or_le d).imp_right hleast.trans)
  have hpart := nearest_le_mul ((part_eq_zero_or_le d).imp_right hleast.trans)
  rw [← div_add_mod_div, add_mul]
  exact add_le_add ((min_le_left _ _).trans hwhole) hpart

/-- What is rounded is lengthened by one part in `2 ^ 51` at most. -/
theorem size_secondsOf_le (d : Nat) : size (secondsOf d) * second ≤ d * (1 + 1 / 2 ^ 53) ^ 2 := by
  have hpos := second_pos
  have hadded : nearest (addedSeconds d) ≤ addedSeconds d * (1 + 1 / 2 ^ 53) := by
    refine nearest_le_mul ?_
    rcases Nat.eq_zero_or_pos d with rfl | hd
    · exact .inl addedSeconds_zero
    · exact .inr ((zpow_le_zpow_right₀ one_le_two (by decide)).trans (le_addedSeconds hd))
  calc size (secondsOf d) * second ≤ addedSeconds d * (1 + 1 / 2 ^ 53) * second := by
        rw [size_secondsOf]
        exact mul_le_mul_of_nonneg_right ((min_le_left _ _).trans hadded) hpos.le
    _ ≤ d / second * (1 + 1 / 2 ^ 53) * (1 + 1 / 2 ^ 53) * second := by
        have hle := addedSeconds_le d
        gcongr
    _ = d * (1 + 1 / 2 ^ 53) ^ 2 := by
        field_simp

/-- Times that are not too long are rounded twice: the part of a second, and the sum. -/
theorem abs_size_secondsOf_sub_le (hd : d < 2 ^ 23 * second) :
    |size (secondsOf d) - d / second| ≤ 2 ^ (-30 : ℤ) / 2 + 2 ^ (-53 : ℤ) / 2 := by
  have hpos := second_pos
  have hseconds : d / second + 1 ≤ 2 ^ 23 := Nat.div_lt_of_lt_mul (by rwa [Nat.mul_comm])
  have hseconds' : ((d / second : Nat) : ℚ) + 1 ≤ 2 ^ 23 := by exact_mod_cast hseconds
  have hwhole : nearest (d / second : Nat) = (d / second : Nat) := nearest_natCast (by omega)
  have hbeyond : ((d / second : Nat) : ℚ) ≤ beyond := (natCast_lt_beyond (by omega)).le
  have hadded : addedSeconds d = (d / second : Nat) + nearest ((d % second : Nat) / second) := by
    rw [addedSeconds, hwhole, min_eq_left hbeyond]
  have hone : ((d % second : Nat) : ℚ) / second ≤ 2 ^ (-53 + 53 : ℤ) := by
    rw [neg_add_cancel, zpow_zero, div_le_one hpos]
    exact_mod_cast (Nat.mod_lt d (by decide)).le
  have hle : addedSeconds d ≤ 2 ^ (-30 + 53 : ℤ) := by
    have hpart := nearest_part_le d
    have hpow : (2 : ℚ) ^ (-30 + 53 : ℤ) = 2 ^ 23 := by norm_num
    rw [hadded, hpow]
    linarith
  have hsize : size (secondsOf d) = nearest (addedSeconds d) := by
    have hnearest := nearest_le_of_le (by decide) (addedSeconds_nonneg d) hle
    rw [size_secondsOf]
    exact min_eq_left (hnearest.trans (zpow_le_zpow_right₀ one_le_two (by norm_num)))
  have hsplit : size (secondsOf d) - d / second = (nearest (addedSeconds d) - addedSeconds d) +
      (nearest ((d % second : Nat) / second) - (d % second : Nat) / second) := by
    rw [hsize, ← div_add_mod_div, hadded]
    ring
  rw [hsplit]
  exact (abs_add_le _ _).trans (add_le_add
    (abs_nearest_sub_le_of_le (addedSeconds_nonneg d) hle (by decide))
    (abs_nearest_sub_le_of_le (div_nonneg (Nat.cast_nonneg _) hpos.le) hone (by decide)))

/-- This is less than half a nanosecond. -/
theorem isNearest_size_secondsOf (hd : d < 2 ^ 23 * second) :
    IsNearest d (size (secondsOf d) * second) := by
  have hpos := second_pos
  have hscale : (d : ℚ) - size (secondsOf d) * second =
      -((size (secondsOf d) - d / second) * second) := by
    rw [sub_mul, div_mul_cancel₀ _ hpos.ne', neg_sub]
  have hdistance : |(d : ℚ) - size (secondsOf d) * second| < 1 / 2 := by
    rw [hscale, abs_neg, abs_mul, abs_of_pos hpos]
    refine (mul_le_mul_of_nonneg_right (abs_size_secondsOf_sub_le hd) hpos.le).trans_lt ?_
    rw [zpow_neg, zpow_neg, zpow_ofNat, zpow_ofNat, second]
    norm_num
  exact ⟨hdistance.le, fun heq => absurd heq hdistance.ne⟩

/-- Below `2 ^ 23` seconds a time is the same after it was turned into seconds and back. -/
theorem nanosOf_secondsOf (hd : d < 2 ^ 23 * second) : nanosOf (secondsOf d) = .ok d := by
  have hnonneg := secondsOf_nonneg d
  have hwhole := whole_eq (isNearest_size_secondsOf hd)
    (mul_nonneg (size_nonneg hnonneg) (Nat.cast_nonneg _))
  rw [nanosOf_eq hnonneg, hwhole, if_pos (hd.trans (by decide))]

theorem eq_zero_of_nanosOf_secondsOf (h : nanosOf (secondsOf d) = .ok 0) : d = 0 := by
  by_contra hne
  have hnonneg := secondsOf_nonneg d
  rw [nanosOf_of_lt hnonneg ((exists_nanosOf_iff hnonneg).1 ⟨0, h⟩), Except.ok.injEq] at h
  have hnear := isNearest_whole (mul_nonneg (size_nonneg hnonneg) (Nat.cast_nonneg second))
  rw [h] at hnear
  have hle := le_size_secondsOf (Nat.pos_of_ne_zero hne)
  have hhalf := (abs_le.1 hnear.near).1
  rw [zpow_neg, zpow_ofNat] at hle
  rw [second] at hhalf
  norm_num at hle hhalf
  linarith

/-- A longer time may be lengthened a little. -/
theorem le_of_nanosOf_secondsOf (h : nanosOf (secondsOf d) = .ok n) : n ≤ d + d / 2 ^ 51 := by
  rcases Nat.lt_or_ge d (2 ^ 23 * second) with hshort | hlong
  · rw [nanosOf_secondsOf hshort] at h
    cases h
    exact Nat.le_add_right _ _
  · have hnonneg := secondsOf_nonneg d
    have hnear : IsNearest n (size (secondsOf d) * second) := by
      rw [nanosOf_of_lt hnonneg ((exists_nanosOf_iff hnonneg).1 ⟨n, h⟩)] at h
      cases h
      exact isNearest_whole (mul_nonneg (size_nonneg hnonneg) (Nat.cast_nonneg second))
    have hle := size_secondsOf_le d
    have hlong' : (2 : ℚ) ^ 23 * 1000000000 ≤ d := by exact_mod_cast hlong
    have hscaled : (n : ℚ) * 2 ^ 51 ≤ d * 2 ^ 51 + d := by
      linarith [(abs_le.1 hnear.near).2]
    have hscaled' : n * 2 ^ 51 ≤ d * 2 ^ 51 + d := by exact_mod_cast hscaled
    omega

/-- Just below `2 ^ 64` the unit is `2 ^ 11`. From half a unit below on numbers are rounded up. -/
theorem nearest_eq_below (n k : Nat) (hlow : 2 ^ 63 ≤ k) (hhigh : k < 2 ^ 64)
    (h : IsNearest n (k / 2 ^ 11)) : nearest k = n * 2 ^ 11 := by
  have h' : IsNearest n ((k : ℚ) / 2 ^ (11 : ℤ)) := by exact_mod_cast h
  have hnearest := nearest_eq (by exact_mod_cast hlow) (by exact_mod_cast hhigh) (by decide) h'
  exact_mod_cast hnearest

theorem two_pow_le_addedSeconds (h : (2 ^ 64 - 2 ^ 10) * second ≤ d) :
    (2 : ℚ) ^ (64 : ℤ) ≤ addedSeconds d := by
  have hbeyond : (2 : ℚ) ^ (64 : ℤ) < beyond := by
    exact_mod_cast natCast_lt_beyond (le_refl (2 ^ 64))
  have hseconds : 2 ^ 64 - 2 ^ 10 ≤ d / second := (Nat.le_div_iff_mul_le (by decide)).2 h
  have hup : nearest ((2 ^ 64 - 2 ^ 10 : Nat) : ℚ) = (2 ^ 53 : Nat) * 2 ^ 11 := by
    refine nearest_eq_below _ _ (by decide) (by decide) ?_
    constructor <;> norm_num [abs_of_nonneg]
  have hwhole := nearest_le_nearest (Nat.cast_nonneg _) (Nat.cast_le (α := ℚ).2 hseconds)
  rw [hup] at hwhole
  refine le_add_of_le_of_nonneg (le_min (le_trans ?_ hwhole) hbeyond.le) (nearest_nonneg _)
  norm_num

theorem nearest_below_two_pow :
    nearest ((2 ^ 64 - 2 ^ 10 - 1 : Nat) : ℚ) = (2 ^ 53 - 1 : Nat) * 2 ^ 11 := by
  refine nearest_eq_below _ _ (by decide) (by decide) ?_
  constructor <;> norm_num [abs_of_nonpos]

theorem addedSeconds_le_below (h : d < (2 ^ 64 - 2 ^ 10) * second) :
    addedSeconds d ≤ (2 ^ 64 - 2 ^ 10 - 1 : Nat) := by
  have hseconds : d / second ≤ 2 ^ 64 - 2 ^ 10 - 1 :=
    Nat.le_sub_one_of_lt (Nat.div_lt_of_lt_mul (by rwa [Nat.mul_comm]))
  have hwhole := nearest_le_nearest (Nat.cast_nonneg _) (Nat.cast_le (α := ℚ).2 hseconds)
  rw [nearest_below_two_pow] at hwhole
  refine (add_le_add ((min_le_left _ _).trans hwhole) (nearest_part_le d)).trans ?_
  norm_num

/-- The longest times come to `2 ^ 64` seconds or more. -/
theorem size_secondsOf_lt_iff (d : Nat) :
    size (secondsOf d) < 2 ^ 64 ↔ d < (2 ^ 64 - 2 ^ 10) * second := by
  have hbeyond : (2 : ℚ) ^ 64 < beyond := by exact_mod_cast natCast_lt_beyond (le_refl (2 ^ 64))
  rw [size_secondsOf, min_lt_iff, or_iff_left hbeyond.not_gt]
  constructor
  · intro hlt
    by_contra hlong
    exact absurd hlt (not_lt.2
      (le_nearest_of_le (by decide) (two_pow_le_addedSeconds (Nat.not_lt.1 hlong))))
  · intro hshort
    have hle := nearest_le_nearest (addedSeconds_nonneg d) (addedSeconds_le_below hshort)
    rw [nearest_below_two_pow] at hle
    refine hle.trans_lt ?_
    norm_num

end RateHerald.Backoff
