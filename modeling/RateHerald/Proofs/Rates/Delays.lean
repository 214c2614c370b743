import RateHerald.Proofs.Rates.Growth

/-!
# Delays before another try

The standard delay is a fifth of a second, doubled with every try up to three seconds. Although it
is computed in floating point this is so for any number of tries: powers of two are exact, and once
the limit is reached it is not left. A random factor between a half and one and a half leaves a
delay that can be counted in nanoseconds.

## Main declarations

* `Backoff.plainDelay_standard`: the standard delay without the random factor.
* `Backoff.exists_delay_standard`: with a random factor there always is a delay.
-/

namespace RateHerald.Backoff

open Decimal

theorem nanosOf_of_toOption {x : Float} {n : Nat} (h : (nanosOf x).toOption = some n) :
    nanosOf x = .ok n := by
  cases hx : nanosOf x with
  | error e =>
    rw [hx] at h
    cases h
  | ok n' =>
    rw [hx] at h
    cases h
    rfl

/-- Without the random factor the standard delay is a fifth of a second, doubled with every try up
to three seconds. -/
theorem plainDelay_standard (n : Nat) :
    standard.plainDelay n = .ok (min (200 * 2 ^ n) 3000 * millisecond) := by
  rw [standard, plainDelay_exponential]
  by_cases hlarge : 4 ≤ n
  · have hthree : min (200 * 2 ^ n) 3000 = 3000 := by
      have hpow := Nat.pow_le_pow_right Nat.two_pos hlarge
      omega
    have hreached : secondsOf (3 * second) ≤ grown (200 * millisecond) 2.0 4 := by
      rw [grown, power_two]
      decide +kernel
    rw [nanosOf_limited_of_reached (by decide) (by decide +kernel) hreached hlarge,
      nanosOf_secondsOf (by decide), hthree]
    rfl
  · have hsame : min n maxExponent = n := Nat.min_eq_left (by
      have hmax : 4 ≤ maxExponent := by decide
      omega)
    have hfew : ∀ k < 4, (nanosOf (smaller (secondsOf (200 * millisecond) * twoTo k)
        (secondsOf (3 * second)))).toOption = some (min (200 * 2 ^ k) 3000 * millisecond) := by
      decide +kernel
    rw [limited, grown, hsame, power_two]
    exact nanosOf_of_toOption (hfew n (Nat.lt_of_not_le hlarge))

/-! ## The random factor -/

/-- Less than `2 ^ 23` seconds come to less than `2 ^ 24`. -/
theorem size_secondsOf_lt {d : Nat} (hd : d < 2 ^ 23 * second) :
    size (secondsOf d) < 2 ^ 24 := by
  have hnear := (abs_le.1 (isNearest_size_secondsOf hd).near).1
  have hbillion : (second : ℚ) = 1000000000 := by norm_num [second]
  have hd' : (d : ℚ) ≤ 2 ^ 23 * second := by exact_mod_cast hd.le
  rw [hbillion] at hnear hd'
  linarith

/-- Whatever the number of tries and the random factor, there is a delay. -/
theorem exists_delay_standard (n : Nat) {scale : Float} (hle : 0.5 ≤ scale) (hle' : scale ≤ 1.5) :
    ∃ nanos, standard.delay n scale = .ok nanos := by
  have hscale : 0 ≤ scale := nonneg_of_le (by decide +kernel) hle
  have hhigh : size 1.5 = 3 / 2 := by
    have hunits : (1.5 : Float).toModel.unpack = .finite .positive (3 * 2 ^ 51) (-52) (by decide) :=
      rfl
    rw [size, hunits, partsSize, zpow_neg, zpow_ofNat]
    norm_num
  have hsize : size scale ≤ 2 := by
    have hle'' := (le_iff_size hscale (nonneg_of_le hscale hle')).1 hle'
    rw [hhigh] at hle''
    linarith
  obtain ⟨plain, hplain, hshort⟩ : ∃ plain, standard.plainDelay n = .ok plain ∧
      plain < 2 ^ 23 * second := by
    refine ⟨_, plainDelay_standard n, ?_⟩
    rw [millisecond, second]
    omega
  have hseconds := size_secondsOf_lt hshort
  have htwo : (2 : ℚ) < beyond := by exact_mod_cast natCast_lt_beyond (n := 2) (by decide)
  have hlarge : (2 : ℚ) ^ 24 < beyond := by
    exact_mod_cast natCast_lt_beyond (n := 2 ^ 24) (by decide)
  have hproduct := isRounded_mul hscale (hsize.trans_lt htwo) (secondsOf_nonneg plain)
    (hseconds.trans hlarge)
  have hdelay : standard.delay n scale = nanosOf (scale * secondsOf plain) := by
    rw [delay, hplain]
    rfl
  have hexact : size scale * size (secondsOf plain) ≤ 2 ^ (25 : ℤ) :=
    calc size scale * size (secondsOf plain) ≤ 2 * 2 ^ 24 :=
          mul_le_mul hsize hseconds.le (size_nonneg (secondsOf_nonneg plain)) zero_le_two
      _ = 2 ^ (25 : ℤ) := by norm_num
  have hnearest := nearest_le_of_le (by decide)
    (mul_nonneg (size_nonneg hscale) (size_nonneg (secondsOf_nonneg plain))) hexact
  rw [hdelay, exists_nanosOf_iff hproduct.nonneg, hproduct.size_eq]
  refine (min_le_left _ _).trans_lt (hnearest.trans_lt ?_)
  norm_num

end RateHerald.Backoff
