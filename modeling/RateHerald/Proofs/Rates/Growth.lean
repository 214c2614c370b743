import RateHerald.Proofs.Rates.Seconds

/-!
# Growing delays

A growing delay never shrinks from one try to the next. Its power is computed by repeated squaring,
with a rounding after every product, so this is not a law of arithmetic: a power and the next one
are reached on different ways. But where two ways part, one has a number that is not smaller, and
all products keep the order.

The limit is not always kept. A delay of zero times a power that is infinite is not a number and
passed over, so it is the limit and not zero. A limit above `2 ^ 23` seconds may be exceeded by
rounding, and the longest limits are no delay at all.

## Main declarations

* `power_le_power`: powers of a number that is not less than one keep the order.
* `grown` is the delay in seconds before the limit, and `grown_cases` says what it can be;
  `limited` is the delay in seconds, and `limited_le_limited` says that it never shrinks.
* `delay_of_one_le`: when a growing delay is as it should be, and what it can be at all.
-/

namespace RateHerald.Backoff

open Decimal

variable {a b r s x y : Float} {n : Nat}

/-! ## Powers -/

@[simp] theorem powerFrom_zero (r a : Float) : powerFrom r a 0 = r := by
  rw [powerFrom]
  rfl

theorem powerFrom_even (r a : Float) (n : Nat) :
    powerFrom r a (2 * n) = powerFrom r (a * a) n := by
  have hhalf : 2 * n / 2 = n := Nat.mul_div_cancel_left n Nat.two_pos
  have hmod : 2 * n % 2 = 0 := Nat.mul_mod_right 2 n
  rw [powerFrom, hhalf, hmod, if_neg Nat.zero_ne_one]
  split
  · next hzero => rw [hzero, powerFrom_zero]
  · rfl

theorem powerFrom_odd (r a : Float) (n : Nat) :
    powerFrom r a (2 * n + 1) = powerFrom (r * a) (a * a) n := by
  have hhalf : (2 * n + 1) / 2 = n := by omega
  have hmod : (2 * n + 1) % 2 = 1 := by omega
  rw [powerFrom, hhalf, hmod, if_pos rfl]
  split
  · next hzero => rw [hzero, powerFrom_zero]
  · rfl

theorem nonneg_of_one_le (hx : 1.0 ≤ x) : 0 ≤ x :=
  nonneg_of_le (by decide) hx

theorem one_le_size (hx : 1.0 ≤ x) : 1 ≤ size x := by
  rw [← size_one]
  exact (le_iff_size (by decide) (nonneg_of_one_le hx)).1 hx

theorem size_pos (hx : 1.0 ≤ x) : 0 < size x :=
  one_pos.trans_le (one_le_size hx)

/-- Both factors are at most the product if neither is less than one. -/
theorem le_product_of_one_le (hx : 1.0 ≤ x) (hy : 1.0 ≤ y) : x ≤ x * y ∧ y ≤ x * y := by
  have hx' := nonneg_of_one_le hx
  have hy' := nonneg_of_one_le hy
  have hleft : size x ≤ size x * size y :=
    le_mul_of_one_le_right (size_nonneg hx') (one_le_size hy)
  have hright : size y ≤ size x * size y :=
    le_mul_of_one_le_left (size_nonneg hy') (one_le_size hx)
  exact ⟨(le_product hx' (size_pos hx) hy' (size_pos hy) hx' hleft).2,
    (le_product hx' (size_pos hx) hy' (size_pos hy) hy' hright).2⟩

theorem one_le_of_le (hx : 1.0 ≤ x) (hle : x ≤ y) : 1.0 ≤ y :=
  le_of_le_of_le (by decide) hx hle

theorem one_le_product (hx : 1.0 ≤ x) (hy : 1.0 ≤ y) : 1.0 ≤ x * y :=
  one_le_of_le hx (le_product_of_one_le hx hy).1

theorem one_le_powerFrom (hr : 1.0 ≤ r) (ha : 1.0 ≤ a) (n : Nat) : 1.0 ≤ powerFrom r a n := by
  induction n using Nat.evenOddRec generalizing r a with
  | h0 => rwa [powerFrom_zero]
  | h_even q ih =>
    rw [powerFrom_even]
    exact ih hr (one_le_product ha ha)
  | h_odd q ih =>
    rw [powerFrom_odd]
    exact ih (one_le_product hr ha) (one_le_product ha ha)

theorem one_le_power (ha : 1.0 ≤ a) (n : Nat) : 1.0 ≤ power a n :=
  one_le_powerFrom (by decide) ha n

/-- A larger number to begin with gives a larger product. -/
theorem powerFrom_le_powerFrom (hr : 1.0 ≤ r) (hrs : r ≤ s) (ha : 1.0 ≤ a) (n : Nat) :
    powerFrom r a n ≤ powerFrom s a n := by
  induction n using Nat.evenOddRec generalizing r s a with
  | h0 => rwa [powerFrom_zero, powerFrom_zero]
  | h_even q ih =>
    rw [powerFrom_even, powerFrom_even]
    exact ih hr hrs (one_le_product ha ha)
  | h_odd q ih =>
    have ha' := nonneg_of_one_le ha
    have hproducts := (product_le_product (nonneg_of_one_le hr) (size_pos hr) hrs ha'
      (size_pos ha) (le_self ha')).2
    rw [powerFrom_odd, powerFrom_odd]
    exact ih (one_le_product hr ha) hproducts (one_le_product ha ha)

theorem le_one_product (hs : 1.0 ≤ s) (hsb : s ≤ b) : s ≤ 1.0 * b := by
  have hone : (1.0 : Float) ≤ 1.0 := by decide
  exact le_of_le_of_le (nonneg_of_one_le hs) hsb
    (le_product_of_one_le hone (one_le_of_le hs hsb)).2

/-- Where the ways to a power and to the next one part, the product so far is not larger than the
base. This stays so: an odd exponent multiplies both by the base. -/
theorem powerFrom_le_succ (hs : 1.0 ≤ s) (hsb : s ≤ b) (n : Nat) :
    powerFrom s b n ≤ powerFrom 1.0 b (n + 1) := by
  induction n using Nat.evenOddRec generalizing s b with
  | h0 =>
    rw [powerFrom_zero, powerFrom_odd 1.0 b 0, powerFrom_zero]
    exact le_one_product hs hsb
  | h_even q _ =>
    -- the next exponent is odd, and from here on both go the same way
    have hb := one_le_of_le hs hsb
    rw [powerFrom_even, powerFrom_odd]
    exact powerFrom_le_powerFrom hs (le_one_product hs hsb) (one_le_product hb hb) q
  | h_odd q ih =>
    have hb := one_le_of_le hs hsb
    have hb' := nonneg_of_one_le hb
    have hproducts := (product_le_product (nonneg_of_one_le hs) (size_pos hs) hsb hb'
      (size_pos hb) (le_self hb')).2
    have hnext : 2 * q + 1 + 1 = 2 * (q + 1) := by omega
    rw [powerFrom_odd, hnext, powerFrom_even]
    exact ih (one_le_product hs hb) hproducts

/-- Powers of a number that is not less than one keep the order. -/
theorem power_le_power (ha : 1.0 ≤ a) {m n : Nat} (hle : m ≤ n) : power a m ≤ power a n := by
  induction n, hle using Nat.le_induction with
  | base => exact le_self (nonneg_of_one_le (one_le_power ha m))
  | succ n _ ih =>
    exact le_of_le_of_le (nonneg_of_one_le (one_le_power ha m)) ih
      (powerFrom_le_succ (by decide) ha n)

/-! ### Powers of two -/

/-- Repeated squaring of a power of two gives powers of two. -/
theorem powerFrom_twoTo (k j n : Nat) : powerFrom (twoTo k) (twoTo j) n = twoTo (k + j * n) := by
  induction n using Nat.evenOddRec generalizing k j with
  | h0 => rw [powerFrom_zero, Nat.mul_zero, Nat.add_zero]
  | h_even q ih =>
    have hexponent : k + (j + j) * q = k + j * (2 * q) := by ring
    rw [powerFrom_even, twoTo_mul_twoTo, ih, hexponent]
  | h_odd q ih =>
    have hexponent : k + j + (j + j) * q = k + j * (2 * q + 1) := by ring
    rw [powerFrom_odd, twoTo_mul_twoTo, twoTo_mul_twoTo, ih, hexponent]

theorem power_two (n : Nat) : power 2.0 n = twoTo n := by
  have hone : (1.0 : Float) = twoTo 0 := by decide +kernel
  have htwo : (2.0 : Float) = twoTo 1 := by decide +kernel
  rw [power, hone, htwo, powerFrom_twoTo, Nat.zero_add, Nat.one_mul]

/-! ## The limit -/

theorem smaller_of_isNaN (hx : x.isNaN = true) (y : Float) : smaller x y = y := by
  rw [smaller, if_pos hx]

/-- The smaller one of two numbers is one of them. -/
theorem size_smaller (hx : 0 ≤ x) (hy : 0 ≤ y) :
    0 ≤ smaller x y ∧ size (smaller x y) = min (size x) (size y) := by
  rw [smaller, isNaN_eq_false hx, isNaN_eq_false hy, if_neg Bool.false_ne_true,
    if_neg Bool.false_ne_true]
  split
  · next hlt => exact ⟨hx, (min_eq_left ((lt_iff_size hx hy).1 hlt).le).symm⟩
  · next hle => exact ⟨hy, (min_eq_right (not_lt.1 ((lt_iff_size hx hy).not.1 hle))).symm⟩

/-- The delay in seconds before it is limited. -/
def grown (base : Nat) (factor : Float) (n : Nat) : Float :=
  secondsOf base * power factor (min n maxExponent)

/-- The delay in seconds. -/
def limited (base : Nat) (factor : Float) (max n : Nat) : Float :=
  smaller (grown base factor n) (secondsOf max)

variable {base max m n d : Nat} {factor : Float}

theorem delay_of_not_isJittered {b : Backoff} (h : b.isJittered = false) (attempt : Nat)
    (scale : Float) : b.delay attempt scale = b.plainDelay attempt := by
  simp only [delay, h, Bool.false_eq_true, if_false]
  exact bind_pure _

theorem plainDelay_exponential (base max n : Nat) (factor : Float) (jitter : Bool) :
    (exponential base factor max jitter).plainDelay n =
      nanosOf (limited base factor max n) :=
  rfl

theorem delay_eq (base max n : Nat) (factor scale : Float) :
    (exponential base factor max false).delay n scale =
      nanosOf (limited base factor max n) := by
  rw [delay_of_not_isJittered rfl, plainDelay_exponential]

theorem power_nonneg (hfactor : 1.0 ≤ factor) (n : Nat) : 0 ≤ power factor n :=
  nonneg_of_one_le (one_le_power hfactor n)

/-- Zero times a power is zero, or not a number if the power is infinite. -/
theorem grown_zero (hfactor : 1.0 ≤ factor) (n : Nat) :
    ((power factor (min n maxExponent)).isInf = true ∧ (grown 0 factor n).isNaN = true) ∨
      ((power factor (min n maxExponent)).isInf = false ∧ 0 ≤ grown 0 factor n ∧
        size (grown 0 factor n) = 0) := by
  have hpower := power_nonneg hfactor (min n maxExponent)
  have hzero := size_secondsOf_zero
  have hnonneg := secondsOf_nonneg 0
  by_cases hlarge : size (power factor (min n maxExponent)) = beyond
  · exact .inl ⟨(isInf_iff hpower).2 hlarge, isNaN_mul hnonneg hzero hpower hlarge⟩
  · have hproduct := isRounded_mul hnonneg (hzero ▸ beyond_pos) hpower
      ((size_le_beyond hpower).lt_of_ne hlarge)
    rw [hzero, zero_mul] at hproduct
    exact .inr ⟨Bool.eq_false_iff.2 ((isInf_iff hpower).not.2 hlarge), hproduct.nonneg,
      hproduct.size_of_exact nearest_zero beyond_pos.le⟩

/-- Unless it is zero at first, a delay that is not limited never shrinks. -/
theorem grown_le_grown (hbase : 0 < base) (hfactor : 1.0 ≤ factor) (hle : m ≤ n) :
    0 ≤ grown base factor m ∧ grown base factor m ≤ grown base factor n := by
  have hexponent : min m maxExponent ≤ min n maxExponent := min_le_min_right _ hle
  have hseconds := secondsOf_nonneg base
  exact product_le_product hseconds (size_secondsOf_pos hbase) (le_self hseconds)
    (power_nonneg hfactor _) (size_pos (one_le_power hfactor _)) (power_le_power hfactor hexponent)

/-- A delay that is not limited is a number, unless it is zero times infinity. -/
theorem grown_cases (base : Nat) (hfactor : 1.0 ≤ factor) (n : Nat) :
    0 ≤ grown base factor n ∨ (base = 0 ∧ (power factor (min n maxExponent)).isInf = true ∧
      (grown base factor n).isNaN = true) := by
  rcases Nat.eq_zero_or_pos base with rfl | hbase
  · rcases grown_zero hfactor n with ⟨hlarge, hnan⟩ | ⟨-, hnonneg, -⟩
    · exact .inr ⟨rfl, hlarge, hnan⟩
    · exact .inl hnonneg
  · exact .inl (grown_le_grown hbase hfactor le_rfl).1

theorem limited_of_isNaN (hnan : (grown base factor n).isNaN = true) (max : Nat) :
    limited base factor max n = secondsOf max :=
  smaller_of_isNaN hnan _

theorem size_limited (hgrown : 0 ≤ grown base factor n) (max : Nat) :
    0 ≤ limited base factor max n ∧
      size (limited base factor max n) = min (size (grown base factor n)) (size (secondsOf max)) :=
  size_smaller hgrown (secondsOf_nonneg max)

/-- The delay is not negative and does not exceed the limit. -/
theorem limited_le (base max : Nat) (hfactor : 1.0 ≤ factor) (n : Nat) :
    0 ≤ limited base factor max n ∧ limited base factor max n ≤ secondsOf max := by
  have hmax := secondsOf_nonneg max
  rcases grown_cases base hfactor n with hgrown | ⟨-, -, hnan⟩
  · obtain ⟨hnonneg, hsize⟩ := size_limited hgrown max
    refine ⟨hnonneg, (le_iff_size hnonneg hmax).2 ?_⟩
    rw [hsize]
    exact min_le_right _ _
  · rw [limited_of_isNaN hnan]
    exact ⟨hmax, le_self hmax⟩

/-- Delays never shrink. -/
theorem limited_le_limited (base max : Nat) (hfactor : 1.0 ≤ factor) (hle : m ≤ n) :
    limited base factor max m ≤ limited base factor max n := by
  obtain ⟨hnonneg, -⟩ := limited_le base max hfactor n
  rcases Nat.eq_zero_or_pos base with rfl | hbase
  · rcases grown_zero hfactor m with ⟨hlarge, hnan⟩ | ⟨-, hzero, hsize⟩
    · -- an infinite power stays infinite
      have hpower := power_nonneg hfactor (min m maxExponent)
      have hpower' := power_nonneg hfactor (min n maxExponent)
      have hpowers := power_le_power hfactor (min_le_min_right maxExponent hle)
      rw [le_iff_size hpower hpower', (isInf_iff hpower).1 hlarge] at hpowers
      have hlarge' := (isInf_iff hpower').2 (le_antisymm (size_le_beyond hpower') hpowers)
      have hnan' := (grown_zero hfactor n).resolve_right fun h => Bool.false_ne_true
        (h.1.symm.trans hlarge')
      rw [limited_of_isNaN hnan, limited_of_isNaN hnan'.2]
      exact le_self (secondsOf_nonneg max)
    · obtain ⟨hnonneg', hleast⟩ := size_limited hzero max
      rw [le_iff_size hnonneg' hnonneg, hleast, hsize,
        min_eq_left (size_nonneg (secondsOf_nonneg max))]
      exact size_nonneg hnonneg
  · obtain ⟨hgrown, hgrows⟩ := grown_le_grown hbase hfactor hle
    have hgrown' := nonneg_of_le hgrown hgrows
    obtain ⟨hnonneg', hleast⟩ := size_limited hgrown max
    rw [le_iff_size hnonneg' hnonneg, hleast, (size_limited hgrown' max).2]
    exact min_le_min_right _ ((le_iff_size hgrown hgrown').1 hgrows)

/-- Once the limit is reached the delay stays there. -/
theorem nanosOf_limited_of_reached (hbase : 0 < base) (hfactor : 1.0 ≤ factor)
    (hreached : secondsOf max ≤ grown base factor m) (hle : m ≤ n) :
    nanosOf (limited base factor max n) = nanosOf (secondsOf max) := by
  have hmax := secondsOf_nonneg max
  obtain ⟨hgrown, hgrows⟩ := grown_le_grown hbase hfactor hle
  have hgrown' := nonneg_of_le hgrown hgrows
  have hreached' := le_of_le_of_le hmax hreached hgrows
  obtain ⟨hnonneg, hleast⟩ := size_limited hgrown' max
  rw [min_eq_right ((le_iff_size hmax hgrown').1 hreached')] at hleast
  rw [nanosOf_eq hnonneg, nanosOf_eq hmax, hleast]

/-! ## Delays -/

theorem exists_nanosOf_limited_iff (base max : Nat) (hfactor : 1.0 ≤ factor) (n : Nat) :
    (∃ d, nanosOf (limited base factor max n) = .ok d) ↔
      max < (2 ^ 64 - 2 ^ 10) * second ∨ grown base factor n < Float.ofNat UInt64.size := by
  have hlargest := isRounded_ofNat UInt64.size
  have hsize : size (Float.ofNat UInt64.size) = 2 ^ 64 := by
    have hexact : nearest (UInt64.size : ℚ) = UInt64.size := by
      exact_mod_cast nearest_two_zpow (e := 64) (by decide)
    rw [hlargest.size_of_exact hexact (natCast_lt_beyond le_rfl).le]
    norm_num
  rw [exists_nanosOf_iff (limited_le base max hfactor n).1, ← size_secondsOf_lt_iff]
  rcases grown_cases base hfactor n with hgrown | ⟨-, -, hnan⟩
  · rw [(size_limited hgrown max).2, min_lt_iff, lt_iff_size hgrown hlargest.nonneg, hsize,
      or_comm]
  · rw [limited_of_isNaN hnan, or_iff_left (not_lt_of_isNaN hnan _)]

/-- If there is a delay, there was one before every earlier try, and none was longer. -/
theorem exists_earlier (hfactor : 1.0 ≤ factor)
    (h : nanosOf (limited base factor max n) = .ok d) :
    ∀ m ≤ n, ∃ d', nanosOf (limited base factor max m) = .ok d' ∧ d' ≤ d := by
  intro m hle
  exact nanosOf_le_nanosOf (limited_le base max hfactor m).1
    (limited_le_limited base max hfactor hle) h

/-- The limit is kept up to rounding. -/
theorem le_of_nanosOf_limited (hfactor : 1.0 ≤ factor)
    (h : nanosOf (limited base factor max n) = .ok d) :
    d ≤ max + max / 2 ^ 51 := by
  obtain ⟨hnonneg, hle⟩ := limited_le base max hfactor n
  rcases Nat.lt_or_ge max ((2 ^ 64 - 2 ^ 10) * second) with hshort | hlong
  · obtain ⟨limit, hlimit⟩ := (exists_nanosOf_iff (secondsOf_nonneg max)).2
      ((size_secondsOf_lt_iff max).2 hshort)
    obtain ⟨d', hd', hle'⟩ := nanosOf_le_nanosOf hnonneg hle hlimit
    cases h.symm.trans hd'
    exact hle'.trans (le_of_nanosOf_secondsOf hlimit)
  · -- such a limit is never reached
    have hlt : d < 2 ^ 64 * second := lt_of_nanosOf hnonneg h
    rw [second] at hlt hlong
    omega

/-- The limit is kept if it is kept by itself or the delay does not reach it, and by no other
delay. -/
theorem exists_le_iff (base max : Nat) (hfactor : 1.0 ≤ factor) (n : Nat) :
    (∃ d, nanosOf (limited base factor max n) = .ok d ∧ d ≤ max) ↔
      (∃ d, nanosOf (secondsOf max) = .ok d ∧ d ≤ max) ∨
        ∃ d, nanosOf (grown base factor n) = .ok d ∧ d ≤ max := by
  obtain ⟨hnonneg, hle⟩ := limited_le base max hfactor n
  constructor
  · rintro ⟨d, hd, hdle⟩
    rw [limited, smaller] at hd
    split at hd
    · exact .inl ⟨d, hd, hdle⟩
    · split at hd
      · exact .inr ⟨d, hd, hdle⟩
      · split at hd
        · exact .inr ⟨d, hd, hdle⟩
        · exact .inl ⟨d, hd, hdle⟩
  · rintro (⟨limit, hlimit, hkept⟩ | ⟨g, hg, hkept⟩)
    · obtain ⟨d, hd, hdle⟩ := nanosOf_le_nanosOf hnonneg hle hlimit
      exact ⟨d, hd, hdle.trans hkept⟩
    · rcases grown_cases base hfactor n with hgrown | ⟨-, -, hnan⟩
      · obtain ⟨-, hsize⟩ := size_limited hgrown max
        have hless : limited base factor max n ≤ grown base factor n := by
          rw [le_iff_size hnonneg hgrown, hsize]
          exact min_le_left _ _
        obtain ⟨d, hd, hdle⟩ := nanosOf_le_nanosOf hnonneg hless hg
        exact ⟨d, hd, hdle.trans hkept⟩
      · rw [nanosOf_of_isNaN hnan] at hg
        cases hg

/-- A delay that is zero at first is zero as long as the power is finite, and then the limit. -/
theorem nanosOf_limited_zero (max : Nat) (hfactor : 1.0 ≤ factor) (n : Nat) :
    nanosOf (limited 0 factor max n) =
      if (power factor (min n maxExponent)).isInf then nanosOf (secondsOf max) else .ok 0 := by
  rcases grown_zero hfactor n with ⟨hlarge, hnan⟩ | ⟨hsmall, hzero, hsize⟩
  · rw [if_pos hlarge, limited_of_isNaN hnan]
  · obtain ⟨hnonneg, hleast⟩ := size_limited hzero max
    rw [hsize, min_eq_left (size_nonneg (secondsOf_nonneg max))] at hleast
    have hwhole : whole (0 * second) = 0 := by
      rw [zero_mul]
      exact_mod_cast whole_natCast 0
    rw [if_neg (Bool.eq_false_iff.1 hsmall), nanosOf_of_lt hnonneg (hleast ▸ by positivity), hleast,
      hwhole]

/-- When a growing delay is as it should be: there is one, within the limit, no earlier one is
longer, and it is zero if it was zero at first. A limit below `2 ^ 23` seconds is always kept, and a
longer one if it is not lengthened by rounding or not reached. A delay that was zero stays zero
while the power is finite, and then is the limit. All in all a delay is missing only where the limit
and the delay before it are too long, the limit is exceeded by little, and delays never shrink. -/
theorem delay_of_one_le (base max : Nat) (hfactor : 1.0 ≤ factor) (n : Nat) (scale : Float) :
    ((∃ d, (exponential base factor max false).delay n scale = .ok d ∧ d ≤ max ∧
        (∀ m ≤ n, ∃ d', (exponential base factor max false).delay m scale = .ok d' ∧ d' ≤ d) ∧
        (base = 0 → d = 0)) ↔
      (max < 2 ^ 23 * second ∨ (∃ d, nanosOf (secondsOf max) = .ok d ∧ d ≤ max) ∨
        ∃ d, nanosOf (grown base factor n) = .ok d ∧ d ≤ max) ∧
      (base = 0 → (power factor (min n maxExponent)).isInf = true → max = 0)) ∧
    ((∃ d, (exponential base factor max false).delay n scale = .ok d) ↔
      max < (2 ^ 64 - 2 ^ 10) * second ∨ grown base factor n < Float.ofNat UInt64.size) ∧
    (∀ d, (exponential base factor max false).delay n scale = .ok d → d ≤ max + max / 2 ^ 51 ∧
      ∀ m ≤ n, ∃ d', (exponential base factor max false).delay m scale = .ok d' ∧ d' ≤ d) ∧
    (base = 0 → (exponential base factor max false).delay n scale =
      if (power factor (min n maxExponent)).isInf then nanosOf (secondsOf max) else .ok 0) := by
  simp only [delay_eq]
  have hzero : base = 0 → nanosOf (limited base factor max n) =
      if (power factor (min n maxExponent)).isInf then nanosOf (secondsOf max) else .ok 0 := by
    rintro rfl
    exact nanosOf_limited_zero max hfactor n
  have hshort : max < 2 ^ 23 * second → ∃ d, nanosOf (secondsOf max) = .ok d ∧ d ≤ max :=
    fun hlt => ⟨max, nanosOf_secondsOf hlt, le_rfl⟩
  refine ⟨⟨?_, ?_⟩, exists_nanosOf_limited_iff base max hfactor n,
    fun d hd => ⟨le_of_nanosOf_limited hfactor hd, exists_earlier hfactor hd⟩, hzero⟩
  · rintro ⟨d, hd, hle, -, hnone⟩
    refine ⟨.inr ((exists_le_iff base max hfactor n).1 ⟨d, hd, hle⟩), fun hbase hlarge => ?_⟩
    rw [hzero hbase, if_pos hlarge, hnone hbase] at hd
    exact eq_zero_of_nanosOf_secondsOf hd
  · rintro ⟨hkept, hmax⟩
    obtain ⟨d, hd, hle⟩ := (exists_le_iff base max hfactor n).2
      (hkept.elim (fun hlt => .inl (hshort hlt)) id)
    refine ⟨d, hd, hle, exists_earlier hfactor hd, fun hbase => ?_⟩
    rw [hzero hbase] at hd
    split at hd
    · next hlarge =>
      rw [hmax hbase hlarge] at hle
      exact Nat.le_zero.1 hle
    · cases hd
      rfl

/-- A second, doubled with every try up to three seconds, never shrinks and is never longer. -/
theorem delay_doubled : (1.0 : Float) ≤ 2.0 ∧
    ∃ d, (exponential second 2.0 (3 * second) false).delay 2000 1.0 = .ok d ∧ d ≤ 3 * second ∧
      ∀ m ≤ 2000, ∃ d', (exponential second 2.0 (3 * second) false).delay m 1.0 = .ok d' ∧
        d' ≤ d := by
  have hfactor : (1.0 : Float) ≤ 2.0 := by decide +kernel
  obtain ⟨hiff, -⟩ := delay_of_one_le second (3 * second) hfactor 2000 1.0
  obtain ⟨d, hd, hle, hgrows, -⟩ := hiff.2 ⟨.inl (by decide), nofun⟩
  exact ⟨hfactor, d, hd, hle, hgrows⟩

/-- A delay that was zero becomes as long as the limit, the longest limit is no delay, and a long
limit may be exceeded. -/
theorem delay_not_limited :
    ((exponential 0 2.0 second false).delay 1023 1.0 = .ok 0 ∧
      (exponential 0 2.0 second false).delay 1024 1.0 = .ok second) ∧
    (exponential (UInt64.size * second - 1) 1.0 (UInt64.size * second - 1) false).delay 0 1.0 =
      .error .tooLarge ∧
    (exponential 8388608000000001 1.0 8388608000000001 false).delay 0 1.0 =
      .ok 8388608000000002 := by
  have hfactor : (1.0 : Float) ≤ 2.0 := by decide +kernel
  simp only [delay_eq, nanosOf_limited_zero second hfactor, power_two]
  refine ⟨⟨?_, ?_⟩, ?_, ?_⟩
  · rw [if_neg (by decide +kernel)]
  · rw [twoTo_of_large (by decide), nanosOf_secondsOf (by decide)]
    rfl
  · decide +kernel
  · decide +kernel

end RateHerald.Backoff
