import ControlPlane.Proofs.Decimal.Nearest

/-!
# Decimal arithmetic is exact and rounded once

A decimal stands for a rational number, `Decimal.toRat`.  Rounding a decimal gives the number of the
context that is nearest to that number, or overflows when the nearest one lies too high
(`Context.round_cases`); how the decimal is written plays no part.  Products are the rounded exact
products, and `Decimal.ceil` is the ceiling of the number.
-/

namespace ControlPlane.Decimal

/-! ## the number that a decimal stands for -/

/-- A decimal without its sign, as a number. -/
def magnitude (x : Decimal) : ℚ := x.coefficient * 10 ^ x.exponent

/-- The number that a decimal stands for. -/
def toRat (x : Decimal) : ℚ := if x.negative then -x.magnitude else x.magnitude

theorem magnitude_nonneg (x : Decimal) : 0 ≤ x.magnitude := by
  unfold magnitude
  positivity

@[simp] theorem abs_toRat (x : Decimal) : |x.toRat| = x.magnitude := by
  unfold toRat
  split <;> simp [abs_of_nonneg x.magnitude_nonneg]

theorem magnitude_pos {x : Decimal} (h : x.coefficient ≠ 0) : 0 < x.magnitude := by
  have : 0 < x.coefficient := Nat.pos_of_ne_zero h
  unfold magnitude
  positivity

theorem toRat_eq_zero {x : Decimal} (h : x.coefficient = 0) : x.toRat = 0 := by
  simp [toRat, magnitude, h]

@[simp] theorem toRat_ofNat (n : ℕ) : (ofNat n).toRat = n := by simp [toRat, magnitude, ofNat]

@[simp] theorem toRat_powerOfTen (e : ℤ) : (powerOfTen e).toRat = 10 ^ e := by
  simp [toRat, magnitude, powerOfTen]

/-- The exact product. -/
theorem toRat_mul (x y : Decimal) :
    toRat ⟨x.negative != y.negative, x.coefficient * y.coefficient, x.exponent + y.exponent⟩ =
      x.toRat * y.toRat := by
  have hmagnitude : magnitude ⟨x.negative != y.negative, x.coefficient * y.coefficient,
      x.exponent + y.exponent⟩ = x.magnitude * y.magnitude := by
    simp only [magnitude, Nat.cast_mul]
    rw [zpow_add₀ (by norm_num)]
    ring
  simp only [toRat, hmagnitude]
  cases x.negative <;> cases y.negative <;> simp

/-- Moving the point. -/
theorem toRat_shift (x : Decimal) (n : ℤ) :
    toRat { x with exponent := x.exponent + n } = x.toRat * 10 ^ n := by
  have hmagnitude : magnitude { x with exponent := x.exponent + n } = x.magnitude * 10 ^ n := by
    simp only [magnitude]
    rw [zpow_add₀ (by norm_num), mul_assoc]
  simp only [toRat, hmagnitude]
  split <;> simp

/-! ## digits -/

theorem digitCount_eq_log (n : ℕ) : digitCount n = Nat.log 10 n + 1 := by
  fun_induction digitCount n with
  | case1 n h => rw [Nat.log_of_lt h]
  | case2 n h ih =>
      have hlog : 0 < Nat.log 10 n := Nat.log_pos (by norm_num) (by omega)
      rw [ih, Nat.log_div_base]
      omega

theorem pow_le_of_lt_digitCount {p n : ℕ} (hp : 0 < p) (h : p < digitCount n) : 10 ^ p ≤ n := by
  rw [digitCount_eq_log] at h
  have hne : n ≠ 0 := by
    rintro rfl
    rw [Nat.log_zero_right] at h
    omega
  exact Nat.pow_le_of_le_log hne (by omega)

/-- The exponent of the leading digit. -/
theorem log_magnitude {x : Decimal} (h : x.coefficient ≠ 0) :
    Int.log 10 x.magnitude = digitCount x.coefficient + x.exponent - 1 := by
  have hpos : (0 : ℚ) < x.coefficient := by exact_mod_cast Nat.pos_of_ne_zero h
  rw [magnitude, log_mul_zpow hpos, Int.log_natCast, digitCount_eq_log]
  omega

namespace Context

variable {ctx : Context} {x : Decimal}

theorem lastPlace_eq_placeOf (ctx : Context) (h : x.coefficient ≠ 0) :
    ctx.lastPlace x = ctx.placeOf x.magnitude := by
  rw [lastPlace, placeOf, abs_of_pos (magnitude_pos h), log_magnitude h]
  omega

/-! ## rounding -/

@[simp] theorem negative_shorten (ctx : Context) (x : Decimal) :
    (ctx.shorten x).negative = x.negative := by
  unfold shorten
  dsimp only
  split_ifs <;> rfl

/-- The coefficient that rounding computes is the nearest integer at the place. -/
theorem divHalfEven_lastPlace (h : x.coefficient ≠ 0) (hlast : x.exponent < ctx.lastPlace x) :
    nearestInt (x.magnitude / 10 ^ ctx.placeOf x.magnitude) =
      divHalfEven x.coefficient (Nat.pow 10 (ctx.lastPlace x - x.exponent).toNat) := by
  have hshift : (10 : ℚ) ^ ctx.placeOf x.magnitude =
      10 ^ x.exponent * (Nat.pow 10 (ctx.lastPlace x - x.exponent).toNat : ℕ) := by
    rw [← lastPlace_eq_placeOf ctx h, Nat.pow_eq, Nat.cast_pow, Nat.cast_ofNat, ← zpow_natCast,
      ← zpow_add₀ (by norm_num)]
    congr 1
    omega
  have hne : (10 : ℚ) ^ x.exponent ≠ 0 := by positivity
  have hpos : 0 < Nat.pow 10 (ctx.lastPlace x - x.exponent).toNat := Nat.pow_pos (by norm_num)
  rw [← nearestInt_div_eq_divHalfEven _ hpos, hshift, magnitude,
    mul_comm _ ((10 : ℚ) ^ x.exponent), mul_div_mul_left _ _ hne]

/-- Shortening rounds to the nearest number; a carry only moves the point. -/
theorem magnitude_shorten (hprecision : 0 < ctx.precision) (h : x.coefficient ≠ 0) :
    (ctx.shorten x).magnitude = ctx.nearest x.magnitude := by
  have hplace := lastPlace_eq_placeOf ctx h
  unfold shorten
  dsimp only
  split_ifs with hlast hcarry
  · -- The coefficient has been rounded up to the power of ten, and the digit cut off is a zero.
    have hround := divHalfEven_lastPlace h hlast
    have hle := abs_nearestInt_placeOf_le ctx x.magnitude
    rw [hround, Nat.abs_cast] at hle
    generalize divHalfEven _ _ = c at *
    have hpow : c = 10 ^ ctx.precision :=
      le_antisymm (by exact_mod_cast hle) (pow_le_of_lt_digitCount hprecision hcarry)
    have hten : 10 ∣ c := hpow ▸ dvd_pow_self 10 hprecision.ne'
    obtain ⟨d, rfl⟩ := hten
    rw [nearest, roundAt, hround, magnitude, hplace, Nat.mul_div_cancel_left _ (by norm_num),
      zpow_add_one₀ (by norm_num)]
    push_cast
    ring
  · rw [nearest, roundAt, divHalfEven_lastPlace h hlast, magnitude, hplace, Int.cast_natCast]
  · have hfixed := roundAt_of_le (hplace ▸ not_lt.mp hlast) x.coefficient
    rw [Int.cast_natCast] at hfixed
    exact hfixed.symm

theorem toRat_shorten (hprecision : 0 < ctx.precision) (h : x.coefficient ≠ 0) :
    (ctx.shorten x).toRat = ctx.nearest x.toRat := by
  rw [toRat, negative_shorten, magnitude_shorten hprecision h, toRat]
  split
  · rw [nearest_neg]
  · rfl

/-- The exponent of a number that is rounded to zero. -/
theorem exponent_shorten (hprecision : 0 < ctx.precision) (h : x.coefficient ≠ 0)
    (hzero : (ctx.shorten x).coefficient = 0) : (ctx.shorten x).exponent = ctx.tiny := by
  have hnearest : ctx.nearest x.magnitude = 0 := by
    rw [← magnitude_shorten hprecision h, magnitude, hzero, Nat.cast_zero, zero_mul]
  have htiny := placeOf_eq_tiny hprecision (magnitude_pos h) hnearest
  rw [← lastPlace_eq_placeOf ctx h] at htiny
  unfold shorten at *
  dsimp only at *
  split_ifs at * with hlast hcarry
  · -- After a carry the coefficient is no zero.
    have hlarge := pow_le_of_lt_digitCount hprecision hcarry
    have hten := Nat.pow_le_pow_right (n := 10) (by norm_num) hprecision
    simp only at hzero
    omega
  · exact htiny
  · exact absurd hzero h

/-- The test for overflow looks at the rounded number. -/
theorem overflows_iff (hsound : ctx.Sound) (h : x.coefficient ≠ 0) :
    ctx.maxExponent < digitCount (ctx.shorten x).coefficient + (ctx.shorten x).exponent - 1 ↔
      10 ^ (ctx.maxExponent + 1) ≤ |ctx.nearest x.toRat| := by
  rw [← toRat_shorten hsound.precision_pos h, abs_toRat]
  by_cases hzero : (ctx.shorten x).coefficient = 0
  · have hpos : (0 : ℚ) < 10 ^ (ctx.maxExponent + 1) := by positivity
    have hmagnitude : (ctx.shorten x).magnitude = 0 := by
      rw [magnitude, hzero, Nat.cast_zero, zero_mul]
    have hone : digitCount 0 = 1 := by decide +kernel
    rw [hmagnitude, hzero, hone, exponent_shorten hsound.precision_pos h hzero]
    have := hsound.tiny_le
    constructor
    · intro hlt
      omega
    · intro hle
      exact absurd hle (not_le.mpr hpos)
  · have hlog := Int.zpow_le_iff_le_log (b := 10) (x := ctx.maxExponent + 1) (by norm_num)
      (magnitude_pos hzero)
    rw [Nat.cast_ofNat, log_magnitude hzero] at hlog
    rw [hlog]
    omega

/-- A decimal is rounded to the nearest number of the context, or that number lies too high. -/
theorem round_cases (hsound : ctx.Sound) (x : Decimal) :
    (|ctx.nearest x.toRat| < 10 ^ (ctx.maxExponent + 1) ∧
      ∃ y, ctx.round x = .ok y ∧ y.toRat = ctx.nearest x.toRat) ∨
    (10 ^ (ctx.maxExponent + 1) ≤ |ctx.nearest x.toRat| ∧ ctx.round x = .error .overflow) := by
  by_cases h : x.coefficient = 0
  · have hpos : (0 : ℚ) < 10 ^ (ctx.maxExponent + 1) := by positivity
    refine .inl ⟨?_, _, by rw [round, if_pos h], ?_⟩
    · rwa [toRat_eq_zero h, nearest_zero, abs_zero]
    · rw [toRat_eq_zero h, nearest_zero]
      exact toRat_eq_zero h
  · rw [round, if_neg h]
    dsimp only
    split_ifs with hover
    · exact .inr ⟨(overflows_iff hsound h).mp hover, rfl⟩
    · rw [overflows_iff hsound h, not_le] at hover
      exact .inl ⟨hover, _, rfl, toRat_shorten hsound.precision_pos h⟩

end Context

/-! ## integers -/

theorem magnitude_of_nonneg {x : Decimal} (h : 0 ≤ x.exponent) :
    x.magnitude = (x.coefficient * Nat.pow 10 x.exponent.toNat : ℕ) := by
  obtain ⟨k, hk⟩ := Int.eq_ofNat_of_zero_le h
  rw [magnitude, hk, Int.toNat_natCast, zpow_natCast, Nat.pow_eq]
  push_cast
  rfl

theorem magnitude_of_neg {x : Decimal} (h : x.exponent < 0) :
    x.magnitude = (x.coefficient : ℚ) / (Nat.pow 10 (-x.exponent).toNat : ℕ) := by
  obtain ⟨k, hk⟩ := Int.eq_ofNat_of_zero_le (neg_nonneg.mpr h.le)
  have hexponent : x.exponent = -(k : ℤ) := by omega
  rw [magnitude, hexponent, neg_neg, Int.toNat_natCast, zpow_neg, zpow_natCast, Nat.pow_eq,
    div_eq_mul_inv]
  push_cast
  rfl

/-- A quotient rounded up. -/
theorem ceil_natCast_div (n : ℕ) {d : ℕ} (hd : 0 < d) :
    ⌈(n : ℚ) / d⌉ = ((n + d - 1) / d : ℕ) := by
  have hd' : (0 : ℚ) < d := by exact_mod_cast hd
  have hlow := Nat.div_add_mod (n + d - 1) d
  have hlt := Nat.mod_lt (n + d - 1) hd
  generalize (n + d - 1) / d = q at *
  rw [Int.ceil_eq_iff, div_le_iff₀ hd', lt_div_iff₀ hd', sub_mul, one_mul, sub_lt_iff_lt_add]
  rw [mul_comm] at hlow
  constructor
  · have : q * d < n + d := by omega
    exact_mod_cast this
  · have : n ≤ q * d := by omega
    exact_mod_cast this

/-- The ceiling of a decimal is the ceiling of its number. -/
theorem ceil_eq (x : Decimal) : x.ceil = ⌈x.toRat⌉ := by
  have hpos : 0 < Nat.pow 10 (-x.exponent).toNat := Nat.pow_pos (by norm_num)
  unfold ceil toRat
  dsimp only
  split_ifs with hexponent hnegative hnegative
  · rw [magnitude_of_nonneg hexponent, Int.ceil_neg, Int.floor_natCast]
  · rw [magnitude_of_nonneg hexponent, Int.ceil_natCast]
  · rw [magnitude_of_neg (not_le.mp hexponent), Int.ceil_neg, Rat.floor_natCast_div_natCast,
      Int.natCast_ediv]
  · rw [magnitude_of_neg (not_le.mp hexponent), ceil_natCast_div _ hpos]

end ControlPlane.Decimal
