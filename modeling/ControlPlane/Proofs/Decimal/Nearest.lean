import ControlPlane.Number.Decimal
import ControlPlane.Proofs.Decimal.HalfEven
import Mathlib.Data.Int.Log

/-!
# The nearest number of a context

A context has a place that each number is rounded to: the last of its significant digits, or the
least place of all where that is coarser.  `Context.nearest` rounds a rational number to its place.
The result depends on the number alone, not on how it is written; it is a number of the context
(`represents_nearest`), numbers of the context stay as they are (`nearest_eq_self`), and the order
of numbers is kept also where the place changes between them (`nearest_mono`).
-/

namespace ControlPlane.Decimal

/-! ## leading digits -/

theorem zpow_log_le {x : ℚ} (h : 0 < x) : (10 : ℚ) ^ Int.log 10 x ≤ x := by
  exact_mod_cast Int.zpow_log_le_self (b := 10) (by norm_num) h

theorem lt_zpow_log (x : ℚ) : x < 10 ^ (Int.log 10 x + 1) := by
  exact_mod_cast Int.lt_zpow_succ_log_self (b := 10) (by norm_num) x

/-- The powers of ten around a number tell where its leading digit stands. -/
theorem log_eq {x : ℚ} {k : ℤ} (hlow : 10 ^ k ≤ x) (hhigh : x < 10 ^ (k + 1)) :
    Int.log 10 x = k := by
  have hpos : 0 < x := lt_of_lt_of_le (by positivity) hlow
  have hle := (Int.zpow_le_iff_le_log (b := 10) (by norm_num) hpos).mp (by exact_mod_cast hlow)
  have hlt := (Int.lt_zpow_iff_log_lt (b := 10) (by norm_num) hpos).mp (by exact_mod_cast hhigh)
  omega

/-- Moving the point moves the leading digit. -/
theorem log_mul_zpow {x : ℚ} (h : 0 < x) (k : ℤ) :
    Int.log 10 (x * 10 ^ k) = Int.log 10 x + k := by
  have hpos : (0 : ℚ) < 10 ^ k := by positivity
  apply log_eq
  · rw [zpow_add₀ (by norm_num)]
    exact mul_le_mul_of_nonneg_right (zpow_log_le h) hpos.le
  · rw [add_right_comm, zpow_add₀ (by norm_num)]
    exact mul_lt_mul_of_pos_right (lt_zpow_log x) hpos

namespace Context

/-! ## the place of a number -/

/-- A context that has a digit to round to, and whose least place is not above its greatest
exponent. -/
structure Sound (ctx : Context) : Prop where
  precision_pos : 0 < ctx.precision
  tiny_le : ctx.tiny ≤ ctx.maxExponent

theorem sound_standard : standard.Sound := ⟨by decide, by decide⟩

/-- The place that a number is rounded to. -/
def placeOf (ctx : Context) (x : ℚ) : ℤ := max (Int.log 10 |x| + 1 - ctx.precision) ctx.tiny

/-- The number of the context that is nearest to a given one. -/
def nearest (ctx : Context) (x : ℚ) : ℚ := roundAt (ctx.placeOf x) x

/-- The context has a place for every digit of the number. -/
def Represents (ctx : Context) (x : ℚ) : Prop :=
  ∃ c e : ℤ, x = c * 10 ^ e ∧ |c| < 10 ^ ctx.precision ∧ ctx.tiny ≤ e

variable {ctx : Context} {x y : ℚ}

theorem nearest_neg (ctx : Context) (x : ℚ) : ctx.nearest (-x) = -ctx.nearest x := by
  rw [nearest, nearest, placeOf, placeOf, abs_neg, roundAt_neg]

@[simp] theorem nearest_zero (ctx : Context) : ctx.nearest 0 = 0 := roundAt_zero _

/-! ## numbers of the context -/

/-- The digits of a number of the context end at or above its place. -/
theorem placeOf_le {c e : ℤ} (hx : x = c * 10 ^ e) (hne : x ≠ 0) (hc : |c| < 10 ^ ctx.precision)
    (he : ctx.tiny ≤ e) : ctx.placeOf x ≤ e := by
  have hpos : (0 : ℚ) < 10 ^ e := by positivity
  have hlt : |x| < (10 : ℕ) ^ ((ctx.precision : ℤ) + e) := by
    rw [hx, abs_mul, abs_of_pos hpos, Nat.cast_ofNat, zpow_add₀ (by norm_num), zpow_natCast]
    exact mul_lt_mul_of_pos_right (by exact_mod_cast hc) hpos
  have hlog := (Int.lt_zpow_iff_log_lt (by norm_num) (abs_pos.mpr hne)).mp hlt
  exact max_le (by omega) he

/-- Numbers of the context stay as they are. -/
theorem nearest_eq_self (h : ctx.Represents x) : ctx.nearest x = x := by
  by_cases hne : x = 0
  · rw [hne, nearest_zero]
  · obtain ⟨c, e, hx, hc, he⟩ := h
    have hplace := placeOf_le hx hne hc he
    rw [nearest, hx, roundAt_of_le (hx ▸ hplace)]

/-- At its place a number has no more digits in front of the point than the context has. -/
theorem abs_div_placeOf_lt (ctx : Context) (x : ℚ) :
    |x / 10 ^ ctx.placeOf x| < 10 ^ ctx.precision := by
  have hpos : (0 : ℚ) < 10 ^ ctx.placeOf x := by positivity
  have hplace : Int.log 10 |x| + 1 ≤ ctx.precision + ctx.placeOf x := by
    have : Int.log 10 |x| + 1 - ctx.precision ≤ ctx.placeOf x := le_max_left _ _
    omega
  rw [abs_div, abs_of_pos hpos, div_lt_iff₀ hpos]
  calc |x| < 10 ^ (Int.log 10 |x| + 1) := lt_zpow_log _
    _ ≤ (10 : ℚ) ^ ((ctx.precision : ℤ) + ctx.placeOf x) :=
      zpow_le_zpow_right₀ (by norm_num) hplace
    _ = 10 ^ ctx.precision * 10 ^ ctx.placeOf x := by
      rw [zpow_add₀ (by norm_num), zpow_natCast]

theorem abs_nearestInt_placeOf_le (ctx : Context) (x : ℚ) :
    |nearestInt (x / 10 ^ ctx.placeOf x)| ≤ 10 ^ ctx.precision := by
  have hlt := abs_lt.mp (abs_div_placeOf_lt ctx x)
  have hlow := nearestInt_mono (x := (-10 ^ ctx.precision : ℤ)) (by push_cast; exact hlt.1.le)
  have hhigh := nearestInt_mono (y := (10 ^ ctx.precision : ℤ)) (by push_cast; exact hlt.2.le)
  rw [nearestInt_intCast] at hlow hhigh
  exact abs_le.mpr ⟨hlow, hhigh⟩

/-- Rounding may carry into one more digit, and that is a power of ten. -/
theorem represents_nearest (h : 0 < ctx.precision) (x : ℚ) : ctx.Represents (ctx.nearest x) := by
  have htiny : ctx.tiny ≤ ctx.placeOf x := le_max_right _ _
  have hbound := abs_nearestInt_placeOf_le ctx x
  obtain hless | hcarry := hbound.lt_or_eq
  · exact ⟨_, _, rfl, hless, htiny⟩
  · have hten : (10 : ℤ) ∣ nearestInt (x / 10 ^ ctx.placeOf x) := by
      rw [← dvd_abs, hcarry]
      exact dvd_pow_self 10 h.ne'
    obtain ⟨d, hd⟩ := hten
    refine ⟨d, ctx.placeOf x + 1, ?_, ?_, by omega⟩
    · rw [nearest, roundAt, hd, zpow_add_one₀ (by norm_num)]
      push_cast
      ring
    · rw [hd, abs_mul, Nat.abs_ofNat] at hcarry
      have hpos : (0 : ℤ) < 10 ^ ctx.precision := by positivity
      omega

/-- Only numbers below the least place are rounded to zero. -/
theorem placeOf_eq_tiny (hprecision : 0 < ctx.precision) (hpos : 0 < x)
    (hzero : ctx.nearest x = 0) : ctx.placeOf x = ctx.tiny := by
  -- At any other place the leading digit is kept.
  by_contra hne
  have hplace : ctx.placeOf x = Int.log 10 x + 1 - ctx.precision := by
    unfold placeOf at *
    rw [abs_of_pos hpos] at *
    omega
  have hle : (10 : ℚ) ^ Int.log 10 x ≤ ctx.nearest x :=
    zpow_le_roundAt (by omega) (zpow_log_le hpos)
  have : (0 : ℚ) < 10 ^ Int.log 10 x := by positivity
  linarith

/-! ## order -/

theorem placeOf_mono (ctx : Context) (hpos : 0 < x) (h : x ≤ y) :
    ctx.placeOf x ≤ ctx.placeOf y := by
  have hlog : Int.log 10 |x| ≤ Int.log 10 |y| := by
    rw [abs_of_pos hpos, abs_of_pos (hpos.trans_le h)]
    exact Int.log_mono_right hpos h
  exact max_le_max_right _ (by omega)

theorem nearest_nonneg (ctx : Context) (h : 0 ≤ x) : 0 ≤ ctx.nearest x := by
  have hround := roundAt_mono (ctx.placeOf x) h
  rwa [roundAt_zero] at hround

/-- Between two numbers of different places there is a power of ten that is a multiple of both
places. -/
theorem nearest_mono_of_pos (hprecision : 0 < ctx.precision) (hpos : 0 < x) (h : x ≤ y) :
    ctx.nearest x ≤ ctx.nearest y := by
  obtain hplace | hplace := (placeOf_mono ctx hpos h).eq_or_lt
  · rw [nearest, nearest, hplace]
    exact roundAt_mono _ h
  · have hy := hpos.trans_le h
    have hcoarse : ctx.placeOf y = Int.log 10 |y| + 1 - ctx.precision := by
      have : ctx.tiny ≤ ctx.placeOf x := le_max_right _ _
      unfold placeOf at *
      omega
    have hfine : Int.log 10 |x| + 1 - ctx.precision ≤ ctx.placeOf x := le_max_left _ _
    rw [abs_of_pos hpos] at hfine
    rw [abs_of_pos hy] at hcoarse
    -- The leading digit of `y` is worth more than `x`, and stands at or above both places.
    have hbelow : x ≤ 10 ^ Int.log 10 y :=
      (lt_zpow_log x).le.trans (zpow_le_zpow_right₀ (by norm_num) (by omega))
    calc ctx.nearest x ≤ 10 ^ Int.log 10 y := roundAt_le_zpow (by omega) hbelow
      _ ≤ ctx.nearest y := zpow_le_roundAt (by omega) (zpow_log_le hy)

/-- Rounding keeps the order of numbers. -/
theorem nearest_mono (hprecision : 0 < ctx.precision) (h : x ≤ y) :
    ctx.nearest x ≤ ctx.nearest y := by
  obtain hx | rfl | hx := lt_trichotomy x 0
  · by_cases hy : 0 ≤ y
    · have hneg := nearest_nonneg ctx (neg_nonneg.mpr hx.le)
      rw [nearest_neg] at hneg
      exact (neg_nonneg.mp hneg).trans (nearest_nonneg ctx hy)
    · have hneg : ctx.nearest (-y) ≤ ctx.nearest (-x) :=
        nearest_mono_of_pos hprecision (neg_pos.mpr (not_le.mp hy)) (neg_le_neg h)
      rw [nearest_neg, nearest_neg] at hneg
      exact neg_le_neg_iff.mp hneg
  · rw [nearest_zero]
    exact nearest_nonneg ctx h
  · exact nearest_mono_of_pos hprecision hx h

end Context

end ControlPlane.Decimal
