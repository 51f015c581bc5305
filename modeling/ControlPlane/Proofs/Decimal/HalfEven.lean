import ControlPlane.Number.Rounding
import Mathlib.Algebra.Order.Field.Power
import Mathlib.Algebra.Order.Floor.Ring
import Mathlib.Data.Rat.Floor
import Mathlib.Tactic.Linarith
import Mathlib.Tactic.Positivity

/-!
# Rounding half to even

The nearest integer of a rational number, an even one where two are equally near, and the nearest
multiple of a power of ten.  `nearestInt_eq_iff` characterizes the integer by its distance; that
rounding is odd, monotone and leaves multiples alone follows from the distance and not from the
definition.  The quotient that the arithmetic rounds is such an integer
(`nearestInt_div_eq_divHalfEven`).
-/

namespace ControlPlane

/-! ## the nearest integer -/

/-- The integer nearest to a number; of two that are equally near, the even one. -/
def nearestInt (x : ℚ) : ℤ :=
  if Int.fract x < 1 / 2 then ⌊x⌋
  else if 1 / 2 < Int.fract x then ⌊x⌋ + 1
  else if Even ⌊x⌋ then ⌊x⌋
  else ⌊x⌋ + 1

/-- An integer at most one half away, and even if it is exactly one half away. -/
def IsNearest (x : ℚ) (n : ℤ) : Prop :=
  |x - n| ≤ 1 / 2 ∧ (|x - n| = 1 / 2 → Even n)

theorem isNearest_nearestInt (x : ℚ) : IsNearest x (nearestInt x) := by
  have hfract : x - ⌊x⌋ = Int.fract x := rfl
  have hpos := Int.fract_nonneg x
  have hlt := Int.fract_lt_one x
  have hbelow : |x - ⌊x⌋| = Int.fract x := by rw [hfract, abs_of_nonneg hpos]
  have habove : |x - (⌊x⌋ + 1 : ℤ)| = 1 - Int.fract x := by
    rw [Int.cast_add, Int.cast_one, ← sub_sub, hfract, abs_of_nonpos (by linarith), neg_sub]
  unfold nearestInt
  split_ifs with hsmall hlarge heven
  · exact ⟨by rw [hbelow]; exact hsmall.le, fun h => by rw [hbelow] at h; linarith⟩
  · exact ⟨by rw [habove]; linarith, fun h => by rw [habove] at h; linarith⟩
  · exact ⟨by rw [hbelow]; linarith, fun _ => heven⟩
  · exact ⟨by rw [habove]; linarith, fun _ => (Int.not_even_iff_odd.mp heven).add_one⟩

/-- Two nearest integers would be neighbours, and both even. -/
theorem IsNearest.unique {x : ℚ} {m n : ℤ} (hm : IsNearest x m) (hn : IsNearest x n) : m = n := by
  obtain ⟨hm_le, hm_even⟩ := hm
  obtain ⟨hn_le, hn_even⟩ := hn
  have hdist : |(m : ℚ) - n| ≤ |x - m| + |x - n| := by
    rw [abs_sub_comm x m]
    exact abs_sub_le _ _ _
  by_contra hne
  have hone : (1 : ℚ) ≤ |(m : ℚ) - n| := by
    exact_mod_cast Int.one_le_abs (sub_ne_zero.mpr hne)
  have hm_eq : |x - m| = 1 / 2 := by linarith
  have hn_eq : |x - n| = 1 / 2 := by linarith
  have hle : |m - n| ≤ 1 := by
    have : |(m : ℚ) - n| ≤ 1 := by linarith
    exact_mod_cast this
  obtain ⟨i, rfl⟩ := hm_even hm_eq
  obtain ⟨j, rfl⟩ := hn_even hn_eq
  rw [abs_le] at hle
  omega

theorem nearestInt_eq_iff {x : ℚ} {n : ℤ} : nearestInt x = n ↔ IsNearest x n :=
  ⟨fun h => h ▸ isNearest_nearestInt x, fun h => (isNearest_nearestInt x).unique h⟩

theorem abs_sub_nearestInt_le (x : ℚ) : |x - nearestInt x| ≤ 1 / 2 := (isNearest_nearestInt x).1

@[simp] theorem nearestInt_intCast (n : ℤ) : nearestInt n = n := by
  rw [nearestInt_eq_iff]
  exact ⟨by simp, fun h => by norm_num at h⟩

theorem nearestInt_neg (x : ℚ) : nearestInt (-x) = -nearestInt x := by
  obtain ⟨hle, heven⟩ := isNearest_nearestInt x
  have hdist : |-x - (-nearestInt x : ℤ)| = |x - nearestInt x| := by
    rw [Int.cast_neg, neg_sub_neg, abs_sub_comm]
  rw [nearestInt_eq_iff]
  exact ⟨hdist ▸ hle, fun h => (heven (hdist ▸ h)).neg⟩

/-- Numbers that were rounded to integers in the other order would be equal. -/
theorem nearestInt_mono {x y : ℚ} (h : x ≤ y) : nearestInt x ≤ nearestInt y := by
  by_contra hlt
  have hstep : (nearestInt y : ℚ) + 1 ≤ nearestInt x := by exact_mod_cast not_le.mp hlt
  have hx := abs_le.mp (abs_sub_nearestInt_le x)
  have hy := abs_le.mp (abs_sub_nearestInt_le y)
  have heq : x = y := by linarith
  exact hlt (heq ▸ le_rfl)

/-- The quotient rounded to an integer is the nearest integer of the quotient. -/
theorem nearestInt_div_eq_divHalfEven (n : ℕ) {d : ℕ} (hd : 0 < d) :
    nearestInt ((n : ℚ) / d) = divHalfEven n d := by
  have hd' : (0 : ℚ) < d := by exact_mod_cast hd
  have hsmall : ((n % d : ℕ) : ℚ) / d < 1 / 2 ↔ 2 * (n % d) < d := by
    rw [div_lt_div_iff₀ hd' two_pos, one_mul, mul_comm]
    exact_mod_cast Iff.rfl
  have hlarge : 1 / 2 < ((n % d : ℕ) : ℚ) / d ↔ d < 2 * (n % d) := by
    rw [div_lt_div_iff₀ two_pos hd', one_mul, mul_comm]
    exact_mod_cast Iff.rfl
  have heven : Even ((n : ℤ) / d) ↔ n / d % 2 = 0 := by
    rw [Int.even_iff]
    omega
  rw [nearestInt, divHalfEven, Int.fract_div_natCast_eq_div_natCast_mod,
    Rat.floor_natCast_div_natCast]
  simp only [hsmall, hlarge, heven]
  split_ifs <;> simp

/-! ## the nearest multiple of a power of ten -/

/-- A number rounded to a multiple of `10 ^ place`. -/
def roundAt (place : ℤ) (x : ℚ) : ℚ := nearestInt (x / 10 ^ place) * 10 ^ place

theorem roundAt_neg (place : ℤ) (x : ℚ) : roundAt place (-x) = -roundAt place x := by
  rw [roundAt, roundAt, neg_div, nearestInt_neg, Int.cast_neg, neg_mul]

theorem roundAt_mono (place : ℤ) {x y : ℚ} (h : x ≤ y) : roundAt place x ≤ roundAt place y := by
  have hpos : (0 : ℚ) < 10 ^ place := by positivity
  have hdiv : x / 10 ^ place ≤ y / 10 ^ place := div_le_div_of_nonneg_right h hpos.le
  exact mul_le_mul_of_nonneg_right (by exact_mod_cast nearestInt_mono hdiv) hpos.le

/-- A power of ten is a multiple of every smaller one. -/
theorem exists_mul_zpow {place e : ℤ} (h : place ≤ e) (n : ℤ) :
    ∃ m : ℤ, (n : ℚ) * 10 ^ e = m * 10 ^ place := by
  obtain ⟨k, rfl⟩ := Int.le.dest h
  refine ⟨n * 10 ^ k, ?_⟩
  rw [zpow_add₀ (by norm_num), zpow_natCast]
  push_cast
  ring

/-- Multiples of the place stay as they are. -/
theorem roundAt_of_le {place e : ℤ} (h : place ≤ e) (n : ℤ) :
    roundAt place (n * 10 ^ e) = n * 10 ^ e := by
  obtain ⟨m, hm⟩ := exists_mul_zpow h n
  have hne : (10 : ℚ) ^ place ≠ 0 := by positivity
  rw [hm, roundAt, mul_div_cancel_right₀ _ hne, nearestInt_intCast]

@[simp] theorem roundAt_zero (place : ℤ) : roundAt place 0 = 0 := by
  simpa using roundAt_of_le (le_refl place) 0

theorem roundAt_zpow {place e : ℤ} (h : place ≤ e) : roundAt place (10 ^ e) = 10 ^ e := by
  simpa using roundAt_of_le h 1

/-- A power of ten at or above the place bounds the rounded number if it bounds the number. -/
theorem roundAt_le_zpow {place e : ℤ} (h : place ≤ e) {x : ℚ} (hx : x ≤ 10 ^ e) :
    roundAt place x ≤ 10 ^ e :=
  roundAt_zpow h ▸ roundAt_mono place hx

theorem zpow_le_roundAt {place e : ℤ} (h : place ≤ e) {x : ℚ} (hx : 10 ^ e ≤ x) :
    10 ^ e ≤ roundAt place x :=
  roundAt_zpow h ▸ roundAt_mono place hx

end ControlPlane
