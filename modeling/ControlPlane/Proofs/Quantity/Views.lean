import ControlPlane.Proofs.Quantity.Value
import Mathlib.Order.Bounds.Basic

/-!
# The integers of a quantity, and the order of quantities

A quantity is seen as an integer and as thousandths.  Both are ceilings of its value: a number of 28
digits times a thousand has 28 digits and three zeros, so the product in between is exact
(`product_cases`, `isLeast_toInt_milliValue`).  Rounding and ceilings keep the order of numbers; so
quantities are in the order of the numbers that their texts denote, whatever the notation
(`parse_mono`).
-/

namespace ControlPlane.Quantity

open Decimal

/-! ## thousandths -/

theorem toInt_eq (q : Quantity) : q.toInt = ⌈q.value.toRat⌉ := ceil_eq q.value

/-- A number of the context stays one when its point is moved up. -/
theorem represents_thousand {x : ℚ} (h : Context.standard.Represents x) :
    Context.standard.Represents (1000 * x) := by
  obtain ⟨c, e, rfl, hc, he⟩ := h
  refine ⟨c, e + 3, ?_, hc, by omega⟩
  rw [zpow_add₀ (by norm_num)]
  ring

/-- The product that the thousandths are rounded up from is exact. -/
theorem product_cases (q : Quantity) :
    (|1000 * q.value.toRat| < 10 ^ (1000000 : ℤ) ∧ ∃ y,
      Context.standard.mul q.value (.ofNat 1000) = .ok y ∧ y.toRat = 1000 * q.value.toRat) ∨
    (10 ^ (1000000 : ℤ) ≤ |1000 * q.value.toRat| ∧
      Context.standard.mul q.value (.ofNat 1000) = .error .overflow) := by
  have htop : Context.standard.maxExponent + 1 = 1000000 := rfl
  obtain ⟨z, hz, hmul⟩ := exists_round_mul q.value (.ofNat 1000)
  rw [toRat_ofNat, Nat.cast_ofNat, mul_comm] at hz
  have hexact := Context.nearest_eq_self (represents_thousand (represents_value q))
  have hcases := Context.round_cases Context.sound_standard z
  rw [hz, hexact, htop, ← hmul] at hcases
  exact hcases

/-- The thousandths depend on the number alone. -/
theorem milliValue_eq (q : Quantity) :
    q.milliValue =
      if |1000 * q.value.toRat| < 10 ^ (1000000 : ℤ) then .ok ⌈1000 * q.value.toRat⌉
      else .error .overflow := by
  obtain ⟨hlow, y, hy, hexact⟩ | ⟨hhigh, hover⟩ := product_cases q
  · rw [if_pos hlow, milliValue, hy, ← hexact, ← ceil_eq]
    rfl
  · rw [if_neg (not_lt.mpr hhigh), milliValue, hover]
    rfl

theorem milliValue_of_ok {q : Quantity} {m : ℤ} (h : q.milliValue = .ok m) :
    m = ⌈1000 * q.value.toRat⌉ := by
  rw [milliValue_eq] at h
  split_ifs at h
  exact (Except.ok.inj h).symm

/-! ## ceilings -/

/-- A ceiling of thousandths is the ceiling of the whole. -/
theorem ceil_div_thousand (x : ℚ) : ⌈(⌈1000 * x⌉ : ℚ) / 1000⌉ = ⌈x⌉ := by
  refine eq_of_forall_ge_iff fun n => ?_
  rw [Int.ceil_le, Int.ceil_le, div_le_iff₀ (by norm_num)]
  have hcast : (n : ℚ) * 1000 = (n * 1000 : ℤ) := by push_cast; rfl
  rw [hcast, Int.cast_le, Int.ceil_le, ← hcast]
  constructor <;> intro h <;> linarith

theorem isLeast_of_ceil_eq {x : ℚ} {n : ℤ} (h : ⌈x⌉ = n) : IsLeast {m : ℤ | x ≤ m} n :=
  h ▸ Int.gc_ceil_coe.isLeast_l

/-- The integer of a quantity is the least one that is not below its value, and the thousandths are
the least integer that is not below a thousand times the value, unless that number is too large.
The product in between is never rounded.  So the integer is the ceiling of the thousandths too. -/
theorem isLeast_toInt_milliValue (q : Quantity) :
    IsLeast {n : ℤ | q.value.toRat ≤ n} q.toInt ∧
    (q.milliValue = .error .overflow ↔ 10 ^ (1000000 : ℤ) ≤ |1000 * q.value.toRat|) ∧
    (|1000 * q.value.toRat| < 10 ^ (1000000 : ℤ) →
      ∃ m, q.milliValue = .ok m ∧ IsLeast {n : ℤ | 1000 * q.value.toRat ≤ n} m) ∧
    (∀ y, Context.standard.mul q.value (.ofNat 1000) = .ok y →
      y.toRat = 1000 * q.value.toRat) ∧
    (∀ m : ℤ, q.milliValue = .ok m → IsLeast {n : ℤ | (m : ℚ) / 1000 ≤ n} q.toInt) := by
  refine ⟨?_, ?_, ?_, ?_, ?_⟩
  · exact isLeast_of_ceil_eq (toInt_eq q).symm
  · rw [milliValue_eq, ← not_lt]
    split_ifs with hlow
    · exact ⟨by rintro ⟨⟩, fun hhigh => absurd hlow hhigh⟩
    · exact ⟨fun _ => hlow, fun _ => rfl⟩
  · intro hlow
    exact ⟨_, by rw [milliValue_eq, if_pos hlow], isLeast_of_ceil_eq rfl⟩
  · intro y hy
    obtain ⟨-, z, hz, hexact⟩ | ⟨-, hover⟩ := product_cases q
    · rw [hy] at hz
      cases hz
      exact hexact
    · rw [hy] at hover
      cases hover
  · intro m hm
    apply isLeast_of_ceil_eq
    rw [milliValue_of_ok hm, ceil_div_thousand, toInt_eq]

/-- A negative number of 28 digits, whose product has 31 of them. -/
theorem isLeast_toInt_milliValue_negative :
    ∃ q, parse "-1.000000000000000000000000009" = .ok q ∧ q.toInt = -1 ∧
      q.milliValue = .ok (-1000) := by
  have hvalue : (valueOf "-1.000000000000000000000000009").toOption =
      some ⟨true, 1000000000000000000000000009, -27⟩ := by decide +kernel
  obtain ⟨q, hq, hvalue⟩ := exists_of_toOption hvalue
  have hexact : q.value.toRat = -(1 + 9 / 10 ^ 27) := by
    rw [hvalue]
    norm_num [toRat, magnitude]
  obtain ⟨hint, -, hmilli, -⟩ := isLeast_toInt_milliValue q
  rw [hexact] at hint hmilli
  have hsmall : |1000 * (-(1 + 9 / 10 ^ 27) : ℚ)| < 10 ^ (1000000 : ℤ) := by
    calc |1000 * (-(1 + 9 / 10 ^ 27) : ℚ)| < 10 ^ (4 : ℤ) := by norm_num [abs_of_neg]
      _ < 10 ^ (1000000 : ℤ) := zpow_lt_zpow_right₀ (by norm_num) (by norm_num)
  obtain ⟨m, hm, hleast⟩ := hmilli hsmall
  have hone : ⌈(-(1 + 9 / 10 ^ 27) : ℚ)⌉ = -1 := by
    rw [Int.ceil_eq_iff]
    norm_num
  have hthousand : ⌈1000 * (-(1 + 9 / 10 ^ 27) : ℚ)⌉ = -1000 := by
    rw [Int.ceil_eq_iff]
    norm_num
  rw [hleast.unique (isLeast_of_ceil_eq hthousand)] at hm
  exact ⟨q, hq, hint.unique (isLeast_of_ceil_eq hone), hm⟩

/-! ## order -/

theorem rounded_mono {x y : ℚ} (h : x ≤ y) : rounded x ≤ rounded y := by
  rw [rounded_eq, rounded_eq]
  exact Context.nearest_mono Context.sound_standard.precision_pos h

/-- The views of quantities are in the order of their values. -/
theorem views_mono {p q : Quantity} (h : p.value.toRat ≤ q.value.toRat) :
    p.toInt ≤ q.toInt ∧
      ∀ m n, p.milliValue = .ok m → q.milliValue = .ok n → m ≤ n := by
  constructor
  · rw [toInt_eq, toInt_eq]
    exact Int.ceil_mono h
  · intro m n hm hn
    rw [milliValue_of_ok hm, milliValue_of_ok hn]
    exact Int.ceil_mono (by linarith)

theorem views_congr {p q : Quantity} (h : p.value.toRat = q.value.toRat) :
    p.toInt = q.toInt ∧ p.milliValue = q.milliValue :=
  ⟨by rw [toInt_eq, toInt_eq, h], by rw [milliValue_eq, milliValue_eq, h]⟩

/-- The order of quantities is the order of the numbers that their texts denote, for the value, the
integer and the thousandths; texts that denote one number agree in all three, whatever their
notation. -/
theorem parse_mono {t₁ t₂ : String} {q₁ q₂ : Quantity} {x₁ x₂ : ℚ} (hq₁ : parse t₁ = .ok q₁)
    (hq₂ : parse t₂ = .ok q₂) (hx₁ : Denotes t₁ x₁) (hx₂ : Denotes t₂ x₂) :
    (x₁ ≤ x₂ → q₁.value.toRat ≤ q₂.value.toRat ∧ q₁.toInt ≤ q₂.toInt ∧
      ∀ m₁ m₂, q₁.milliValue = .ok m₁ → q₂.milliValue = .ok m₂ → m₁ ≤ m₂) ∧
    (x₁ = x₂ → q₁.value.toRat = q₂.value.toRat ∧ q₁.toInt = q₂.toInt ∧
      q₁.milliValue = q₂.milliValue) := by
  have hvalue₁ := toRat_value hq₁ hx₁
  have hvalue₂ := toRat_value hq₂ hx₂
  constructor
  · intro hle
    have hvalues : q₁.value.toRat ≤ q₂.value.toRat := by
      rw [hvalue₁, hvalue₂]
      exact rounded_mono hle
    exact ⟨hvalues, views_mono hvalues⟩
  · intro heq
    have hvalues : q₁.value.toRat = q₂.value.toRat := by rw [hvalue₁, hvalue₂, heq]
    exact ⟨hvalues, views_congr hvalues⟩

/-- Half a gibibyte in two notations. -/
theorem parse_mono_notations :
    ∃ p q, parse "+0.50Gi" = .ok p ∧ parse "512Mi" = .ok q ∧
      p.value.toRat = q.value.toRat ∧ p.toInt = q.toInt ∧ p.milliValue = q.milliValue := by
  have hp : (valueOf "+0.50Gi").toOption = some ⟨false, 53687091200, -2⟩ := by decide +kernel
  have hq : (valueOf "512Mi").toOption = some ⟨false, 536870912, 0⟩ := by decide +kernel
  obtain ⟨p, hp, -⟩ := exists_of_toOption hp
  obtain ⟨q, hq, -⟩ := exists_of_toOption hq
  have hx : Denotes "+0.50Gi" 536870912 := by
    refine ⟨⟨some .plus, ['0'], some ['5', '0'], .suffix .gibi⟩, by decide, ?_⟩
    have hwhole : placeValue ['0'] = 0 := by decide
    have hfraction : placeValue ['5', '0'] = 50 := by decide
    simp only [Spelling.denoted, Spelling.numeral, Scale.multiplier, Suffix.multiplier, signed,
      Option.getD_some, hwhole, hfraction]
    norm_num
  have hy : Denotes "512Mi" 536870912 := by
    refine ⟨⟨none, ['5', '1', '2'], none, .suffix .mebi⟩, by decide, ?_⟩
    have hwhole : placeValue ['5', '1', '2'] = 512 := by decide
    have hfraction : placeValue [] = 0 := by decide
    simp only [Spelling.denoted, Spelling.numeral, Scale.multiplier, Suffix.multiplier, signed,
      Option.getD_none, hwhole, hfraction]
    norm_num
  exact ⟨p, q, hp, hq, (parse_mono hp hq hx hy).2 rfl⟩

end ControlPlane.Quantity
