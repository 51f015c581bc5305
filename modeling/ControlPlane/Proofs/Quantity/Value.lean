import ControlPlane.Proofs.Decimal.Arithmetic
import ControlPlane.Proofs.Quantity.Spelling
import Mathlib.Tactic.NormNum

/-!
# The value of a quantity

A spelling denotes an exact rational number, each digit counted at its place.  The value of a
quantity is that number rounded once, to 28 digits, whatever the spelling looks like
(`parse_rounds`).
-/

namespace ControlPlane.Quantity

open Decimal Text

/-! ## exact numbers -/

/-- The number that a suffix multiplies by. -/
def Suffix.multiplier : Suffix → ℚ
  | .nano => 10 ^ (-9 : ℤ)
  | .micro => 10 ^ (-6 : ℤ)
  | .milli => 10 ^ (-3 : ℤ)
  | .kilo => 10 ^ 3
  | .mega => 10 ^ 6
  | .giga => 10 ^ 9
  | .tera => 10 ^ 12
  | .peta => 10 ^ 15
  | .exa => 10 ^ 18
  | .kibi => 2 ^ 10
  | .mebi => 2 ^ 20
  | .gibi => 2 ^ 30
  | .tebi => 2 ^ 40
  | .pebi => 2 ^ 50
  | .exbi => 2 ^ 60

/-- The number that digits denote, each counted at its place. -/
def placeValue : List Char → ℕ
  | [] => 0
  | c :: cs => (digitValue? c).getD 0 * 10 ^ cs.length + placeValue cs

/-- A number with a sign in front. -/
def signed {α : Type} [Neg α] : Option Sign → α → α
  | some .minus, x => -x
  | some .plus, x | none, x => x

/-- How many digits the exponent of a scale is written with, if there is one. -/
def Scale.exponentDigits : Scale → ℕ
  | .exponent _ _ digits => digits.length
  | .unit | .suffix _ => 0

/-- The exponent of a scale, if it is written as one. -/
def Scale.exponent? : Scale → Option ℤ
  | .exponent _ sign digits => some (signed sign (placeValue digits : ℤ))
  | .unit | .suffix _ => none

/-- The number that a scale multiplies by. -/
def Scale.multiplier : Scale → ℚ
  | .unit => 1
  | .exponent _ sign digits => 10 ^ signed sign (placeValue digits : ℤ)
  | .suffix s => s.multiplier

/-- The number in front of the scale. -/
def Spelling.numeral (s : Spelling) : ℚ :=
  let fraction := s.fraction.getD []
  signed s.sign (placeValue s.whole + placeValue fraction / 10 ^ fraction.length)

/-- The exact number that a spelling denotes. -/
def Spelling.denoted (s : Spelling) : ℚ := s.numeral * s.scale.multiplier

/-- The exact number that a text denotes. -/
def Denotes (t : String) (x : ℚ) : Prop := ∃ s : Spelling, s.Spells t ∧ s.denoted = x

/-- A number with 28 significant digits, a half rounded to even, or rounded to a multiple of
`10 ^ -1000026` where that is coarser. -/
def rounded (x : ℚ) : ℚ := roundAt (max (Int.log 10 |x| - 27) (-1000026)) x

theorem rounded_eq (x : ℚ) : rounded x = Context.standard.nearest x := by
  have hplace : max (Int.log 10 |x| - 27) (-1000026) = Context.standard.placeOf x := by
    simp only [Context.placeOf, Context.tiny, Context.standard]
    omega
  rw [rounded, hplace, Context.nearest]

theorem Suffix.toRat_factor (s : Suffix) : s.factor.toRat = s.multiplier := by
  cases s <;> norm_num [Suffix.factor, Suffix.multiplier]

/-- The digits in front count for as many places more as stand behind them. -/
theorem placeValue_append (front back : List Char) :
    placeValue (front ++ back) = placeValue front * 10 ^ back.length + placeValue back := by
  induction front with
  | nil => simp [placeValue]
  | cons c front ih =>
      rw [List.cons_append, placeValue, ih, placeValue, List.length_append, pow_add]
      ring

/-- Adding up places and shifting digits in give one number. -/
theorem placeValue_eq (cs : List Char) : placeValue cs = decimalValue cs := by
  induction cs using List.reverseRecOn with
  | nil => rfl
  | append_singleton cs c ih =>
      rw [placeValue_append, ih, decimalValue, decimalValue, List.map_append, List.map_singleton,
        digitsValue_append_singleton]
      simp [placeValue]

/-- An exponent of no more than 4300 digits is the number that they denote. -/
theorem exponentValue_eq (sign : Option Sign) (digits : List Char) :
    exponentValue sign digits =
      if 4300 < digits.length then .error (.longExponent digits.length)
      else .ok (signed sign (placeValue digits : ℤ)) := by
  rw [placeValue_eq]
  obtain ⟨hlong, h⟩ | ⟨hshort, h⟩ := exponentValue_cases sign digits
  · rw [if_pos hlong, h]
  · rw [if_neg (not_lt.mpr hshort), h]
    obtain _ | _ | _ := sign <;> rfl

theorem Spelling.toRat_number (s : Spelling) : s.number.toRat = s.numeral := by
  have hmagnitude : s.number.magnitude =
      placeValue s.whole + placeValue (s.fraction.getD []) / 10 ^ (s.fraction.getD []).length := by
    have hne : (10 : ℚ) ^ (s.fraction.getD []).length ≠ 0 := by positivity
    simp only [magnitude, number, ← placeValue_eq, placeValue_append, zpow_neg, zpow_natCast]
    push_cast
    field_simp
  rw [toRat, hmagnitude, numeral]
  obtain ⟨_ | _ | _, whole, fraction, scale⟩ := s <;> rfl

/-! ## one rounding -/

/-- An exact product is rounded once. -/
theorem exists_round_mul (x y : Decimal) :
    ∃ z : Decimal, z.toRat = x.toRat * y.toRat ∧
      Context.standard.mul x y = Context.standard.round z :=
  ⟨_, toRat_mul x y, rfl⟩

/-- The exponent has too many digits, or it is too large, or a decimal for the exact number is
rounded. -/
theorem Spelling.value_cases (s : Spelling) :
    (4300 < s.scale.exponentDigits ∧ s.value = .error (.longExponent s.scale.exponentDigits)) ∨
    (s.scale.exponentDigits ≤ 4300 ∧
      ((∃ e ∈ s.scale.exponent?, 2000054 < |e| ∧
          s.value = .error (.arithmetic .invalidOperation)) ∨
        ((∀ e ∈ s.scale.exponent?, |e| ≤ 2000054) ∧ ∃ x : Decimal, x.toRat = s.denoted ∧
          s.value = (Context.standard.round x).mapError .arithmetic))) := by
  rw [denoted, ← toRat_number]
  unfold value
  cases s.scale with
  | unit =>
      obtain ⟨z, hz, hmul⟩ := exists_round_mul s.number (.ofNat 1)
      refine .inr ⟨Nat.zero_le _, .inr ⟨by rintro e ⟨⟩, z, ?_, by rw [← hmul]⟩⟩
      simpa [Scale.multiplier] using hz
  | suffix suffix =>
      obtain ⟨z, hz, hmul⟩ := exists_round_mul s.number suffix.factor
      rw [suffix.toRat_factor] at hz
      exact .inr ⟨Nat.zero_le _, .inr ⟨by rintro e ⟨⟩, z, hz, by rw [← hmul]⟩⟩
  | exponent letter sign digits =>
      dsimp only [Scale.exponentDigits]
      rw [exponentValue_eq]
      by_cases hlong : 4300 < digits.length
      · exact .inl ⟨hlong, by rw [if_pos hlong]⟩
      rw [if_neg hlong]
      refine .inr ⟨not_lt.mp hlong, ?_⟩
      have hlimit : Context.standard.scaleLimit = 2000054 := rfl
      dsimp only [Context.scale, Scale.exponent?, Scale.multiplier]
      rw [hlimit]
      generalize signed sign (placeValue digits : ℤ) = e
      split_ifs with hlarge
      · exact .inl ⟨e, rfl, lt_abs.mpr (by omega), rfl⟩
      · have habs : |e| ≤ 2000054 := abs_le.mpr (by omega)
        refine .inr ⟨?_, _, toRat_shift s.number e, rfl⟩
        rintro e ⟨⟩
        exact habs

/-- An exponent of too many digits is not read, whatever stands in front of it. -/
theorem parse_of_longExponent {t : String} {s : Spelling} (h : s.Spells t)
    (hlong : 4300 < s.scale.exponentDigits) :
    parse t = .error (.longExponent s.scale.exponentDigits) := by
  rw [parse_eq_error_iff, valueOf_of_spells h]
  obtain ⟨-, hvalue⟩ | ⟨hshort, -⟩ := s.value_cases
  · exact hvalue
  · exact absurd hlong (not_lt.mpr hshort)

/-- What reading a spelled text comes to if its exponent is not too long. -/
theorem parse_cases {t : String} {s : Spelling} (h : s.Spells t)
    (hshort : s.scale.exponentDigits ≤ 4300) :
    (∃ e ∈ s.scale.exponent?, 2000054 < |e| ∧ parse t = .error (.arithmetic .invalidOperation)) ∨
    ((∀ e ∈ s.scale.exponent?, |e| ≤ 2000054) ∧
      ((|rounded s.denoted| < 10 ^ (1000000 : ℤ) ∧
          ∃ q, parse t = .ok q ∧ q.value.toRat = rounded s.denoted) ∨
        (10 ^ (1000000 : ℤ) ≤ |rounded s.denoted| ∧
          parse t = .error (.arithmetic .overflow)))) := by
  have hvalue := valueOf_of_spells h
  have htop : Context.standard.maxExponent + 1 = 1000000 := rfl
  obtain ⟨hlong, -⟩ | ⟨-, ⟨e, he, hlarge, hfault⟩ | ⟨hsmall, x, hx, hround⟩⟩ := s.value_cases
  · exact absurd hlong (not_lt.mpr hshort)
  · exact .inl ⟨e, he, hlarge, by rw [parse_eq_error_iff, hvalue, hfault]⟩
  · refine .inr ⟨hsmall, ?_⟩
    have hcases := Context.round_cases Context.sound_standard x
    rw [hx, htop, ← rounded_eq] at hcases
    obtain ⟨hlow, y, hy, hyx⟩ | ⟨hhigh, hover⟩ := hcases
    · refine .inl ⟨hlow, ?_⟩
      rw [hround, hy] at hvalue
      obtain ⟨q, hq, rfl⟩ := exists_of_valueOf hvalue
      exact ⟨q, hq, hyx⟩
    · refine .inr ⟨hhigh, ?_⟩
      rw [parse_eq_error_iff, hvalue, hround, hover]
      rfl

/-- The value of an accepted text is the rounded exact number. -/
theorem toRat_value {t : String} {q : Quantity} {x : ℚ} (hq : parse t = .ok q)
    (hx : Denotes t x) : q.value.toRat = rounded x := by
  obtain ⟨s, hs, rfl⟩ := hx
  have hshort : s.scale.exponentDigits ≤ 4300 := by
    by_contra hlong
    rw [parse_of_longExponent hs (not_le.mp hlong)] at hq
    cases hq
  obtain ⟨-, -, -, herror⟩ | ⟨-, ⟨-, q', hq', hvalue⟩ | ⟨-, herror⟩⟩ := parse_cases hs hshort
  · rw [hq] at herror
    cases herror
  · rw [hq] at hq'
    cases hq'
    exact hvalue
  · rw [hq] at herror
    cases herror

/-- An accepted text denotes a number. -/
theorem exists_denotes (q : Quantity) : ∃ x, Denotes q.text x := by
  obtain ⟨s, hs, -⟩ := spelled_of_valueOf q.reads
  exact ⟨_, s, hs, rfl⟩

theorem represents_value (q : Quantity) : Context.standard.Represents q.value.toRat := by
  obtain ⟨x, hx⟩ := exists_denotes q
  rw [toRat_value (parse_text q) hx, rounded_eq]
  exact Context.represents_nearest Context.sound_standard.precision_pos x

/-- A spelled text whose exponent has no more than 4300 digits is read as its exact number rounded
once, half to even, to 28 significant digits or to a multiple of `10 ^ -1000026`; it overflows if and
only if the rounded number is too large, and an exponent above 2000054 in either direction is refused.
A number that needs no rounding is the value itself, however it is spelled.  An exponent of more
digits is not read at all. -/
theorem parse_rounds {t : String} {s : Spelling} (h : s.Spells t) :
    (4300 < s.scale.exponentDigits →
      parse t = .error (.longExponent s.scale.exponentDigits)) ∧
    (s.scale.exponentDigits ≤ 4300 →
      (∀ e ∈ s.scale.exponent?, 2000054 < |e| →
        parse t = .error (.arithmetic .invalidOperation)) ∧
      ((∀ e ∈ s.scale.exponent?, |e| ≤ 2000054) →
        (|rounded s.denoted| < 10 ^ (1000000 : ℤ) →
          ∃ q, parse t = .ok q ∧ q.value.toRat = rounded s.denoted) ∧
        (10 ^ (1000000 : ℤ) ≤ |rounded s.denoted| → parse t = .error (.arithmetic .overflow)) ∧
        (∀ c e : ℤ, s.denoted = c * 10 ^ e → |c| < 10 ^ 28 → -1000026 ≤ e →
          |s.denoted| < 10 ^ (1000000 : ℤ) →
            ∃ q, parse t = .ok q ∧ q.value.toRat = s.denoted))) := by
  refine ⟨parse_of_longExponent h, fun hshort => ?_⟩
  obtain ⟨e, he, hlarge, hfault⟩ | ⟨hsmall, hread⟩ := parse_cases h hshort
  · refine ⟨fun _ _ _ => hfault, fun hsmall => ?_⟩
    exact absurd hlarge (not_lt.mpr (hsmall e he))
  · have hok : |rounded s.denoted| < 10 ^ (1000000 : ℤ) →
        ∃ q, parse t = .ok q ∧ q.value.toRat = rounded s.denoted := by
      intro hlow
      obtain ⟨-, hok⟩ | ⟨hhigh, -⟩ := hread
      · exact hok
      · exact absurd hlow (not_lt.mpr hhigh)
    refine ⟨fun e he hlarge => absurd hlarge (not_lt.mpr (hsmall e he)), fun _ => ⟨hok, ?_, ?_⟩⟩
    · intro hhigh
      obtain ⟨hlow, -⟩ | ⟨-, hover⟩ := hread
      · exact absurd hlow (not_lt.mpr hhigh)
      · exact hover
    · intro c e hx hc he hlow
      have hexact : rounded s.denoted = s.denoted := by
        rw [rounded_eq]
        exact Context.nearest_eq_self ⟨c, e, hx, hc, he⟩
      rw [hexact] at hok
      exact hok hlow

/-- Half of one between two numbers of 28 digits: the even one has a digit more, and the carry keeps
one of its 29 digits. -/
theorem parse_rounds_carry :
    let s : Spelling := ⟨none, List.replicate 28 '9', some ['5'], .unit⟩
    s.Spells "9999999999999999999999999999.5" ∧
      ∃ q, parse "9999999999999999999999999999.5" = .ok q ∧ q.value.toRat = 10 ^ 28 := by
  intro s
  have hspells : s.Spells "9999999999999999999999999999.5" := by decide
  have hdenoted : s.denoted = 10 ^ 28 - 1 / 2 := by
    have hwhole : placeValue (List.replicate 28 '9') = 10 ^ 28 - 1 := by decide
    have hfraction : placeValue ['5'] = 5 := by decide
    simp only [s, Spelling.denoted, Spelling.numeral, Scale.multiplier, signed, hwhole,
      Option.getD_some, hfraction]
    norm_num
  have hlog : Int.log 10 |s.denoted| = 27 := by
    apply log_eq <;> rw [hdenoted] <;> norm_num
  -- Half of one is left over, and the integer above is the even one.
  have hnearest : nearestInt s.denoted = 10 ^ 28 := by
    rw [nearestInt_eq_iff, hdenoted]
    exact ⟨by norm_num, fun _ => by decide⟩
  have hrounded : rounded s.denoted = 10 ^ 28 := by
    rw [rounded, hlog, roundAt]
    norm_num [hnearest]
  obtain ⟨-, hread⟩ := parse_rounds hspells
  obtain ⟨hok, -⟩ := (hread (Nat.zero_le _)).2 (by rintro e ⟨⟩)
  rw [hrounded] at hok
  have hsmall : |(10 : ℚ) ^ 28| < 10 ^ (1000000 : ℤ) := by
    rw [abs_of_pos (by positivity), ← zpow_natCast]
    exact zpow_lt_zpow_right₀ (by norm_num) (by norm_num)
  exact ⟨hspells, hok hsmall⟩

theorem placeValue_zeros (n : ℕ) : placeValue (List.replicate n '0') = 0 := by
  induction n with
  | zero => rfl
  | succ n ih =>
      have hdigit : digitValue? '0' = some 0 := by decide
      rw [List.replicate_succ, placeValue, ih, hdigit, Option.getD_some, zero_mul]

/-- The exponent zero, written with one digit too many: the text denotes one, and no quantity is read
from it. -/
theorem parse_long_zero :
    let s : Spelling := ⟨none, ['1'], none, .exponent 'e' none (List.replicate 4301 '0')⟩
    let t := String.ofList s.toList
    s.Spells t ∧ s.scale.exponent? = some 0 ∧ s.denoted = 1 ∧
      |rounded s.denoted| < 10 ^ (1000000 : ℤ) ∧
      parse t = .error (.longExponent 4301) ∧
      ¬ ∃ q, parse t = .ok q ∧ q.value.toRat = rounded s.denoted := by
  intro s t
  have hspells : s.Spells t := by
    refine ⟨⟨by decide, by decide, .inl (by decide), .inl rfl, List.cons_ne_nil _ _, ?_⟩, ?_⟩
    · rw [List.all_eq_true]
      intro c hc
      rw [List.eq_of_mem_replicate hc]
      decide
    · rw [String.toList_ofList]
  have hone : s.denoted = 1 := by
    have hwhole : placeValue ['1'] = 1 := by decide
    have hfraction : placeValue [] = 0 := rfl
    simp only [s, Spelling.denoted, Spelling.numeral, Scale.multiplier, signed, placeValue_zeros,
      Option.getD_none, hwhole, hfraction]
    norm_num
  have hrounded : rounded s.denoted = 1 := by
    rw [hone, rounded_eq]
    exact Context.nearest_eq_self ⟨1, 0, by norm_num, by decide, by decide⟩
  have hparse : parse t = .error (.longExponent 4301) := by
    have hdigits : s.scale.exponentDigits = 4301 := List.length_replicate
    rw [← hdigits]
    exact parse_of_longExponent hspells (by rw [hdigits]; norm_num)
  refine ⟨hspells, ?_, hone, ?_, hparse, ?_⟩
  · simp only [s, Scale.exponent?, signed, placeValue_zeros, Nat.cast_zero]
  · rw [hrounded, abs_one]
    exact one_lt_zpow₀ (by norm_num) (by norm_num)
  · rintro ⟨q, hq, -⟩
    rw [hparse] at hq
    cases hq

end ControlPlane.Quantity
