import ControlPlane.Text.Digit

/-!
# Hexadecimal text

Numbers written with a fixed count of hexadecimal digits, as escapes do.  Main statement: the digits
read back as the number when it fits (`digitsValue_hexValues`).
-/

namespace ControlPlane.Text

/-- The lowest `width` hexadecimal digits of a number, most significant first. -/
def hexValues : Nat → Nat → List Nat
  | 0, _ => []
  | width + 1, n => hexValues width (n / 16) ++ [n % 16]

/-- Which letters stand for the digits above nine. -/
inductive HexCase where
  | lower
  | upper
  deriving DecidableEq, Repr

/-- A hexadecimal digit; values above fifteen do not arise. -/
def hexChar (letters : HexCase) (d : Nat) : Char :=
  if d < 10 then Char.ofNat ('0'.toNat + d)
  else match letters with
    | .lower => Char.ofNat ('a'.toNat + (d - 10))
    | .upper => Char.ofNat ('A'.toNat + (d - 10))

/-- A number in exactly `width` hexadecimal digits; higher digits are dropped. -/
def hexText (letters : HexCase) (width n : Nat) : List Char :=
  (hexValues width n).map (hexChar letters)

@[simp] theorem length_hexValues (width n : Nat) : (hexValues width n).length = width := by
  induction width generalizing n with
  | zero => rfl
  | succ w ih => simp [hexValues, ih]

@[simp] theorem length_hexText (letters : HexCase) (width n : Nat) :
    (hexText letters width n).length = width := by
  simp [hexText]

/-- The digits read back as the number, as long as it fits. -/
theorem digitsValue_hexValues {width n : Nat} (h : n < Nat.pow 16 width) :
    digitsValue 16 (hexValues width n) = n := by
  induction width generalizing n with
  | zero => simp at h; simp [hexValues, h]
  | succ w ih =>
    have hd : n / 16 < Nat.pow 16 w :=
      Nat.div_lt_of_lt_mul (by rw [Nat.pow_eq] at h ⊢; rw [Nat.pow_succ] at h; omega)
    simp [hexValues, ih hd]
    omega

end ControlPlane.Text
