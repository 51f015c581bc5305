/-!
# Decimal digits

The characters that stand for a decimal digit in any script: Unicode general category `Nd`, version
14.  They come in blocks of ten consecutive code points, zero first, so a table of the zeros is
enough.  `digitValue?` gives the value of a digit, `Digit.valueOf` folds a run of digits.
-/

namespace ControlPlane.Text

/-- The code points of the digits zero, in increasing order. -/
def digitZeros : List Nat :=
  [0x30, 0x660, 0x6F0, 0x7C0, 0x966, 0x9E6, 0xA66, 0xAE6, 0xB66, 0xBE6, 0xC66, 0xCE6, 0xD66,
   0xDE6, 0xE50, 0xED0, 0xF20, 0x1040, 0x1090, 0x17E0, 0x1810, 0x1946, 0x19D0, 0x1A80, 0x1A90,
   0x1B50, 0x1BB0, 0x1C40, 0x1C50, 0xA620, 0xA8D0, 0xA900, 0xA9D0, 0xA9F0, 0xAA50, 0xABF0,
   0xFF10, 0x104A0, 0x10D30, 0x11066, 0x110F0, 0x11136, 0x111D0, 0x112F0, 0x11450, 0x114D0,
   0x11650, 0x116C0, 0x11730, 0x118E0, 0x11950, 0x11C50, 0x11D50, 0x11DA0, 0x16A60, 0x16AC0,
   0x16B50, 0x1D7CE, 0x1D7D8, 0x1D7E2, 0x1D7EC, 0x1D7F6, 0x1E140, 0x1E2F0, 0x1E950, 0x1FBF0]

/-- The value of a decimal digit of any script. -/
def digitValue? (c : Char) : Option Nat :=
  (digitZeros.find? fun z => z ≤ c.toNat && c.toNat < z + 10).map (c.toNat - ·)

/-- Whether a character is a decimal digit of any script. -/
def isDigit (c : Char) : Bool := (digitValue? c).isSome

/-- The value of an ASCII digit in a radix up to sixteen. -/
def radixValue? (radix : Nat) (c : Char) : Option Nat :=
  let v :=
    if '0' ≤ c ∧ c ≤ '9' then c.toNat - '0'.toNat
    else if 'a' ≤ c ∧ c ≤ 'f' then c.toNat - 'a'.toNat + 10
    else if 'A' ≤ c ∧ c ≤ 'F' then c.toNat - 'A'.toNat + 10
    else radix
  if v < radix then some v else none

/-- A run of digits, most significant first, as a number. -/
def digitsValue (radix : Nat) (ds : List Nat) : Nat :=
  ds.foldl (fun n d => n * radix + d) 0

/-- The number that a run of decimal digits of any script denotes; a character that is no digit
counts as zero. -/
def decimalValue (cs : List Char) : Nat :=
  digitsValue 10 (cs.map fun c => (digitValue? c).getD 0)

@[simp] theorem digitsValue_nil (radix : Nat) : digitsValue radix [] = 0 := rfl

@[simp] theorem digitsValue_append_singleton (radix : Nat) (ds : List Nat) (d : Nat) :
    digitsValue radix (ds ++ [d]) = digitsValue radix ds * radix + d := by
  simp [digitsValue]

end ControlPlane.Text
