import ControlPlane.Number.Decimal
import ControlPlane.Number.Integer
import ControlPlane.Quantity.Spelling
import ControlPlane.Text.Quoted

/-!
# Resource quantities

A quantity keeps the text that it was read from and the exact decimal that the text stands for:
`100m` is a tenth, `1Gi` is two to the thirtieth, `1.5e3` is fifteen hundred.  `Quantity.parse`
reads a text; what it refuses is told by `Quantity.Flaw`, which keeps a text that is not a quantity
apart from an exponent of too many digits and from a number that decimal arithmetic cannot hold.

The invariant of the type is that a quantity's text reads back as its value.
-/

namespace ControlPlane

namespace Quantity

/-! ## numbers -/

/-- The number that a suffix multiplies by. -/
def Suffix.factor : Suffix → Decimal
  | .nano => .powerOfTen (-9)
  | .micro => .powerOfTen (-6)
  | .milli => .powerOfTen (-3)
  | .kilo => .powerOfTen 3
  | .mega => .powerOfTen 6
  | .giga => .powerOfTen 9
  | .tera => .powerOfTen 12
  | .peta => .powerOfTen 15
  | .exa => .powerOfTen 18
  | .kibi => .ofNat (Nat.pow 2 10)
  | .mebi => .ofNat (Nat.pow 2 20)
  | .gibi => .ofNat (Nat.pow 2 30)
  | .tebi => .ofNat (Nat.pow 2 40)
  | .pebi => .ofNat (Nat.pow 2 50)
  | .exbi => .ofNat (Nat.pow 2 60)

/-- The number in front of the scale, exactly as written. -/
def Spelling.number (s : Spelling) : Decimal :=
  let fraction := s.fraction.getD []
  ⟨s.sign = some .minus, Text.decimalValue (s.whole ++ fraction), -(fraction.length : Int)⟩

/-! ## refusals -/

/-- Why a text is no quantity. -/
inductive Malformation where
  /-- There is no text. -/
  | empty
  /-- The text is not spelled like a quantity. -/
  | malformed
  deriving DecidableEq, Repr

/-- The wording of a malformation. -/
def Malformation.reason : Malformation → String
  | .empty => "empty quantity"
  | .malformed => "malformed quantity"

/-- Why a quantity is refused. -/
inductive Flaw where
  /-- The text, as given or as shown, is no quantity. -/
  | unreadable (text : String) (why : Malformation)
  /-- The exponent has so many digits that it is not read as an integer, whatever they are. -/
  | longExponent (digits : Nat)
  /-- The number is beyond decimal arithmetic. -/
  | arithmetic (fault : ArithmeticFault)
  deriving DecidableEq, Repr

/-- The message about a text that is no quantity. -/
def unreadableMessage (text reason : String) : String :=
  "cannot parse quantity " ++ Text.quoted text ++ ": " ++ reason

/-- The message about an exponent of so many digits. -/
def longExponentMessage (digits : Nat) : String :=
  Integer.limitMessage (": value has " ++ toString digits ++ " digits")

/-! ## values -/

/-- The power of ten that an exponent stands for. -/
def exponentValue (sign : Option Sign) (digits : List Char) : Except Flaw Int :=
  if Integer.digitLimit < digits.length then .error (.longExponent digits.length)
  else
    let n : Int := Text.decimalValue digits
    .ok (if sign = some .minus then -n else n)

/-- The value of a spelling: the number scaled, and rounded once. -/
def Spelling.value (s : Spelling) : Except Flaw Decimal :=
  match s.scale with
  | .unit => (Decimal.Context.standard.mul s.number (.ofNat 1)).mapError .arithmetic
  | .exponent _ sign digits =>
    match exponentValue sign digits with
    | .ok n => (Decimal.Context.standard.scale s.number n).mapError .arithmetic
    | .error flaw => .error flaw
  | .suffix suffix => (Decimal.Context.standard.mul s.number suffix.factor).mapError .arithmetic

/-- The value of a text. -/
def valueOf (text : String) : Except Flaw Decimal :=
  if text.isEmpty then .error (.unreadable text .empty)
  else match Spelling.read? text.toList with
    | none => .error (.unreadable text .malformed)
    | some s => s.value

end Quantity

/-- A resource quantity: a text and the decimal that it stands for. -/
structure Quantity where
  text : String
  value : Decimal
  reads : Quantity.valueOf text = .ok value

namespace Quantity

/-- A text read as a quantity. -/
def parse (text : String) : Except Flaw Quantity :=
  match h : valueOf text with
  | .ok value => .ok ⟨text, value, h⟩
  | .error flaw => .error flaw

/-- Two quantities with one text are equal. -/
theorem ext_text {p q : Quantity} (h : p.text = q.text) : p = q := by
  obtain ⟨t, v, hv⟩ := p
  obtain ⟨u, w, hw⟩ := q
  subst h
  have : v = w := by simpa [hv] using hw
  subst this
  rfl

instance : DecidableEq Quantity := fun p q =>
  if h : p.text = q.text then isTrue (ext_text h)
  else isFalse fun e => h (e ▸ rfl)

/-- A quantity's own text reads back as the quantity. -/
@[simp] theorem parse_text (q : Quantity) : parse q.text = .ok q := by
  unfold parse
  split
  · rename_i v h
    exact congrArg _ (ext_text rfl)
  · rename_i f h
    simp [q.reads] at h

/-- Reading keeps the text. -/
theorem text_of_parse {t : String} {q : Quantity} (h : parse t = .ok q) : q.text = t := by
  unfold parse at h
  split at h
  · cases h; rfl
  · cases h

/-- A text is read as its value. -/
theorem map_value_parse (t : String) : (parse t).map value = valueOf t := by
  unfold parse
  split
  · next v h => exact h.symm
  · next f h => exact h.symm

theorem parse_eq_error_iff {t : String} {flaw : Flaw} :
    parse t = .error flaw ↔ valueOf t = .error flaw := by
  rw [← map_value_parse]
  cases parse t <;> simp [Except.map]

/-! ## views -/

/-- The least integer that is not below the quantity. -/
def toInt (q : Quantity) : Int := q.value.ceil

/-- The quantity in thousandths, rounded up, as used for CPU millicores. -/
def milliValue (q : Quantity) : Except ArithmeticFault Int :=
  (Decimal.Context.standard.mul q.value (.ofNat 1000)).map Decimal.ceil

/-- The quantity as shown in logs. -/
def display (q : Quantity) : String := "Quantity(" ++ q.text ++ ")"

end Quantity

end ControlPlane
