import ControlPlane.Text.Digit

/-!
# How a quantity is spelled

A quantity is spelled as a signed decimal number, followed by a scale: an exponent, a suffix, or
nothing.  Digits may be of any script.  `Spelling.read?` takes a text apart, `Spelling.toList` puts
it together again, and `Spelling.Valid` says what may stand in each part.

An exponent goes before a suffix: `1E` is one exa, `1E3` is a thousand, `1Ei` is one exbi.
-/

namespace ControlPlane.Quantity

open Text

/-- A sign in front of digits. -/
inductive Sign where
  | plus
  | minus
  deriving DecidableEq, Repr

namespace Sign

/-- The character of a sign. -/
def char : Sign → Char
  | .plus => '+'
  | .minus => '-'

/-- A sign at the start of a text, and what follows. -/
def split : List Char → Option Sign × List Char
  | '+' :: rest => (some .plus, rest)
  | '-' :: rest => (some .minus, rest)
  | cs => (none, cs)

end Sign

/-- A suffix: a power of ten, or of two for those that end in `i`. -/
inductive Suffix where
  | nano | micro | milli | kilo | mega | giga | tera | peta | exa
  | kibi | mebi | gibi | tebi | pebi | exbi
  deriving DecidableEq, Repr

namespace Suffix

/-- Every suffix. -/
def all : List Suffix :=
  [.nano, .micro, .milli, .kilo, .mega, .giga, .tera, .peta, .exa,
   .kibi, .mebi, .gibi, .tebi, .pebi, .exbi]

/-- How a suffix is written. -/
def toList : Suffix → List Char
  | .nano => ['n']
  | .micro => ['u']
  | .milli => ['m']
  | .kilo => ['k']
  | .mega => ['M']
  | .giga => ['G']
  | .tera => ['T']
  | .peta => ['P']
  | .exa => ['E']
  | .kibi => ['K', 'i']
  | .mebi => ['M', 'i']
  | .gibi => ['G', 'i']
  | .tebi => ['T', 'i']
  | .pebi => ['P', 'i']
  | .exbi => ['E', 'i']

/-- The suffix with the given text. -/
def read? (cs : List Char) : Option Suffix := all.find? fun s => s.toList = cs

@[simp] theorem read?_toList (s : Suffix) : read? s.toList = some s := by cases s <;> decide

end Suffix

/-- What follows the number of a quantity. -/
inductive Scale where
  /-- Nothing. -/
  | unit
  /-- A power of ten: the letter `e` or `E`, an optional sign and digits. -/
  | exponent (letter : Char) (sign : Option Sign) (digits : List Char)
  /-- A suffix. -/
  | suffix (s : Suffix)
  deriving DecidableEq, Repr

namespace Scale

/-- How a scale is written. -/
def toList : Scale → List Char
  | .unit => []
  | .exponent letter sign digits => letter :: ((sign.map Sign.char).toList ++ digits)
  | .suffix s => s.toList

/-- A scale that makes up the whole text. -/
def read? (cs : List Char) : Option Scale :=
  match cs with
  | [] => some .unit
  | c :: rest =>
    let (sign, digits) := Sign.split rest
    if (c = 'e' ∨ c = 'E') ∧ digits ≠ [] ∧ digits.all isDigit then
      some (.exponent c sign digits)
    else (Suffix.read? cs).map .suffix

/-- An exponent starts with the letter and has at least one digit. -/
def Valid : Scale → Prop
  | .unit | .suffix _ => True
  | .exponent letter _ digits =>
    (letter = 'e' ∨ letter = 'E') ∧ digits ≠ [] ∧ digits.all isDigit = true

instance : DecidablePred Valid
  | .unit | .suffix _ => inferInstanceAs (Decidable True)
  | .exponent letter _ digits => inferInstanceAs
      (Decidable ((letter = 'e' ∨ letter = 'E') ∧ digits ≠ [] ∧ digits.all isDigit = true))

end Scale

/-- The parts of a quantity's text.  A fraction stands behind a point and may be empty. -/
structure Spelling where
  sign : Option Sign
  whole : List Char
  fraction : Option (List Char)
  scale : Scale
  deriving DecidableEq, Repr

namespace Spelling

/-- The parts put together. -/
def toList (s : Spelling) : List Char :=
  (s.sign.map Sign.char).toList ++ s.whole ++
    (match s.fraction with
      | some digits => '.' :: digits
      | none => []) ++
    s.scale.toList

/-- A text taken apart; none if it does not spell a quantity. -/
def read? (cs : List Char) : Option Spelling :=
  let (sign, unsigned) := Sign.split cs
  let whole := unsigned.takeWhile isDigit
  let rest := unsigned.dropWhile isDigit
  let (fraction, rest) :=
    match rest with
    | '.' :: rest => (some (rest.takeWhile isDigit), rest.dropWhile isDigit)
    | _ => (none, rest)
  if whole.isEmpty && (fraction.getD []).isEmpty then none
  else (Scale.read? rest).map fun scale => ⟨sign, whole, fraction, scale⟩

/-- The parts of a quantity: digits in front of the point and behind it, at least one in all, and a
scale. -/
structure Valid (s : Spelling) : Prop where
  whole_digits : s.whole.all isDigit = true
  fraction_digits : (s.fraction.getD []).all isDigit = true
  some_digit : s.whole ≠ [] ∨ s.fraction.getD [] ≠ []
  scale_valid : s.scale.Valid

instance : DecidablePred Valid := fun s =>
  decidable_of_iff (s.whole.all isDigit = true ∧ (s.fraction.getD []).all isDigit = true ∧
      (s.whole ≠ [] ∨ s.fraction.getD [] ≠ []) ∧ s.scale.Valid)
    ⟨fun ⟨whole, fraction, digit, scale⟩ => ⟨whole, fraction, digit, scale⟩,
      fun ⟨whole, fraction, digit, scale⟩ => ⟨whole, fraction, digit, scale⟩⟩

end Spelling

end ControlPlane.Quantity
