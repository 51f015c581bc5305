import ControlPlane.Text.Blank
import ControlPlane.Text.Digit

/-!
# Integers as text

Three grammars of integer text are in use.

* `plain` — a minus sign if negative, then digits without superfluous zeros: the form in which
  integers are printed.
* `lenient` — what a field of integers accepts: `plain`, or a text that becomes plain when white
  space around it, a plus sign, leading zeros, a fraction of zeros and single underscores between
  other characters are taken away.
* `grouped` — what options and typed scalars accept: digits of any script in a radix, with single
  underscores between them, a sign in front and white space around.

A number of more than `digitLimit` digits is refused whatever its value, and it is not printed.
`limitMessage` is what is said about one.
-/

namespace ControlPlane.Integer

open Text

/-- The greatest number of digits of an integer text. -/
def digitLimit : Nat := 4300

/-- The wording about an integer whose text is too long. -/
def limitMessage (found : String) : String :=
  "Exceeds the limit (" ++ toString digitLimit ++ " digits) for integer string conversion" ++ found ++
    "; use sys.set_int_max_str_digits() to increase the limit"

/-- Whether an integer has a text that is short enough. -/
def isPrintable (i : Int) : Bool := (toString i.natAbs).length ≤ digitLimit

/-- Why a text is not an integer. -/
inductive Flaw where
  /-- The text does not follow the grammar. -/
  | malformed
  /-- The number has too many digits. -/
  | tooLong
  deriving DecidableEq, Repr

/-! ## plain and lenient text -/

/-- Whether a character is an ASCII digit. -/
def isPlainDigit (c : Char) : Bool := '0' ≤ c && c ≤ '9'

/-- The value of a run of ASCII digits. -/
def plainValue (cs : List Char) : Nat := digitsValue 10 (cs.map fun c => c.toNat - '0'.toNat)

/-- An unsigned plain integer. -/
def plainNat (cs : List Char) : Except Flaw Nat :=
  let digits := cs.takeWhile isPlainDigit
  let rest := cs.dropWhile isPlainDigit
  match digits with
  | [] => .error .malformed
  | ['0'] => if rest.isEmpty then .ok 0 else .error .malformed
  | '0' :: _ => .error .malformed
  | _ =>
    if digitLimit < digits.length then .error .tooLong
    else if rest.isEmpty then .ok (plainValue digits)
    else .error .malformed

/-- A plain integer. -/
def plain (cs : List Char) : Except Flaw Int :=
  match cs with
  | '-' :: rest => (plainNat rest).map fun n => -(n : Int)
  | _ => (plainNat cs).map fun n => (n : Int)

/-- A text without leading zeros; underscores among them go too.  One character stays in front of a
point and at the end.  A text that starts neither with a digit nor with a minus sign has none, nor
has one whose zeros lead to anything else. -/
def dropZeros (cs : List Char) : Option (List Char) :=
  match cs with
  | '0' :: rest => go '0' rest
  | c :: _ => if isPlainDigit c || c == '-' then some cs else none
  | [] => none
where
  /-- `last` is the zero or underscore in front. -/
  go (last : Char) : List Char → Option (List Char)
    | [] => some [last]
    | c :: rest =>
      if c == '0' || c == '_' then go c rest
      else if isPlainDigit c || c == '-' then some (c :: rest)
      else if c == '.' then some (last :: c :: rest)
      else none

/-- A text without a fraction of zeros at its end. -/
def dropFraction (cs : List Char) : List Char :=
  match cs.dropWhile (· != '.') with
  | '.' :: z :: zs => if (z :: zs).all (· == '0') then cs.takeWhile (· != '.') else cs
  | _ => cs

/-- Whether two underscores stand side by side. -/
def hasDoubleUnderscore : List Char → Bool
  | '_' :: '_' :: _ => true
  | _ :: rest => hasDoubleUnderscore rest
  | [] => false

/-- A text without its underscores, if each of them stands alone between two other characters. -/
def dropUnderscores (cs : List Char) : List Char :=
  if cs.head? == some '_' || cs.getLast? == some '_' || hasDoubleUnderscore cs then cs
  else cs.filter (· != '_')

/-- The plain form of a text, which may be no integer; nothing if what follows the sign does not
start like one. -/
def simplify (cs : List Char) : Option (List Char) :=
  match trim isWhite cs with
  | '+' :: '-' :: _ => none
  | '+' :: rest => unsigned rest
  | '-' :: rest => (unsigned rest).map ('-' :: ·)
  | rest => unsigned rest
where
  /-- The plain form of what follows the sign. -/
  unsigned (cs : List Char) : Option (List Char) :=
    (dropZeros cs).map fun rest => dropUnderscores (dropFraction rest)

/-- An integer as fields of integers accept it.  Only a plain one can be too long; a text that is
longer in its plain form is malformed. -/
def lenient (cs : List Char) : Except Flaw Int :=
  match plain cs with
  | .error .malformed =>
    match (simplify cs).map plain with
    | some (.ok i) => .ok i
    | _ => .error .malformed
  | r => r

/-! ## grouped text in a radix -/

/-- The radixes of typed scalars. -/
inductive Radix where
  | binary
  | octal
  | decimal
  | hexadecimal
  deriving DecidableEq, Repr

namespace Radix

/-- The number of digits of a radix. -/
def base : Radix → Nat
  | .binary => 2
  | .octal => 8
  | .decimal => 10
  | .hexadecimal => 16

/-- The letter that marks a text of the radix after a zero. -/
def mark? : Radix → Option (Char × Char)
  | .binary => some ('b', 'B')
  | .octal => some ('o', 'O')
  | .decimal => none
  | .hexadecimal => some ('x', 'X')

/-- The value of a digit: an ASCII letter or a decimal digit of any script. -/
def digit? (r : Radix) (c : Char) : Option Nat :=
  match digitValue? c with
  | some v => if v < r.base then some v else none
  | none => radixValue? r.base c

end Radix

/-- Digits with single underscores between them. -/
def groupedDigits (r : Radix) : List Char → Option (List Nat)
  | [] => none
  | c :: rest =>
    match r.digit? c, rest with
    | none, _ => none
    | some v, [] => some [v]
    | some v, '_' :: rest => (groupedDigits r rest).map (v :: ·)
    | some v, rest => (groupedDigits r rest).map (v :: ·)

/-- A text without the mark of its radix and an underscore after it. -/
def dropMark (r : Radix) (cs : List Char) : List Char :=
  match r.mark?, cs with
  | some (lower, upper), '0' :: m :: rest =>
    if m == lower || m == upper then
      match rest with
      | '_' :: rest => rest
      | _ => rest
    else cs
  | _, _ => cs

/-- A sign and what follows it. -/
def splitSign (cs : List Char) : Bool × List Char :=
  match cs with
  | '-' :: rest => (true, rest)
  | '+' :: rest => (false, rest)
  | _ => (false, cs)

/-- A grouped integer.  Only a decimal one can be too long: the digits of the other radixes are
digits of a power of two. -/
def grouped (r : Radix) (cs : List Char) : Except Flaw Int :=
  let (negative, unsigned) := splitSign (trim isWhite cs)
  match groupedDigits r (dropMark r unsigned) with
  | none => .error .malformed
  | some ds =>
    if r = .decimal ∧ digitLimit < ds.length then .error .tooLong
    else
      let n : Int := digitsValue r.base ds
      .ok (if negative then -n else n)

end ControlPlane.Integer
