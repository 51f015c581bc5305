import ControlPlane.Number.Rounding
import ControlPlane.Number.Integer

/-!
# Binary floating-point numbers of 64 bits

A finite number is `± mantissa · 2 ^ exponent` with a mantissa below `2 ^ 53` and an exponent of at
least `-1074`; the mantissa is below `2 ^ 52` only at that least exponent.  Every result is the
exact one rounded once by `ofRatio`, half to even.

`toText` writes the fewest decimal digits that read back as the number, and of those the nearest.
-/

namespace ControlPlane

/-- A binary floating-point number. -/
inductive Binary64 where
  | finite (negative : Bool) (mantissa : Nat) (exponent : Int)
  | infinity (negative : Bool)
  | nan
  deriving DecidableEq, Repr

namespace Binary64

/-! ## rounding -/

/-- The least exponent of a last bit. -/
def minExponent : Int := -1074

/-- The greatest exponent of a last bit. -/
def maxExponent : Int := 971

/-- The floor of the binary logarithm of a positive ratio. -/
def ratioLog2 (n d : Nat) : Int :=
  let k : Int := (n.log2 : Int) - d.log2
  if n * Nat.pow 2 (-k).toNat < d * Nat.pow 2 k.toNat then k - 1 else k

/-- The number nearest to `± n / d`, a half to the even mantissa. -/
def ofRatio (negative : Bool) (n d : Nat) : Binary64 :=
  if n = 0 then .finite negative 0 minExponent
  else
    let e := max minExponent (ratioLog2 n d - 52)
    let m := divHalfEven (n * Nat.pow 2 (-e).toNat) (d * Nat.pow 2 e.toNat)
    let (m, e) := if m = Nat.pow 2 53 then (Nat.pow 2 52, e + 1) else (m, e)
    if maxExponent < e then .infinity negative else .finite negative m e

/-- Zero. -/
def zero : Binary64 := .finite false 0 minExponent

/-- The nearest number to `± coefficient · 10 ^ exponent`.  Exponents far outside the range are
settled without computing the power. -/
def ofDecimal (negative : Bool) (coefficient : Nat) (exponent : Int) : Binary64 :=
  let digits : Int := (toString coefficient).length
  if coefficient = 0 ∨ digits + exponent < -400 then .finite negative 0 minExponent
  else if 400 < digits + exponent then .infinity negative
  else ofRatio negative (coefficient * Nat.pow 10 exponent.toNat) (Nat.pow 10 (-exponent).toNat)

/-- The nearest number to an integer; none if it lies beyond the finite numbers. -/
def ofInt? (i : Int) : Option Binary64 :=
  match ofRatio (i < 0) i.natAbs 1 with
  | .finite s m e => some (.finite s m e)
  | _ => none

/-! ## arithmetic -/

/-- The opposite number. -/
def neg : Binary64 → Binary64
  | .finite s m e => .finite (!s) m e
  | .infinity s => .infinity (!s)
  | .nan => .nan

/-- The signed mantissa scaled to a lower exponent. -/
def scaledMantissa (negative : Bool) (m : Nat) (e low : Int) : Int :=
  let n : Int := (m * Nat.pow 2 (e - low).toNat : Nat)
  if negative then -n else n

/-- The rounded sum. -/
def add : Binary64 → Binary64 → Binary64
  | .nan, _ => .nan
  | _, .nan => .nan
  | .infinity s, .infinity t => if s = t then .infinity s else .nan
  | .infinity s, _ => .infinity s
  | _, .infinity t => .infinity t
  | .finite s m e, .finite t n f =>
    let low := min e f
    let total := scaledMantissa s m e low + scaledMantissa t n f low
    let negative := if total = 0 then s && t else decide (total < 0)
    ofRatio negative (total.natAbs * Nat.pow 2 low.toNat) (Nat.pow 2 (-low).toNat)

/-- The rounded product. -/
def mul : Binary64 → Binary64 → Binary64
  | .nan, _ => .nan
  | _, .nan => .nan
  | .infinity s, .infinity t => .infinity (s != t)
  | .infinity s, .finite t n _ => if n = 0 then .nan else .infinity (s != t)
  | .finite s m _, .infinity t => if m = 0 then .nan else .infinity (s != t)
  | .finite s m e, .finite t n f =>
    let low := e + f
    ofRatio (s != t) (m * n * Nat.pow 2 low.toNat) (Nat.pow 2 (-low).toNat)

/-! ## integers -/

/-- The integer that a finite number is equal to, if there is one. -/
def toInt? : Binary64 → Option Int
  | .finite s m e =>
    let d := Nat.pow 2 (-e).toNat
    let n := m * Nat.pow 2 e.toNat
    if n % d = 0 then
      let i : Int := (n / d : Nat)
      some (if s then -i else i)
    else none
  | _ => none

/-- Whether a number is neither infinite nor undefined. -/
def isFinite : Binary64 → Bool
  | .finite .. => true
  | _ => false

/-! ## reading -/

/-- The digits in front of the first character that is none, and the rest. -/
def splitDigits (cs : List Char) : List Char × List Char :=
  (cs.takeWhile Text.isDigit, cs.dropWhile Text.isDigit)

/-- The exponent at the end of a number; none written is zero. -/
def exponentPart? (cs : List Char) : Option Int :=
  match cs with
  | [] => some 0
  | c :: rest =>
    if c = 'e' ∨ c = 'E' then
      let (negative, unsigned) := Integer.splitSign rest
      let (digits, after) := splitDigits unsigned
      if digits.isEmpty ∨ !after.isEmpty then none
      else
        let n : Int := Text.decimalValue digits
        some (if negative then -n else n)
    else none

/-- A number as text: an optional sign, then digits of any script with an optional point and
exponent, or the words `inf`, `infinity` and `nan` in any case; white space around it is ignored. -/
def ofText? (cs : List Char) : Option Binary64 :=
  let (negative, unsigned) := Integer.splitSign (Text.trim Text.isWhite cs)
  let word := String.ofList (unsigned.map Char.toLower)
  if word = "inf" ∨ word = "infinity" then some (.infinity negative)
  else if word = "nan" then some .nan
  else
    let (whole, rest) := splitDigits unsigned
    let (part, rest) :=
      match rest with
      | '.' :: rest => splitDigits rest
      | _ => ([], rest)
    if whole.isEmpty && part.isEmpty then none
    else (exponentPart? rest).map fun e =>
      ofDecimal negative (Text.decimalValue (whole ++ part)) (e - part.length)

/-! ## writing -/

/-- The number `m · 2 ^ e` on the decimal grid `10 ^ k`: the grid point below it and whether the
number is nearer to the one above. -/
def gridPoint (m : Nat) (e k : Int) : Nat × Bool :=
  let n := m * Nat.pow 2 e.toNat * Nat.pow 10 (-k).toNat
  let d := Nat.pow 2 (-e).toNat * Nat.pow 10 k.toNat
  let below := n / d
  let r := n % d
  (below, decide (d < 2 * r ∨ d = 2 * r ∧ below % 2 = 1))

/-- The floor of the decimal logarithm of a positive number. -/
def decimalLog (m : Nat) (e : Int) : Int :=
  let n := m * Nat.pow 2 e.toNat
  let d := Nat.pow 2 (-e).toNat
  -- both counts differ from the logarithm by less than one
  let k : Int := (toString n).length - (toString d).length
  if n * Nat.pow 10 (-k).toNat < d * Nat.pow 10 k.toNat then k - 1 else k

/-- The decimal `coefficient · 10 ^ exponent` that a positive number is written as, searched on
grids of `digits`, `digits + 1`, … significant digits. -/
def shortestFrom (m : Nat) (e top : Int) : (fuel digits : Nat) → Nat × Int
  | 0, digits => ((gridPoint m e (top - digits + 1)).1, top - digits + 1)
  | fuel + 1, digits =>
    let k := top - digits + 1
    let (below, up) := gridPoint m e k
    let near := if up then below + 1 else below
    let far := if up then below else below + 1
    let same (c : Nat) : Bool := ofDecimal false c k == .finite false m e
    if same near then (near, k)
    else if same far then (far, k)
    else shortestFrom m e top fuel (digits + 1)

/-- A decimal without trailing zeros in its coefficient. -/
def dropTrailingZeros : (fuel : Nat) → Nat → Int → Nat × Int
  | 0, c, k => (c, k)
  | fuel + 1, c, k => if c % 10 = 0 ∧ c ≠ 0 then dropTrailingZeros fuel (c / 10) (k + 1) else (c, k)

/-- The shortest decimal that reads back as the positive number `m · 2 ^ e`. -/
def shortest (m : Nat) (e : Int) : Nat × Int :=
  let (c, k) := shortestFrom m e (decimalLog m e) 17 1
  dropTrailingZeros 20 c k

/-- A decimal in positional form when its point lies at most sixteen places behind or three places
before its first digit, with an exponent of at least two digits otherwise. -/
def decimalText (c : Nat) (k : Int) : String :=
  let digits := (toString c).toList
  let point : Int := k + digits.length
  if -4 < point ∧ point ≤ 16 then
    if point ≤ 0 then
      "0." ++ String.ofList (List.replicate (-point).toNat '0' ++ digits)
    else if digits.length ≤ point.toNat then
      String.ofList (digits ++ List.replicate (point.toNat - digits.length) '0') ++ ".0"
    else
      String.ofList (digits.take point.toNat ++ '.' :: digits.drop point.toNat)
  else
    let mantissa :=
      match digits with
      | d :: rest => if rest.isEmpty then [d] else d :: '.' :: rest
      | [] => []
    let x := point - 1
    let size := toString x.natAbs
    String.ofList mantissa ++ (if x < 0 then "e-" else "e+") ++
      (if size.length < 2 then "0" ++ size else size)

/-- The number as text. -/
def toText : Binary64 → String
  | .nan => "nan"
  | .infinity negative => if negative then "-inf" else "inf"
  | .finite negative m e =>
    let body :=
      if m = 0 then "0.0"
      else
        let (c, k) := shortest m e
        decimalText c k
    if negative then "-" ++ body else body

end Binary64

end ControlPlane
