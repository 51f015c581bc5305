import ControlPlane.Number.Rounding

/-!
# Decimal floating point

Numbers `± coefficient · 10 ^ exponent`, kept as written: `1.50` and `1.5` are two decimals of one
value.  Arithmetic is exact and then rounded once by a `Context`, half to even, to its precision or,
near zero, to its least exponent; a result above the greatest exponent is an overflow.

`Decimal.toText` writes a decimal positionally when its exponent is at most zero and its leading
digit is not too far behind the point, and with an exponent otherwise.
-/

namespace ControlPlane

/-- What decimal arithmetic refuses. -/
inductive ArithmeticFault where
  /-- The result lies above the greatest exponent. -/
  | overflow
  /-- The operation is not defined for its operands. -/
  | invalidOperation
  deriving DecidableEq, Repr

/-- A decimal number as written: sign, coefficient and exponent. -/
structure Decimal where
  negative : Bool
  coefficient : Nat
  exponent : Int
  deriving DecidableEq, Repr

namespace Decimal

/-! ## digits -/

/-- How many decimal digits a number has; zero has one. -/
def digitCount (n : Nat) : Nat :=
  if n < 10 then 1 else digitCount (n / 10) + 1

/-- An integer as a decimal. -/
def ofNat (n : Nat) : Decimal := ⟨false, n, 0⟩

/-- The power of ten with the given exponent. -/
def powerOfTen (e : Int) : Decimal := ⟨false, 1, e⟩

/-! ## rounding -/

/-- The bounds that results are rounded to. -/
structure Context where
  /-- Greatest number of digits of a coefficient. -/
  precision : Nat
  /-- Greatest exponent of a leading digit. -/
  maxExponent : Int
  /-- Least exponent of a leading digit at full precision. -/
  minExponent : Int
  deriving DecidableEq, Repr

namespace Context

/-- The context of quantities: 28 digits, exponents up to 999999 in either direction. -/
def standard : Context := ⟨28, 999999, -999999⟩

/-- The least exponent of a last digit. -/
def tiny (ctx : Context) : Int := ctx.minExponent - ctx.precision + 1

/-- The exponent of the last digit that rounding keeps. -/
def lastPlace (ctx : Context) (x : Decimal) : Int :=
  max (digitCount x.coefficient + x.exponent - ctx.precision) ctx.tiny

/-- A nonzero decimal with no more digits than the context has places for. -/
def shorten (ctx : Context) (x : Decimal) : Decimal :=
  let last := ctx.lastPlace x
  if x.exponent < last then
    let c := divHalfEven x.coefficient (Nat.pow 10 (last - x.exponent).toNat)
    if ctx.precision < digitCount c then ⟨x.negative, c / 10, last + 1⟩
    else ⟨x.negative, c, last⟩
  else x

/-- The decimal of the context that is nearest to a given one.  A zero keeps its sign and has its
exponent moved into range; any other result whose leading digit lies too high is refused. -/
def round (ctx : Context) (x : Decimal) : Except ArithmeticFault Decimal :=
  if x.coefficient = 0 then
    .ok { x with exponent := min (max x.exponent ctx.tiny) ctx.maxExponent }
  else
    let y := ctx.shorten x
    if ctx.maxExponent < digitCount y.coefficient + y.exponent - 1 then .error .overflow
    else .ok y

/-- The rounded product. -/
def mul (ctx : Context) (x y : Decimal) : Except ArithmeticFault Decimal :=
  ctx.round ⟨x.negative != y.negative, x.coefficient * y.coefficient, x.exponent + y.exponent⟩

/-- How far `scale` moves a point at most. -/
def scaleLimit (ctx : Context) : Int := 2 * (ctx.maxExponent + ctx.precision)

/-- The decimal times a power of ten, rounded; the power is refused beyond `scaleLimit`. -/
def scale (ctx : Context) (x : Decimal) (n : Int) : Except ArithmeticFault Decimal :=
  if n < -ctx.scaleLimit ∨ ctx.scaleLimit < n then .error .invalidOperation
  else ctx.round { x with exponent := x.exponent + n }

end Context

/-! ## integers -/

/-- The least integer that is not below the decimal. -/
def ceil (x : Decimal) : Int :=
  if 0 ≤ x.exponent then
    let n : Int := (x.coefficient * Nat.pow 10 x.exponent.toNat : Nat)
    if x.negative then -n else n
  else
    let d := Nat.pow 10 (-x.exponent).toNat
    if x.negative then -((x.coefficient / d : Nat) : Int)
    else ((x.coefficient + d - 1) / d : Nat)

/-! ## text -/

/-- An exponent with its sign always written. -/
def exponentText (e : Int) : String :=
  if e < 0 then "E" ++ toString e else "E+" ++ toString e

/-- The decimal as text. -/
def toText (x : Decimal) : String :=
  let digits := (toString x.coefficient).toList
  let left : Int := x.exponent + digits.length
  let positional := x.exponent ≤ 0 ∧ -6 < left
  let point : Int := if positional then left else 1
  let body : List Char :=
    if point ≤ 0 then '0' :: '.' :: List.replicate (-point).toNat '0' ++ digits
    else if digits.length ≤ point.toNat then
      digits ++ List.replicate (point.toNat - digits.length) '0'
    else digits.take point.toNat ++ '.' :: digits.drop point.toNat
  (if x.negative then "-" else "") ++ String.ofList body ++
    (if left = point then "" else exponentText (left - point))

end Decimal

end ControlPlane
