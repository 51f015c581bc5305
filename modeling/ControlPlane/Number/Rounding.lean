/-!
# Rounding a quotient

The one rounding rule of the library: to the nearest integer, a half to the even one.  Decimals and
binary floating-point numbers both round an exact result with it, once.
-/

namespace ControlPlane

/-- The quotient rounded to the nearest integer, a half to the even one. -/
def divHalfEven (n d : Nat) : Nat :=
  let q := n / d
  let r := n % d
  if 2 * r < d then q
  else if d < 2 * r then q + 1
  else if q % 2 = 0 then q
  else q + 1

end ControlPlane
