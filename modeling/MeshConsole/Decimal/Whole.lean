/-
This file rounds doubles to whole numbers.
-/

import MeshConsole.Decimal.Dyadic

namespace MeshConsole.Decimal

/-- The whole number nearest to the magnitude of a double with a negative exponent. A half goes
up. -/
def Dyadic.nearestWhole (x : Dyadic) : Nat :=
  let unit := Nat.pow 2 (-x.exponent).toNat
  (2 * x.mantissa + unit) / (2 * unit)

/-- The whole double nearest to a double; a half goes away from zero. The sign stays even when the
result is zero. -/
def round (x : Float) : Float :=
  if x.isNaN ∨ x.isInf then x
  else
    let exact := magnitude x
    if 0 ≤ exact.exponent then x
    else
      let whole := Float.ofNat exact.nearestWhole
      if isNegative x then -whole else whole

end MeshConsole.Decimal
