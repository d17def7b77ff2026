/-
This file writes doubles with six places after the point.
-/

import MeshConsole.Decimal.Dyadic

namespace MeshConsole.Decimal

/-- The whole number nearest to a quotient; a half goes to the even neighbour. -/
def roundQuotient (numerator denominator : Nat) : Nat :=
  let floor := numerator / denominator
  let twice := 2 * (numerator % denominator)
  if twice < denominator then floor
  else if denominator < twice then floor + 1
  else if floor % 2 = 0 then floor else floor + 1

/-- The exact value rounded to six places. Every negative double has a sign, even when its digits
are zero. -/
def signedSix (x : Float) : String :=
  if x.isNaN then "NaN"
  else if x.isInf then (if isNegative x then "-inf" else "inf")
  else
    let exact := magnitude x
    let millionths := roundQuotient (exact.mantissa * Nat.pow 2 exact.exponent.toNat * 1000000)
      (Nat.pow 2 (-exact.exponent).toNat)
    let places := Nat.toDigits 10 (millionths % 1000000)
    let sign := if isNegative x then ['-'] else []
    String.ofList (sign ++ Nat.toDigits 10 (millionths / 1000000) ++
      '.' :: List.replicate (6 - places.length) '0' ++ places)

/-- The exact value rounded to six places. Zero is written without a sign. -/
def fixedSix (x : Float) : String :=
  let written := signedSix x
  if written = "-0.000000" then "0.000000" else written

end MeshConsole.Decimal
