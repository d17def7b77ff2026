/-
This file writes doubles: in plain positional form for labels and styles, and in the form that
JSON texts use.
-/

import MeshConsole.Decimal.Shortest

namespace MeshConsole.Decimal

/-- The digits with the point after `point` of them; zeros fill what is missing. -/
def positional (digits : List Char) (point : Int) : List Char :=
  if point ≤ 0 then
    '0' :: '.' :: List.replicate (-point).toNat '0' ++ digits
  else if digits.length ≤ point.toNat then
    digits ++ List.replicate (point.toNat - digits.length) '0'
  else
    digits.take point.toNat ++ '.' :: digits.drop point.toNat

/-- The sign in front of the text of a double. -/
def signText (x : Float) : List Char :=
  if isNegative x then ['-'] else []

/-- Labels and styles show the fewest digits that read back, in positional form without an
exponent, and whole numbers without a point. -/
def plain (x : Float) : String :=
  if x.isNaN then "NaN"
  else if x.isInf then (if isNegative x then "-inf" else "inf")
  else
    let decimal := shortest .up x
    String.ofList (signText x ++ positional decimal.digits decimal.point)

/-- The exponent that follows the mark, always with its sign. -/
def exponentText (exponent : Int) : List Char :=
  (if exponent < 0 then '-' else '+') :: Nat.toDigits 10 exponent.natAbs

/-- JSON texts show the fewest digits that read back. Values from `10 ^ -5` up to below `10 ^ 16`
are positional and keep a point; all others have an exponent. -/
def jsonDigits (decimal : Scientific) : List Char :=
  if 16 < decimal.point ∨ decimal.point < -4 then
    match decimal.digits with
    | [] => []
    | [digit] => digit :: 'e' :: exponentText (decimal.point - 1)
    | digit :: rest => digit :: '.' :: rest ++ 'e' :: exponentText (decimal.point - 1)
  else
    let body := positional decimal.digits decimal.point
    if body.contains '.' then body else body ++ ['.', '0']

/-- The JSON text of a double; a double that is no number is written as `null`. -/
def json (x : Float) : List Char :=
  if x.isNaN ∨ x.isInf then "null".toList
  else signText x ++ jsonDigits (shortest .even x)

end MeshConsole.Decimal
