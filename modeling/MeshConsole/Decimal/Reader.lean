/-
This file reads typed decimal numbers.
-/

import MeshConsole.Text.Digits

namespace MeshConsole.Decimal

open Text

/-- The double nearest to `significand * 10 ^ exponent`. -/
def nearest (significand : Nat) (exponent : Int) : Float :=
  let size : Int := (Nat.toDigits 10 significand).length + exponent
  if significand = 0 ∨ size < -400 then 0.0
  else if 400 < size then 1.0 / 0.0
  else if exponent < 0 then Float.ofScientific significand true exponent.natAbs
  else Float.ofScientific significand false exponent.natAbs

/-- The digits at the front of a text and the rest. -/
def digitRun (cs : List Char) : List Char × List Char :=
  cs.span fun c => '0' ≤ c ∧ c ≤ '9'

/-- The value of a run of decimal digits. -/
def digitsValue (cs : List Char) : Nat :=
  cs.foldl (fun value c => value * 10 + (c.toNat - 48)) 0

/-- An exponent part is a mark, an optional sign and one or more digits up to the end. -/
def readExponent? : List Char → Option Int
  | [] => some 0
  | mark :: rest =>
    if mark = 'e' ∨ mark = 'E' then
      let (negative, body) := match rest with
        | '-' :: body => (true, body)
        | '+' :: body => (false, body)
        | body => (false, body)
      match digitRun body with
      | (_ :: _, _ :: _) | ([], _) => none
      | (digits, []) =>
        let value : Int := digitsValue digits
        some (if negative then -value else value)
    else none

/-- An unsigned decimal has digits on at least one side of an optional point. -/
def readUnsigned? (cs : List Char) : Option Float :=
  let (whole, afterWhole) := digitRun cs
  let (fraction, afterFraction) := match afterWhole with
    | '.' :: rest => digitRun rest
    | rest => ([], rest)
  if whole = [] ∧ fraction = [] then none
  else
    (readExponent? afterFraction).map fun exponent =>
      nearest (digitsValue (whole ++ fraction)) (exponent - fraction.length)

/-- The names of the doubles that are no finite numbers, in small letters. -/
def named? (cs : List Char) : Option Float :=
  let name := String.ofList (cs.map Char.toLower)
  if name = "inf" ∨ name = "infinity" then some (1.0 / 0.0)
  else if name = "nan" then some (0.0 / 0.0)
  else none

/-- A typed number is an unsigned decimal or a name, with at most one sign in front and nothing
else around it. -/
def read? (cs : List Char) : Option Float :=
  let unsigned (body : List Char) := (named? body).or (readUnsigned? body)
  match cs with
  | '-' :: body => (unsigned body).map (- ·)
  | '+' :: body => unsigned body
  | body => unsigned body

end MeshConsole.Decimal
