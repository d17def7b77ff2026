/-
This file says which texts are typed numbers and what they stand for. Exactly these texts are read,
and a decimal is read as the double nearest to its number.
-/

import MeshConsole.Proofs.Decimal.Nearest
import MeshConsole.Proofs.Text.Numeral

namespace MeshConsole.Decimal

open Text

/-- The sign that may stand in front of a typed number and of its exponent. -/
inductive TypedSign where
  | none
  | plus
  | minus

/-- The text of a sign. -/
def TypedSign.text : TypedSign → List Char
  | .none => []
  | .plus => ['+']
  | .minus => ['-']

/-- The value behind a sign. -/
def TypedSign.apply {α : Type} [Neg α] : TypedSign → α → α
  | .minus, value => -value
  | _, value => value

/-- An exponent has a mark, perhaps a sign, and one or more digits. -/
structure TypedExponent where
  capital : Bool
  sign : TypedSign
  digits : List Char
  size : Nat
  numeral : Numeral 10 digits size

/-- The text of an exponent, which may be missing. -/
def TypedExponent.text : Option TypedExponent → List Char
  | none => []
  | some exponent =>
    (if exponent.capital then 'E' else 'e') :: exponent.sign.text ++ exponent.digits

/-- The value of an exponent, zero when it is missing. -/
def TypedExponent.value : Option TypedExponent → Int
  | none => 0
  | some exponent => exponent.sign.apply (exponent.size : Int)

/-- The point and the digits behind it, which may be missing. -/
def fractionText (fraction : Option (List Char)) : List Char :=
  fraction.elim [] ('.' :: ·)

/-- A decimal has digits on at least one side of a point, which may be missing, and perhaps an
exponent. -/
structure TypedDecimal where
  whole : List Char
  fraction : Option (List Char)
  significand : Nat
  numeral : Numeral 10 (whole ++ fraction.getD []) significand
  exponent : Option TypedExponent

namespace TypedDecimal

/-- The text of a decimal. -/
def text (decimal : TypedDecimal) : List Char :=
  decimal.whole ++ (fractionText decimal.fraction ++ TypedExponent.text decimal.exponent)

/-- The power of ten that the significand is multiplied with. -/
def power (decimal : TypedDecimal) : Int :=
  TypedExponent.value decimal.exponent - (decimal.fraction.getD []).length

/-- The exact number of a decimal. -/
def number (decimal : TypedDecimal) : ℚ :=
  decimal.significand * 10 ^ decimal.power

/-- The double that a decimal stands for. -/
def value (decimal : TypedDecimal) : Float :=
  nearest decimal.significand decimal.power

/-- It is the double nearest to the number. -/
theorem isRounded_value (decimal : TypedDecimal) : IsRounded decimal.number decimal.value :=
  isRounded_nearest decimal.significand decimal.power

end TypedDecimal

/-- Names stand for the doubles that are no finite numbers. -/
inductive NamedKind where
  | infinite
  | notANumber

/-- The names in small letters. -/
def NamedKind.names : NamedKind → List String
  | .infinite => ["inf", "infinity"]
  | .notANumber => ["nan"]

/-- The double with a name. -/
def NamedKind.value : NamedKind → Float
  | .infinite => 1.0 / 0.0
  | .notANumber => 0.0 / 0.0

/-- A name in any mixture of small and large letters. -/
structure TypedName where
  kind : NamedKind
  letters : List Char
  known : String.ofList (letters.map Char.toLower) ∈ kind.names

/-- A typed number is a decimal or a name with at most one sign in front. -/
structure TypedNumber where
  sign : TypedSign
  body : TypedDecimal ⊕ TypedName

namespace TypedNumber

/-- The text of a typed number. -/
def text (number : TypedNumber) : List Char :=
  number.sign.text ++ number.body.elim TypedDecimal.text TypedName.letters

/-- The double that a typed number stands for. -/
def value (number : TypedNumber) : Float :=
  number.sign.apply (number.body.elim TypedDecimal.value fun name => name.kind.value)

end TypedNumber

section Digits

variable {run rest cs : List Char}

end Digits

section Exponents

variable {cs : List Char} {power : Int}

end Exponents

section Decimals

variable {cs : List Char} {x : Float}

end Decimals

section Numbers

variable {cs : List Char} {x : Float}

end Numbers

end MeshConsole.Decimal
