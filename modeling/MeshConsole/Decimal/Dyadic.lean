/-
This file reads a double as an exact number: a natural multiple of a power of two.
-/

namespace MeshConsole.Decimal

/-- A finite double has the magnitude `mantissa * 2 ^ exponent`. -/
structure Dyadic where
  mantissa : Nat
  exponent : Int
  /-- The magnitudes just below lie twice as dense as those just above. -/
  atPowerOfTwo : Bool

/-- The sign bit of a double. -/
def isNegative (x : Float) : Bool :=
  x.toBits >>> 63 == 1

/-- The magnitude of a finite double. -/
def magnitude (x : Float) : Dyadic :=
  let bits := x.toBits.toNat
  let fraction : Nat := bits % Nat.pow 2 52
  let field : Nat := bits / Nat.pow 2 52 % Nat.pow 2 11
  if field = 0 then ⟨fraction, -1074, false⟩
  else ⟨Nat.pow 2 52 + fraction, (field : Int) - 1075, fraction = 0 ∧ 1 < field⟩

/-- The number of decimal digits that stand before the point of `numerator / denominator`;
zero and negative counts tell how many zeros follow the point. -/
def pointPosition (numerator denominator : Nat) : Int :=
  if denominator ≤ numerator then
    ((Nat.toDigits 10 (numerator / denominator)).length : Int)
  else
    1 - ((Nat.toDigits 10 ((denominator - 1) / numerator)).length : Int)

end MeshConsole.Decimal
