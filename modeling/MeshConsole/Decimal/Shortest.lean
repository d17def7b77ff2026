/-
This file finds the decimal with the fewest digits that reads back as a given double.
-/

import MeshConsole.Decimal.Dyadic

namespace MeshConsole.Decimal

/-- This is the choice between two nearest decimals that lie equally far away. -/
inductive Tie where
  | up
  | even
deriving DecidableEq

/-- The decimal `0.d₁d₂… * 10 ^ point` with the digits of `significand`. -/
structure Scientific where
  significand : Nat
  point : Int

/-- The digits of the significand. -/
def Scientific.digits (decimal : Scientific) : List Char :=
  Nat.toDigits 10 decimal.significand

/-- The reals that read back as one double, all over one denominator. -/
structure Interval where
  low : Nat
  value : Nat
  high : Nat
  denominator : Nat
  closed : Bool

/-- The reals nearer to a double than to its neighbours; an even mantissa also takes both ends. -/
def Dyadic.interval (x : Dyadic) : Interval :=
  let below := if x.atPowerOfTwo then 4 * x.mantissa - 1 else 4 * x.mantissa - 2
  let scale := Nat.pow 2 (x.exponent - 2).toNat
  { low := below * scale
    value := 4 * x.mantissa * scale
    high := (4 * x.mantissa + 2) * scale
    denominator := Nat.pow 2 (2 - x.exponent).toNat
    closed := x.mantissa % 2 == 0 }

/-- This test decides whether `numerator / denominator` reads back as the double. -/
def Interval.holds (interval : Interval) (numerator denominator : Nat) : Bool :=
  let point := numerator * interval.denominator
  if interval.closed then
    decide (interval.low * denominator ≤ point ∧ point ≤ interval.high * denominator)
  else
    decide (interval.low * denominator < point ∧ point < interval.high * denominator)

/-- The grid of `count` digits has two neighbours of the value. This function gives the one that
reads back and lies nearer. -/
def Interval.onGrid? (interval : Interval) (tie : Tie) (point : Int) (count : Nat) :
    Option Nat :=
  -- one step of the grid is `stepUp / stepDown`
  let stepUp := Nat.pow 10 (point - count).toNat
  let stepDown := Nat.pow 10 (count - point).toNat
  let scaled := interval.value * stepDown
  let unit := interval.denominator * stepUp
  let floor := scaled / unit
  let twice := 2 * (scaled % unit)
  let lower := interval.holds (floor * stepUp) stepDown
  let upper := interval.holds ((floor + 1) * stepUp) stepDown
  if lower && upper then
    if twice < unit then some floor
    else if unit < twice then some (floor + 1)
    else match tie with
      | .up => some (floor + 1)
      | .even => some (if floor % 2 = 0 then floor else floor + 1)
  else if lower then some floor
  else if upper then some (floor + 1)
  else none

/-- The first grid from `count` digits on that holds a decimal of the double. -/
def Interval.search (interval : Interval) (tie : Tie) (point : Int) :
    Nat → Nat → Scientific
  | 0, count => ⟨interval.value / interval.denominator, count⟩
  | fuel + 1, count =>
    match interval.onGrid? tie point count with
    | some significand => ⟨significand, point - count⟩
    | none => interval.search tie point fuel (count + 1)

/-- This function drops the zeros at the end of a significand. -/
def dropZeros : Nat → Nat → Int → Nat × Int
  | 0, significand, exponent => (significand, exponent)
  | fuel + 1, significand, exponent =>
    if significand ≠ 0 ∧ significand % 10 = 0 then
      dropZeros fuel (significand / 10) (exponent + 1)
    else (significand, exponent)

/-- The shortest decimal of a finite double without its sign. -/
def shortest (tie : Tie) (x : Float) : Scientific :=
  let exact := magnitude x
  if exact.mantissa = 0 then ⟨0, 1⟩
  else
    let interval := exact.interval
    let point := pointPosition interval.value interval.denominator
    -- seventeen digits always suffice
    let found := interval.search tie point 17 1
    let (significand, exponent) := dropZeros 20 found.significand found.point
    ⟨significand, exponent + (Nat.toDigits 10 significand).length⟩

end MeshConsole.Decimal
