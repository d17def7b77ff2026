/-
This file says what becomes of a weight that a form shows as a whole percent and stores again. The
stored weight is the double nearest to a whole number of hundredths, and exactly such weights stay
as they are.
-/

import MeshConsole.Proofs.Form.LinkReading

namespace MeshConsole

open Decimal

/-- The weight that is stored when the shown percent of a weight is left as it is. -/
def restoredWeight (weight : Float) : Float := weightOfPercent (percentOfWeight weight)

/-- A weight is a whole number of hundredths, as well as a double can be one. -/
def IsWholePercent (weight : Float) : Prop :=
  weight = -0.0 ∨ ∃ hundredths ≤ 100, weight = Float.ofNat hundredths / 100.0

section Rounding

variable {x : Float} {p : ℚ}

/-- The nearest whole number is the largest one that is at most a half above. -/
theorem nearestWhole_eq (exact : Decimal.Dyadic) (parts : exact.exponent < 0) :
    exact.nearestWhole = ⌊(exact.mantissa * 2 ^ exact.exponent + 1 / 2 : ℚ)⌋₊ := by
  obtain ⟨mantissa, exponent, atPowerOfTwo⟩ := exact
  obtain ⟨places, rfl⟩ : ∃ places : Nat, exponent = -places :=
    ⟨(-exponent).toNat, by change exponent < 0 at parts; omega⟩
  have same : (mantissa : ℚ) * 2 ^ (-places : Int) + 1 / 2 =
      (2 * mantissa + 2 ^ places : Nat) / (2 * 2 ^ places : Nat) := by
    rw [zpow_neg, zpow_natCast]
    push_cast
    field_simp
  change (2 * mantissa + 2 ^ (- -(places : Int)).toNat) / (2 * 2 ^ (- -(places : Int)).toNat) = _
  rw [same, Nat.floor_div_eq_div, neg_neg, Int.toNat_natCast]

/-- A double of a whole unit or more has a full mantissa. -/
theorem full_of_exponent (whole : 0 ≤ (magnitude x).exponent) :
    2 ^ 52 ≤ (magnitude x).mantissa := by
  revert whole
  unfold magnitude
  dsimp only
  split_ifs with least
  · intro whole
    exact absurd whole (not_le.mpr (Int.negSucc_lt_zero 1073))
  · exact fun _ => Nat.le_add_right _ _

/-- A small double is rounded to the whole number nearest to it. Only zero keeps a sign. -/
theorem round_of_number? (known : number? x = some p) (positive : 0 ≤ p) (small : p < 2 ^ 52) :
    Decimal.round x = Float.ofNat ⌊p + 1 / 2⌋₊ ∨ p = 0 ∧ Decimal.round x = -0.0 := by
  unfold number? at known
  unfold Decimal.round
  split_ifs at known with infinite
  obtain rfl := Option.some.inj known
  have size : (0 : ℚ) ≤ (magnitude x).mantissa * 2 ^ (magnitude x).exponent := by positivity
  rw [if_neg infinite]
  dsimp only
  by_cases whole : 0 ≤ (magnitude x).exponent
  · have large : (2 : ℚ) ^ 52 ≤ (magnitude x).mantissa * 2 ^ (magnitude x).exponent := by
      have full : (2 : ℚ) ^ 52 ≤ (magnitude x).mantissa := by exact_mod_cast full_of_exponent whole
      exact full.trans (le_mul_of_one_le_right (by positivity) (one_le_zpow₀ (by norm_num) whole))
    cases sign : signOf x with
    | positive =>
        rw [sign] at small
        exact absurd small (not_lt.mpr large)
    | negative =>
        rw [sign] at positive
        have negative : 0 ≤ -((magnitude x).mantissa * 2 ^ (magnitude x).exponent : ℚ) := positive
        linarith
  · rw [if_neg whole, nearestWhole_eq _ (not_le.mp whole)]
    by_cases minus : isNegative x = true
    · have sign : signOf x = .negative := if_pos minus
      rw [sign] at positive ⊢
      have negative : 0 ≤ -((magnitude x).mantissa * 2 ^ (magnitude x).exponent : ℚ) := positive
      have zero : ((magnitude x).mantissa * 2 ^ (magnitude x).exponent : ℚ) = 0 := by linarith
      refine .inr ⟨?_, ?_⟩
      · rw [zero]
        exact signed_zero .negative
      · have none : ⌊(0 + 1 / 2 : ℚ)⌋₊ = 0 := Nat.floor_eq_zero.mpr (by norm_num)
        rw [if_pos minus, zero, none]
        rfl
    · have sign : signOf x = .positive := if_neg minus
      rw [if_neg minus, sign]
      exact .inl rfl

end Rounding

section Hundredths

variable {weight : Float}

/-- The bounds of a weight as exact numbers. -/
theorem weight_between_iff :
    0.0 ≤ weight ∧ weight ≤ 1.0 ↔ ∃ size, number? weight = some size ∧ 0 ≤ size ∧ size ≤ 1 :=
  between_iff number?_zero number?_one

/-- A percent that forms show is typed back, and the weight that is stored of it has it again. -/
theorem hundredths_checked : ∀ hundredths < 101,
    readPercent? (Decimal.plain (Float.ofNat hundredths)) = some (Float.ofNat hundredths) ∧
      weightOfPercent (Float.ofNat hundredths) = Float.ofNat hundredths / 100.0 ∧
      percentOfWeight (Float.ofNat hundredths / 100.0) = Float.ofNat hundredths := by
  decide +kernel

/-- The negative zero is typed back and keeps its sign. -/
theorem negativeZero_checked :
    readPercent? (Decimal.plain (-0.0)) = some (-0.0) ∧
      weightOfPercent (-0.0) = -0.0 ∧ percentOfWeight (-0.0) = -0.0 := by
  decide +kernel

/-- The negative zero is a double of the number zero. -/
theorem isRounded_negativeZero : IsRounded 0 (-0.0) := by
  have bits : (-0.0 : Float) = .ofModel (Float.Model.pack (.zero .negative)) := by decide +kernel
  rw [bits]
  exact isRounded_zero .negative

/-- The shown percent of a weight is the whole number nearest to the percent, up to a hundred. -/
theorem percentOfWeight_cases (between : 0.0 ≤ weight ∧ weight ≤ 1.0) :
    ∃ percent, number? (weight * 100.0) = some percent ∧ ⌊percent + 1 / 2⌋₊ < 101 ∧
      (percentOfWeight weight = Float.ofNat ⌊percent + 1 / 2⌋₊ ∨
        percent = 0 ∧ percentOfWeight weight = -0.0) := by
  obtain ⟨size, known, positive, small⟩ := weight_between_iff.mp between
  have product := isRounded_mul known number?_hundred positive (by norm_num)
  obtain ⟨percent, found, above, below⟩ :=
    product.between number?_zero (by positivity) number?_hundred (by linarith)
  refine ⟨percent, found, ?_, round_of_number? found above (below.trans_lt (by norm_num))⟩
  rw [Nat.floor_lt (by positivity)]
  push_cast
  linarith

/-- The shown percent is typed back. -/
theorem readPercent?_shown (between : 0.0 ≤ weight ∧ weight ≤ 1.0) :
    readPercent? (Decimal.plain (percentOfWeight weight)) = some (percentOfWeight weight) := by
  obtain ⟨percent, -, small, shown | ⟨-, shown⟩⟩ := percentOfWeight_cases between
  · rw [shown]
    exact (hundredths_checked _ small).1
  · rw [shown]
    exact negativeZero_checked.1

/-- The stored weight is the double of a whole number of hundredths, nearest to the percent. -/
theorem isRounded_restoredWeight (between : 0.0 ≤ weight ∧ weight ≤ 1.0) :
    ∃ percent, number? (weight * 100.0) = some percent ∧
      IsRounded (⌊percent + 1 / 2⌋₊ / 100) (restoredWeight weight) := by
  obtain ⟨percent, found, small, shown | ⟨rfl, shown⟩⟩ := percentOfWeight_cases between
  · refine ⟨percent, found, ?_⟩
    rw [restoredWeight, shown, (hundredths_checked _ small).2.1]
    exact isRounded_div (number?_ofNat (small.trans (by decide))) number?_hundred
      (Nat.cast_nonneg _) (by norm_num)
  · refine ⟨0, found, ?_⟩
    have none : ⌊(0 + 1 / 2 : ℚ)⌋₊ = 0 := Nat.floor_eq_zero.mpr (by norm_num)
    rw [restoredWeight, shown, negativeZero_checked.2.1, none, Nat.cast_zero, zero_div]
    exact isRounded_negativeZero

/-- The stored weight is a whole number of hundredths. -/
theorem isWholePercent_restoredWeight (between : 0.0 ≤ weight ∧ weight ≤ 1.0) :
    IsWholePercent (restoredWeight weight) := by
  obtain ⟨percent, -, small, shown | ⟨-, shown⟩⟩ := percentOfWeight_cases between
  · rw [restoredWeight, shown, (hundredths_checked _ small).2.1]
    exact .inr ⟨_, Nat.lt_succ_iff.mp small, rfl⟩
  · rw [restoredWeight, shown, negativeZero_checked.2.1]
    exact .inl rfl

/-- Whole numbers of hundredths are stored as they are. -/
theorem restoredWeight_of_isWholePercent (whole : IsWholePercent weight) :
    restoredWeight weight = weight := by
  unfold restoredWeight
  rcases whole with rfl | ⟨hundredths, small, rfl⟩
  · rw [negativeZero_checked.2.2, negativeZero_checked.2.1]
  · obtain ⟨-, stored, shown⟩ := hundredths_checked hundredths (Nat.lt_succ_of_le small)
    rw [shown, stored]

end Hundredths

end MeshConsole
