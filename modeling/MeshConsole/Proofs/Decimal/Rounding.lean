/-
This file shows that the product and the quotient of two doubles are the doubles nearest to the
exact product and quotient.
-/

import MeshConsole.Proofs.Decimal.Double

namespace MeshConsole.Decimal

open Float.Model Float.Model.UnpackedFloat

/-- What an accuracy says about the way from a mantissa up to an exact number, in units of its
last place. -/
def IsGap : Accuracy → ℚ → Prop
  | .exact, gap => gap = 0
  | .inexact half, gap => 0 < gap ∧ gap < 1 ∧ compare gap (1 / 2) = half

/-- The way is less than one unit. -/
theorem IsGap.bounds {accuracy : Accuracy} {gap : ℚ} (isGap : IsGap accuracy gap) :
    0 ≤ gap ∧ gap < 1 := by
  match accuracy, isGap with
  | .exact, same =>
      have same : gap = 0 := same
      exact ⟨same.ge, same.trans_lt one_pos⟩
  | .inexact _, ⟨low, high, _⟩ => exact ⟨low.le, high⟩

/-- A mantissa with two more bits describes an exact number. -/
def Describes (extended : ExtendedMantissa) (q : ℚ) : Prop :=
  IsGap extended.accuracy (q - extended.mantissa)

section Bits

variable {extended : ExtendedMantissa} {q : ℚ}

/-- A mantissa and an accuracy describe the exact number that they are about. -/
theorem describes_ofMantissaAndAccuracy {accuracy : Accuracy} {mantissa : Nat}
    (gap : IsGap accuracy (q - mantissa)) :
    Describes (.ofMantissaAndAccuracy mantissa accuracy) q := by
  match accuracy with
  | .exact | .inexact .lt | .inexact .eq | .inexact .gt => exact gap

/-- A shift by one place halves the exact number. -/
theorem Describes.shiftRightOne (describes : Describes extended q) :
    Describes extended.shiftRightOne (q / 2) := by
  obtain ⟨mantissa, roundBit, stickyBit⟩ := extended
  obtain ⟨half, last | last⟩ : ∃ half, mantissa = 2 * half ∨ mantissa = 2 * half + 1 :=
    ⟨mantissa / 2, by omega⟩
  all_goals
    have quotient : mantissa / 2 = half := by omega
    have remainder : (mantissa % 2 != 0) = !decide (mantissa % 2 = 0) := rfl
    simp only [Describes, ExtendedMantissa.shiftRightOne, remainder, quotient]
    subst last
    cases roundBit <;> cases stickyBit <;>
      simp [Describes, IsGap, ExtendedMantissa.accuracy, compare_lt_iff_lt,
        compare_gt_iff_gt] at describes ⊢
  all_goals (try casesm* _ ∧ _); and_intros <;> linarith

/-- A shift divides the exact number by a power of two. -/
theorem Describes.shiftRight (describes : Describes extended q) (places : Nat) :
    Describes (extended >>> places) (q / 2 ^ places) := by
  change Describes (places.repeat ExtendedMantissa.shiftRightOne extended) _
  induction places with
  | zero => simpa [Nat.repeat] using describes
  | succ places ih =>
      rw [Nat.repeat, pow_succ, ← div_div]
      exact ih.shiftRightOne

/-- The whole number nearest to a number, and the even one of two that are as near. -/
structure IsNearestWhole (q : ℚ) (whole : Nat) : Prop where
  closest : ∀ other : Int, |(whole : ℚ) - q| ≤ |(other : ℚ) - q|
  even : ∀ other : Int, |(whole : ℚ) - q| = |(other : ℚ) - q| → other = whole ∨ whole % 2 = 0

/-- A whole number is nearest to all numbers up to a half away, and when it is even also to those
a half away. -/
theorem isNearestWhole_of_half {whole : Nat} (near : |(whole : ℚ) - q| ≤ 1 / 2)
    (tie : |(whole : ℚ) - q| = 1 / 2 → whole % 2 = 0) : IsNearestWhole q whole := by
  have far {other : Int} (differs : other ≠ whole) : 1 / 2 ≤ |(other : ℚ) - q| := by
    have apart : (1 : ℚ) ≤ |(other : ℚ) - whole| := by
      exact_mod_cast Int.one_le_abs (sub_ne_zero.mpr differs)
    have detour := abs_sub_le (other : ℚ) q whole
    rw [abs_sub_comm q] at detour
    linarith
  constructor
  · intro other
    rcases eq_or_ne other whole with rfl | differs
    · exact le_rfl
    · exact near.trans (far differs)
  · intro other same
    refine or_iff_not_imp_left.mpr fun differs => tie (near.antisymm ?_)
    rw [same]
    exact far differs

/-- A whole number is nearest to all numbers less than a half away. -/
theorem isNearestWhole_of_near {whole : Nat} (near : |(whole : ℚ) - q| < 1 / 2) :
    IsNearestWhole q whole :=
  isNearestWhole_of_half near.le fun tie => absurd tie near.ne

/-- The rounded mantissa is nearest to the exact number. -/
theorem Describes.isNearestWhole (describes : Describes extended q) :
    IsNearestWhole q extended.roundedMantissa := by
  unfold Describes at describes
  unfold ExtendedMantissa.roundedMantissa
  generalize extended.accuracy = accuracy at describes ⊢
  generalize extended.mantissa = mantissa at describes ⊢
  match accuracy, describes with
  | .exact, same =>
      have same : q - mantissa = 0 := same
      refine isNearestWhole_of_near ?_
      change |(mantissa : ℚ) - q| < 1 / 2
      rw [abs_sub_comm, same]
      norm_num
  | .inexact .lt, ⟨low, _, half⟩ =>
      have half := compare_lt_iff_lt.mp half
      refine isNearestWhole_of_near ?_
      change |(mantissa : ℚ) - q| < 1 / 2
      rwa [abs_sub_comm, abs_of_pos low]
  | .inexact .eq, ⟨_, _, half⟩ =>
      have half := compare_eq_iff_eq.mp half
      have even : (mantissa + mantissa % 2) % 2 = 0 := by omega
      refine isNearestWhole_of_half ?_ fun _ => even
      change |((mantissa + mantissa % 2 : Nat) : ℚ) - q| ≤ 1 / 2
      rcases Nat.mod_two_eq_zero_or_one mantissa with last | last <;> rw [last, abs_le] <;>
        push_cast <;> constructor <;> linarith
  | .inexact .gt, ⟨_, high, half⟩ =>
      have half := compare_gt_iff_gt.mp half
      refine isNearestWhole_of_near ?_
      change |((mantissa + 1 : Nat) : ℚ) - q| < 1 / 2
      push_cast
      rw [abs_of_pos (by linarith)]
      linarith

end Bits

/-- A canonical mantissa and exponent are nearest to a number, and even when others are as near. -/
structure IsNearest (q : ℚ) (mantissa : Nat) (exponent : Int) : Prop where
  canonical : Canonical mantissa exponent
  closest : ∀ n f, Canonical n f →
    |(mantissa : ℚ) * 2 ^ exponent - q| ≤ |(n : ℚ) * 2 ^ f - q|
  even : ∀ n f, Canonical n f →
    |(mantissa : ℚ) * 2 ^ exponent - q| = |(n : ℚ) * 2 ^ f - q| →
    (n : ℚ) * 2 ^ f = mantissa * 2 ^ exponent ∨ mantissa % 2 = 0

section Grid

variable {q : ℚ} {whole : Nat} {exponent : Int}

/-- Distances in units of a power of two. -/
theorem abs_mul_zpow_sub (a q : ℚ) (exponent : Int) :
    |a * 2 ^ exponent - q| = |a - q / 2 ^ exponent| * 2 ^ exponent := by
  have unit : (0 : ℚ) < 2 ^ exponent := by positivity
  rw [← abs_of_pos unit, ← abs_mul, abs_of_pos unit, sub_mul, div_mul_cancel₀ _ unit.ne']

/-- Among the multiples of a unit, the nearest one to a number that has all bits in this unit is
also the nearest canonical number. -/
theorem IsNearestWhole.closest_canonical (nearest : IsNearestWhole (q / 2 ^ exponent) whole)
    (full : exponent = -1074 ∨ 2 ^ 52 ≤ q / 2 ^ exponent) {n : Nat} {f : Int}
    (other : Canonical n f) :
    |(whole : ℚ) * 2 ^ exponent - q| ≤ |(n : ℚ) * 2 ^ f - q| ∧
      (|(whole : ℚ) * 2 ^ exponent - q| = |(n : ℚ) * 2 ^ f - q| →
        (n : ℚ) * 2 ^ f = whole * 2 ^ exponent ∨ whole % 2 = 0) := by
  have unit : (0 : ℚ) < 2 ^ exponent := by positivity
  by_cases coarse : exponent ≤ f
  · -- The other number is a multiple of the unit.
    obtain ⟨places, rfl⟩ : ∃ places : Nat, f = places + exponent :=
      ⟨(f - exponent).toNat, by omega⟩
    have multiple : (n : ℚ) * 2 ^ (places + exponent) =
        ((n * 2 ^ places : Nat) : Int) * 2 ^ exponent := by
      rw [zpow_add₀ (by norm_num), zpow_natCast]
      push_cast
      ring
    rw [multiple, abs_mul_zpow_sub, abs_mul_zpow_sub, mul_le_mul_iff_left₀ unit,
      mul_left_inj' unit.ne', mul_left_inj' unit.ne']
    refine ⟨nearest.closest _, fun same => ?_⟩
    exact (nearest.even _ same).imp_left fun same => by exact_mod_cast same
  · -- The other number is below all that have all bits in this unit.
    have notLeast : exponent ≠ -1074 := by have := other.low; omega
    have full : 2 ^ 52 ≤ q / 2 ^ exponent := full.resolve_left notLeast
    have first : Canonical (2 ^ 52) exponent :=
      ⟨by decide, by have := other.low; omega, .inr le_rfl⟩
    have below : (n : ℚ) * 2 ^ f < ((2 ^ 52 : Nat) : ℚ) * 2 ^ exponent :=
      other.lt_of_exponent_lt first (by omega)
    have above : ((2 ^ 52 : Nat) : ℚ) * 2 ^ exponent ≤ q := by
      rw [← le_div_iff₀ unit]
      exact_mod_cast full
    have closer : |(whole : ℚ) * 2 ^ exponent - q| < |(n : ℚ) * 2 ^ f - q| := by
      calc |(whole : ℚ) * 2 ^ exponent - q|
        _ ≤ |((2 ^ 52 : Nat) : ℚ) * 2 ^ exponent - q| := by
            rw [abs_mul_zpow_sub, abs_mul_zpow_sub]
            exact mul_le_mul_of_nonneg_right (nearest.closest (2 ^ 52 : Nat)) unit.le
        _ = q - ((2 ^ 52 : Nat) : ℚ) * 2 ^ exponent := by
            rw [abs_sub_comm, abs_of_nonneg (sub_nonneg.mpr above)]
        _ < q - n * 2 ^ f := by linarith
        _ = |(n : ℚ) * 2 ^ f - q| := by rw [abs_sub_comm, abs_of_pos (by linarith)]
    exact ⟨closer.le, fun same => absurd same closer.ne⟩

end Grid

section Round

variable {q : ℚ} {s : Sign} {mantissa : Nat} {exponent : Int} {accuracy : Accuracy}

/-- The exponent to which a mantissa is shifted. -/
def target (mantissa : Nat) (exponent : Int) : Int :=
  max (mantissa.log2 + 1 + exponent - 53) (-1074)

/-- A mantissa is shifted to its target. -/
theorem shiftToTargetExponent_eq (mantissa : Nat) (exponent : Int) (accuracy : Accuracy) :
    shiftToTargetExponent .binary64 mantissa exponent accuracy =
      (ExtendedMantissa.ofMantissaAndAccuracy mantissa accuracy >>>
          (target mantissa exponent - exponent).toNat,
        exponent + (target mantissa exponent - exponent).toNat) := rfl

/-- A shifted mantissa describes the exact number in units of the target. -/
theorem describes_shift (gap : IsGap accuracy (q / 2 ^ exponent - mantissa))
    (fits : exponent ≤ target mantissa exponent) :
    Describes (ExtendedMantissa.ofMantissaAndAccuracy mantissa accuracy >>>
      (target mantissa exponent - exponent).toNat) (q / 2 ^ target mantissa exponent) := by
  have shifted := (describes_ofMantissaAndAccuracy gap).shiftRight
    (target mantissa exponent - exponent).toNat
  rwa [div_div, ← zpow_natCast, ← zpow_add₀ (by norm_num), Int.toNat_of_nonneg (by omega),
    add_sub_cancel] at shifted

/-- In units of the target, the exact number has at most 53 bits before the point. -/
theorem div_target_lt (gap : IsGap accuracy (q / 2 ^ exponent - mantissa)) :
    q / 2 ^ target mantissa exponent < 2 ^ 53 := by
  have unit : (0 : ℚ) < 2 ^ exponent := by positivity
  have bits : (mantissa : ℚ) + 1 ≤ 2 ^ (mantissa.log2 + 1) := by
    exact_mod_cast Nat.lt_log2_self (n := mantissa)
  have below : q / 2 ^ exponent < 2 ^ (mantissa.log2 + 1) := by
    linarith [gap.bounds.2]
  rw [div_lt_iff₀ (by positivity)]
  calc q < 2 ^ (mantissa.log2 + 1) * 2 ^ exponent := (div_lt_iff₀ unit).mp below
    _ = 2 ^ ((mantissa.log2 + 1 : Nat) + exponent) := by
        rw [zpow_add₀ (by norm_num), zpow_natCast]
    _ ≤ 2 ^ (53 + target mantissa exponent) := by
        refine zpow_le_zpow_right₀ (by norm_num) ?_
        unfold target
        omega
    _ = 2 ^ 53 * 2 ^ target mantissa exponent := by
        rw [zpow_add₀ (by norm_num)]
        norm_num

/-- In units of the target, the exact number has no fewer than 53 bits before the point, unless
the target is the least exponent. -/
theorem le_div_target (gap : IsGap accuracy (q / 2 ^ exponent - mantissa))
    (fits : exponent ≤ target mantissa exponent) :
    target mantissa exponent = -1074 ∨ 2 ^ 52 ≤ q / 2 ^ target mantissa exponent := by
  refine or_iff_not_imp_left.mpr fun notLeast => ?_
  have unit : (0 : ℚ) < 2 ^ exponent := by positivity
  have targetIs : target mantissa exponent = mantissa.log2 + 1 + exponent - 53 := by
    unfold target at notLeast ⊢
    omega
  have some : mantissa ≠ 0 := by
    rintro rfl
    rw [Nat.log2_zero] at targetIs
    omega
  have bits : (2 : ℚ) ^ mantissa.log2 ≤ mantissa := by
    exact_mod_cast Nat.log2_self_le some
  have above : (2 : ℚ) ^ mantissa.log2 ≤ q / 2 ^ exponent := by
    linarith [gap.bounds.1]
  rw [le_div_iff₀ (by positivity)]
  calc (2 : ℚ) ^ 52 * 2 ^ target mantissa exponent
    _ = 2 ^ (52 + target mantissa exponent) := by
        rw [zpow_add₀ (by norm_num)]
        norm_num
    _ = 2 ^ ((mantissa.log2 : Int) + exponent) := by
        rw [targetIs]
        congr 1
        omega
    _ = 2 ^ mantissa.log2 * 2 ^ exponent := by
        rw [zpow_add₀ (by norm_num), zpow_natCast]
    _ ≤ q := (le_div_iff₀ unit).mp above

/-- A rounded mantissa is shifted once more when it has one bit too many. -/
theorem shift_rounded {whole : Nat} (low : -1074 ≤ exponent) (bound : whole ≤ 2 ^ 53)
    (full : exponent = -1074 ∨ 2 ^ 52 ≤ whole) :
    ∃ n f, shiftToTargetExponent .binary64 whole exponent .exact =
        (ExtendedMantissa.ofMantissaAndAccuracy n .exact, f) ∧
      Canonical n f ∧ (n : ℚ) * 2 ^ f = whole * 2 ^ exponent ∧ (n = whole ∨ n % 2 = 0) := by
  rw [shiftToTargetExponent_eq]
  rcases bound.lt_or_eq with small | rfl
  · have bits : whole.log2 ≤ 52 := by
      rcases Nat.eq_zero_or_pos whole with rfl | some
      · decide
      · exact Nat.lt_succ_iff.mp ((Nat.log2_lt some.ne').mpr small)
    have still : (target whole exponent - exponent).toNat = 0 := by
      unfold target
      omega
    rw [still]
    exact ⟨whole, exponent, by simp; rfl, ⟨small, low, full⟩, rfl, .inl rfl⟩
  · have next : (target (2 ^ 53) exponent - exponent).toNat = 1 := by
      have bits : (2 ^ 53).log2 = 53 := by decide
      unfold target
      omega
    rw [next]
    refine ⟨2 ^ 52, exponent + 1, rfl, ⟨by decide, by omega, .inr le_rfl⟩, ?_, .inr (by decide)⟩
    rw [zpow_add_one₀ (by norm_num)]
    push_cast
    ring

/-- Rounding takes a mantissa to its target, rounds it and shifts it once more. -/
theorem roundWithAccuracy_eq (s : Sign) (mantissa : Nat) (exponent : Int) (accuracy : Accuracy) :
    roundWithAccuracy .binary64 s mantissa exponent accuracy =
      let first := shiftToTargetExponent .binary64 mantissa exponent accuracy
      let second := shiftToTargetExponent .binary64 first.1.roundedMantissa first.2 .exact
      ofParts s second.1.mantissa second.2 := by
  simp only [roundWithAccuracy, ofParts, Nat.pos_iff_ne_zero, ne_eq, dite_not]

/-- Rounding leads to the nearest canonical number. -/
theorem roundWithAccuracy_isNearest (s : Sign)
    (gap : IsGap accuracy (q / 2 ^ exponent - mantissa))
    (fits : exponent ≤ target mantissa exponent) :
    ∃ n f, roundWithAccuracy .binary64 s mantissa exponent accuracy = ofParts s n f ∧
      IsNearest q n f := by
  have nearest := (describes_shift gap fits).isNearestWhole
  have below := div_target_lt gap
  have full := le_div_target gap fits
  have place : exponent + (target mantissa exponent - exponent).toNat =
    target mantissa exponent := by omega
  have low : -1074 ≤ target mantissa exponent := le_max_right ..
  simp only [roundWithAccuracy_eq, shiftToTargetExponent_eq mantissa, place]
  generalize ExtendedMantissa.roundedMantissa _ = whole at nearest ⊢
  generalize target mantissa exponent = t at nearest below full low ⊢
  have bound : whole ≤ 2 ^ 53 := by
    have closest := nearest.closest (2 ^ 53 : Nat)
    by_contra more
    have more : ((2 ^ 53 : Nat) : ℚ) < whole := by exact_mod_cast not_le.mp more
    push_cast at closest more
    rw [abs_of_pos (by linarith), abs_of_pos (by linarith)] at closest
    linarith
  have wholeFull : t = -1074 ∨ 2 ^ 52 ≤ whole := by
    refine full.imp_right fun full => ?_
    have closest := nearest.closest (2 ^ 52 : Nat)
    by_contra less
    have less : (whole : ℚ) < (2 ^ 52 : Nat) := by exact_mod_cast not_le.mp less
    push_cast at closest less
    rw [abs_of_neg (by linarith), abs_of_nonpos (by linarith)] at closest
    linarith
  obtain ⟨n, f, shifted, canonical, same, even⟩ := shift_rounded low bound wholeFull
  refine ⟨n, f, by rw [shifted]; rfl, canonical, fun other g canonicalOther => ?_,
    fun other g canonicalOther => ?_⟩
  · rw [same]
    exact (nearest.closest_canonical full canonicalOther).1
  · rw [same]
    intro tie
    refine ((nearest.closest_canonical full canonicalOther).2 tie).imp_right fun wholeEven => ?_
    rcases even with rfl | even
    · exact wholeEven
    · exact even

end Round

end MeshConsole.Decimal
