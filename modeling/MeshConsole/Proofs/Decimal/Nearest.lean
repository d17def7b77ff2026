/-
This file shows that products and quotients of doubles, and decimals that are read, are the doubles
nearest to the exact numbers.
-/

import MeshConsole.Decimal.Reader
import MeshConsole.Proofs.Decimal.Rounding

namespace MeshConsole.Decimal

open Float.Model Float.Model.UnpackedFloat

/-- The unit of the largest doubles. -/
def topUnit : ℚ := 2 ^ (971 : Int)

/-- From here on numbers round to infinity: half a unit above the largest double. -/
def overflow : ℚ := (2 ^ 53 - 1 / 2) * topUnit

/-- A double stands for a number that is not negative as well as any double can. -/
structure IsRounded (q : ℚ) (x : Float) : Prop where
  /-- No double is nearer to the number, and if another one is as near the mantissa is even. -/
  finite : q < overflow → ∃ r, number? x = some r ∧ ∀ y s, number? y = some s →
    |r - q| ≤ |s - q| ∧ (|r - q| = |s - q| → s = r ∨ (magnitude x).mantissa % 2 = 0)
  infinite : overflow ≤ q → x = 1.0 / 0.0

section Doubles

variable {q : ℚ} {s : Sign} {n : Nat} {f : Int}

/-- The largest double is canonical. -/
theorem canonical_largest : Canonical (2 ^ 53 - 1) 971 :=
  ⟨by decide, by decide, .inr (by decide)⟩

/-- The canonical number next to the largest double. -/
theorem canonical_afterLargest : Canonical (2 ^ 52) 972 :=
  ⟨by decide, by decide, .inr le_rfl⟩

/-- The unit is positive. -/
theorem topUnit_pos : 0 < topUnit := zpow_pos (by norm_num) 971

/-- The largest double in its units. -/
theorem largest_eq : ((2 ^ 53 - 1 : Nat) : ℚ) * 2 ^ (971 : Int) = (2 ^ 53 - 1) * topUnit := by
  rw [← topUnit, Nat.cast_sub (by decide)]
  push_cast
  rfl

/-- The number next to the largest double in its units. -/
theorem afterLargest_eq : ((2 ^ 52 : Nat) : ℚ) * 2 ^ (972 : Int) = 2 ^ 53 * topUnit := by
  have next : (2 : ℚ) ^ (972 : Int) = topUnit * 2 := zpow_add_one₀ (by norm_num) 971
  rw [next]
  push_cast
  ring

/-- A number whose nearest canonical one has too large an exponent overflows. -/
theorem IsNearest.overflow_le (nearest : IsNearest q n f) (huge : 971 < f) : overflow ≤ q := by
  have unit := topUnit_pos
  have large : 2 ^ 53 * topUnit ≤ (n : ℚ) * 2 ^ f := by
    have full := nearest.canonical.full.resolve_left (by omega)
    rw [← afterLargest_eq, canonical_afterLargest.le_iff nearest.canonical]
    omega
  have closest := nearest.closest _ _ canonical_largest
  by_contra less
  unfold overflow at less
  rw [largest_eq, abs_of_pos (by linarith)] at closest
  rcases le_abs.mp closest with closest | closest <;> linarith

/-- No double is larger than the largest one. -/
theorem Canonical.le_largest (canonical : Canonical n f) (high : f ≤ 971) :
    (n : ℚ) * 2 ^ f ≤ (2 ^ 53 - 1) * topUnit := by
  have bound := canonical.small
  rw [← largest_eq, canonical.le_iff canonical_largest]
  omega

/-- A number whose nearest canonical one is a double does not overflow. -/
theorem IsNearest.lt_overflow (nearest : IsNearest q n f) (high : f ≤ 971) : q < overflow := by
  have unit := topUnit_pos
  have small := nearest.canonical.le_largest high
  have closest := nearest.closest _ _ canonical_afterLargest
  have even := nearest.even _ _ canonical_afterLargest
  rw [afterLargest_eq] at closest even
  by_contra more
  unfold overflow at more
  have below : |(n : ℚ) * 2 ^ f - q| = q - n * 2 ^ f := by
    rw [abs_sub_comm, abs_of_pos (by linarith)]
  rw [below] at closest even
  -- The number is half-way, so that the even number is chosen, which is not the largest double.
  have halfWay : q = (2 ^ 53 - 1 / 2) * topUnit ∧ (n : ℚ) * 2 ^ f = (2 ^ 53 - 1) * topUnit := by
    rcases le_abs.mp closest with closest | closest <;> constructor <;> linarith
  have odd : n = 2 ^ 53 - 1 := by
    have up := (nearest.canonical.le_iff canonical_largest).mp (by rw [largest_eq]; exact small)
    have down := (canonical_largest.le_iff nearest.canonical).mp
      (by rw [largest_eq]; exact halfWay.2.ge)
    omega
  rw [halfWay.1, halfWay.2, abs_of_pos (by linarith)] at even
  rcases even (by ring) with same | even
  · linarith
  · omega

/-- The nearest canonical number is also nearer than every number with a sign. -/
theorem IsNearest.closest_signed (nearest : IsNearest q n f) (positive : 0 ≤ q) {m : Nat} {e : Int}
    (other : Canonical m e) (s : Sign) :
    |(n : ℚ) * 2 ^ f - q| ≤ |signed s (m * 2 ^ e) - q| ∧
      (|(n : ℚ) * 2 ^ f - q| = |signed s (m * 2 ^ e) - q| →
        signed s (m * 2 ^ e) = n * 2 ^ f ∨ n % 2 = 0) := by
  have size : (0 : ℚ) ≤ m * 2 ^ e := by positivity
  have zero := nearest.closest 0 (-1074) ⟨by decide, le_rfl, .inl rfl⟩
  rw [Nat.cast_zero, zero_mul, zero_sub, abs_neg, abs_of_nonneg positive] at zero
  cases s with
  | positive => exact ⟨nearest.closest m e other, nearest.even m e other⟩
  | negative =>
      have away : |signed .negative ((m : ℚ) * 2 ^ e) - q| = m * 2 ^ e + q := by
        rw [signed, ← neg_add', abs_neg, abs_of_nonneg (by linarith)]
      rw [away]
      refine ⟨by linarith, fun same => ?_⟩
      have none : (m : ℚ) * 2 ^ e = 0 := by linarith
      have even := nearest.even m e other (by
        rw [none, zero_sub, abs_neg, abs_of_nonneg positive]
        linarith)
      simpa [signed, none] using even

/-- A double that is packed from the nearest canonical number is rounded. -/
theorem IsNearest.isRounded (nearest : IsNearest q n f) (positive : 0 ≤ q)
    (sign : 0 < n → s = .positive) : IsRounded q (.ofModel (pack (ofParts s n f))) := by
  constructor
  · intro less
    have high : f ≤ 971 := by
      by_contra huge
      exact absurd (nearest.overflow_le (not_le.mp huge)) (not_le.mpr less)
    obtain ⟨known, mantissa⟩ := number?_of_unpack nearest.canonical
      (x := .ofModel (pack (ofParts s n f))) (unpack_pack_ofParts nearest.canonical high)
    have size : signed s ((n : ℚ) * 2 ^ f) = n * 2 ^ f := by
      rcases Nat.eq_zero_or_pos n with rfl | some
      · cases s <;> simp [signed]
      · rw [sign some]
        rfl
    refine ⟨n * 2 ^ f, known.trans (congrArg some size), fun y t other => ?_⟩
    obtain ⟨u, m, e, -, canonical, -, rfl⟩ := exists_unpack_of_number? other
    rw [mantissa]
    exact nearest.closest_signed positive canonical u
  · intro more
    have huge : 971 < f := by
      by_contra high
      exact absurd (nearest.lt_overflow (not_lt.mp high)) (not_lt.mpr more)
    have some : 0 < n := by
      have full := nearest.canonical.full.resolve_left (by omega)
      omega
    rw [sign some, ofParts, dif_pos some, pack_finite_of_huge huge]
    rfl

end Doubles

section Products

variable {m n : Nat} {e f : Int} {mPositive : 0 < m} {nPositive : 0 < n}

/-- The exact number has no gap to itself. -/
theorem isGap_exact (m : Nat) (e : Int) : IsGap .exact ((m : ℚ) * 2 ^ e / 2 ^ e - m) := by
  rw [mul_div_cancel_right₀ _ (by positivity)]
  exact sub_self _

/-- A product whose mantissa has enough bits is rounded. -/
theorem isRounded_mul_finite (fits : e + f ≤ target (m * n) (e + f)) :
    IsRounded (m * 2 ^ e * (n * 2 ^ f))
      (.ofModel (pack (UnpackedFloat.mul .binary64 (.finite .positive m e mPositive)
        (.finite .positive n f nPositive)))) := by
  have gap := isGap_exact (m * n) (e + f)
  have product : ((m * n : Nat) : ℚ) * 2 ^ (e + f) = m * 2 ^ e * (n * 2 ^ f) := by
    rw [zpow_add₀ (by norm_num)]
    push_cast
    ring
  rw [product] at gap
  obtain ⟨p, g, rounded, nearest⟩ := roundWithAccuracy_isNearest (.positive * .positive) gap fits
  simp only [UnpackedFloat.mul, rounded]
  exact nearest.isRounded (by positivity) fun _ => rfl

/-- The product of two canonical mantissas has enough bits. -/
theorem Canonical.fits_mul (first : Canonical m e) (second : Canonical n f) (mPositive : 0 < m)
    (nPositive : 0 < n) : e + f ≤ target (m * n) (e + f) := by
  have firstLow := first.low
  have secondLow := second.low
  unfold target
  by_cases least : e = -1074 ∧ f = -1074
  · omega
  · have many : 2 ^ 52 ≤ m * n := by
      rcases first.full with rfl | full
      · have full := second.full.resolve_left (by omega)
        exact full.trans (Nat.le_mul_of_pos_left n mPositive)
      · exact full.trans (Nat.le_mul_of_pos_right m nPositive)
    have bits : 52 ≤ (m * n).log2 := (Nat.le_log2 (Nat.mul_pos mPositive nPositive).ne').mpr many
    omega

/-- The remainder of a division tells how far the quotient is from the exact one. -/
theorem isGap_accuracyOfFraction (m : Nat) (nPositive : 0 < n) :
    IsGap (accuracyOfFraction (m % n) n) ((m : ℚ) / n - (m / n : Nat)) := by
  have denominator : (0 : ℚ) < n := by exact_mod_cast nPositive
  have gap : (m : ℚ) / n - (m / n : Nat) = (m % n : Nat) / n := by
    have split : (m : ℚ) = n * (m / n : Nat) + (m % n : Nat) := by
      exact_mod_cast (Nat.div_add_mod m n).symm
    rw [eq_div_iff denominator.ne', sub_mul, div_mul_cancel₀ _ denominator.ne']
    linarith
  have small : m % n < n := Nat.mod_lt m nPositive
  rw [gap, accuracyOfFraction]
  generalize m % n = rest at small
  split_ifs with none
  · rw [none, Nat.cast_zero, zero_div]
    rfl
  · have some : (0 : ℚ) < rest := by exact_mod_cast Nat.pos_of_ne_zero none
    refine ⟨by positivity, (div_lt_one denominator).mpr (by exact_mod_cast small), ?_⟩
    have double : (rest : ℚ) / n = ((2 * rest : Nat) : ℚ) / n * (1 / 2) := by
      push_cast
      ring
    rcases lt_trichotomy (2 * rest) n with less | same | more
    · have less : ((2 * rest : Nat) : ℚ) / n < 1 :=
      (div_lt_one denominator).mpr (by exact_mod_cast less)
      rw [compare_lt_iff_lt.mpr ‹2 * rest < n›, compare_lt_iff_lt, double]
      linarith
    · rw [compare_eq_iff_eq.mpr same, compare_eq_iff_eq, double, same, div_self denominator.ne',
      one_mul]
    · have less : 1 < ((2 * rest : Nat) : ℚ) / n :=
      (one_lt_div denominator).mpr (by exact_mod_cast more)
      rw [compare_gt_iff_gt.mpr ‹2 * rest > n›, compare_gt_iff_gt, double]
      linarith

/-- The quotient of two mantissas has enough bits at the exponent to which it is divided. -/
theorem le_target_quotient (mPositive : 0 < m) (nPositive : 0 < n) {places : Nat} {t : Int}
    (place : e - f = t + places)
    (reaches : t ≤ max ((m.log2 + 1 + e) - (n.log2 + 1 + f) - 53) (-1074)) :
    t ≤ target (m * 2 ^ places / n) t := by
  unfold target
  by_cases least : t ≤ -1074
  · omega
  · have wide : n.log2 + 53 ≤ m.log2 + places := by omega
    have many : 2 ^ 52 ≤ m * 2 ^ places / n := by
      rw [Nat.le_div_iff_mul_le nPositive]
      calc 2 ^ 52 * n ≤ 2 ^ 52 * 2 ^ (n.log2 + 1) :=
            Nat.mul_le_mul_left _ Nat.lt_log2_self.le
        _ = 2 ^ (n.log2 + 53) := by rw [← pow_add]; congr 1; omega
        _ ≤ 2 ^ (m.log2 + places) := Nat.pow_le_pow_right (by decide) wide
        _ = 2 ^ m.log2 * 2 ^ places := pow_add ..
        _ ≤ m * 2 ^ places := Nat.mul_le_mul_right _ (Nat.log2_self_le mPositive.ne')
    have some : m * 2 ^ places / n ≠ 0 := by omega
    have bits : 52 ≤ (m * 2 ^ places / n).log2 := (Nat.le_log2 some).mpr many
    omega

/-- A quotient is rounded. -/
theorem isRounded_div_finite :
    IsRounded (m * 2 ^ e / (n * 2 ^ f))
      (.ofModel (pack (UnpackedFloat.div .binary64 (.finite .positive m e mPositive)
        (.finite .positive n f nPositive)))) := by
  -- The quotient is formed at an exponent that leaves enough bits.
  obtain ⟨t, tIs⟩ : ∃ t, t = min (e - f)
    (max ((m.log2 + 1 + e) - (n.log2 + 1 + f) - 53) (-1074)) := ⟨_, rfl⟩
  obtain ⟨places, placesIs⟩ : ∃ places, places = (e - f - t).toNat := ⟨_, rfl⟩
  have core : divCore .binary64 m e n f =
      (m * 2 ^ places / n, t, accuracyOfFraction (m * 2 ^ places % n) n) := by
    rw [placesIs, tIs, ← Nat.shiftLeft_eq]
    rfl
  have place : e - f = t + places := by omega
  have fits := le_target_quotient mPositive nPositive place (tIs.trans_le (min_le_right ..))
  have gap := isGap_accuracyOfFraction (m * 2 ^ places) nPositive
  have quotient : ((m * 2 ^ places : Nat) : ℚ) / n = m * 2 ^ e / (n * 2 ^ f) / 2 ^ t := by
    have exponent : (2 : ℚ) ^ e = 2 ^ f * 2 ^ t * 2 ^ places := by
      rw [← zpow_natCast, ← zpow_add₀ (by norm_num), ← zpow_add₀ (by norm_num)]
      congr 1
      omega
    have denominator : (n : ℚ) ≠ 0 := by exact_mod_cast nPositive.ne'
    rw [exponent]
    push_cast
    field_simp
  rw [quotient] at gap
  obtain ⟨p, g, rounded, nearest⟩ := roundWithAccuracy_isNearest (.positive / .positive) gap fits
  simp only [UnpackedFloat.div, core, rounded]
  exact nearest.isRounded (by positivity) fun _ => rfl

end Products

section Operations

variable {x y : Float} {a b q r : ℚ}

/-- Zero is the nearest canonical number to all numbers up to half of the least one. -/
theorem isNearest_zero (positive : 0 ≤ q) (tiny : 2 * q ≤ 2 ^ (-1074 : Int)) :
    IsNearest q 0 (-1074) := by
  refine ⟨⟨by decide, le_rfl, .inl rfl⟩, fun n f canonical => ?_, fun _ _ _ _ => .inr rfl⟩
  rw [Nat.cast_zero, zero_mul, zero_sub, abs_neg, abs_of_nonneg positive]
  rcases Nat.eq_zero_or_pos n with rfl | some
  · rw [Nat.cast_zero, zero_mul, zero_sub, abs_neg, abs_of_nonneg positive]
  · have large : (2 : ℚ) ^ (-1074 : Int) ≤ n * 2 ^ f := by
      calc (2 : ℚ) ^ (-1074 : Int) ≤ 2 ^ f := zpow_le_zpow_right₀ (by norm_num) canonical.low
        _ ≤ n * 2 ^ f := le_mul_of_one_le_left (by positivity) (by exact_mod_cast some)
    exact le_trans (by linarith) (le_abs_self _)

/-- Zero is rounded with any sign. -/
theorem isRounded_zero (s : Sign) : IsRounded 0 (.ofModel (pack (.zero s))) :=
  (isNearest_zero le_rfl (by rw [mul_zero]; positivity)).isRounded le_rfl
    fun some => absurd some (by decide)

/-- The sign of a positive number. -/
theorem sign_of_signed_pos {s : Sign} {size : ℚ} (some : 0 < size) (positive : 0 ≤ signed s size) :
    s = .positive := by
  cases s with
  | positive => rfl
  | negative =>
      have negative : 0 ≤ -size := positive
      linarith

/-- Zero stays zero with any sign. -/
theorem signed_zero (s : Sign) : signed s 0 = 0 := by
  cases s <;> simp [signed]

/-- The product of two doubles is the double nearest to the exact product. -/
theorem isRounded_mul (first : number? x = some a) (second : number? y = some b) (aPositive : 0 ≤ a)
    (bPositive : 0 ≤ b) : IsRounded (a * b) (x * y) := by
  obtain ⟨s, m, e, firstParts, firstCanonical, -, rfl⟩ := exists_unpack_of_number? first
  obtain ⟨t, n, f, secondParts, secondCanonical, -, rfl⟩ := exists_unpack_of_number? second
  change IsRounded _ (.ofModel (pack (UnpackedFloat.mul .binary64 x.toModel.unpack
    y.toModel.unpack)))
  rw [firstParts, secondParts]
  unfold ofParts
  split_ifs with mPositive nPositive nPositive
  · obtain rfl := sign_of_signed_pos (by positivity) aPositive
    obtain rfl := sign_of_signed_pos (by positivity) bPositive
    exact isRounded_mul_finite (firstCanonical.fits_mul secondCanonical mPositive nPositive)
  · obtain rfl : n = 0 := Nat.eq_zero_of_not_pos nPositive
    rw [Nat.cast_zero, zero_mul, signed_zero, mul_zero]
    exact isRounded_zero (s * t)
  all_goals
    obtain rfl : m = 0 := Nat.eq_zero_of_not_pos mPositive
    rw [Nat.cast_zero, zero_mul, signed_zero, zero_mul]
    exact isRounded_zero (s * t)

/-- The quotient of two doubles is the double nearest to the exact quotient. -/
theorem isRounded_div (first : number? x = some a) (second : number? y = some b) (aPositive : 0 ≤ a)
    (bPositive : 0 < b) : IsRounded (a / b) (x / y) := by
  obtain ⟨s, m, e, firstParts, -, -, rfl⟩ := exists_unpack_of_number? first
  obtain ⟨t, n, f, secondParts, -, -, rfl⟩ := exists_unpack_of_number? second
  have nPositive : 0 < n := by
    refine Nat.pos_of_ne_zero fun none => bPositive.ne' ?_
    rw [none, Nat.cast_zero, zero_mul, signed_zero]
  obtain rfl := sign_of_signed_pos (by positivity) bPositive.le
  change IsRounded _ (.ofModel (pack (UnpackedFloat.div .binary64 x.toModel.unpack
    y.toModel.unpack)))
  rw [firstParts, secondParts, ofParts, ofParts, dif_pos nPositive]
  split_ifs with mPositive
  · obtain rfl := sign_of_signed_pos (by positivity) aPositive
    exact isRounded_div_finite
  · obtain rfl : m = 0 := Nat.eq_zero_of_not_pos mPositive
    rw [Nat.cast_zero, zero_mul, signed_zero, zero_div]
    exact isRounded_zero (s / Sign.positive)

/-- The number of a double does not overflow. -/
theorem lt_overflow_of_number? (known : number? x = some q) : q < overflow := by
  obtain ⟨s, n, f, -, canonical, high, rfl⟩ := exists_unpack_of_number? known
  have small := canonical.le_largest high
  have size : (0 : ℚ) ≤ n * 2 ^ f := by positivity
  have unit := topUnit_pos
  have below : signed s ((n : ℚ) * 2 ^ f) ≤ n * 2 ^ f := by
    cases s with
    | positive => exact le_rfl
    | negative => exact (neg_nonpos.mpr size).trans size
  unfold overflow
  linarith

/-- A number that is a double is its own rounding. -/
theorem IsRounded.exact (rounded : IsRounded q x) (known : number? y = some q) :
    number? x = some q := by
  obtain ⟨r, number, closest⟩ := rounded.finite (lt_overflow_of_number? known)
  have none : |r - q| ≤ 0 := by simpa using (closest y q known).1
  rw [number, sub_eq_zero.mp (abs_nonpos_iff.mp none)]

/-- Infinity stands for no number. -/
theorem number?_infinity : number? (1.0 / 0.0) = none := rfl

/-- No double is nearer to a number than the one that it is rounded to. -/
theorem IsRounded.closest (rounded : IsRounded q x) (known : number? x = some r)
    (other : number? y = some a) : |r - q| ≤ |a - q| := by
  have less : q < overflow := by
    by_contra more
    rw [rounded.infinite (not_lt.mp more), number?_infinity] at known
    cases known
  obtain ⟨found, same, closest⟩ := rounded.finite less
  obtain rfl := Option.some.inj (same.symm.trans known)
  exact (closest y a other).1

/-- Rounding does not go below a double. -/
theorem IsRounded.above (rounded : IsRounded q x) (known : number? x = some r)
    (lowNumber : number? y = some a) (above : a ≤ q) : a ≤ r := by
  have closest := rounded.closest known lowNumber
  rw [abs_sub_comm a, abs_of_nonneg (sub_nonneg.mpr above)] at closest
  linarith [(abs_le.mp closest).1]

/-- Rounding does not go above a double. -/
theorem IsRounded.below (rounded : IsRounded q x) (known : number? x = some r)
    (highNumber : number? y = some b) (below : q ≤ b) : r ≤ b := by
  have closest := rounded.closest known highNumber
  rw [abs_of_nonneg (sub_nonneg.mpr below)] at closest
  linarith [(abs_le.mp closest).2]

/-- A rounded number stays between doubles. -/
theorem IsRounded.between {low high : Float} (rounded : IsRounded q x)
    (lowNumber : number? low = some a) (above : a ≤ q) (highNumber : number? high = some b)
    (below : q ≤ b) : ∃ r, number? x = some r ∧ a ≤ r ∧ r ≤ b := by
  obtain ⟨r, number, -⟩ := rounded.finite (below.trans_lt (lt_overflow_of_number? highNumber))
  exact ⟨r, number, rounded.above number lowNumber above, rounded.below number highNumber below⟩

/-- Rounding keeps the order of two numbers. -/
theorem IsRounded.le_of_lt (first : IsRounded a x) (second : IsRounded b y) (less : a < b)
    (firstNumber : number? x = some q) (secondNumber : number? y = some r) : q ≤ r := by
  -- If the doubles stood the other way round, one of them would be nearer to the other number.
  by_contra more
  have nearFirst := sq_le_sq.mpr (first.closest firstNumber secondNumber)
  have nearSecond := sq_le_sq.mpr (second.closest secondNumber firstNumber)
  nlinarith

end Operations

section Decimals

variable {m : Nat}

/-- A whole number of 53 bits is a double, also with some zeros behind it. -/
theorem exists_number?_eq (small : m < 2 ^ 53) {places : Nat} (few : places ≤ 900) :
    ∃ y, number? y = some ((m : ℚ) * 2 ^ places) := by
  obtain ⟨n, f, canonical, high, same⟩ : ∃ n f, Canonical n f ∧ f ≤ 971 ∧
      (n : ℚ) * 2 ^ f = m * 2 ^ places := by
    rcases Nat.eq_zero_or_pos m with rfl | some
    · exact ⟨0, -1074, ⟨by decide, le_rfl, .inl rfl⟩, by decide, by simp⟩
    have bits : m.log2 ≤ 52 := Nat.lt_succ_iff.mp ((Nat.log2_lt some.ne').mpr small)
    obtain ⟨shift, shiftIs⟩ : ∃ shift, m.log2 + shift = 52 := ⟨52 - m.log2, by omega⟩
    refine ⟨m * 2 ^ shift, places - shift, ⟨?_, by omega, .inr ?_⟩, by omega, ?_⟩
    · calc m * 2 ^ shift < 2 ^ (m.log2 + 1) * 2 ^ shift :=
            Nat.mul_lt_mul_of_pos_right Nat.lt_log2_self (by positivity)
        _ = 2 ^ 53 := by rw [← pow_add]; congr 1; omega
    · calc 2 ^ 52 = 2 ^ m.log2 * 2 ^ shift := by rw [← pow_add, shiftIs]
        _ ≤ m * 2 ^ shift := Nat.mul_le_mul_right _ (Nat.log2_self_le some.ne')
    · rw [zpow_sub₀ (by norm_num), zpow_natCast, zpow_natCast]
      push_cast
      field_simp
  refine ⟨.ofModel (pack (ofParts .positive n f)), ?_⟩
  rw [← same]
  exact (number?_of_unpack canonical (unpack_pack_ofParts canonical high)).1

/-- The nearest double is packed for a natural number. -/
theorem isRounded_model_ofNat (m : Nat) : IsRounded m (.ofModel (.ofNat m)) := by
  rcases Nat.eq_zero_or_pos m with rfl | some
  · exact isRounded_zero .positive
  obtain ⟨t, tIs⟩ : ∃ t, t = target m 0 := ⟨_, rfl⟩
  obtain ⟨places, placesIs⟩ : ∃ places, places = (0 - t).toNat := ⟨_, rfl⟩
  have rounding : Float.Model.ofNat m = pack (roundWithAccuracy .binary64 .positive
      (m * 2 ^ places) (-places) .exact) := by
    have some : compare (m : Int) 0 = .gt := compare_gt_iff_gt.mpr (by exact_mod_cast some)
    rw [placesIs, tIs, ← Nat.shiftLeft_eq, ← zero_sub]
    simp only [Float.Model.ofNat, UnpackedFloat.ofNat, UnpackedFloat.ofInt,
      UnpackedFloat.normalize, some, Int.toNat_natCast]
    rfl
  have gap := isGap_exact (m * 2 ^ places) (-places)
  have same : ((m * 2 ^ places : Nat) : ℚ) * 2 ^ (-places : Int) = m := by
    rw [zpow_neg, zpow_natCast]
    push_cast
    field_simp
  rw [same] at gap
  have fits : -(places : Int) ≤ target (m * 2 ^ places) (-places) := by
    have bits : m.log2 + places ≤ (m * 2 ^ places).log2 := by
      rw [Nat.le_log2 (by positivity), pow_add]
      exact Nat.mul_le_mul_right _ (Nat.log2_self_le some.ne')
    unfold target at tIs ⊢
    omega
  obtain ⟨n, f, rounded, nearest⟩ := roundWithAccuracy_isNearest .positive gap fits
  rw [rounding, rounded]
  exact nearest.isRounded (by positivity) fun _ => rfl

/-- Numbers with more than 400 digits overflow. -/
theorem overflow_le_of_huge {q : ℚ} (huge : 10 ^ 400 ≤ q) : overflow ≤ q := by
  calc overflow ≤ 2 ^ 53 * topUnit := by
        have unit := topUnit_pos
        unfold overflow
        linarith
    _ = 2 ^ (53 + 971) := by rw [topUnit, zpow_ofNat, pow_add]
    _ ≤ 2 ^ (3 * 400) := pow_le_pow_right₀ (by norm_num) (by decide)
    _ = (2 ^ 3) ^ 400 := pow_mul ..
    _ ≤ 10 ^ 400 := by
        gcongr
        norm_num
    _ ≤ q := huge

/-- Numbers with more than 400 zeros behind the point round to zero. -/
theorem isRounded_zero_of_tiny {q : ℚ} (positive : 0 ≤ q) (tiny : q * 10 ^ 400 ≤ 1) :
    IsRounded q (.ofModel (pack (.zero .positive))) := by
  have half : 2 * q ≤ 2 ^ (-1074 : Int) := by
    rw [zpow_neg, zpow_ofNat, inv_eq_one_div, le_div_iff₀ (by positivity)]
    calc 2 * q * 2 ^ 1074 = q * 2 ^ (1 + 1074) := by
          rw [pow_add, pow_one, ← mul_assoc, mul_comm q]
      _ ≤ q * 2 ^ (3 * 400) := by
          gcongr
          · norm_num
          · decide
      _ = q * (2 ^ 3) ^ 400 := by rw [pow_mul]
      _ ≤ q * 10 ^ 400 := by
          gcongr
          norm_num
      _ ≤ 1 := tiny
  exact (isNearest_zero positive half).isRounded positive fun some => absurd some (by decide)

/-- A number that overflows is rounded to infinity. -/
theorem isRounded_infinity {q : ℚ} (more : overflow ≤ q) :
    IsRounded q (.ofModel (pack (.infinity .positive))) :=
  ⟨fun less => absurd more (not_le.mpr less), fun _ => rfl⟩

/-- The known powers of ten are the converted ones. -/
theorem powerOfTen_eq : ∀ exponent < 23,
    Float.exactlyRepresentablePowersOfTen[exponent]? =
      some (.ofModel (.ofNat (10 ^ exponent))) := by
  decide +kernel

/-- A small power of ten is a double. -/
theorem number?_powerOfTen {exponent : Nat} (small : exponent < 23) :
    number? (.ofModel (.ofNat (10 ^ exponent))) = some (10 ^ exponent) := by
  have five : 5 ^ exponent < 2 ^ 53 :=
    (Nat.pow_le_pow_right (by decide) (Nat.le_of_lt_succ small)).trans_lt (by decide)
  obtain ⟨y, known⟩ := exists_number?_eq five (by omega : exponent ≤ 900)
  have rounded := isRounded_model_ofNat (10 ^ exponent)
  push_cast at rounded known
  rw [← mul_pow, show (5 : ℚ) * 2 = 10 by norm_num] at known
  exact rounded.exact known

/-- A significand times a power of ten is rounded once. -/
theorem isRounded_timesPower {places : Nat} (some : 0 < m) (first : 0 < m <<< 53)
    (second : 0 < 10 ^ places) :
    IsRounded (m * 10 ^ places) (.ofModel (pack (UnpackedFloat.mul .binary64
      (.finite .positive (m <<< 53) (-53) first) (.finite .positive (10 ^ places) 0 second)))) := by
  have bits : 53 ≤ ((m <<< 53) * 10 ^ places).log2 := by
    rw [Nat.le_log2 (Nat.mul_pos first second).ne', Nat.shiftLeft_eq, Nat.mul_right_comm]
    exact Nat.le_mul_of_pos_left _ (Nat.mul_pos some second)
  have fits : (-53 : Int) + 0 ≤ target ((m <<< 53) * 10 ^ places) (-53 + 0) := by
    unfold target
    omega
  have same : ((m <<< 53 : Nat) : ℚ) * 2 ^ (-53 : Int) *
      ((10 ^ places : Nat) * 2 ^ (0 : Int)) = m * 10 ^ places := by
    rw [Nat.shiftLeft_eq, zpow_neg, zpow_ofNat, zpow_zero]
    push_cast
    field_simp
    norm_num
  rw [← same]
  exact isRounded_mul_finite fits

/-- A significand over a power of ten is rounded once. -/
theorem isRounded_overPower {places : Nat} (first : 0 < m) (second : 0 < 10 ^ places) :
    IsRounded (m / 10 ^ places) (.ofModel (pack (UnpackedFloat.div .binary64
      (.finite .positive m 0 first) (.finite .positive (10 ^ places) 0 second)))) := by
  have same : (m : ℚ) * 2 ^ (0 : Int) / ((10 ^ places : Nat) * 2 ^ (0 : Int)) =
      m / 10 ^ places := by
    rw [zpow_zero]
    push_cast
    field_simp
  rw [← same]
  exact isRounded_div_finite

/-- A significand and a power of ten are read as the nearest double. -/
theorem isRounded_model_ofScientific (m : Nat) (exponent : Int) :
    IsRounded (m * 10 ^ exponent) (.ofModel (.ofScientific m exponent)) := by
  unfold Float.Model.ofScientific UnpackedFloat.ofScientific
  split_ifs with none huge tiny whole
  · rw [none, Nat.cast_zero, zero_mul]
    exact isRounded_zero .positive
  · change exponent > 2048 at huge
    have some : (1 : ℚ) ≤ m := by exact_mod_cast Nat.pos_of_ne_zero none
    refine isRounded_infinity (overflow_le_of_huge ?_)
    calc (10 : ℚ) ^ 400 = 10 ^ (400 : Int) := (zpow_ofNat 10 400).symm
      _ ≤ 10 ^ exponent := zpow_le_zpow_right₀ (by norm_num) (by omega)
      _ ≤ m * 10 ^ exponent := le_mul_of_one_le_left (by positivity) some
  · change exponent < -((2048 : Int) + m.log2) at tiny
    refine isRounded_zero_of_tiny (by positivity) ?_
    have bits : (m : ℚ) ≤ 10 ^ (m.log2 + 1) := by
      calc (m : ℚ) ≤ 2 ^ (m.log2 + 1) := by exact_mod_cast Nat.lt_log2_self.le
        _ ≤ 10 ^ (m.log2 + 1) := by
            gcongr
            norm_num
    calc (m : ℚ) * 10 ^ exponent * 10 ^ 400
      _ ≤ 10 ^ (m.log2 + 1) * 10 ^ exponent * 10 ^ 400 := by gcongr
      _ = 10 ^ ((m.log2 + 1 : Nat) + exponent + (400 : Int)) := by
          rw [zpow_add₀ (by norm_num), zpow_add₀ (by norm_num), zpow_natCast, zpow_ofNat]
      _ ≤ 1 := zpow_le_one_of_nonpos₀ (by norm_num) (by push_cast; omega)
  · obtain ⟨places, rfl⟩ := Int.eq_ofNat_of_zero_le whole
    rw [zpow_natCast]
    exact isRounded_timesPower (Nat.pos_of_ne_zero none) _ _
  · obtain ⟨places, rfl⟩ : ∃ places : Nat, exponent = -places := ⟨(-exponent).toNat, by omega⟩
    rw [zpow_neg, zpow_natCast, ← div_eq_mul_inv]
    simp only [neg_neg, Int.toNat_natCast]
    exact isRounded_overPower _ _

/-- A whole number of 53 bits is converted to a double that stands for it. -/
theorem number?_toFloat (small : m < 2 ^ 53) : number? m.toUInt64.toFloat = some (m : ℚ) := by
  have same : m.toUInt64.toNat = m := UInt64.toNat_ofNat_of_lt (small.trans (by decide))
  have converted : m.toUInt64.toFloat = .ofModel (.ofNat m) :=
    congrArg (fun n => Float.ofModel (.ofNat n)) same
  obtain ⟨y, known⟩ := exists_number?_eq small (Nat.zero_le 900)
  rw [pow_zero, mul_one] at known
  rw [converted]
  exact (isRounded_model_ofNat m).exact known

/-- A decimal is read as the nearest double. -/
theorem isRounded_ofScientific (m : Nat) (divides : Bool) (places : Nat) :
    IsRounded (m * 10 ^ (if divides then -(places : Int) else places))
      (Float.ofScientific m divides places) := by
  unfold Float.ofScientific
  by_cases short : m < 2 ^ 53 ∧ places ≤ 22
  · obtain ⟨there, power⟩ := Array.getElem?_eq_some_iff.mp
      (powerOfTen_eq places (Nat.lt_succ_of_le short.2))
    have significand := number?_toFloat short.1
    have known := number?_powerOfTen (Nat.lt_succ_of_le short.2)
    rw [← power] at known
    rw [dif_pos short]
    cases divides with
    | true =>
        rw [if_pos rfl, zpow_neg, zpow_natCast, ← div_eq_mul_inv]
        exact isRounded_div significand known (by positivity) (by positivity)
    | false =>
        rw [if_neg Bool.false_ne_true, zpow_natCast]
        exact isRounded_mul significand known (by positivity) (by positivity)
  · rw [dif_neg short]
    cases divides with
    | true =>
        rw [if_pos rfl, ← Int.ofNat_eq_natCast, ← Int.negOfNat_eq]
        exact isRounded_model_ofScientific m _
    | false => exact isRounded_model_ofScientific m _

/-- A natural number is converted to the nearest double. -/
theorem isRounded_ofNat (m : Nat) : IsRounded m (Float.ofNat m) := by
  have rounded := isRounded_ofScientific m false 0
  rwa [if_neg Bool.false_ne_true, Nat.cast_zero, zpow_zero, mul_one] at rounded

/-- A whole number of 53 bits is a double. -/
theorem number?_ofNat (small : m < 2 ^ 53) : number? (Float.ofNat m) = some (m : ℚ) :=
  (isRounded_ofNat m).exact (number?_toFloat small)

/-- A double that is written as a whole number stands for it. -/
theorem number?_of_eq_ofNat {x : Float} (same : x = Float.ofNat m) (small : m < 2 ^ 53) :
    number? x = some (m : ℚ) := by
  rw [same]
  exact number?_ofNat small

/-- The double zero stands for the number zero. -/
theorem number?_zero : number? 0.0 = some 0 := by
  exact_mod_cast number?_of_eq_ofNat (m := 0) (by decide +kernel) (by decide)

/-- The double one stands for the number one. -/
theorem number?_one : number? 1.0 = some 1 := by
  exact_mod_cast number?_of_eq_ofNat (m := 1) (by decide +kernel) (by decide)

/-- A positive number has as many digits as powers of ten up to it. -/
theorem pow_le_of_digits (some : 0 < m) : 10 ^ ((Nat.toDigits 10 m).length - 1) ≤ m := by
  by_contra less
  have short : 0 < (Nat.toDigits 10 m).length - 1 := by
    by_contra none
    rw [Nat.eq_zero_of_not_pos none] at less
    omega
  have shorter := (Nat.length_toDigits_le_iff (by decide) short).mpr (not_le.mp less)
  omega

/-- A typed decimal is read as the nearest double. -/
theorem isRounded_nearest (m : Nat) (exponent : Int) :
    IsRounded (m * 10 ^ exponent) (nearest m exponent) := by
  have positive : (0 : ℚ) ≤ m * 10 ^ exponent := by positivity
  unfold nearest
  dsimp only
  split_ifs with small large negative
  · have zero : (0.0 : Float) = .ofModel (pack (.zero .positive)) := by decide +kernel
    rw [zero]
    refine isRounded_zero_of_tiny positive ?_
    rcases small with rfl | small
    · simp
    have below : (m : ℚ) ≤ 10 ^ (Nat.toDigits 10 m).length := by
      exact_mod_cast
        ((Nat.length_toDigits_le_iff (by decide) Nat.length_toDigits_pos).mp le_rfl).le
    calc (m : ℚ) * 10 ^ exponent * 10 ^ 400
      _ ≤ 10 ^ (Nat.toDigits 10 m).length * 10 ^ exponent * 10 ^ 400 := by gcongr
      _ = 10 ^ ((Nat.toDigits 10 m).length + exponent + (400 : Int)) := by
          rw [zpow_add₀ (by norm_num), zpow_add₀ (by norm_num), zpow_natCast, zpow_ofNat]
      _ ≤ 1 := zpow_le_one_of_nonpos₀ (by norm_num) (by omega)
  · refine isRounded_infinity (overflow_le_of_huge ?_)
    have above : (10 : ℚ) ^ ((Nat.toDigits 10 m).length - 1) ≤ m := by
      exact_mod_cast pow_le_of_digits (by omega)
    calc (10 : ℚ) ^ 400 = 10 ^ (400 : Int) := (zpow_ofNat 10 400).symm
      _ ≤ 10 ^ (((Nat.toDigits 10 m).length - 1 : Nat) + exponent) :=
          zpow_le_zpow_right₀ (by norm_num) (by omega)
      _ = 10 ^ ((Nat.toDigits 10 m).length - 1) * 10 ^ exponent := by
          rw [zpow_add₀ (by norm_num), zpow_natCast]
      _ ≤ m * 10 ^ exponent := by gcongr
  · have decimal := isRounded_ofScientific m true exponent.natAbs
    rw [if_pos rfl, Int.ofNat_natAbs_of_nonpos negative.le, neg_neg] at decimal
    exact decimal
  · have decimal := isRounded_ofScientific m false exponent.natAbs
    rw [if_neg Bool.false_ne_true, Int.natAbs_of_nonneg (not_lt.mp negative)] at decimal
    exact decimal

end Decimals

end MeshConsole.Decimal
