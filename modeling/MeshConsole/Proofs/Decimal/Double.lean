/-
This file relates doubles to the exact numbers that they stand for: what a double is made of, and
that a double can be put together from a canonical mantissa and exponent.
-/

import Mathlib
import MeshConsole.Decimal.Dyadic

namespace MeshConsole.Decimal

open Float.Model Float.Model.UnpackedFloat

/-- The mantissa has 53 bits, or fewer at the least exponent. -/
structure Canonical (mantissa : Nat) (exponent : Int) : Prop where
  small : mantissa < 2 ^ 53
  low : -1074 ≤ exponent
  full : exponent = -1074 ∨ 2 ^ 52 ≤ mantissa

/-- The sign bit of a double as a sign. -/
def signOf (x : Float) : Sign :=
  if isNegative x then .negative else .positive

/-- A number with a sign in front. -/
def signed : Sign → ℚ → ℚ
  | .negative, size => -size
  | .positive, size => size

/-- The exact number that a finite double stands for. -/
def number? (x : Float) : Option ℚ :=
  if x.isNaN ∨ x.isInf then none
  else
    let exact := magnitude x
    some (signed (signOf x) (exact.mantissa * 2 ^ exact.exponent))

/-- The unpacked double with a sign, a mantissa and an exponent. -/
def ofParts (s : Sign) (mantissa : Nat) (exponent : Int) : UnpackedFloat :=
  if positive : 0 < mantissa then .finite s mantissa exponent positive else .zero s

section Bits

variable {s : Sign} {mantissa : Nat} {exponent : Int} {positive : 0 < mantissa} {x : Float}

/-- The lowest 52 bits hold the fraction. -/
theorem toNat_unpackMantissa (bits : BitVec 64) :
    (@unpackMantissa .binary64 bits).toNat = bits.toNat % 2 ^ 52 := by
  simp [unpackMantissa, BitVec.extractLsb, BitVec.extractLsb'_toNat]

/-- The next eleven bits hold the exponent. -/
theorem toNat_unpackExponent (bits : BitVec 64) :
    (@unpackExponent .binary64 bits).toNat = bits.toNat / 2 ^ 52 % 2 ^ 11 := by
  simp [unpackExponent, BitVec.extractLsb, BitVec.extractLsb'_toNat, Nat.shiftRight_eq_div_pow]

/-- The highest bit holds the sign. -/
theorem toNat_unpackSign (bits : BitVec 64) :
    (@unpackSign .binary64 bits).toNat = bits.toNat / 2 ^ 63 := by
  have bound : bits.toNat < 2 ^ 64 := bits.isLt
  simp only [unpackSign, BitVec.extractLsb, BitVec.extractLsb'_toNat, Nat.shiftRight_eq_div_pow,
    BitVec.toNat_cast]
  change bits.toNat / 2 ^ 63 % 2 ^ 1 = _
  omega

/-- A double is negative if its highest bit is set. -/
theorem isNegative_iff (x : Float) : isNegative x = true ↔ x.toBits.toNat / 2 ^ 63 = 1 := by
  rw [isNegative, beq_iff_eq, ← UInt64.toNat_inj]
  simp [Nat.shiftRight_eq_div_pow]

/-- The unpacked sign of a double. -/
theorem ofBitVec_unpackSign (x : Float) :
    Sign.ofBitVec (@unpackSign .binary64 x.toBits.toBitVec) = signOf x := by
  have bound : x.toBits.toNat < 2 ^ 64 := x.toBits.toNat_lt
  have sign := toNat_unpackSign x.toBits.toBitVec
  rw [UInt64.toNat_toBitVec] at sign
  simp only [Sign.ofBitVec, signOf, isNegative_iff, ← BitVec.toNat_inj, sign, BitVec.toNat_ofNat]
  split_ifs <;> first | rfl | omega

/-- A leading one in front of the fraction. -/
theorem toNat_withLeadingOne (fraction : BitVec 52) :
    (1#1 ++ fraction).toNat = 2 ^ 52 + fraction.toNat := by
  rw [BitVec.toNat_append, Nat.shiftLeft_eq, Nat.mul_comm,
    ← Nat.two_pow_add_eq_or_of_lt fraction.isLt]
  rfl

/-- What a double that unpacks to zero is made of. -/
theorem magnitude_of_unpack_zero (zero : x.toModel.unpack = .zero s) :
    (magnitude x).mantissa = 0 ∧ (magnitude x).exponent = -1074 ∧ signOf x = s := by
  have fraction := toNat_unpackMantissa x.toBits.toBitVec
  have field := toNat_unpackExponent x.toBits.toBitVec
  rw [UInt64.toNat_toBitVec] at fraction field
  change UnpackedFloat.unpack .binary64 x.toBits.toBitVec = _ at zero
  simp only [UnpackedFloat.unpack] at zero
  split_ifs at zero with special noNumber least none
  rw [least] at field
  rw [none] at fraction
  injection zero with sign
  replace fraction : x.toBits.toNat % Nat.pow 2 52 = 0 := fraction.symm
  replace field : x.toBits.toNat / Nat.pow 2 52 % Nat.pow 2 11 = 0 := field.symm
  simp [magnitude, fraction, field, ← sign, ofBitVec_unpackSign x]

/-- What a double that unpacks to a positive or negative number is made of. -/
theorem magnitude_of_unpack_finite
    (finite : x.toModel.unpack = .finite s mantissa exponent positive) :
    (magnitude x).mantissa = mantissa ∧ (magnitude x).exponent = exponent ∧ signOf x = s ∧
      Canonical mantissa exponent ∧ exponent ≤ 971 := by
  have fraction := toNat_unpackMantissa x.toBits.toBitVec
  have field := toNat_unpackExponent x.toBits.toBitVec
  rw [UInt64.toNat_toBitVec] at fraction field
  have offset : (Format.binary64.exponentBias : Int) + (52 : Nat) = 1075 := rfl
  change UnpackedFloat.unpack .binary64 x.toBits.toBitVec = _ at finite
  simp only [UnpackedFloat.unpack] at finite
  split_ifs at finite with special noNumber least none
  case neg =>
    injection finite with sign mantissaIs exponentIs
    rw [least, offset] at exponentIs
    rw [least] at field
    replace field : x.toBits.toNat / Nat.pow 2 52 % Nat.pow 2 11 = 0 := field.symm
    have small : mantissa < 2 ^ 52 := by
      rw [← mantissaIs, fraction]
      exact Nat.mod_lt _ (by decide)
    have lowest : exponent = -1074 := exponentIs.symm
    simp only [magnitude, field, if_true]
    exact ⟨fraction.symm.trans mantissaIs, lowest.symm, (ofBitVec_unpackSign x).symm.trans sign,
      ⟨by omega, by omega, .inl lowest⟩, by omega⟩
  case neg =>
    injection finite with sign mantissaIs exponentIs
    rw [toNat_withLeadingOne, fraction] at mantissaIs
    rw [field, offset] at exponentIs
    have notLeast : x.toBits.toNat / Nat.pow 2 52 % Nat.pow 2 11 ≠ 0 :=
      fun zero => least (BitVec.eq_of_toNat_eq (field.trans zero))
    have notSpecial : x.toBits.toNat / 2 ^ 52 % 2 ^ 11 ≠ 2047 :=
      fun ones => special (BitVec.eq_of_toNat_eq (field.trans ones))
    have bound : x.toBits.toNat / 2 ^ 52 % 2 ^ 11 < 2 ^ 11 := Nat.mod_lt _ (by decide)
    have small : x.toBits.toNat % 2 ^ 52 < 2 ^ 52 := Nat.mod_lt _ (by decide)
    simp only [magnitude, if_neg notLeast]
    refine ⟨mantissaIs, exponentIs, (ofBitVec_unpackSign x).symm.trans sign,
      ⟨by omega, ?_, .inr (by omega)⟩, ?_⟩
    all_goals simp only [Nat.pow_eq] at notLeast; omega

/-- A packed mantissa of 53 bits is unpacked again. -/
theorem unpack_packComponents_full (positive : 0 < mantissa) (full : 2 ^ 52 ≤ mantissa)
    (small : mantissa < 2 ^ 53) {field : Nat} (some : 0 < field) (usual : field < 2047) :
    UnpackedFloat.unpack .binary64
        (packComponents .binary64 s (BitVec.ofNat 11 field) (BitVec.ofNat 52 mantissa)) =
      .finite s mantissa (field - 1075) positive := by
  have offset : (Format.binary64.exponentBias : Int) + (52 : Nat) = 1075 := rfl
  have special : BitVec.ofNat 11 field ≠ -1#11 := by
    rw [ne_eq, ← BitVec.toNat_inj, BitVec.toNat_ofNat]
    change _ ≠ 2047
    omega
  have least : BitVec.ofNat 11 field ≠ 0#11 := by
    rw [ne_eq, ← BitVec.toNat_inj, BitVec.toNat_ofNat, BitVec.toNat_ofNat]
    omega
  simp only [UnpackedFloat.unpack, unpackExponent_packComponents, unpackMantissa_packComponents,
    unpackSign_packComponents, Sign.ofBitVec_toBitVec, if_neg special, if_neg least]
  rw [UnpackedFloat.finite.injEq, toNat_withLeadingOne, BitVec.toNat_ofNat, BitVec.toNat_ofNat,
    offset]
  exact ⟨rfl, by omega, by omega⟩

/-- A packed mantissa of fewer bits is unpacked again, with the least exponent. -/
theorem unpack_packComponents_least (positive : 0 < mantissa) (few : mantissa < 2 ^ 52) :
    UnpackedFloat.unpack .binary64
        (packComponents .binary64 s 0#11 (BitVec.ofNat 52 mantissa)) =
      .finite s mantissa (-1074) positive := by
  have some : BitVec.ofNat 52 mantissa ≠ 0#52 := by
    rw [ne_eq, ← BitVec.toNat_inj, BitVec.toNat_ofNat, BitVec.toNat_ofNat]
    omega
  have special : (0#11 = -1#11) = False := by decide
  simp only [UnpackedFloat.unpack, unpackExponent_packComponents, unpackMantissa_packComponents,
    unpackSign_packComponents, Sign.ofBitVec_toBitVec, special, if_false, if_true, dif_neg some]
  rw [UnpackedFloat.finite.injEq, BitVec.toNat_ofNat]
  exact ⟨rfl, by omega, rfl⟩

/-- The place of the exponent among the bits. -/
theorem exponent_add_offset (exponent : Int) :
    exponent + Format.binary64.exponentBias + (52 : Nat) = exponent + 1075 :=
  add_assoc exponent 1023 52

/-- What is packed from a canonical mantissa and exponent is unpacked again. -/
theorem unpack_pack_finite (canonical : Canonical mantissa exponent) (high : exponent ≤ 971) :
    (pack (.finite s mantissa exponent positive)).unpack =
      .finite s mantissa exponent positive := by
  obtain ⟨small, low, full⟩ := canonical
  have bits : Format.binary64.mantissaBits = 53 := rfl
  change UnpackedFloat.unpack .binary64 (UnpackedFloat.pack .binary64 _) = _
  simp only [UnpackedFloat.pack, exponent_add_offset]
  rw [if_neg (by omega), bits]
  split_ifs with normal
  · have full : 2 ^ 52 ≤ mantissa := (Nat.le_log2 positive.ne').mp (by omega)
    rw [unpack_packComponents_full positive full small (by omega) (by omega)]
    congr 1
    omega
  · have few : mantissa < 2 ^ 52 := by
      have below : mantissa.log2 < 53 := (Nat.log2_lt positive.ne').mpr small
      exact (Nat.log2_lt positive.ne').mp (by omega)
    rw [unpack_packComponents_least positive few]
    congr 1
    omega

/-- What is packed from too large an exponent is infinite. -/
theorem pack_finite_of_huge (huge : 971 < exponent) :
    pack (.finite s mantissa exponent positive) = pack (.infinity s) := by
  have same : UnpackedFloat.pack .binary64 (.finite s mantissa exponent positive) =
      UnpackedFloat.pack .binary64 (.infinity s) := by
    simp only [UnpackedFloat.pack, exponent_add_offset]
    rw [if_pos (by omega)]
  simp only [Float.Model.pack, same]

/-- A packed zero is unpacked again. -/
theorem unpack_pack_zero (s : Sign) : (pack (.zero s)).unpack = .zero s := by
  cases s <;> rfl

end Bits

section Numbers

variable {s : Sign} {mantissa : Nat} {exponent : Int} {x : Float} {q : ℚ}

/-- What is packed from a canonical mantissa and exponent is unpacked again. -/
theorem unpack_pack_ofParts (canonical : Canonical mantissa exponent) (high : exponent ≤ 971) :
    (pack (ofParts s mantissa exponent)).unpack = ofParts s mantissa exponent := by
  unfold ofParts
  split_ifs
  · exact unpack_pack_finite canonical high
  · exact unpack_pack_zero s

/-- The number of a double with known parts. -/
theorem number?_of_unpack (canonical : Canonical mantissa exponent)
    (unpacked : x.toModel.unpack = ofParts s mantissa exponent) :
    number? x = some (signed s (mantissa * 2 ^ exponent)) ∧
      (magnitude x).mantissa = mantissa := by
  unfold ofParts at unpacked
  unfold number?
  change (if x.toModel.unpack.isNaN ∨ x.toModel.unpack.isInf then _ else _) = _ ∧ _
  split_ifs at unpacked with positive
  · obtain ⟨mantissaIs, exponentIs, sign, -⟩ := magnitude_of_unpack_finite unpacked
    simp [unpacked, UnpackedFloat.isNaN, UnpackedFloat.isInf, mantissaIs, exponentIs, sign]
  · obtain ⟨mantissaIs, -, sign⟩ := magnitude_of_unpack_zero unpacked
    obtain rfl : mantissa = 0 := Nat.eq_zero_of_not_pos positive
    simp [unpacked, UnpackedFloat.isNaN, UnpackedFloat.isInf, mantissaIs, sign]

/-- A double that stands for a number has a canonical mantissa and exponent. -/
theorem exists_unpack_of_number? (finite : number? x = some q) :
    ∃ s mantissa exponent, x.toModel.unpack = ofParts s mantissa exponent ∧
      Canonical mantissa exponent ∧ exponent ≤ 971 ∧
      q = signed s (mantissa * 2 ^ exponent) := by
  have parts : ∃ s mantissa exponent, x.toModel.unpack = ofParts s mantissa exponent ∧
      Canonical mantissa exponent ∧ exponent ≤ 971 := by
    cases unpacked : x.toModel.unpack with
    | infinity s =>
        have infinite : x.isInf = true := congrArg UnpackedFloat.isInf unpacked
        rw [number?, if_pos (.inr infinite)] at finite
        cases finite
    | notANumber =>
        have noNumber : x.isNaN = true := congrArg UnpackedFloat.isNaN unpacked
        rw [number?, if_pos (.inl noNumber)] at finite
        cases finite
    | zero s => exact ⟨s, 0, -1074, rfl, ⟨by decide, le_rfl, .inl rfl⟩, by decide⟩
    | finite s mantissa exponent positive =>
        obtain ⟨-, -, -, canonical, high⟩ := magnitude_of_unpack_finite unpacked
        exact ⟨s, mantissa, exponent, (dif_pos positive).symm, canonical, high⟩
  obtain ⟨s, mantissa, exponent, unpacked, canonical, high⟩ := parts
  have known := (number?_of_unpack canonical unpacked).1
  exact ⟨s, mantissa, exponent, unpacked, canonical, high,
    Option.some_injective _ (finite.symm.trans known)⟩

end Numbers

section Order

variable {m n : Nat} {e f : Int} {s t : Sign} {x y : Float} {a b : ℚ}

/-- A canonical number with a smaller exponent is smaller. -/
theorem Canonical.lt_of_exponent_lt (first : Canonical m e) (second : Canonical n f)
    (less : e < f) : (m : ℚ) * 2 ^ e < n * 2 ^ f := by
  have full : 2 ^ 52 ≤ n := second.full.resolve_left (by have := first.low; omega)
  calc (m : ℚ) * 2 ^ e < 2 ^ 53 * 2 ^ e := by
        have small : (m : ℚ) < 2 ^ 53 := by exact_mod_cast first.small
        gcongr
    _ = 2 ^ 52 * 2 ^ (e + 1) := by
        rw [zpow_add_one₀ (by norm_num)]
        ring
    _ ≤ 2 ^ 52 * 2 ^ f := by
        gcongr
        · norm_num
        · exact less
    _ ≤ n * 2 ^ f := by
        gcongr
        exact_mod_cast full

/-- Canonical numbers are ordered by their exponents and then by their mantissas. -/
theorem Canonical.le_iff (first : Canonical m e) (second : Canonical n f) :
    (m : ℚ) * 2 ^ e ≤ n * 2 ^ f ↔ e < f ∨ e = f ∧ m ≤ n := by
  rcases lt_trichotomy e f with less | rfl | more
  · simp [less, (first.lt_of_exponent_lt second less).le]
  · have unit : (0 : ℚ) < 2 ^ e := by positivity
    simp [unit]
  · have := second.lt_of_exponent_lt first more
    simp [this, not_lt_of_gt more, more.ne']

/-- Exponents are compared first, and then mantissas. -/
theorem isLE_then_compare_iff (e f : Int) (m n : Nat) :
    ((compare e f).then (compare m n)).isLE = true ↔ e < f ∨ e = f ∧ m ≤ n := by
  rcases lt_trichotomy e f with less | rfl | more
  · simp [Int.compare_eq_lt.mpr less, less]
  · simp [Nat.isLE_compare]
  · simp [Int.compare_eq_gt.mpr more, not_lt_of_gt more, more.ne']

/-- Doubles with canonical parts are ordered as the numbers that they stand for. -/
theorem le_ofParts_iff (first : Canonical m e) (second : Canonical n f) :
    (ofParts s m e).le (ofParts t n f) = true ↔
      signed s (m * 2 ^ e) ≤ signed t (n * 2 ^ f) := by
  have firstUnit : (0 : ℚ) < 2 ^ e := by positivity
  have secondUnit : (0 : ℚ) < 2 ^ f := by positivity
  have ascending := (isLE_then_compare_iff e f m n).trans (first.le_iff second).symm
  have descending := (isLE_then_compare_iff f e n m).trans (second.le_iff first).symm
  have swapped : ((compare e f).then (compare m n)).swap =
      (compare f e).then (compare n m) := by
    rw [Ordering.swap_then, Int.compare_swap, Nat.compare_swap]
  unfold ofParts
  split_ifs with firstPositive secondPositive secondPositive
  · have firstSize : (0 : ℚ) < m * 2 ^ e := by positivity
    have secondSize : (0 : ℚ) < n * 2 ^ f := by positivity
    cases s <;> cases t <;>
      simp only [UnpackedFloat.le, UnpackedFloat.compare, Option.any_some, swapped, ascending,
        descending, signed, neg_le_neg_iff]
    · simpa using (neg_lt_zero.mpr firstSize).le.trans secondSize.le
    · simpa using (neg_lt_zero.mpr secondSize).trans firstSize
  · have firstSize : (0 : ℚ) < m * 2 ^ e := by positivity
    obtain rfl : n = 0 := Nat.eq_zero_of_not_pos secondPositive
    simp only [Nat.cast_zero, zero_mul]
    generalize (m : ℚ) * 2 ^ e = size at firstSize
    cases s <;> cases t <;>
      simp [UnpackedFloat.le, UnpackedFloat.compare, signed, firstSize, firstSize.le]
  · have secondSize : (0 : ℚ) < n * 2 ^ f := by positivity
    obtain rfl : m = 0 := Nat.eq_zero_of_not_pos firstPositive
    simp only [Nat.cast_zero, zero_mul]
    generalize (n : ℚ) * 2 ^ f = size at secondSize
    cases s <;> cases t <;>
      simp [UnpackedFloat.le, UnpackedFloat.compare, signed, secondSize, secondSize.le]
  · obtain rfl : m = 0 := Nat.eq_zero_of_not_pos firstPositive
    obtain rfl : n = 0 := Nat.eq_zero_of_not_pos secondPositive
    cases s <;> cases t <;> simp [UnpackedFloat.le, UnpackedFloat.compare, signed]

/-- Doubles are ordered as the numbers that they stand for. -/
theorem le_iff_of_number? (first : number? x = some a) (second : number? y = some b) :
    x ≤ y ↔ a ≤ b := by
  obtain ⟨s, m, e, firstParts, firstCanonical, -, rfl⟩ := exists_unpack_of_number? first
  obtain ⟨t, n, f, secondParts, secondCanonical, -, rfl⟩ := exists_unpack_of_number? second
  rw [← le_ofParts_iff firstCanonical secondCanonical, ← firstParts, ← secondParts]
  exact decide_eq_true_iff

/-- A double between two that stand for numbers stands for a number. -/
theorem exists_number?_of_le {low high : Float} (lowNumber : number? low = some a)
    (highNumber : number? high = some b) (above : low ≤ x) (below : x ≤ high) :
    ∃ q, number? x = some q := by
  obtain ⟨s, m, e, lowParts, -⟩ := exists_unpack_of_number? lowNumber
  obtain ⟨t, n, f, highParts, -⟩ := exists_unpack_of_number? highNumber
  have above : (ofParts s m e).le x.toModel.unpack = true := by
    rw [← lowParts]
    exact of_decide_eq_true above
  have below : x.toModel.unpack.le (ofParts t n f) = true := by
    rw [← highParts]
    exact of_decide_eq_true below
  unfold number?
  change ∃ q, (if x.toModel.unpack.isNaN ∨ x.toModel.unpack.isInf then _ else _) = _
  cases unpacked : x.toModel.unpack with
  | zero sign => exact ⟨_, rfl⟩
  | finite sign mantissa exponent positive => exact ⟨_, rfl⟩
  | notANumber =>
      rw [unpacked] at above
      unfold ofParts at above
      split_ifs at above <;> simp [UnpackedFloat.le, UnpackedFloat.compare] at above
  | infinity sign =>
      rw [unpacked] at above below
      unfold ofParts at above below
      cases sign with
      | negative =>
          split_ifs at above <;> simp [UnpackedFloat.le, UnpackedFloat.compare] at above
      | positive =>
          split_ifs at below <;> simp [UnpackedFloat.le, UnpackedFloat.compare] at below

/-- A double lies between two that stand for numbers exactly if it stands for a number between
theirs. -/
theorem between_iff {low high : Float} (lowNumber : number? low = some a)
    (highNumber : number? high = some b) :
    low ≤ x ∧ x ≤ high ↔ ∃ q, number? x = some q ∧ a ≤ q ∧ q ≤ b := by
  constructor
  · rintro ⟨above, below⟩
    obtain ⟨q, known⟩ := exists_number?_of_le lowNumber highNumber above below
    exact ⟨q, known, (le_iff_of_number? lowNumber known).mp above,
      (le_iff_of_number? known highNumber).mp below⟩
  · rintro ⟨q, known, above, below⟩
    exact ⟨(le_iff_of_number? lowNumber known).mpr above,
      (le_iff_of_number? known highNumber).mpr below⟩

end Order

end MeshConsole.Decimal
