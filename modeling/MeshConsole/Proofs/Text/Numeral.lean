/-
This file relates the texts of numbers to their values: what a numeral of a base is, that a written
number is a numeral of its value, and that exactly the numerals are read.
-/

import Mathlib.Data.List.Forall2
import Mathlib.Data.Nat.Digits.Defs
import MeshConsole.Text.Blank
import MeshConsole.Text.Digits

namespace MeshConsole.Text

/-- The digits of all bases up to 36, in order. -/
def digitLetters : List Char := "0123456789abcdefghijklmnopqrstuvwxyz".toList

/-- The character is the digit of a base with this value. Letters count in either case. -/
def IsDigit (base : Nat) (c : Char) (value : Nat) : Prop :=
  digitLetters.idxOf? c.toLower = some value ∧ value < base

instance (base : Nat) (c : Char) (value : Nat) : Decidable (IsDigit base c value) :=
  inferInstanceAs (Decidable (_ ∧ _))

/-- One or more digits of a base, the most significant first, denote a value. -/
def Numeral (base : Nat) (text : List Char) (value : Nat) : Prop :=
  text ≠ [] ∧ ∃ places, List.Forall₂ (IsDigit base) text places ∧
    Nat.ofDigits base places.reverse = value

/-- A numeral denotes its value, also with one plus sign in front. -/
def Denotes (base : Nat) (text : List Char) (value : Nat) : Prop :=
  Numeral base text value ∨ ∃ rest, text = '+' :: rest ∧ Numeral base rest value

/-- The place of an ASCII character among the digits. -/
theorem place_ascii : ∀ code < 128, digitLetters.idxOf? (Char.ofNat code).toLower =
    if 48 ≤ code ∧ code ≤ 57 then some (code - 48)
    else if 65 ≤ code ∧ code ≤ 90 then some (code - 55)
    else if 97 ≤ code ∧ code ≤ 122 then some (code - 87)
    else none := by
  decide +kernel

/-- No other character is a digit. -/
theorem place_beyond {c : Char} (beyond : 128 ≤ c.toNat) :
    digitLetters.idxOf? c.toLower = none := by
  have letters : digitLetters.all (fun letter => letter.toNat < 128) = true := by decide
  have same : c.toLower = c := by
    apply dif_neg
    rintro ⟨-, capital⟩
    have small : c.toNat ≤ 90 := UInt32.le_iff_toNat_le.mp capital
    omega
  rw [List.idxOf?_eq_none_iff, same]
  intro member
  exact absurd (of_decide_eq_true (List.all_eq_true.mp letters c member)) (Nat.not_lt.mpr beyond)

/-- Every digit is an ASCII character. -/
theorem IsDigit.ascii {base value : Nat} {c : Char} (digit : IsDigit base c value) :
    c.toNat < 128 := by
  by_contra beyond
  have noDigit := place_beyond (Nat.not_lt.mp beyond)
  exact Option.some_ne_none value (digit.1.symm.trans noDigit)

/-- What holds of all ASCII digits of a base holds of every digit. -/
@[elab_as_elim]
theorem IsDigit.of_ascii {base : Nat} {holds : Char → Nat → Prop} {c : Char} {place : Nat}
    (digit : IsDigit base c place)
    (ascii : ∀ code < 128, ∀ place < base, IsDigit base (Char.ofNat code) place →
      holds (Char.ofNat code) place) : holds c place := by
  have known := ascii c.toNat digit.ascii place digit.2
  rw [Char.ofNat_toNat] at known
  exact known digit

/-- The values of digits are below the base. -/
theorem place_lt {base : Nat} {text : List Char} {places : List Nat}
    (digits : List.Forall₂ (IsDigit base) text places) : ∀ place ∈ places, place < base := by
  induction digits with
  | nil => exact fun place member => absurd member List.not_mem_nil
  | cons digit _ ih => exact List.forall_mem_cons.mpr ⟨digit.2, ih⟩

/-- Every character of a numeral is a digit. -/
theorem Numeral.isDigit_of_mem {base value : Nat} {text : List Char} {c : Char}
    (numeral : Numeral base text value) (member : c ∈ text) : ∃ place, IsDigit base c place := by
  obtain ⟨-, places, digits, -⟩ := numeral
  induction digits with
  | nil => exact absurd member List.not_mem_nil
  | cons digit _ ih =>
      rcases List.mem_cons.mp member with rfl | member
      · exact ⟨_, digit⟩
      · exact ih member

/-- No character of a numeral is blank. -/
theorem Numeral.isBlank_of_mem {base value : Nat} {text : List Char} {c : Char}
    (numeral : Numeral base text value) (member : c ∈ text) : isBlank c = false := by
  have letters : ∀ code < 128, (digitLetters.idxOf? (Char.ofNat code).toLower).isSome →
      isBlank (Char.ofNat code) = false := by
    decide +kernel
  obtain ⟨place, digit⟩ := numeral.isDigit_of_mem member
  have visible := letters c.toNat digit.ascii
  rw [Char.ofNat_toNat, digit.1] at visible
  exact visible rfl

/-- The value of a character is its place among the digits of the base. -/
theorem digitValue?_eq_some_iff (base : Nat) (c : Char) (value : Nat) :
    digitValue? base c = some value ↔ IsDigit base c value := by
  have place : digitLetters.idxOf? c.toLower =
      if 48 ≤ c.toNat ∧ c.toNat ≤ 57 then some (c.toNat - 48)
      else if 65 ≤ c.toNat ∧ c.toNat ≤ 90 then some (c.toNat - 55)
      else if 97 ≤ c.toNat ∧ c.toNat ≤ 122 then some (c.toNat - 87)
      else none := by
    by_cases ascii : c.toNat < 128
    · rw [← place_ascii c.toNat ascii, Char.ofNat_toNat]
    · rw [place_beyond (Nat.not_lt.mp ascii), if_neg (by omega), if_neg (by omega),
        if_neg (by omega)]
  rw [IsDigit, place, digitValue?]
  grind

/-- The value of digits is gathered from the most significant one on. -/
theorem ofDigits_reverse (base : Nat) (places : List Nat) :
    Nat.ofDigits base places.reverse =
      places.foldl (fun value place => value * base + place) 0 := by
  rw [Nat.ofDigits_eq_foldr, List.foldr_reverse]
  congr
  funext value place
  rw [Nat.cast_id, Nat.mul_comm, Nat.add_comm]

/-- Digits denote less than the power of the base with as many factors as there are digits. -/
theorem ofDigits_lt_pow {base : Nat} (large : 1 < base) {text : List Char} {places : List Nat}
    (digits : List.Forall₂ (IsDigit base) text places) :
    Nat.ofDigits base places.reverse < base ^ text.length := by
  rw [digits.length_eq, ← List.length_reverse]
  refine Nat.ofDigits_lt_base_pow_length large fun place member => ?_
  exact place_lt digits place (List.mem_reverse.mp member)

/-- More digits never make a value smaller. -/
theorem le_foldl_digits {base : Nat} (positive : 0 < base) (places : List Nat) (start : Nat) :
    start ≤ places.foldl (fun value place => value * base + place) start := by
  induction places generalizing start with
  | nil => exact Nat.le_refl start
  | cons place rest ih =>
      calc start ≤ start * base := Nat.le_mul_of_pos_right start positive
        _ ≤ start * base + place := Nat.le_add_right ..
        _ ≤ _ := ih _

/-- The reader goes on from the value of the digits before. -/
theorem readDigitsFrom?_eq_some_iff (base start : Nat) (text : List Char) (value : Nat) :
    readDigitsFrom? base start text = some value ↔
      ∃ places, List.Forall₂ (IsDigit base) text places ∧
        places.foldl (fun value place => value * base + place) start = value := by
  induction text generalizing start with
  | nil => simp [readDigitsFrom?]
  | cons c rest ih =>
      rw [readDigitsFrom?]
      cases digit : digitValue? base c with
      | none =>
          have noDigit (place : Nat) : ¬ IsDigit base c place := by
            rw [← digitValue?_eq_some_iff, digit]
            exact Option.some_ne_none place |>.symm
          simp [List.forall₂_cons_left_iff, noDigit]
      | some place =>
          have same (other : Nat) : IsDigit base c other ↔ place = other := by
            rw [← digitValue?_eq_some_iff, digit, Option.some.injEq]
          simp [ih, List.forall₂_cons_left_iff, same]

/-- Exactly the numerals of the base are read. -/
theorem readDigits?_eq_some_iff (base : Nat) (text : List Char) (value : Nat) :
    readDigits? base text = some value ↔ Numeral base text value := by
  cases text with
  | nil => simp [readDigits?, Numeral]
  | cons c rest => simp [readDigits?, Numeral, readDigitsFrom?_eq_some_iff, ofDigits_reverse]

/-- A numeral does not start with a plus sign. -/
theorem Numeral.head_ne_plus {base value : Nat} {rest : List Char} :
    ¬ Numeral base ('+' :: rest) value := by
  rintro ⟨-, places, digits, -⟩
  obtain ⟨place, -, ⟨plus, -⟩, -⟩ := List.forall₂_cons_left_iff.mp digits
  have noDigit : digitLetters.idxOf? '+'.toLower = none := by decide
  exact Option.some_ne_none place (plus.symm.trans noDigit)

/-- Exactly what denotes a number below the bound is read. -/
theorem readNatural?_eq_some_iff (base bound : Nat) (text : List Char) (value : Nat) :
    readNatural? base bound text = some value ↔ value < bound ∧ Denotes base text value := by
  have bounded (body : List Char) :
      (readDigits? base body).filter (· < bound) = some value ↔
        value < bound ∧ Numeral base body value := by
    rw [Option.filter_eq_some_iff, readDigits?_eq_some_iff, decide_eq_true_eq, and_comm]
  unfold readNatural? Denotes
  split
  case h_1 rest => simp [bounded, Numeral.head_ne_plus]
  case h_2 noPlus =>
    rw [bounded]
    refine and_congr_right fun _ => (or_iff_left ?_).symm
    rintro ⟨rest, plus, -⟩
    exact noPlus rest plus

/-- What a text denotes is limited by the number of its characters. -/
theorem Denotes.lt_pow {base value : Nat} {text : List Char} (denotes : Denotes base text value)
    (large : 1 < base) : value < base ^ text.length := by
  have bound {text : List Char} (numeral : Numeral base text value) :
      value < base ^ text.length := by
    obtain ⟨-, places, digits, rfl⟩ := numeral
    exact ofDigits_lt_pow large digits
  rcases denotes with numeral | ⟨rest, rfl, numeral⟩
  · exact bound numeral
  · apply Nat.lt_of_lt_of_le (bound numeral)
    exact Nat.pow_le_pow_right (by omega) (Nat.le_succ rest.length)

/-- The digits of a number have its value. -/
theorem ofDigits_digits (base n : Nat) : Nat.ofDigits base (digits base n).reverse = n := by
  rw [ofDigits_reverse]
  induction n using digits.induct base with
  | case1 n more ih =>
      rw [digits, if_pos more, List.foldl_append, ih]
      exact Nat.div_add_mod' n base
  | case2 n single => simp [digits, single]

/-- Every digit is below the base. -/
theorem digits_lt {base : Nat} (large : 2 ≤ base) (n : Nat) : ∀ place ∈ digits base n,
    place < base := by
  induction n using digits.induct base with
  | case1 n more ih =>
      rw [digits, if_pos more]
      intro place member
      rcases List.mem_append.mp member with member | last
      · exact ih place member
      · rw [List.mem_singleton.mp last]
        exact Nat.mod_lt n (by omega)
  | case2 n single =>
      rw [digits, if_neg single]
      intro place member
      rw [List.mem_singleton.mp member]
      omega

/-- A number has at least one digit. -/
theorem digits_ne_nil (base n : Nat) : digits base n ≠ [] := by
  rw [digits]
  split <;> simp

/-- The first digit of a positive number is not zero. -/
theorem head?_digits_ne_zero {base n : Nat} (positive : 0 < n) :
    (digits base n).head? ≠ some 0 := by
  induction n using digits.induct base with
  | case1 n more ih =>
      rw [digits, if_pos more, List.head?_append_of_ne_nil _ (digits_ne_nil base _)]
      exact ih (Nat.div_pos more.2 (by omega))
  | case2 n single =>
      rw [digits, if_neg single, List.head?_cons, ne_eq, Option.some.injEq]
      exact positive.ne'

/-- A number below a power of the base has no more digits than the power has factors. -/
theorem length_digits_le {base width n : Nat} (wide : 0 < width) (small : n < base ^ width) :
    (digits base n).length ≤ width := by
  induction n using digits.induct base generalizing width with
  | case1 n more ih =>
      obtain ⟨width, rfl⟩ : ∃ shorter, width = shorter + 1 := ⟨width - 1, by omega⟩
      have quotient : n / base < base ^ width := by
        rw [Nat.div_lt_iff_lt_mul (by omega)]
        simpa [Nat.pow_succ] using small
      have still : 0 < width := by
        refine Nat.pos_of_ne_zero fun none => ?_
        rw [none, Nat.zero_add, Nat.pow_one] at small
        omega
      have shorter := ih still quotient
      rw [digits, if_pos more, List.length_append, List.length_singleton]
      omega
  | case2 n single =>
      rw [digits, if_neg single]
      exact wide

/-- The character of a value is the digit with this value. -/
theorem isDigit_upperDigit {base place : Nat} (known : base ≤ 36) (small : place < base) :
    IsDigit base (upperDigit place) place := by
  have letters : ∀ place < 36, digitLetters.idxOf? (upperDigit place).toLower = some place := by
    decide +kernel
  exact ⟨letters place (by omega), small⟩

/-- Written digits are digits with the given values. -/
theorem forall₂_upperDigit {base : Nat} (known : base ≤ 36) {places : List Nat}
    (small : ∀ place ∈ places, place < base) :
    List.Forall₂ (IsDigit base) (places.map upperDigit) places := by
  rw [List.forall₂_map_left_iff, List.forall₂_same]
  exact fun place member => isDigit_upperDigit known (small place member)

/-- A written number is a numeral of its value. -/
theorem numeral_digits {base : Nat} (large : 2 ≤ base) (known : base ≤ 36) (n : Nat) :
    Numeral base ((digits base n).map upperDigit) n :=
  ⟨by simp [digits_ne_nil], digits base n, forall₂_upperDigit known (digits_lt large n),
    ofDigits_digits base n⟩

/-- A number in decimal digits is a numeral of its value. -/
theorem numeral_decimal (n : Nat) : Numeral 10 (decimal n) n :=
  numeral_digits (by decide) (by decide) n

/-- The decimal digits of a number are its usual text. -/
theorem toList_toString (n : Nat) : (toString n).toList = decimal n := by
  have digit : ∀ place < 10, Nat.digitChar place = upperDigit place := by decide
  rw [Nat.toString_eq_repr, Nat.toList_repr, decimal]
  induction n using digits.induct 10 with
  | case1 n more ih =>
      rw [digits, if_pos more, List.map_append, ← ih, Nat.toDigits_of_base_le (by decide) more.2,
        digit _ (Nat.mod_lt n (by decide))]
      rfl
  | case2 n single =>
      have small : n < 10 := by omega
      rw [digits, if_neg single, Nat.toDigits_of_lt_base small, digit n small]
      rfl

/-- Different numbers are written differently. -/
theorem decimal_injective : Function.Injective decimal := by
  intro first second same
  have readFirst := (readDigits?_eq_some_iff 10 _ _).mpr (numeral_decimal first)
  have readSecond := (readDigits?_eq_some_iff 10 _ _).mpr (numeral_decimal second)
  rw [same] at readFirst
  exact Option.some.inj (readFirst.symm.trans readSecond)

/-- A number in hexadecimal digits is a numeral of its value. -/
theorem numeral_upperHex (n : Nat) : Numeral 16 (upperHex n) n :=
  numeral_digits (by decide) (by decide) n

/-- Zeros in front are digits too. -/
theorem forall₂_padLeft {base : Nat} (large : 0 < base) {text : List Char} {places : List Nat}
    (digits : List.Forall₂ (IsDigit base) text places) (width : Nat) :
    List.Forall₂ (IsDigit base) (padLeft width '0' text)
      (List.replicate (width - text.length) 0 ++ places) := by
  have zero : IsDigit base '0' 0 := ⟨by decide, large⟩
  rw [padLeft]
  induction width - text.length with
  | zero => exact digits
  | succ count ih => exact .cons zero ih

/-- Zeros in front do not change the value of a numeral. -/
theorem Numeral.padLeft {base value : Nat} {text : List Char} (numeral : Numeral base text value)
    (large : 0 < base) (width : Nat) : Numeral base (Text.padLeft width '0' text) value := by
  obtain ⟨some, places, digits, rfl⟩ := numeral
  refine ⟨by simp [Text.padLeft, some], _, forall₂_padLeft large digits width, ?_⟩
  rw [List.reverse_append, List.reverse_replicate, Nat.ofDigits_append_replicate_zero]

/-- Two lists of digits with one value are written alike once both are filled up with zeros. -/
theorem padLeft_upperDigit_eq {base width : Nat} (large : 1 < base) {first second : List Nat}
    (firstSmall : ∀ place ∈ first, place < base) (secondSmall : ∀ place ∈ second, place < base)
    (firstFits : first.length ≤ width) (secondFits : second.length ≤ width)
    (same : Nat.ofDigits base first.reverse = Nat.ofDigits base second.reverse) :
    padLeft width '0' (first.map upperDigit) = padLeft width '0' (second.map upperDigit) := by
  have filled (places : List Nat) : padLeft width '0' (places.map upperDigit) =
      (places.reverse ++ List.replicate (width - places.length) 0).reverse.map upperDigit := by
    have zero : upperDigit 0 = '0' := by decide
    simp [padLeft, zero]
  have small {places : List Nat} (small : ∀ place ∈ places, place < base) (zeros : Nat) :
      ∀ place ∈ places.reverse ++ List.replicate zeros 0, place < base := by
    intro place member
    rcases List.mem_append.mp member with member | zero
    · exact small place (List.mem_reverse.mp member)
    · rw [List.eq_of_mem_replicate zero]
      omega
  rw [filled, filled]
  refine congrArg (fun places => places.reverse.map upperDigit)
    (Nat.ofDigits_inj_of_len_eq large ?_ (small firstSmall _) (small secondSmall _) ?_)
  · simp only [List.length_append, List.length_reverse, List.length_replicate]
    omega
  · rw [Nat.ofDigits_append_replicate_zero, Nat.ofDigits_append_replicate_zero, same]

end MeshConsole.Text
