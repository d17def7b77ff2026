/-
This file shows that printed whole numbers read back as the numbers.
-/

import Mathlib.Data.List.TakeDrop
import MeshConsole.Json.Printer
import MeshConsole.Json.Reader
import MeshConsole.Proofs.Text.Numeral

namespace MeshConsole.Json

/-- Behind a value stands a comma, a closing bracket or brace, or nothing. -/
def EndsValue (rest : List Char) : Prop := ∀ c ∈ rest.head?, c = ',' ∨ c = ']' ∨ c = '}'

section Digits

/-- No digit stands here. -/
def EndsDigits (rest : List Char) : Prop := ∀ c ∈ rest.head?, isDigit c = false

/-- Digits are cut off before anything that is no digit. -/
theorem span_append {digits rest : List Char} (all : ∀ c ∈ digits, isDigit c = true)
    (ends : EndsDigits rest) : (digits ++ rest).span isDigit = (digits, rest) := by
  have noDigit : rest.takeWhile isDigit = [] ∧ rest.dropWhile isDigit = rest := by
    cases rest with
    | nil => exact ⟨rfl, rfl⟩
    | cons c cs => simp [ends c rfl]
  rw [List.span_eq_takeWhile_dropWhile, List.takeWhile_append_of_pos all,
    List.dropWhile_append_of_pos all, noDigit.1, noDigit.2, List.append_nil]

/-- No digit stands behind a value. -/
theorem EndsValue.endsDigits {rest : List Char} (ends : EndsValue rest) : EndsDigits rest := by
  intro c first
  rcases ends c first with rfl | rfl | rfl <;> rfl

/-- A number is written in decimal digits. -/
theorem isDigit_decimal (n : Nat) : ∀ c ∈ Text.decimal n, isDigit c = true := by
  have digit : ∀ place < 10, isDigit (Text.upperDigit place) = true := by decide
  intro c written
  obtain ⟨place, member, rfl⟩ := List.mem_map.mp written
  exact digit place (Text.digits_lt (by decide) n place member)

/-- The digits of a number are read up to its end. -/
theorem span_decimal (n : Nat) {rest : List Char} (ends : EndsValue rest) :
    (Text.decimal n ++ rest).span isDigit = (Text.decimal n, rest) :=
  span_append (isDigit_decimal n) ends.endsDigits

/-- A number and the text behind it are known from the whole text. -/
theorem decimal_append_inj {n n' : Nat} {rest rest' : List Char} (ends : EndsValue rest)
    (ends' : EndsValue rest') (same : Text.decimal n ++ rest = Text.decimal n' ++ rest') :
    n = n' ∧ rest = rest' := by
  have cut := span_decimal n ends
  rw [same, span_decimal n' ends', Prod.mk.injEq] at cut
  exact ⟨Text.decimal_injective cut.1.symm, cut.2.symm⟩

/-- The digits of a value of 64 bits are all taken. -/
theorem takeDigits_digits {places : List Nat} (small : ∀ place ∈ places, place < 10)
    (start : Nat)
    (fits : places.foldl (fun value place => value * 10 + place) start < UInt64.size) :
    takeDigits start (places.map Text.upperDigit) =
      (places.foldl (fun value place => value * 10 + place) start, 0) := by
  induction places generalizing start with
  | nil => rfl
  | cons place rest ih =>
      rw [List.foldl_cons] at fits
      have digit : (Text.upperDigit place).toNat - 48 = place := by
        have decimal : ∀ place < 10, (Text.upperDigit place).toNat - 48 = place := by decide
        exact decimal place (small place List.mem_cons_self)
      have grows : start * 10 + place < UInt64.size :=
        Nat.lt_of_le_of_lt (Text.le_foldl_digits (by decide) rest _) fits
      rw [List.map_cons, takeDigits, digit]
      simp only [grows, if_true, List.foldl_cons]
      exact ih (fun place member => small place (List.mem_cons_of_mem _ member)) _ fits

/-- The digits of a whole number, with a minus sign or without, are read as its value. -/
theorem numberValue_digits (negative : Bool) (n : Nat) (bounded : n < UInt64.size)
    (signed : negative = true → 0 < n ∧ n ≤ 9223372036854775808) :
    numberValue negative (Text.decimal n) none none =
      some (.integer (if negative then -(n : Int) else n)) := by
  have value := Text.ofDigits_digits 10 n
  rw [Text.ofDigits_reverse] at value
  have taken := takeDigits_digits (Text.digits_lt (by decide) n) 0 (by rw [value]; exact bounded)
  rw [value] at taken
  have whole : negative = false ∨ 0 < n ∧ n ≤ 9223372036854775808 := by
    cases negative with
    | false => exact .inl rfl
    | true => exact .inr (signed rfl)
  rw [numberValue, Text.decimal, taken]
  simp [whole]

/-- A number has a digit. -/
theorem decimal_ne_nil (n : Nat) : Text.decimal n ≠ [] :=
  fun empty => Text.digits_ne_nil 10 n (List.map_eq_nil_iff.mp empty)

/-- The digits of a number are no digits with a needless zero. -/
theorem decimal_proper (n : Nat) : ¬ (Text.decimal n = [] ∨
    ((Text.decimal n).head? = some '0' ∧ 1 < (Text.decimal n).length)) := by
  rintro (empty | ⟨zero, long⟩)
  · exact decimal_ne_nil n empty
  · have positive : 0 < n := by
      refine Nat.pos_of_ne_zero ?_
      rintro rfl
      rw [Text.decimal, Text.digits, if_neg (by decide)] at long
      exact absurd long (by decide)
    rw [Text.decimal, List.head?_map, Option.map_eq_some_iff] at zero
    obtain ⟨place, first, zero⟩ := zero
    have small := Text.digits_lt (by decide) n place (List.mem_of_mem_head? first)
    have noZero : ∀ place < 10, Text.upperDigit place = '0' → place = 0 := by decide
    rw [noZero place small zero] at first
    exact Text.head?_digits_ne_zero positive first

end Digits

section Integers

/-- No fraction and no exponent stand behind a value. -/
theorem EndsValue.noFraction {rest : List Char} (ends : EndsValue rest) :
    readFraction? rest = some (none, rest) ∧ readExponent? rest = some (none, rest) := by
  cases rest with
  | nil => exact ⟨rfl, rfl⟩
  | cons c cs => rcases ends c rfl with rfl | rfl | rfl <;> exact ⟨rfl, rfl⟩

/-- Behind a sign the digits of a number are read. -/
theorem readNumber?_minus {whole rest body : List Char}
    (digits : body.span isDigit = (whole, rest))
    (proper : ¬ (whole = [] ∨ (whole.head? = some '0' ∧ 1 < whole.length)))
    (ends : EndsValue rest) :
    readNumber? ('-' :: body) = some (numberValue true whole none none, rest) := by
  rw [readNumber?]
  simp only [digits, if_neg proper, ends.noFraction, Option.bind_eq_bind, Option.bind_some]
  rfl

/-- Without a sign the digits of a number are read too. -/
theorem readNumber?_digits {whole rest body : List Char}
    (digits : body.span isDigit = (whole, rest)) (unsigned : body.head? ≠ some '-')
    (proper : ¬ (whole = [] ∨ (whole.head? = some '0' ∧ 1 < whole.length)))
    (ends : EndsValue rest) :
    readNumber? body = some (numberValue false whole none none, rest) := by
  unfold readNumber?
  split
  next negative rest same =>
    split at same
    · next body => exact absurd rfl unsigned
    · obtain ⟨rfl, rfl⟩ := Prod.mk.inj same
      simp only [digits, if_neg proper, ends.noFraction, Option.bind_eq_bind, Option.bind_some]
      rfl

/-- A printed whole number holds nothing but digits and a minus sign. -/
theorem mem_printInteger (value : Int) : ∀ c ∈ printInteger value, c = '-' ∨ isDigit c = true := by
  intro c member
  rw [printInteger] at member
  split at member
  case isTrue => exact (List.mem_cons.mp member).imp_right (isDigit_decimal _ c)
  case isFalse => exact .inr (isDigit_decimal _ c member)

/-- A printed whole number starts with a minus sign or a digit. -/
theorem printInteger_start (value : Int) :
    ∃ c cs, printInteger value = c :: cs ∧ (c = '-' ∨ isDigit c = true) := by
  have nonempty : printInteger value ≠ [] := by
    rw [printInteger]
    split
    · exact List.cons_ne_nil _ _
    · exact decimal_ne_nil _
  obtain ⟨c, cs, same⟩ := List.exists_cons_of_ne_nil nonempty
  exact ⟨c, cs, same, mem_printInteger value c (by simp [same])⟩

/-- A printed whole number of 64 bits is read as the number. -/
theorem readNumber?_printInteger {value : Int} (low : -9223372036854775808 ≤ value)
    (high : value < 18446744073709551616) {rest : List Char} (ends : EndsValue rest) :
    readNumber? (printInteger value ++ rest) = some (some (.integer value), rest) := by
  have digits := span_decimal value.natAbs ends
  have proper := decimal_proper value.natAbs
  rw [printInteger]
  split
  case isTrue negative =>
    rw [List.cons_append, readNumber?_minus digits proper ends,
      numberValue_digits true _ (by simp only [UInt64.size]; omega) (by omega)]
    congr
    simp only [if_true]
    omega
  case isFalse positive =>
    have unsigned : (Text.decimal value.natAbs ++ rest).head? ≠ some '-' := by
      obtain ⟨c, cs, same⟩ := List.exists_cons_of_ne_nil (decimal_ne_nil value.natAbs)
      have digit := isDigit_decimal value.natAbs c (by simp [same])
      rw [same, List.cons_append, List.head?_cons, ne_eq, Option.some.injEq]
      rintro rfl
      exact absurd digit (by decide)
    rw [readNumber?_digits digits unsigned proper ends,
      numberValue_digits false _ (by simp only [UInt64.size]; omega) (by simp)]
    congr
    simp only [Bool.false_eq_true, if_false]
    omega

end Integers

end MeshConsole.Json
