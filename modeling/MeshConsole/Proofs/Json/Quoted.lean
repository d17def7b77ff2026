/-
This file shows that a quoted string reads back as the string, whatever characters it holds.
-/

import Mathlib.Tactic.SplitIfs
import MeshConsole.Json.Printer
import MeshConsole.Json.Reader

namespace MeshConsole.Json

variable {fuel : Nat} {text rest after : List Char}

/-- A backslash and a letter stand for one character. -/
theorem readString?_short {c letter : Char} {text : Option (List Char)}
    (known : shortEscape? letter = some c) (read : readString? fuel rest = some (text, after)) :
    readString? (fuel + 1) ('\\' :: letter :: rest) = some (text.map (c :: ·), after) := by
  have other : letter ≠ 'u' := by
    rintro rfl
    exact Option.some_ne_none c (known.symm.trans rfl)
  rw [readString?.eq_5 fuel letter rest other, known, read]
  rfl

/-- A control character stands as its four hexadecimal digits. -/
theorem readString?_control {c : Char} (control : c.toNat < 32)
    (read : readString? fuel rest = some (some text, after)) :
    readString? (fuel + 1)
        ('\\' :: 'u' :: '0' :: '0' :: Text.lowerDigit (c.toNat / 16) ::
          Text.lowerDigit (c.toNat % 16) :: rest) =
      some (some (c :: text), after) := by
  have units : ∀ code < 32, Text.readDigits? 16
      ['0', '0', Text.lowerDigit (code / 16), Text.lowerDigit (code % 16)] = some code := by
    decide
  have leading : isLeading c.toNat = false := by
    simp only [isLeading, Bool.and_eq_false_iff, decide_eq_false_iff_not]
    omega
  have trailing : isTrailing c.toNat = false := by
    simp only [isTrailing, Bool.and_eq_false_iff, decide_eq_false_iff_not]
    omega
  rw [readString?, readUnit?, units c.toNat control]
  simp [leading, trailing, read, Char.ofNat_toNat]

/-- A character that needs no escape stands for itself. -/
theorem readString?_plain {c : Char} {text : Option (List Char)} (quote : c ≠ '"')
    (backslash : c ≠ '\\') (printable : 32 ≤ c.toNat)
    (read : readString? fuel rest = some (text, after)) :
    readString? (fuel + 1) (c :: rest) = some (text.map (c :: ·), after) := by
  rw [readString?.eq_6 fuel c rest quote (fun _ same => absurd same backslash)
    (fun _ _ same => absurd same backslash),
    if_neg (not_or.mpr ⟨Nat.not_lt.mpr printable, backslash⟩), read]
  rfl

/-- An escaped character reads back as the character. -/
theorem readString?_escapeChar (c : Char)
    (read : readString? fuel rest = some (some text, after)) :
    readString? (fuel + 1) (escapeChar c ++ rest) = some (some (c :: text), after) := by
  have named {code : Nat} (same : c.toNat = code) : Char.ofNat code = c := by
    rw [← same, Char.ofNat_toNat]
  unfold escapeChar
  split_ifs with quote backslash newline return' tab backspace formFeed control
  · exact readString?_short (by rw [quote]; rfl) read
  · exact readString?_short (by rw [backslash]; rfl) read
  · exact readString?_short (by rw [newline]; rfl) read
  · exact readString?_short (by rw [return']; rfl) read
  · exact readString?_short (by rw [tab]; rfl) read
  · have known : shortEscape? 'b' = some c := congrArg some (named backspace)
    exact readString?_short known read
  · have known : shortEscape? 'f' = some c := congrArg some (named formFeed)
    exact readString?_short known read
  · exact readString?_control control read
  · exact readString?_plain quote backslash (by omega) read

/-- Escaped characters up to a quote read back as the characters. -/
theorem readString?_escaped (cs rest : List Char) (fuel : Nat) (enough : cs.length < fuel) :
    readString? fuel (cs.flatMap escapeChar ++ '"' :: rest) = some (some cs, rest) := by
  induction cs generalizing fuel with
  | nil =>
      obtain ⟨fuel, rfl⟩ := Nat.exists_eq_add_one.mpr enough
      rw [List.flatMap_nil, List.nil_append, readString?]
  | cons c cs ih =>
      obtain ⟨fuel, rfl⟩ := Nat.exists_eq_add_one.mpr (Nat.zero_lt_of_lt enough)
      rw [List.flatMap_cons, List.append_assoc]
      exact readString?_escapeChar c (ih fuel (by simpa using enough))

/-- No character is escaped to nothing. -/
theorem length_le_escaped (cs : List Char) : cs.length ≤ (cs.flatMap escapeChar).length := by
  have nonempty (c : Char) : 0 < (escapeChar c).length := by
    unfold escapeChar
    split_ifs <;> exact Nat.zero_lt_succ _
  induction cs with
  | nil => exact Nat.le_refl 0
  | cons c cs ih =>
      rw [List.flatMap_cons, List.length_append, List.length_cons]
      have := nonempty c
      omega

end MeshConsole.Json
