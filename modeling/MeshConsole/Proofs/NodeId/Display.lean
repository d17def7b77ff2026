/-
This file relates the shown form of loose identifiers to their values. The main statement is that
the shown form of a number, and of a hexadecimal text with the mark 0x, reads back as its value, and
that showing a shown form changes nothing.
-/

import MeshConsole.NodeId
import MeshConsole.Proofs.Text.Numeral

namespace MeshConsole

open Text

/-- The capital form of a hexadecimal digit is the written digit with its value. -/
theorem upperChar_of_isDigit {c : Char} {place : Nat} (digit : IsDigit 16 c place) :
    upperChar c = [upperDigit place] :=
  digit.of_ascii (by decide +kernel)

/-- The capital form of hexadecimal digits is the written digits with their values. -/
theorem upperCase_of_digits {text : List Char} {places : List Nat}
    (digits : List.Forall₂ (IsDigit 16) text places) : upperCase text = places.map upperDigit := by
  induction digits with
  | nil => rfl
  | cons digit _ ih =>
      rw [upperCase, List.flatMap_cons, upperChar_of_isDigit digit]
      exact congrArg (_ :: ·) ih

/-- The capital form of a numeral has the same value. -/
theorem numeral_upperCase {text : List Char} {value : Nat} (numeral : Numeral 16 text value) :
    Numeral 16 (upperCase text) value := by
  obtain ⟨some, places, digits, rfl⟩ := numeral
  have capital : List.Forall₂ (IsDigit 16) (upperCase text) places := by
    rw [upperCase_of_digits digits]
    exact forall₂_upperDigit (by decide) (place_lt digits)
  have length : (upperCase text).length = text.length :=
    capital.length_eq.trans digits.length_eq.symm
  refine ⟨?_, places, capital, rfl⟩
  rw [← List.length_pos_iff, length]
  exact List.length_pos_iff.mpr some

/-- The shown form of a text with the mark 0x. -/
theorem display_hex (hex : String) : (LooseId.text ("0x" ++ hex)).display =
    String.ofList ('N' :: padLeft idWidth '0' (upperCase hex.toList)) := by
  have marked : ("0x" ++ hex).toList = '0' :: 'x' :: hex.toList := String.toList_append
  rw [LooseId.display, marked]
  rfl

/-- The letter N before a numeral of 64 bits reads as the number. -/
theorem ofText_of_numeral {text : List Char} {value : UInt64}
    (numeral : Numeral 16 text value.toNat) :
    LooseId.ofText (String.ofList ('N' :: text)) = .number value := by
  have read : readNatural? 16 UInt64.size text = some value.toNat :=
    (readNatural?_eq_some_iff ..).mpr ⟨value.toNat_lt_size, .inl numeral⟩
  simp only [LooseId.ofText, String.toList_ofList, read, UInt64.ofNat_toNat]

/-- A text that starts with the letter N is shown as it is. -/
theorem display_canonical (text : List Char) :
    (LooseId.text (String.ofList ('N' :: text))).display = String.ofList ('N' :: text) := by
  rw [LooseId.display, String.toList_ofList]
  rfl

/-- Showing the shown form of an identifier changes nothing. -/
theorem display_display (id : LooseId) : (LooseId.text id.display).display = id.display := by
  cases id with
  | number value => exact display_canonical _
  | text content =>
      by_cases marked : ∃ rest, content.toList = '0' :: 'x' :: rest
      · obtain ⟨rest, marked⟩ := marked
        have shown : (LooseId.text content).display =
            String.ofList ('N' :: padLeft idWidth '0' (upperCase rest)) := by
          rw [LooseId.display, marked]
          rfl
        rw [shown, display_canonical]
      · have same : (LooseId.text content).display = content := by
          simp only [LooseId.display]
          split
          case h_1 rest found => exact absurd ⟨rest, found⟩ marked
          case h_2 => rfl
        rw [same, same]

/-- At most six hexadecimal digits, written with capitals and filled up with zeros, are the number
that they denote, filled up likewise. -/
theorem padLeft_upperHex {text : List Char} {places : List Nat}
    (digits : List.Forall₂ (IsDigit 16) text places) (short : text.length ≤ idWidth) :
    padLeft idWidth '0' (places.map upperDigit) =
      padLeft idWidth '0' (upperHex (Nat.ofDigits 16 places.reverse)) := by
  have fits : places.length ≤ idWidth := digits.length_eq ▸ short
  have small : Nat.ofDigits 16 places.reverse < 16 ^ idWidth :=
    (ofDigits_lt_pow (by decide) digits).trans_le (Nat.pow_le_pow_right (by decide) short)
  exact padLeft_upperDigit_eq (by decide) (place_lt digits) (digits_lt (by decide) _) fits
    (length_digits_le (by decide) small) (ofDigits_digits 16 _).symm

/-- A hexadecimal text of at most six digits is shown as the number that it denotes. -/
theorem display_hex_eq {hex : String} {value : UInt64}
    (numeral : Numeral 16 hex.toList value.toNat) (short : hex.length ≤ idWidth) :
    (LooseId.text ("0x" ++ hex)).display = (LooseId.number value).display := by
  obtain ⟨-, places, digits, same⟩ := numeral
  rw [← String.length_toList] at short
  rw [display_hex, upperCase_of_digits digits, padLeft_upperHex digits short, same]
  rfl

/-- The shown form of a number reads back as the number. That of a hexadecimal text, in either case
and with the mark 0x, reads back as the number that the text denotes, and it is the shown form of
this number if the text has at most six digits. Showing a shown form changes nothing. -/
theorem looseId_display_roundTrip :
    (∀ value : UInt64, LooseId.ofText (LooseId.number value).display = .number value) ∧
    (∀ (hex : String) (value : UInt64), Numeral 16 hex.toList value.toNat →
      LooseId.ofText (LooseId.text ("0x" ++ hex)).display = .number value ∧
      (hex.length ≤ 6 →
        (LooseId.text ("0x" ++ hex)).display = (LooseId.number value).display)) ∧
    ∀ id : LooseId, (LooseId.text id.display).display = id.display := by
  refine ⟨fun value => ?_, fun hex value numeral => ⟨?_, display_hex_eq numeral⟩, display_display⟩
  · exact ofText_of_numeral ((numeral_upperHex value.toNat).padLeft (by decide) idWidth)
  · rw [display_hex]
    exact ofText_of_numeral ((numeral_upperCase numeral).padLeft (by decide) idWidth)

/-- A text of small and capital digits with leading zeros denotes a number and is shown like it. -/
theorem display_hex_mixed : Numeral 16 "0a1F".toList (0xA1F : UInt64).toNat ∧ "0a1F".length ≤ 6 ∧
    LooseId.ofText (LooseId.text ("0x" ++ "0a1F")).display = .number 0xA1F ∧
    (LooseId.text ("0x" ++ "0a1F")).display = (LooseId.number 0xA1F).display := by
  have numeral : Numeral 16 "0a1F".toList (0xA1F : UInt64).toNat :=
    (readDigits?_eq_some_iff ..).mp (by decide)
  have short : "0a1F".length ≤ 6 := by decide
  obtain ⟨read, shown⟩ := looseId_display_roundTrip.2.1 "0a1F" 0xA1F numeral
  exact ⟨numeral, short, read, shown short⟩

end MeshConsole
