/-
This file decodes queries in the form of browsers. The main statements are that decoding gives back
the encoded pairs, and that encoded pairs hold no other characters than those of the form.
-/

import Mathlib.Data.List.Basic
import MeshConsole.Proofs.Text.Splitting
import MeshConsole.Text.FormEncoding

namespace MeshConsole.Text

/-- A percent sign before two hexadecimal digits stands for a byte. Every other character stands
for its own bytes. -/
def percentBytes : List Char → List UInt8
  | '%' :: high :: low :: rest =>
    match readDigits? 16 [high, low] with
    | some byte => UInt8.ofNat byte :: percentBytes rest
    | none => 37 :: percentBytes (high :: low :: rest)
  | c :: rest => String.utf8EncodeChar c ++ percentBytes rest
  | [] => []

/-- The text that a piece of an address stands for, if its bytes are UTF-8. -/
def decodePercent? (piece : List Char) : Option String :=
  String.fromUTF8? (percentBytes piece).toByteArray

/-- In form data a plus sign stands for a space. -/
def plusToSpace (c : Char) : Char := if c = '+' then ' ' else c

/-- The text of a name or value of form data. -/
def decodeForm? (piece : List Char) : Option String :=
  decodePercent? (piece.map plusToSpace)

/-- The name of a pair stands before the first equals sign and its value behind it. -/
def decodePair? (piece : List Char) : Option (String × String) := do
  let name ← decodeForm? (piece.takeWhile (· ≠ '='))
  let value ← decodeForm? ((piece.dropWhile (· ≠ '=')).drop 1)
  pure (name, value)

/-- The pairs of a query stand between ampersands. -/
def decodePairs? (query : String) : Option (List (String × String)) :=
  ((splitAt '&' query.toList).filter (· ≠ [])).mapM decodePair?

/-- Only these characters stand in a name or value of form data. -/
def IsFormCharacter (c : Char) : Prop := c.isAlphanum = true ∨ c ∈ "*-._+%".toList

instance (c : Char) : Decidable (IsFormCharacter c) := inferInstanceAs (Decidable (_ ∨ _))

section Bytes

/-- A character other than a percent sign stands for its own bytes. -/
theorem percentBytes_cons {c : Char} (other : c ≠ '%') (rest : List Char) :
    percentBytes (c :: rest) = String.utf8EncodeChar c ++ percentBytes rest := by
  rw [percentBytes]
  intro high low more same
  exact absurd same other

/-- A percent sign and the two digits of a byte stand for the byte. -/
theorem percentBytes_percent {high low : Char} {byte : Nat}
    (digits : readDigits? 16 [high, low] = some byte) (rest : List Char) :
    percentBytes ('%' :: high :: low :: rest) = UInt8.ofNat byte :: percentBytes rest := by
  rw [percentBytes]
  simp only [digits]

/-- An encoded byte is decoded as the byte. -/
theorem percentBytes_encodeByte (byte : UInt8) (rest : List Char) :
    percentBytes ((encodeByte byte).map plusToSpace ++ rest) = byte :: percentBytes rest := by
  have kept : ∀ code < 256, isKept (UInt8.ofNat code) = true →
      plusToSpace (Char.ofNat code) = Char.ofNat code ∧ Char.ofNat code ≠ '%' ∧
        String.utf8EncodeChar (Char.ofNat code) = [UInt8.ofNat code] := by
    decide +kernel
  have escaped : ∀ code < 256,
      plusToSpace (upperDigit (code / 16)) = upperDigit (code / 16) ∧
        plusToSpace (upperDigit (code % 16)) = upperDigit (code % 16) ∧
          readDigits? 16 [upperDigit (code / 16), upperDigit (code % 16)] = some code := by
    decide +kernel
  rw [encodeByte]
  split
  case isTrue keeps =>
    rw [← UInt8.ofNat_toNat (x := byte)] at keeps
    obtain ⟨plain, other, bytes⟩ := kept byte.toNat byte.toNat_lt keeps
    rw [List.map_singleton, plain, List.singleton_append, percentBytes_cons other, bytes,
      UInt8.ofNat_toNat, List.singleton_append]
  case isFalse =>
    split
    case isTrue space =>
      rw [space, List.map_singleton, List.singleton_append]
      exact percentBytes_cons (by decide) rest
    case isFalse =>
      obtain ⟨high, low, digits⟩ := escaped byte.toNat byte.toNat_lt
      simp only [List.map_cons, List.map_nil, high, low]
      exact (percentBytes_percent digits rest).trans (by rw [UInt8.ofNat_toNat])

/-- Encoded bytes are decoded as the bytes. -/
theorem percentBytes_encoded (bytes : List UInt8) :
    percentBytes ((bytes.flatMap encodeByte).map plusToSpace) = bytes := by
  induction bytes with
  | nil => rfl
  | cons byte rest ih =>
      rw [List.flatMap_cons, List.map_append, percentBytes_encodeByte, ih]

/-- An encoded byte is written in characters of form data. -/
theorem isFormCharacter_encodeByte (byte : UInt8) : ∀ c ∈ encodeByte byte, IsFormCharacter c := by
  have all : ∀ code < 256,
      (encodeByte (UInt8.ofNat code)).all (fun c => IsFormCharacter c) = true := by
    decide +kernel
  have written := all byte.toNat byte.toNat_lt
  rw [UInt8.ofNat_toNat] at written
  exact fun c member => of_decide_eq_true (List.all_eq_true.mp written c member)

end Bytes

section Pieces

/-- A piece is decoded as a text exactly if it stands for the bytes of the text. -/
theorem decodePercent?_eq_some_iff (piece cs : List Char) :
    decodePercent? piece = some (String.ofList cs) ↔
      percentBytes piece = cs.flatMap String.utf8EncodeChar := by
  have bytes : (String.ofList cs).toByteArray = (cs.flatMap String.utf8EncodeChar).toByteArray :=
    String.toByteArray_ofList
  rw [decodePercent?, String.fromUTF8?]
  constructor
  · intro decoded
    split at decoded
    case isTrue valid =>
      have same := congrArg String.toByteArray (Option.some.inj decoded)
      rw [bytes] at same
      exact List.toByteArray_inj.mp same
    case isFalse => exact absurd decoded.symm (Option.some_ne_none _)
  · intro same
    have valid : (percentBytes piece).toByteArray.IsValidUTF8 := by
      rw [same, ← bytes]
      exact String.isValidUTF8 _
    rw [dif_pos valid, Option.some.injEq, ← String.toByteArray_inj, bytes, ← same]
    rfl

/-- An encoded text is decoded as the text. -/
theorem decodeForm?_encodeForm (cs : List Char) :
    decodeForm? (encodeForm cs) = some (String.ofList cs) := by
  rw [decodeForm?, decodePercent?_eq_some_iff, encodeForm, percentBytes_encoded]

/-- An encoded text is written in characters of form data. -/
theorem isFormCharacter_encodeForm (cs : List Char) : ∀ c ∈ encodeForm cs, IsFormCharacter c := by
  intro c member
  obtain ⟨byte, -, written⟩ := List.mem_flatMap.mp member
  exact isFormCharacter_encodeByte byte c written

/-- No separator of form data stands in an encoded text. -/
theorem separator_not_mem_encodeForm {separator : Char}
    (noCharacter : ¬ IsFormCharacter separator) (cs : List Char) :
    separator ∉ encodeForm cs :=
  fun member => noCharacter (isFormCharacter_encodeForm cs separator member)

/-- An encoded pair is decoded as the pair. -/
theorem decodePair?_encodePair (pair : List Char × List Char) :
    decodePair? (encodePair pair) = some (String.ofList pair.1, String.ofList pair.2) := by
  have name : ∀ c ∈ encodeForm pair.1, (decide (c ≠ '=')) = true := by
    intro c member
    refine decide_eq_true ?_
    rintro rfl
    exact separator_not_mem_encodeForm (by decide) pair.1 member
  rw [decodePair?, encodePair, List.takeWhile_append_of_pos name, List.dropWhile_append_of_pos name]
  simp [decodeForm?_encodeForm]

/-- No ampersand stands in an encoded pair. -/
theorem ampersand_not_mem_encodePair (pair : List Char × List Char) : '&' ∉ encodePair pair := by
  rw [encodePair, List.mem_append, List.mem_cons, not_or, not_or]
  exact ⟨separator_not_mem_encodeForm (by decide) _, by decide,
    separator_not_mem_encodeForm (by decide) _⟩

end Pieces

section Queries

/-- Encoded pairs are cut at the ampersands between them. -/
theorem splitAt_encodePairs (first : List Char × List Char)
    (others : List (List Char × List Char)) :
    splitAt '&' (encodePairs (first :: others)) = (first :: others).map encodePair := by
  induction others generalizing first with
  | nil => exact splitAt_of_not_mem (ampersand_not_mem_encodePair first)
  | cons second later ih =>
      rw [encodePairs, splitAt_append,
        splitAt_of_not_mem (ampersand_not_mem_encodePair first), ih, List.map_cons]
      · rfl
      · exact List.cons_ne_nil second later

/-- Decoding a query gives back the pairs that were encoded. -/
theorem decodePairs?_encodePairs (pairs : List (List Char × List Char)) :
    decodePairs? (String.ofList (encodePairs pairs)) =
      some (pairs.map fun pair => (String.ofList pair.1, String.ofList pair.2)) := by
  have parts : (splitAt '&' (encodePairs pairs)).filter (· ≠ []) = pairs.map encodePair := by
    cases pairs with
    | nil => rfl
    | cons first others =>
        rw [splitAt_encodePairs, List.filter_eq_self]
        intro part member
        obtain ⟨pair, -, rfl⟩ := List.mem_map.mp member
        simp [encodePair]
  rw [decodePairs?, String.toList_ofList, parts]
  clear parts
  induction pairs with
  | nil => rfl
  | cons pair rest ih =>
      rw [List.map_cons, List.mapM_cons, decodePair?_encodePair, ih]
      rfl

/-- Different pairs are encoded differently. -/
theorem encodePairs_injective : Function.Injective encodePairs := by
  intro pairs pairs' same
  have texts : Function.Injective
      fun pair : List Char × List Char => (String.ofList pair.1, String.ofList pair.2) := by
    rintro ⟨name, value⟩ ⟨name', value'⟩ same
    rw [Prod.mk.injEq, String.ofList_inj, String.ofList_inj] at same
    exact Prod.ext same.1 same.2
  have decoded := decodePairs?_encodePairs pairs
  rw [same, decodePairs?_encodePairs, Option.some.injEq] at decoded
  exact (List.map_injective_iff.mpr texts decoded).symm

/-- Encoded pairs are written in characters of form data, equals signs and ampersands. -/
theorem encodePairs_characters (pairs : List (List Char × List Char)) :
    ∀ c ∈ encodePairs pairs, IsFormCharacter c ∨ c = '=' ∨ c = '&' := by
  have onePair : ∀ pair, ∀ c ∈ encodePair pair, IsFormCharacter c ∨ c = '=' ∨ c = '&' := by
    intro pair c member
    rw [encodePair, List.mem_append, List.mem_cons] at member
    rcases member with inName | sign | inValue
    · exact .inl (isFormCharacter_encodeForm pair.1 c inName)
    · exact .inr (.inl sign)
    · exact .inl (isFormCharacter_encodeForm pair.2 c inValue)
  fun_induction encodePairs pairs with
  | case1 => simp
  | case2 last => exact onePair last
  | case3 first rest _ ih =>
      intro c member
      rw [List.mem_append, List.mem_cons] at member
      rcases member with inFirst | sign | inRest
      · exact onePair first c inFirst
      · exact .inr (.inr sign)
      · exact ih c inRest

end Queries

end MeshConsole.Text
