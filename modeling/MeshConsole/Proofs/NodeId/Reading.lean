/-
This file says which texts are read as node identifiers. The check of a form field takes the
canonical texts, with digits in either case. The loose reader takes the letter N before any
hexadecimal digits of a 64 bit number, and also one plus sign between them.
-/

import MeshConsole.Proofs.NodeId.Display

namespace MeshConsole

open Text

/-- The text is the letter N and six hexadecimal digits that denote the identifier. -/
def NodeId.IsWritten (content : String) (id : NodeId) : Prop :=
  ∃ hex, content.toList = 'N' :: hex ∧ hex.length = 6 ∧ Numeral 16 hex id.value.toNat

/-- The text is the letter N and one or more hexadecimal digits that denote the number. -/
def LooseId.IsWritten (content : String) (value : UInt64) : Prop :=
  ∃ hex, content.toList = 'N' :: hex ∧ Numeral 16 hex value.toNat

/-- The large form of a hexadecimal digit is the written digit with its value. -/
theorem toUpper_of_isDigit {c : Char} {place : Nat} (digit : IsDigit 16 c place) :
    c.toUpper = upperDigit place :=
  digit.of_ascii (by decide +kernel)

/-- Hexadecimal digits in large form are the written digits with their values. -/
theorem map_toUpper_of_digits {text : List Char} {places : List Nat}
    (digits : List.Forall₂ (IsDigit 16) text places) :
    text.map Char.toUpper = places.map upperDigit := by
  induction digits with
  | nil => rfl
  | cons digit _ ih => rw [List.map_cons, List.map_cons, toUpper_of_isDigit digit, ih]

/-- Six hexadecimal digits in large form are the canonical digits of their value. -/
theorem canonicalText_of_numeral {hex : List Char} {value : Nat} (numeral : Numeral 16 hex value)
    (six : hex.length = 6) : canonicalText value = 'N' :: hex.map Char.toUpper := by
  obtain ⟨-, places, digits, rfl⟩ := numeral
  have filled : padLeft idWidth '0' (hex.map Char.toUpper) = hex.map Char.toUpper := by
    simp [padLeft, idWidth, six]
  rw [canonicalText, ← padLeft_upperHex digits six.le, ← map_toUpper_of_digits digits, filled]

/-- Six hexadecimal digits denote less than the largest identifier allows. -/
theorem le_largest_of_numeral {hex : List Char} {value : Nat} (numeral : Numeral 16 hex value)
    (six : hex.length = 6) : value ≤ NodeId.largest.value.toNat := by
  obtain ⟨-, places, digits, rfl⟩ := numeral
  have small := ofDigits_lt_pow (by decide) digits
  rw [six] at small
  exact Nat.le_of_lt_succ small

/-- The reader of canonical texts takes exactly those that are written for the identifier. -/
theorem ofCanonical?_eq_some_iff (content : String) (id : NodeId) :
    NodeId.ofCanonical? content = some id ↔ NodeId.IsWritten content id := by
  unfold NodeId.ofCanonical? NodeId.IsWritten
  split
  case h_1 hex marked =>
    simp only [marked, List.cons.injEq, true_and, exists_eq_left']
    split
    case isFalse other =>
      have notSix : hex.length ≠ 6 := other
      simp [notSix]
    case isTrue six =>
      rw [Option.map_eq_some_iff]
      constructor
      · rintro ⟨value, read, rfl⟩
        have numeral := (readDigits?_eq_some_iff 16 hex value).mp read
        have small := le_largest_of_numeral numeral six
        have same : (UInt32.ofNat value).toNat = value :=
          UInt32.toNat_ofNat_of_lt (small.trans_lt (by decide))
        exact ⟨six, by rwa [same]⟩
      · rintro ⟨-, numeral⟩
        exact ⟨id.value.toNat, (readDigits?_eq_some_iff ..).mpr numeral, by
          rw [UInt32.ofNat_toNat]⟩
  case h_2 unmarked =>
    simp only [reduceCtorEq, false_iff]
    rintro ⟨hex, marked, -⟩
    exact unmarked hex marked

/-- A form field is read exactly if it holds a canonical text. -/
theorem ofField_eq_ok_iff (field content : String) (id : NodeId) :
    NodeId.ofField field content = .ok id ↔ NodeId.IsWritten content id := by
  rw [← ofCanonical?_eq_some_iff, NodeId.ofField]
  cases NodeId.ofCanonical? content <;> simp

/-- A form field that is not read has one fault, under its own name. -/
theorem ofField_of_not_ok {field content : String}
    (refused : ∀ id, ¬ NodeId.IsWritten content id) :
    NodeId.ofField field content = .error [(field, .notCanonical)] := by
  simp only [← ofCanonical?_eq_some_iff] at refused
  rw [NodeId.ofField, Option.eq_none_iff_forall_ne_some.mpr refused]

/-- The text of an identifier is canonical exactly up to the largest one. -/
theorem isWritten_text_iff (id : NodeId) :
    NodeId.IsWritten id.text id ↔ id.value ≤ NodeId.largest.value := by
  constructor
  · rintro ⟨hex, -, six, numeral⟩
    exact UInt32.le_iff_toNat_le.mpr (le_largest_of_numeral numeral six)
  · intro small
    have fits : (upperHex id.value.toNat).length ≤ idWidth := by
      rw [upperHex, List.length_map]
      exact length_digits_le (by decide) (Nat.lt_succ_of_le (UInt32.le_iff_toNat_le.mp small))
    refine ⟨padLeft idWidth '0' (upperHex id.value.toNat), ?_, ?_, ?_⟩
    · exact String.toList_ofList
    · rw [padLeft, List.length_append, List.length_replicate]
      exact Nat.sub_add_cancel fits
    · exact (numeral_upperHex id.value.toNat).padLeft (by decide) idWidth

/-- What the check of a form field says about its content. -/
structure StrictReading (field content : String) : Prop where
  /-- The content is read as an identifier exactly if it is the letter N and six hexadecimal digits
  of its value. -/
  read_iff : ∀ id, NodeId.ofField field content = .ok id ↔ NodeId.IsWritten content id
  /-- The identifier is at most the largest one. -/
  small : ∀ id, NodeId.ofField field content = .ok id → id.value ≤ NodeId.largest.value
  /-- The loose reader reads the same number. -/
  loose : ∀ id, NodeId.ofField field content = .ok id →
    LooseId.ofText content = .number id.value.toUInt64
  /-- The text of the identifier is the content with large letters. -/
  shown : ∀ id, NodeId.ofField field content = .ok id →
    id.text.toList = content.toList.map Char.toUpper
  /-- Any other content leaves one fault, under the name of the field. -/
  refused : (∀ id, ¬ NodeId.IsWritten content id) → ∃ faults,
    NodeId.ofField field content = .error faults ∧
      faults.map (fun fault => (fault.1, fault.2.message)) = [(field, "Invalid node ID")]

/-- The check of a form field takes exactly the canonical texts, in agreement with the loose reader
and with the text of the identifier. The text of an identifier passes it exactly up to the largest
one. -/
theorem nodeId_ofField_strict :
    (∀ field content, StrictReading field content) ∧
      ∀ (field : String) (id : NodeId),
        NodeId.ofField field id.text = .ok id ↔ id.value ≤ NodeId.largest.value := by
  constructor
  · intro field content
    have read_iff := ofField_eq_ok_iff field content
    constructor
    case read_iff => exact read_iff
    case small =>
      intro id read
      obtain ⟨hex, -, six, numeral⟩ := (read_iff id).mp read
      exact UInt32.le_iff_toNat_le.mpr (le_largest_of_numeral numeral six)
    case loose =>
      intro id read
      obtain ⟨hex, marked, -, numeral⟩ := (read_iff id).mp read
      rw [← String.ofList_toList (s := content), marked]
      exact ofText_of_numeral (by simpa using numeral)
    case shown =>
      intro id read
      obtain ⟨hex, marked, six, numeral⟩ := (read_iff id).mp read
      rw [NodeId.text, String.toList_ofList, canonicalText_of_numeral numeral six, marked]
      rfl
    case refused =>
      intro refused
      exact ⟨_, ofField_of_not_ok refused, rfl⟩
  · intro field id
    rw [ofField_eq_ok_iff, isWritten_text_iff]

/-- Behind the letter N, the loose reader reads what denotes a number of 64 bits. -/
theorem ofText_marked_iff {content : String} {rest : List Char}
    (marked : content.toList = 'N' :: rest) (value : UInt64) :
    LooseId.ofText content = .number value ↔
      readNatural? 16 UInt64.size rest = some value.toNat := by
  simp only [LooseId.ofText, marked]
  cases read : readNatural? 16 UInt64.size rest with
  | none => simp
  | some number =>
      have small : number < UInt64.size := ((readNatural?_eq_some_iff ..).mp read).1
      rw [LooseId.number.injEq, Option.some.injEq]
      constructor
      · rintro rfl
        exact (UInt64.toNat_ofNat_of_lt small).symm
      · rintro rfl
        exact UInt64.ofNat_toNat

/-- The loose reader gives a number or the text as it is. -/
theorem ofText_cases (content : String) :
    LooseId.ofText content = .text content ∨ ∃ value, LooseId.ofText content = .number value := by
  unfold LooseId.ofText
  split
  · split
    case h_1 value _ => exact .inr ⟨.ofNat value, rfl⟩
    case h_2 => exact .inl rfl
  · exact .inl rfl

/-- The loose reader takes the letter N before a number, with or without a plus sign between. -/
theorem ofText_eq_number_iff (content : String) (value : UInt64) :
    LooseId.ofText content = .number value ↔ ∃ hex, Numeral 16 hex value.toNat ∧
      (content.toList = 'N' :: hex ∨ content.toList = 'N' :: '+' :: hex) := by
  by_cases marked : ∃ rest, content.toList = 'N' :: rest
  · obtain ⟨rest, marked⟩ := marked
    have small : value.toNat < UInt64.size := value.toNat_lt_size
    rw [ofText_marked_iff marked, readNatural?_eq_some_iff, Denotes, marked]
    grind
  · have unread : LooseId.ofText content = .text content := by
      unfold LooseId.ofText
      split
      case h_1 rest found => exact absurd ⟨rest, found⟩ marked
      case h_2 => rfl
    rw [unread]
    simp only [reduceCtorEq, false_iff]
    rintro ⟨hex, -, plain | signed⟩
    · exact marked ⟨hex, plain⟩
    · exact marked ⟨'+' :: hex, signed⟩

/-- What the loose reader makes of a text. -/
structure LooseReading (content : String) : Prop where
  /-- It reads a number of 64 bits exactly from the letter N and one or more hexadecimal digits of
  the number, between which one plus sign may stand. -/
  number_iff : ∀ value, LooseId.ofText content = .number value ↔
    ∃ hex, Numeral 16 hex value.toNat ∧
      (content.toList = 'N' :: hex ∨ content.toList = 'N' :: '+' :: hex)
  /-- Every other text comes back as it is. -/
  text : (∀ value, LooseId.ofText content ≠ .number value) →
    LooseId.ofText content = .text content
  /-- Only the plus sign leads beyond the letter and the digits. -/
  plain_iff :
    (∀ value, LooseId.ofText content = .number value ↔ LooseId.IsWritten content value) ↔
      ∀ (hex : List Char) (value : UInt64), content.toList = 'N' :: '+' :: hex →
        ¬ Numeral 16 hex value.toNat

/-- The loose reader takes the letter N before one or more hexadecimal digits of a 64 bit number,
and also with one plus sign between them. Every other text comes back as it is. -/
theorem looseId_ofText_reads (content : String) : LooseReading content := by
  have number_iff := ofText_eq_number_iff content
  constructor
  case number_iff => exact number_iff
  case text =>
    intro noNumber
    rcases ofText_cases content with unread | ⟨value, read⟩
    · exact unread
    · exact absurd read (noNumber value)
  case plain_iff =>
    constructor
    · intro plain hex value signed numeral
      obtain ⟨rest, marked, digits⟩ :=
        (plain value).mp ((number_iff value).mpr ⟨hex, numeral, .inr signed⟩)
      obtain rfl : '+' :: hex = rest := (List.cons.inj (signed.symm.trans marked)).2
      exact Numeral.head_ne_plus digits
    · intro unsigned value
      rw [number_iff]
      constructor
      · rintro ⟨hex, numeral, plain | signed⟩
        · exact ⟨hex, plain, numeral⟩
        · exact absurd numeral (unsigned hex value signed)
      · rintro ⟨hex, plain, numeral⟩
        exact ⟨hex, numeral, .inl plain⟩

/-- A plus sign between the letter and the digits is read over. -/
theorem ofText_plusSign :
    LooseId.ofText "N+1F" = .number 0x1F ∧ ¬ LooseId.IsWritten "N+1F" 0x1F := by
  refine ⟨by decide, ?_⟩
  rintro ⟨hex, marked, numeral⟩
  obtain rfl : ['+', '1', 'F'] = hex := (List.cons.inj marked).2
  exact Numeral.head_ne_plus numeral

end MeshConsole
