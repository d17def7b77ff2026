/-
This file shows that printed JSON reads back: strings, whole numbers, truth values, arrays and
objects, wherever they stand in a text.
-/

import MeshConsole.Proofs.Json.Quoted
import MeshConsole.Proofs.Json.WholeNumber

namespace MeshConsole.Json

/-- The text is read as one value, wherever it stands. -/
structure ReadsAs (text : List Char) (written : Written) : Prop where
  /-- The text starts with a token, which closes no array. -/
  token : ∃ c cs, text = c :: cs ∧ isSpace c = false ∧ c ≠ ']'
  /-- With more fuel than characters the value is read up to the end of the text. -/
  read : ∀ fuel rest, text.length < fuel → EndsValue rest →
    readValue? fuel (text ++ rest) = some (written, rest)

/-- No space stands before a token. -/
theorem skipSpace_cons {c : Char} (token : isSpace c = false) (cs : List Char) :
    skipSpace (c :: cs) = c :: cs :=
  List.dropWhile_cons_of_neg (by simp [token])

/-- No space stands behind a value. -/
theorem EndsValue.skipSpace {rest : List Char} (ends : EndsValue rest) :
    Json.skipSpace rest = rest := by
  cases rest with
  | nil => rfl
  | cons c cs =>
      refine skipSpace_cons ?_ cs
      rcases ends c rfl with rfl | rfl | rfl <;> rfl

/-- A text that reads as a value is the whole text of the value. -/
theorem ReadsAs.read? {text : List Char} {written : Written} (reads : ReadsAs text written) :
    Json.read? (String.ofList text) = some written := by
  have all := reads.read (text.length + 1) [] (Nat.lt_succ_self _) (by simp [EndsValue])
  rw [List.append_nil] at all
  rw [Json.read?, String.toList_ofList, all]
  rfl

section Strings

/-- A quoted string reads as the string. -/
theorem readsAs_quote (cs : List Char) : ReadsAs (quote cs) (.text (some (String.ofList cs))) where
  token := ⟨'"', _, rfl, rfl, by decide⟩
  read := by
    intro fuel rest enough _
    obtain ⟨fuel, rfl⟩ := Nat.exists_eq_add_one.mpr (Nat.zero_lt_of_lt enough)
    have long := length_le_escaped cs
    have shorter : cs.length < fuel + 1 := by
      simp only [quote, List.cons_append, List.length_cons, List.length_append] at enough
      omega
    have read := readString?_escaped cs rest (fuel + 1) shorter
    rw [quote, List.cons_append, List.cons_append, List.append_assoc, readValue?]
    exact Option.bind_eq_some_iff.mpr ⟨_, read, rfl⟩

end Strings

section Names

/-- The three names of JSON read as their values. -/
theorem readsAs_boolean (value : Bool) :
    ReadsAs (if value then "true".toList else "false".toList) (.boolean value) where
  token := by cases value <;> exact ⟨_, _, rfl, rfl, by decide⟩
  read := by
    intro fuel rest enough _
    obtain ⟨fuel, rfl⟩ := Nat.exists_eq_add_one.mpr (Nat.zero_lt_of_lt enough)
    cases value <;> rfl

end Names

section Numbers

/-- A minus sign or a digit is a token. -/
theorem token_of_start {c : Char} (start : c = '-' ∨ isDigit c = true) :
    isSpace c = false ∧ c ≠ ']' := by
  have other {token : Char} (noStart : ¬ (token = '-' ∨ isDigit token = true)) : c ≠ token := by
    rintro rfl
    exact noStart start
  simp only [isSpace, Bool.or_eq_false_iff, beq_eq_false_iff_ne]
  exact ⟨⟨⟨⟨other (by decide), other (by decide)⟩, other (by decide)⟩, other (by decide)⟩,
    other (by decide)⟩

/-- A minus sign or a digit starts a number. -/
theorem readValue?_number {c : Char} {cs rest : List Char} {fuel : Nat} {value : Option Number}
    (start : c = '-' ∨ isDigit c = true) (read : readNumber? (c :: cs) = some (value, rest)) :
    readValue? (fuel + 1) (c :: cs) = some (.number value, rest) := by
  have other {token : Char} (noStart : ¬ (token = '-' ∨ isDigit token = true)) {cs' : List Char} :
      c :: cs ≠ token :: cs' := by
    intro same
    rw [(List.cons.inj same).1] at start
    exact noStart start
  rw [readValue?, skipSpace_cons (token_of_start start).1]
  split
  case h_1 same => exact absurd same (other (by decide))
  case h_2 same => exact absurd same (other (by decide))
  case h_3 same => exact absurd same (other (by decide))
  case h_4 same => exact absurd same (other (by decide))
  case h_5 same => exact absurd same (other (by decide))
  case h_6 same => exact absurd same (other (by decide))
  case h_7 => rw [read, Option.map_some]

/-- A printed whole number of 64 bits reads as the number. -/
theorem readsAs_integer {value : Int} (low : -9223372036854775808 ≤ value)
    (high : value < 18446744073709551616) :
    ReadsAs (printInteger value) (.number (some (.integer value))) where
  token := by
    obtain ⟨c, cs, same, start⟩ := printInteger_start value
    exact ⟨c, cs, same, token_of_start start⟩
  read := by
    intro fuel rest enough ends
    obtain ⟨fuel, rfl⟩ := Nat.exists_eq_add_one.mpr (Nat.zero_lt_of_lt enough)
    have read := readNumber?_printInteger low high ends
    obtain ⟨c, cs, same, start⟩ := printInteger_start value
    rw [same, List.cons_append] at read ⊢
    exact readValue?_number start read

/-- A printed natural number of 64 bits reads as the number. -/
theorem readsAs_decimal {n : Nat} (bounded : n < UInt64.size) :
    ReadsAs (Text.decimal n) (.number (some (.integer n))) := by
  have high : (n : Int) < 18446744073709551616 := Int.ofNat_lt.mpr bounded
  have reads := readsAs_integer (by omega) high
  rwa [printInteger, if_neg (by omega), Int.natAbs_natCast] at reads

end Numbers

section Arrays

variable {text rest : List Char} {written : Written}

/-- The first item of an array is read with the items behind it. -/
theorem ReadsAs.items_cons (reads : ReadsAs text written) {items : List Written}
    {others : List Char} {fuel : Nat} (enough : text.length < fuel)
    (read : readItems? fuel others = some (items, rest)) :
    readItems? (fuel + 1) (text ++ ',' :: others) = some (written :: items, rest) := by
  have ends : EndsValue (',' :: others) := by simp [EndsValue]
  rw [readItems?, reads.read fuel _ enough ends]
  -- The item is there. What is left is to read the others.
  exact Option.bind_eq_some_iff.mpr ⟨_, rfl, Option.bind_eq_some_iff.mpr ⟨_, read, rfl⟩⟩

/-- The last item of an array is read up to the bracket. -/
theorem ReadsAs.items_last (reads : ReadsAs text written) {fuel : Nat}
    (enough : text.length < fuel) :
    readItems? (fuel + 1) (text ++ ']' :: rest) = some ([written], rest) := by
  have ends : EndsValue (']' :: rest) := by simp [EndsValue]
  rw [readItems?, reads.read fuel _ enough ends]
  rfl

/-- Printed items are read up to the bracket. -/
theorem readItems?_printed {texts : List (List Char)} {items : List Written}
    (reads : List.Forall₂ ReadsAs texts items) (nonempty : texts ≠ []) {fuel : Nat}
    (enough : (commaSeparated texts).length + 1 < fuel) :
    readItems? fuel (commaSeparated texts ++ ']' :: rest) = some (items, rest) := by
  induction reads generalizing fuel with
  | nil => exact absurd rfl nonempty
  | @cons text written texts items first others ih =>
      obtain ⟨fuel, rfl⟩ := Nat.exists_eq_add_one.mpr (Nat.zero_lt_of_lt enough)
      cases others with
      | nil => exact first.items_last (Nat.lt_of_succ_lt_succ enough)
      | cons second later =>
          rw [commaSeparated, List.length_append, List.length_cons] at enough
          rw [commaSeparated, List.append_assoc, List.cons_append]
          · exact first.items_cons (by omega) (ih (by simp) (by omega))
          all_goals simp

/-- An array is read from its first token on. -/
theorem readValue?_array {c : Char} {cs : List Char} {fuel : Nat} {items : List Written}
    (token : isSpace c = false) (other : c ≠ ']')
    (read : readItems? fuel (c :: cs) = some (items, rest)) :
    readValue? (fuel + 1) ('[' :: c :: cs) = some (.array items, rest) := by
  rw [readValue?, skipSpace_cons rfl]
  simp only [skipSpace_cons token]
  split
  case h_1 same => exact absurd (List.cons.inj same).1 other
  case h_2 => exact Option.bind_eq_some_iff.mpr ⟨_, read, rfl⟩

/-- Parts between commas start as the first part does. -/
theorem commaSeparated_cons (c : Char) (cs : List Char) (parts : List (List Char)) :
    ∃ more, commaSeparated ((c :: cs) :: parts) = c :: more := by
  cases parts with
  | nil => exact ⟨cs, rfl⟩
  | cons second later => exact ⟨cs ++ ',' :: commaSeparated (second :: later), rfl⟩

/-- A printed array reads as the array of its items. -/
theorem readsAs_array {texts : List (List Char)} {items : List Written}
    (reads : List.Forall₂ ReadsAs texts items) :
    ReadsAs (printArray texts) (.array items) where
  token := ⟨'[', _, rfl, rfl, by decide⟩
  read := by
    intro fuel rest enough _
    obtain ⟨fuel, rfl⟩ := Nat.exists_eq_add_one.mpr (Nat.zero_lt_of_lt enough)
    rw [printArray, List.cons_append, List.length_cons, List.length_append,
      List.length_singleton] at enough
    rw [printArray, List.cons_append, List.cons_append, List.append_assoc, List.singleton_append]
    cases reads with
    | nil => rfl
    | @cons text written texts items first others =>
        have read : readItems? fuel (commaSeparated (text :: texts) ++ ']' :: rest) =
            some (written :: items, rest) :=
          readItems?_printed (.cons first others) (List.cons_ne_nil _ _)
            (Nat.lt_of_succ_lt_succ enough)
        obtain ⟨c, cs, rfl, token, other⟩ := first.token
        obtain ⟨more, same⟩ := commaSeparated_cons c cs _
        rw [same, List.cons_append] at read ⊢
        exact readValue?_array token other read

end Arrays

section Objects

/-- A member of an object that is to be printed. -/
structure PrintedMember where
  name : String
  text : List Char
  written : Written
  reads : ReadsAs text written

/-- A member with a string. -/
def PrintedMember.ofText (name value : String) : PrintedMember where
  name
  text := quote value.toList
  written := .text (some value)
  reads := by
    have reads := readsAs_quote value.toList
    rwa [String.ofList_toList] at reads

/-- A member with a truth value. -/
def PrintedMember.ofBoolean (name : String) (value : Bool) : PrintedMember where
  name
  text := if value then "true".toList else "false".toList
  written := .boolean value
  reads := readsAs_boolean value

/-- A member with a whole number. -/
def PrintedMember.ofInteger (name : String) (value : Int) (low : -9223372036854775808 ≤ value)
    (high : value < 18446744073709551616) : PrintedMember where
  name
  text := printInteger value
  written := .number (some (.integer value))
  reads := readsAs_integer low high

/-- A member with a natural number. -/
def PrintedMember.ofNatural (name : String) (value : Nat) (bounded : value < UInt64.size) :
    PrintedMember where
  name
  text := Text.decimal value
  written := .number (some (.integer value))
  reads := readsAs_decimal bounded

/-- The printed text of a member. -/
def PrintedMember.print (member : PrintedMember) : List Char :=
  printMember member.name member.text

/-- A member as it is read. -/
def PrintedMember.entry (member : PrintedMember) : Option String × Written :=
  (some member.name, member.written)

variable {rest : List Char} {fuel : Nat}

/-- The name of a member stands between quotes, and its value behind a colon. -/
theorem PrintedMember.print_append (member : PrintedMember) (rest : List Char) :
    member.print ++ rest =
      '"' :: (member.name.toList.flatMap escapeChar ++ '"' :: ':' :: (member.text ++ rest)) := by
  simp [print, printMember, quote]

/-- The name and the value of a member are read. -/
theorem PrintedMember.parts (member : PrintedMember) (enough : member.print.length < fuel)
    (ends : EndsValue rest) :
    readString? (fuel + 1)
        (member.name.toList.flatMap escapeChar ++ '"' :: ':' :: (member.text ++ rest)) =
      some (some member.name.toList, ':' :: (member.text ++ rest)) ∧
    readValue? fuel (member.text ++ rest) = some (member.written, rest) := by
  have length : member.print.length =
      (member.name.toList.flatMap escapeChar).length + (member.text.length + 1 + 1) + 1 := by
    simpa using congrArg List.length (member.print_append [])
  have long := length_le_escaped member.name.toList
  exact ⟨readString?_escaped _ _ _ (by omega), member.reads.read fuel rest (by omega) ends⟩

/-- The first member of an object is read with the members behind it. -/
theorem PrintedMember.entries_cons (member : PrintedMember) (enough : member.print.length < fuel)
    {others : List Char} {entries : List (Option String × Written)}
    (read : readMembers? fuel others = some (entries, rest)) :
    readMembers? (fuel + 1) (member.print ++ ',' :: others) =
      some (member.entry :: entries, rest) := by
  have ends : EndsValue (',' :: others) := by simp [EndsValue]
  obtain ⟨name, value⟩ := member.parts enough ends
  rw [member.print_append, readMembers?, skipSpace_cons rfl]
  simp only [name, Option.bind_eq_bind, Option.bind_some, Option.map_some, String.ofList_toList,
    skipSpace_cons (show isSpace ':' = false from rfl), value, ends.skipSpace, read]
  rfl

/-- The last member of an object is read up to the brace. -/
theorem PrintedMember.entries_last (member : PrintedMember)
    (enough : member.print.length < fuel) :
    readMembers? (fuel + 1) (member.print ++ '}' :: rest) = some ([member.entry], rest) := by
  have ends : EndsValue ('}' :: rest) := by simp [EndsValue]
  obtain ⟨name, value⟩ := member.parts enough ends
  rw [member.print_append, readMembers?, skipSpace_cons rfl]
  simp only [name, Option.bind_eq_bind, Option.bind_some, Option.map_some, String.ofList_toList,
    skipSpace_cons (show isSpace ':' = false from rfl), value, ends.skipSpace]
  rfl

/-- Printed members are read up to the brace. -/
theorem readMembers?_printed (first : PrintedMember) (others : List PrintedMember)
    (enough : (commaSeparated ((first :: others).map PrintedMember.print)).length + 1 < fuel) :
    readMembers? fuel (commaSeparated ((first :: others).map PrintedMember.print) ++ '}' :: rest) =
      some ((first :: others).map PrintedMember.entry, rest) := by
  induction others generalizing first fuel with
  | nil =>
      obtain ⟨fuel, rfl⟩ := Nat.exists_eq_add_one.mpr (Nat.zero_lt_of_lt enough)
      exact first.entries_last (Nat.lt_of_succ_lt_succ enough)
  | cons second later ih =>
      obtain ⟨fuel, rfl⟩ := Nat.exists_eq_add_one.mpr (Nat.zero_lt_of_lt enough)
      have parted : commaSeparated ((first :: second :: later).map PrintedMember.print) =
          first.print ++ ',' :: commaSeparated ((second :: later).map PrintedMember.print) := rfl
      rw [parted, List.length_append, List.length_cons] at enough
      rw [parted, List.append_assoc, List.cons_append]
      exact first.entries_cons (by omega) (ih second (by omega))

/-- An object is read from its first quote on. -/
theorem readValue?_object {cs : List Char} {entries : List (Option String × Written)}
    (read : readMembers? fuel ('"' :: cs) = some (entries, rest)) :
    readValue? (fuel + 1) ('{' :: '"' :: cs) = some (.object entries, rest) := by
  rw [readValue?, skipSpace_cons rfl]
  exact Option.bind_eq_some_iff.mpr ⟨_, read, rfl⟩

/-- A printed object reads as the object of its members. -/
theorem readsAs_object (members : List PrintedMember) :
    ReadsAs (printObject (members.map PrintedMember.print))
      (.object (members.map PrintedMember.entry)) where
  token := ⟨'{', _, rfl, rfl, by decide⟩
  read := by
    intro fuel rest enough _
    obtain ⟨fuel, rfl⟩ := Nat.exists_eq_add_one.mpr (Nat.zero_lt_of_lt enough)
    rw [printObject, List.cons_append, List.length_cons, List.length_append,
      List.length_singleton] at enough
    rw [printObject, List.cons_append, List.cons_append, List.append_assoc, List.singleton_append]
    cases members with
    | nil => rfl
    | cons first others =>
        have read : readMembers? fuel
            (commaSeparated ((first :: others).map PrintedMember.print) ++ '}' :: rest) =
              some ((first :: others).map PrintedMember.entry, rest) :=
          readMembers?_printed first others (Nat.lt_of_succ_lt_succ enough)
        have start := first.print_append []
        rw [List.append_nil] at start
        obtain ⟨more, same⟩ := commaSeparated_cons '"' _ (others.map PrintedMember.print)
        rw [List.map_cons, start, same, List.cons_append] at read ⊢
        exact readValue?_object read

end Objects

end MeshConsole.Json
