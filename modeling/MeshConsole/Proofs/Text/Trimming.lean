/-
This file says what the trimming of a text leaves: what stands between the blank characters at its
two ends.
-/

import Mathlib.Data.List.DropRight
import Mathlib.Data.List.TakeWhile
import MeshConsole.Text.Blank

namespace MeshConsole.Text

/-- A content is a core with blank characters around it or none. -/
def IsPadded (core content : List Char) : Prop :=
  ∃ before after, content = before ++ (core ++ after) ∧
    (∀ c ∈ before, isBlank c = true) ∧ ∀ c ∈ after, isBlank c = true

/-- A core is what stands between the blank characters at the ends of a text. -/
structure IsTrimmed (content core : List Char) : Prop where
  /-- Around the core there are only blank characters. -/
  around : ∃ before after, content = before ++ (core ++ after) ∧
    (∀ c ∈ before, isBlank c = true) ∧ ∀ c ∈ after, isBlank c = true
  /-- The core does not start with a blank character. -/
  first : ∀ c ∈ core.head?, isBlank c = false
  /-- The core does not end with a blank character. -/
  last : ∀ c ∈ core.getLast?, isBlank c = false

section Runs

variable {p : Char → Bool} {core after : List Char}

/-- A text that does not start with a character to drop is not shortened at its start. -/
theorem dropWhile_of_first (first : ∀ c ∈ core.head?, p c = false) : core.dropWhile p = core := by
  cases core with
  | nil => rfl
  | cons c rest =>
      have kept : p c = false := first c rfl
      rw [List.dropWhile_cons_of_neg (by rw [kept]; exact Bool.false_ne_true)]

/-- Characters to drop are dropped behind a text that does not end with one. -/
theorem dropTrailing_append (dropped : ∀ c ∈ after, p c = true)
    (last : ∀ c ∈ core.getLast?, p c = false) : dropTrailing p (core ++ after) = core := by
  rw [dropTrailing, List.reverse_append,
    List.dropWhile_append_of_pos fun c member => dropped c (List.mem_reverse.mp member),
    dropWhile_of_first (by rwa [List.head?_reverse]), List.reverse_reverse]

/-- What is left at the front of a text starts as the text does. -/
theorem first_dropTrailing {content : List Char} (first : ∀ c ∈ content.head?, isBlank c = false) :
    ∀ c ∈ (dropTrailing isBlank content).head?, isBlank c = false := by
  intro c starts
  obtain ⟨rest, whole⟩ : dropTrailing isBlank content <+: content := List.rdropWhile_prefix ..
  refine first c ?_
  rw [← whole, List.head?_append, Option.mem_def.mp starts]
  rfl

/-- What is left of a text starts with no blank character. -/
theorem first_dropWhile (content : List Char) :
    ∀ c ∈ (content.dropWhile isBlank).head?, isBlank c = false := by
  intro c starts
  have ends := List.head?_dropWhile_not isBlank content
  rw [Option.mem_def.mp starts] at ends
  simpa using ends

end Runs

/-- A padded core without blank characters is the core of the text. -/
theorem IsPadded.isTrimmed {core content : List Char} (padded : IsPadded core content)
    (visible : ∀ c ∈ core, isBlank c = false) : IsTrimmed content core where
  around := padded
  first := fun c starts => visible c (List.mem_of_mem_head? starts)
  last := fun c ends => visible c (List.mem_of_mem_getLast? ends)

/-- Trimming leaves the core of a text. -/
theorem isTrimmed_trim (content : List Char) : IsTrimmed content (trim content) := by
  constructor
  case around =>
    refine ⟨content.takeWhile isBlank, (content.dropWhile isBlank).rtakeWhile isBlank, ?_,
      fun c member => List.mem_takeWhile_imp member, fun c member => List.mem_rtakeWhile_imp member⟩
    have inner : trim content ++ (content.dropWhile isBlank).rtakeWhile isBlank =
        content.dropWhile isBlank := List.rdropWhile_append_rtakeWhile ..
    rw [inner, List.takeWhile_append_dropWhile]
  case first => exact first_dropTrailing (first_dropWhile content)
  case last =>
    rw [trim, dropTrailing, List.getLast?_reverse]
    exact first_dropWhile _

/-- A text has one core, and trimming leaves it. -/
theorem trim_eq_iff {content core : List Char} : trim content = core ↔ IsTrimmed content core := by
  constructor
  · rintro rfl
    exact isTrimmed_trim content
  · rintro ⟨⟨before, after, rfl, blankBefore, blankAfter⟩, first, last⟩
    rw [trim, List.dropWhile_append_of_pos blankBefore]
    cases core with
    | nil => rw [List.nil_append, List.dropWhile_eq_nil_iff.mpr blankAfter]; rfl
    | cons c rest =>
        have starts : ∀ d ∈ (c :: rest ++ after).head?, isBlank d = false := first
        rw [dropWhile_of_first starts, dropTrailing_append blankAfter last]

/-- A trimmed string is the core of the string. -/
theorem trimmed_eq_iff {content core : String} :
    trimmed content = core ↔ IsTrimmed content.toList core.toList := by
  rw [← trim_eq_iff, trimmed, ← String.toList_inj, String.toList_ofList]

end MeshConsole.Text
