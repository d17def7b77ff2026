/-
This file says what is left of a text that is cut: the parts between separators, the text behind
the last separator, and the text behind a beginning that is removed.
-/

import MeshConsole.Text.Split

namespace MeshConsole.Text

section Separators

variable {separator : Char}

/-- A text without a separator is its only part. -/
theorem splitAt_of_not_mem {cs : List Char} (missing : separator ∉ cs) :
    splitAt separator cs = [cs] := by
  induction cs with
  | nil => rfl
  | cons c rest ih =>
      obtain ⟨other, missing⟩ := not_or.mp (mt List.mem_cons.mpr missing)
      rw [splitAt, if_neg (Ne.symm other), ih missing]

/-- Every text has a part. -/
theorem splitAt_ne_nil (separator : Char) (cs : List Char) : splitAt separator cs ≠ [] := by
  fun_cases splitAt separator cs <;> simp_all

/-- A separator parts the texts around it. -/
theorem splitAt_append (separator : Char) (cs rest : List Char) :
    splitAt separator (cs ++ separator :: rest) =
      splitAt separator cs ++ splitAt separator rest := by
  induction cs with
  | nil => simp [splitAt]
  | cons c more ih =>
      rw [List.cons_append, splitAt, splitAt, ih]
      split
      case isTrue => rfl
      case isFalse =>
        obtain ⟨part, parts, same⟩ := List.exists_cons_of_ne_nil (splitAt_ne_nil separator more)
        rw [same]
        rfl

/-- A part has no separator, and its characters are those of the text. -/
theorem mem_splitAt {cs part : List Char} (member : part ∈ splitAt separator cs) :
    separator ∉ part ∧ ∀ c ∈ part, c ∈ cs := by
  induction cs generalizing part with
  | nil =>
      rw [splitAt, List.mem_singleton] at member
      simp [member]
  | cons c rest ih =>
      obtain ⟨first, others, same⟩ := List.exists_cons_of_ne_nil (splitAt_ne_nil separator rest)
      have later {part : List Char} (inside : part ∈ splitAt separator rest) :
          separator ∉ part ∧ ∀ d ∈ part, d ∈ c :: rest :=
        ⟨(ih inside).1, fun d written => List.mem_cons_of_mem c ((ih inside).2 d written)⟩
      rw [splitAt] at member
      split at member
      case isTrue =>
        rcases List.mem_cons.mp member with rfl | inside
        · simp
        · exact later inside
      case isFalse other =>
        simp only [same] at member later
        rcases List.mem_cons.mp member with rfl | inside
        · obtain ⟨noSeparator, written⟩ := later List.mem_cons_self
          refine ⟨List.not_mem_cons_of_ne_of_not_mem (Ne.symm other) noSeparator, ?_⟩
          exact List.forall_mem_cons.mpr ⟨List.mem_cons_self, written⟩
        · exact later (List.mem_cons_of_mem first inside)

/-- Without a separator there is no text behind one. -/
theorem afterLast?_eq_none_iff {cs : List Char} :
    afterLast? separator cs = none ↔ separator ∉ cs := by
  induction cs with
  | nil => simp [afterLast?]
  | cons c rest ih =>
      rw [afterLast?, List.mem_cons, not_or, ← ih]
      cases afterLast? separator rest with
      | some tail => simp
      | none => simp [eq_comm]

/-- The text behind the last separator is what follows a separator and holds none. -/
theorem afterLast?_eq_some_iff {cs tail : List Char} :
    afterLast? separator cs = some tail ↔
      ∃ before, cs = before ++ separator :: tail ∧ separator ∉ tail := by
  constructor
  · intro found
    induction cs with
    | nil => simp [afterLast?] at found
    | cons c rest ih =>
        rw [afterLast?] at found
        split at found
        case h_1 behind later =>
          obtain rfl : behind = tail := Option.some.inj found
          obtain ⟨before, whole, last⟩ := ih later
          exact ⟨c :: before, by rw [whole, List.cons_append], last⟩
        case h_2 none =>
          obtain ⟨same, rfl⟩ : c = separator ∧ rest = tail := by simpa using found
          exact ⟨[], by rw [same, List.nil_append], afterLast?_eq_none_iff.mp none⟩
  · rintro ⟨before, rfl, last⟩
    induction before with
    | nil => simp [afterLast?, afterLast?_eq_none_iff.mpr last]
    | cons c before ih => rw [List.cons_append, afterLast?, ih]

end Separators

section Beginnings

variable {start cs rest : List Char}

/-- What follows a beginning is the rest of the text. -/
theorem dropStart?_eq_some_iff : dropStart? start cs = some rest ↔ cs = start ++ rest := by
  induction start generalizing cs with
  | nil => simp [dropStart?]
  | cons c start ih =>
      cases cs with
      | nil => simp [dropStart?]
      | cons d cs =>
          rw [dropStart?, List.cons_append, List.cons.injEq]
          by_cases same : c = d
          · rw [if_pos same, ih, same]
            simp
          · rw [if_neg same]
            simp [Ne.symm same]

/-- A beginning can be dropped from a text that starts with it. -/
theorem isSome_dropStart?_iff : (dropStart? start cs).isSome ↔ start <+: cs := by
  rw [Option.isSome_iff_exists]
  apply exists_congr
  intro rest
  rw [dropStart?_eq_some_iff, eq_comm]

/-- A text that does not start with a beginning keeps its characters. -/
theorem dropStarts_of_not_prefix (other : ¬ start <+: cs) : dropStarts start cs = cs := by
  rw [← isSome_dropStart?_iff, Option.not_isSome_iff_eq_none] at other
  rw [dropStarts]
  split
  case h_1 rest found => exact absurd (other.symm.trans found) (Option.some_ne_none rest).symm
  case h_2 => rfl

/-- A beginning that stands once in front is removed once. -/
theorem dropStarts_append (filled : start ≠ []) (other : ¬ start <+: rest) :
    dropStarts start (start ++ rest) = rest := by
  rw [dropStarts]
  split
  case h_1 behind found =>
    obtain rfl : rest = behind := List.append_cancel_left (dropStart?_eq_some_iff.mp found)
    rw [if_pos (List.length_pos_iff.mpr filled), dropStarts_of_not_prefix other]
  case h_2 none =>
    have found : dropStart? start (start ++ rest) = some rest := dropStart?_eq_some_iff.mpr rfl
    exact absurd (none.symm.trans found) (Option.some_ne_none rest).symm

end Beginnings

end MeshConsole.Text
