/-
This file shows that values are taken off the front of a text without a look at what stands behind
them. The members of an object are texts between commas, and each of them is read by itself.
-/

import MeshConsole.Proofs.Json.Taken

namespace MeshConsole.Json

variable {fuel : Nat} {cs rest used space : List Char} {value : Written} {items : List Written}
  {members : List (Option String × Written)}

section Spaces

/-- Skipped space is not skipped again. -/
theorem skipSpace_skipSpace (cs : List Char) : skipSpace (skipSpace cs) = skipSpace cs :=
  List.dropWhile_idempotent _ _

/-- Space in front of a value is skipped. -/
theorem readValue?_skipSpace (fuel : Nat) (cs : List Char) :
    readValue? fuel (skipSpace cs) = readValue? fuel cs := by
  cases fuel with
  | zero => rfl
  | succ fuel => rw [readValue?, readValue?, skipSpace_skipSpace]

/-- Space in front of an item is skipped. -/
theorem readItems?_skipSpace (fuel : Nat) (cs : List Char) :
    readItems? fuel (skipSpace cs) = readItems? fuel cs := by
  cases fuel with
  | zero => rfl
  | succ fuel => rw [readItems?, readItems?, readValue?_skipSpace]

/-- Space in front of a member is skipped. -/
theorem readMembers?_skipSpace (fuel : Nat) (cs : List Char) :
    readMembers? fuel (skipSpace cs) = readMembers? fuel cs := by
  cases fuel with
  | zero => rfl
  | succ fuel => rw [readMembers?, readMembers?, skipSpace_skipSpace]

/-- A reader that skips space takes a text with the space in front of it. -/
theorem Takes.spaced {α : Type} {read : Nat → List Char → Option (α × List Char)} {result : α}
    (takes : Takes read used result)
    (skips : ∀ fuel cs, read fuel (skipSpace cs) = read fuel cs) (blank : IsBlankText space) :
    Takes read (space ++ used) result := by
  intro fuel rest enough ends
  rw [List.length_append] at enough
  rw [← skips, List.append_assoc, skipSpace_append blank, skips]
  exact takes fuel rest (by omega) ends

end Spaces

section Containers

/-- No value starts with a closing bracket. -/
theorem readItems?_bracket (closing : skipSpace cs = ']' :: rest) : readItems? fuel cs = none := by
  match fuel with
  | 0 => rfl
  | 1 => rfl
  | fuel + 2 =>
      rw [readItems?, readValue?, closing]
      rfl

/-- No member starts with a closing brace. -/
theorem readMembers?_brace (closing : skipSpace cs = '}' :: rest) :
    readMembers? fuel cs = none := by
  cases fuel with
  | zero => rfl
  | succ fuel =>
      rw [readMembers?, closing]
      rfl

/-- Items behind an opening bracket are an array. -/
theorem readValue?_items (read : readItems? fuel cs = some (items, rest)) :
    readValue? (fuel + 1) ('[' :: cs) = some (.array items, rest) := by
  rw [readValue?]
  simp only [skipSpace_cons (show isSpace '[' = false from rfl)]
  split
  case h_1 closing => cases (readItems?_bracket closing).symm.trans read
  case h_2 =>
    rw [readItems?_skipSpace, read]
    rfl

/-- Members behind an opening brace are an object. -/
theorem readValue?_members (read : readMembers? fuel cs = some (members, rest)) :
    readValue? (fuel + 1) ('{' :: cs) = some (.object members, rest) := by
  rw [readValue?]
  simp only [skipSpace_cons (show isSpace '{' = false from rfl)]
  split
  case h_1 closing => cases (readMembers?_brace closing).symm.trans read
  case h_2 =>
    rw [readMembers?_skipSpace, read]
    rfl

end Containers

section Values

/-- The three names of JSON are taken. -/
theorem takes_names :
    Takes readValue? ['n', 'u', 'l', 'l'] .null ∧
      Takes readValue? ['t', 'r', 'u', 'e'] (.boolean true) ∧
        Takes readValue? ['f', 'a', 'l', 's', 'e'] (.boolean false) :=
  ⟨takes_of_succ fun _ _ _ _ => rfl, takes_of_succ fun _ _ _ _ => rfl,
    takes_of_succ fun _ _ _ _ => rfl⟩

/-- A string is taken with the quote in front of it. -/
theorem Takes.text {text : Option (List Char)} (takes : Takes readString? used text) :
    Takes readValue? ('"' :: used) (.text (text.map String.ofList)) := by
  refine takes_of_succ fun fuel rest enough ends => ?_
  rw [List.cons_append, readValue?, skipSpace_cons rfl]
  exact Option.bind_eq_some_iff.mpr ⟨_, takes _ rest (Nat.lt_succ_of_lt enough) ends, rfl⟩

/-- An array without items is taken. -/
theorem takes_noItems (blank : IsBlankText space) :
    Takes readValue? ('[' :: (space ++ [']'])) (.array []) := by
  refine takes_of_succ fun fuel rest _ _ => ?_
  rw [List.cons_append, List.append_assoc, readValue?]
  simp only [skipSpace_cons (show isSpace '[' = false from rfl), skipSpace_append blank]
  rfl

/-- An array is taken with its items. -/
theorem Takes.array (takes : Takes readItems? used items) :
    Takes readValue? ('[' :: used) (.array items) :=
  takes_of_succ fun fuel rest enough ends => readValue?_items (takes fuel rest enough ends)

/-- An object without members is taken. -/
theorem takes_noMembers (blank : IsBlankText space) :
    Takes readValue? ('{' :: (space ++ ['}'])) (.object []) := by
  refine takes_of_succ fun fuel rest _ _ => ?_
  rw [List.cons_append, List.append_assoc, readValue?]
  simp only [skipSpace_cons (show isSpace '{' = false from rfl), skipSpace_append blank]
  rfl

/-- An object is taken with its members. -/
theorem Takes.object (takes : Takes readMembers? used members) :
    Takes readValue? ('{' :: used) (.object members) :=
  takes_of_succ fun fuel rest enough ends => readValue?_members (takes fuel rest enough ends)

/-- A number that is read is taken. -/
theorem takes_of_readNumber? {number : Option Number}
    (read : readNumber? cs = some (number, rest)) :
    ∃ used, cs = used ++ rest ∧ Takes readValue? used (.number number) := by
  obtain ⟨c, used, rfl, start, again⟩ := exists_number read
  exact ⟨c :: used, rfl,
    takes_of_succ fun _ rest _ ends => readValue?_number start (again rest ends)⟩

/-- The last item of an array is taken with the bracket. -/
theorem Takes.lastItem (takes : Takes readValue? used value) (blank : IsBlankText space) :
    Takes readItems? (used ++ (space ++ [']'])) [value] := by
  refine takes_of_succ fun fuel rest enough ends => ?_
  have ends : EndsNumber (space ++ ']' :: rest) :=
    endsNumber_space blank (endsNumber_cons (by decide))
  simp only [List.length_append, List.length_singleton] at enough
  have read := takes fuel (space ++ ']' :: rest) (by omega) ends
  rw [readItems?]
  simp only [List.append_assoc, List.singleton_append, read, Option.bind_eq_bind, Option.bind_some,
    skipSpace_append blank, skipSpace_cons (show isSpace ']' = false from rfl)]
  rfl

/-- An item of an array is taken with the items behind it. -/
theorem Takes.item {others : List Char} (takes : Takes readValue? used value)
    (blank : IsBlankText space) (behind : Takes readItems? others items) :
    Takes readItems? (used ++ (space ++ ',' :: others)) (value :: items) := by
  refine takes_of_succ fun fuel rest enough ends => ?_
  have next : EndsNumber (space ++ ',' :: (others ++ rest)) :=
    endsNumber_space blank (endsNumber_cons (by decide))
  simp only [List.length_append, List.length_cons] at enough
  have read := takes fuel _ (by omega) next
  have readOthers := behind fuel rest (by omega) ends
  rw [readItems?]
  simp only [List.append_assoc, List.cons_append, read, Option.bind_eq_bind, Option.bind_some,
    skipSpace_append blank, skipSpace_cons (show isSpace ',' = false from rfl), readOthers]
  rfl

end Values

section Members

/-- The text of a member: its name between quotes, a colon and its value, with any space. -/
inductive IsMember : List Char → Option String × Written → Prop where
  | intro {before key between content after : List Char} {name : Option (List Char)}
      {value : Written} (blankBefore : IsBlankText before) (readsName : Takes readString? key name)
      (blankBetween : IsBlankText between) (readsValue : Takes readValue? content value)
      (blankAfter : IsBlankText after) :
      IsMember (before ++ '"' :: (key ++ (between ++ ':' :: (content ++ after))))
        (name.map String.ofList, value)

variable {piece : List Char} {member : Option String × Written}

/-- A member is read up to the comma or the brace behind it. -/
theorem IsMember.read (isMember : IsMember piece member) (enough : piece.length ≤ fuel) {c : Char}
    (behind : c = ',' ∨ c = '}') :
    readMembers? (fuel + 1) (piece ++ c :: rest) =
      if c = '}' then some ([member], rest)
      else (readMembers? fuel rest).bind fun (others, rest) => some (member :: others, rest) := by
  obtain @⟨before, key, between, content, after, name, value, blankBefore, readsName, blankBetween,
    readsValue, blankAfter⟩ := isMember
  simp only [List.length_append, List.length_cons] at enough
  have token : isSpace c = false := by rcases behind with rfl | rfl <;> rfl
  have colon : EndsNumber (between ++ ':' :: (content ++ (after ++ c :: rest))) :=
    endsNumber_space blankBetween (endsNumber_cons (by decide))
  have next : EndsNumber (after ++ c :: rest) :=
    endsNumber_space blankAfter (endsNumber_cons (by rcases behind with rfl | rfl <;> decide))
  have name := readsName (fuel + 1) _ (by omega) colon
  have content := readsValue fuel _ (by omega) next
  rw [readMembers?]
  simp only [List.append_assoc, List.cons_append, skipSpace_append blankBefore,
    skipSpace_cons (show isSpace '"' = false from rfl), name, Option.bind_eq_bind,
    Option.bind_some, skipSpace_append blankBetween,
    skipSpace_cons (show isSpace ':' = false from rfl), content, skipSpace_append blankAfter,
    skipSpace_cons token]
  rcases behind with rfl | rfl
  · rfl
  · rfl

/-- A comma stands between a part and the parts behind it. -/
theorem commaSeparated_of_ne_nil {parts : List (List Char)} (nonempty : parts ≠ []) :
    commaSeparated (piece :: parts) = piece ++ ',' :: commaSeparated parts := by
  obtain ⟨second, later, rfl⟩ := List.exists_cons_of_ne_nil nonempty
  rfl

/-- Members between commas are taken with the brace behind them. -/
theorem takes_members {pieces : List (List Char)}
    (areMembers : List.Forall₂ IsMember pieces members) (nonempty : pieces ≠ []) :
    Takes readMembers? (commaSeparated pieces ++ ['}']) members := by
  induction areMembers with
  | nil => exact absurd rfl nonempty
  | @cons piece member pieces members isMember areMembers ih =>
      refine takes_of_succ fun fuel rest enough ends => ?_
      by_cases last : pieces = []
      case pos =>
        subst last
        cases areMembers
        rw [commaSeparated, List.length_append] at enough
        rw [commaSeparated, List.append_assoc, List.singleton_append,
          isMember.read (by omega) (.inr rfl), if_pos rfl]
      case neg =>
        have parted : commaSeparated (piece :: pieces) ++ ['}'] =
            piece ++ ',' :: (commaSeparated pieces ++ ['}']) := by
          simp [commaSeparated_of_ne_nil last]
        rw [parted, List.length_append, List.length_cons] at enough
        have others := ih last fuel rest (by omega) ends
        rw [parted, List.append_assoc piece, List.cons_append, isMember.read (by omega) (.inl rfl),
          if_neg (by decide), others]
        rfl

end Members

section Reading

/-- Everything that is read with this fuel is taken. -/
structure TakesWhatIsRead (fuel : Nat) : Prop where
  value : ∀ {cs value rest}, readValue? fuel cs = some (value, rest) →
    ∃ used, cs = used ++ rest ∧ Takes readValue? used value
  items : ∀ {cs items rest}, readItems? fuel cs = some (items, rest) →
    ∃ used, cs = used ++ rest ∧ Takes readItems? used items
  /-- Members are texts of members between commas. -/
  members : ∀ {cs members rest}, readMembers? fuel cs = some (members, rest) →
    ∃ pieces, cs = commaSeparated pieces ++ '}' :: rest ∧ pieces ≠ [] ∧
      List.Forall₂ IsMember pieces members

variable (ih : TakesWhatIsRead fuel)

include ih in
/-- A value that is read with one more step is taken. -/
theorem TakesWhatIsRead.value_succ (read : readValue? (fuel + 1) cs = some (value, rest)) :
    ∃ used, cs = used ++ rest ∧ Takes readValue? used value := by
  rw [readValue?] at read
  generalize skipped : skipSpace cs = token at read
  -- The space in front of a value is taken with it.
  suffices taken : ∃ used, token = used ++ rest ∧ Takes readValue? used value by
    obtain ⟨used, rfl, takes⟩ := taken
    obtain ⟨space, blank, rfl⟩ := exists_space skipped
    exact ⟨space ++ used, (List.append_assoc _ _ _).symm, takes.spaced readValue?_skipSpace blank⟩
  split at read
  case h_1 behind =>
    obtain ⟨⟨text, rest⟩, readText, same⟩ := Option.bind_eq_some_iff.mp read
    cases same
    obtain ⟨used, rfl, takes⟩ := takes_of_readString? readText
    exact ⟨_, rfl, takes.text⟩
  case h_2 behind =>
    split at read
    case h_1 closing =>
      cases read
      obtain ⟨space, blank, rfl⟩ := exists_space closing
      exact ⟨_, by simp, takes_noItems blank⟩
    case h_2 =>
      obtain ⟨⟨items, rest⟩, readItems, same⟩ := Option.bind_eq_some_iff.mp read
      cases same
      rw [readItems?_skipSpace] at readItems
      obtain ⟨used, rfl, takes⟩ := ih.items readItems
      exact ⟨_, rfl, takes.array⟩
  case h_3 behind =>
    split at read
    case h_1 closing =>
      cases read
      obtain ⟨space, blank, rfl⟩ := exists_space closing
      exact ⟨_, by simp, takes_noMembers blank⟩
    case h_2 =>
      obtain ⟨⟨members, rest⟩, readMembers, same⟩ := Option.bind_eq_some_iff.mp read
      cases same
      rw [readMembers?_skipSpace] at readMembers
      obtain ⟨pieces, rfl, nonempty, areMembers⟩ := ih.members readMembers
      exact ⟨_, by simp, (takes_members areMembers nonempty).object⟩
  case h_4 =>
    cases read
    exact ⟨_, rfl, takes_names.1⟩
  case h_5 =>
    cases read
    exact ⟨_, rfl, takes_names.2.1⟩
  case h_6 =>
    cases read
    exact ⟨_, rfl, takes_names.2.2⟩
  case h_7 =>
    obtain ⟨⟨number, rest⟩, readNumber, same⟩ := Option.map_eq_some_iff.mp read
    cases same
    exact takes_of_readNumber? readNumber

include ih in
/-- Items that are read with one more step are taken. -/
theorem TakesWhatIsRead.items_succ (read : readItems? (fuel + 1) cs = some (items, rest)) :
    ∃ used, cs = used ++ rest ∧ Takes readItems? used items := by
  rw [readItems?] at read
  obtain ⟨⟨item, behind⟩, readItem, body⟩ := Option.bind_eq_some_iff.mp read
  obtain ⟨used, rfl, takes⟩ := ih.value readItem
  dsimp only at body
  split at body
  case h_1 comma =>
    obtain ⟨⟨others, rest⟩, readOthers, same⟩ := Option.bind_eq_some_iff.mp body
    cases same
    obtain ⟨space, blank, rfl⟩ := exists_space comma
    obtain ⟨more, rfl, takesOthers⟩ := ih.items readOthers
    exact ⟨_, by simp, takes.item blank takesOthers⟩
  case h_2 closing =>
    cases body
    obtain ⟨space, blank, rfl⟩ := exists_space closing
    exact ⟨_, by simp, takes.lastItem blank⟩
  case h_3 => cases body

include ih in
/-- Members that are read with one more step are texts of members between commas. -/
theorem TakesWhatIsRead.members_succ (read : readMembers? (fuel + 1) cs = some (members, rest)) :
    ∃ pieces, cs = commaSeparated pieces ++ '}' :: rest ∧ pieces ≠ [] ∧
      List.Forall₂ IsMember pieces members := by
  rw [readMembers?] at read
  split at read
  case h_1 quote =>
    obtain ⟨before, blankBefore, rfl⟩ := exists_space quote
    obtain ⟨⟨name, behind⟩, readName, body⟩ := Option.bind_eq_some_iff.mp read
    obtain ⟨key, rfl, takesName⟩ := takes_of_readString? readName
    dsimp only at body
    split at body
    case h_1 colon =>
      obtain ⟨between, blankBetween, rfl⟩ := exists_space colon
      obtain ⟨⟨value, behind⟩, readValue, tail⟩ := Option.bind_eq_some_iff.mp body
      obtain ⟨content, rfl, takesValue⟩ := ih.value readValue
      dsimp only at tail
      split at tail
      case h_1 comma =>
        obtain ⟨after, blankAfter, rfl⟩ := exists_space comma
        obtain ⟨⟨others, rest⟩, readOthers, same⟩ := Option.bind_eq_some_iff.mp tail
        cases same
        obtain ⟨pieces, rfl, nonempty, areMembers⟩ := ih.members readOthers
        have isMember := IsMember.intro blankBefore takesName blankBetween takesValue blankAfter
        refine ⟨_ :: pieces, ?_, List.cons_ne_nil _ _, .cons isMember areMembers⟩
        simp [commaSeparated_of_ne_nil nonempty]
      case h_2 closing =>
        cases tail
        obtain ⟨after, blankAfter, rfl⟩ := exists_space closing
        have isMember := IsMember.intro blankBefore takesName blankBetween takesValue blankAfter
        exact ⟨[_], by simp [commaSeparated], by simp, .cons isMember .nil⟩
      case h_3 => cases tail
    case h_2 => cases body
  case h_2 => cases read

/-- Everything that is read is taken. -/
theorem takesWhatIsRead (fuel : Nat) : TakesWhatIsRead fuel := by
  induction fuel with
  | zero => exact ⟨nofun, nofun, nofun⟩
  | succ fuel ih => exact ⟨ih.value_succ, ih.items_succ, ih.members_succ⟩

end Reading

end MeshConsole.Json
