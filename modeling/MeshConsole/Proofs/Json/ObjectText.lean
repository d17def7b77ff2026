/-
This file holds the texts of objects, each as the texts of its members. The main statements are
that such a text reads as its members, and that every text of an object is such a text.
-/

import MeshConsole.Proofs.Json.TakenMembers

namespace MeshConsole.Json

/-- The text of one member, as an object without other members shows. -/
structure MemberText where
  text : List Char
  name : Option String
  value : Written
  reads : read? (String.ofList (printObject [text])) = some (.object [(name, value)])

/-- A member as it is read. -/
def MemberText.entry (member : MemberText) : Option String × Written :=
  (member.name, member.value)

/-- Members between commas and braces, with space around the object. Space around a member belongs
to its text. -/
structure ObjectText where
  before : List Char
  inner : List Char
  members : List MemberText
  after : List Char
  blankBefore : IsBlankText before
  blankInner : IsBlankText inner
  blankAfter : IsBlankText after

/-- The whole text of an object. -/
def ObjectText.text (object : ObjectText) : String :=
  String.ofList (object.before ++ '{' :: (object.inner ++
    (commaSeparated (object.members.map MemberText.text) ++ '}' :: object.after)))

/-- The members of an object as they are read. -/
def ObjectText.entries (object : ObjectText) : List (Option String × Written) :=
  object.members.map MemberText.entry

section Pieces

variable {before inner after cs rest : List Char} {pieces : List (List Char)}
  {members : List (Option String × Written)}

/-- Nothing but space is left behind a text. -/
theorem skipSpace_eq_nil_iff : skipSpace rest = [] ↔ IsBlankText rest := by
  rw [skipSpace, List.dropWhile_eq_nil_iff]
  rfl

/-- An object is taken with the space in front of it and of its members. -/
theorem takes_pieces (areMembers : List.Forall₂ IsMember pieces members)
    (blankBefore : IsBlankText before) (blankInner : IsBlankText inner) :
    Takes readValue? (before ++ '{' :: (inner ++ (commaSeparated pieces ++ ['}'])))
      (.object members) := by
  refine Takes.spaced ?_ readValue?_skipSpace blankBefore
  by_cases empty : pieces = []
  · subst empty
    cases areMembers
    exact takes_noMembers blankInner
  · exact ((takes_members areMembers empty).spaced readMembers?_skipSpace blankInner).object

/-- An object between space reads as its members. -/
theorem read?_pieces (areMembers : List.Forall₂ IsMember pieces members)
    (blankBefore : IsBlankText before) (blankInner : IsBlankText inner)
    (blankAfter : IsBlankText after) :
    read? (String.ofList (before ++ '{' :: (inner ++ (commaSeparated pieces ++ '}' :: after)))) =
      some (.object members) := by
  have ends : EndsNumber after := by
    have ends := endsNumber_space blankAfter endsNumber_nil
    rwa [List.append_nil] at ends
  have parted : before ++ '{' :: (inner ++ (commaSeparated pieces ++ '}' :: after)) =
      before ++ '{' :: (inner ++ (commaSeparated pieces ++ ['}'])) ++ after := by simp
  have read := takes_pieces areMembers blankBefore blankInner _ after
    (Nat.lt_succ_of_le (List.length_append ▸ Nat.le_add_right _ after.length)) ends
  rw [read?, String.toList_ofList, parted, read]
  exact if_pos (skipSpace_eq_nil_iff.mpr blankAfter)

/-- An object that is read is made of texts of members. -/
theorem exists_pieces_of_readValue? {fuel : Nat}
    (read : readValue? fuel cs = some (.object members, rest)) :
    ∃ before inner pieces, IsBlankText before ∧ IsBlankText inner ∧
      List.Forall₂ IsMember pieces members ∧
        cs = before ++ '{' :: (inner ++ (commaSeparated pieces ++ '}' :: rest)) := by
  cases fuel with
  | zero => cases read
  | succ fuel =>
      rw [readValue?] at read
      split at read
      case h_1 =>
        obtain ⟨_, _, same⟩ := Option.bind_eq_some_iff.mp read
        cases same
      case h_2 =>
        split at read
        · cases read
        · obtain ⟨_, _, same⟩ := Option.bind_eq_some_iff.mp read
          cases same
      case h_3 behind opening =>
        obtain ⟨before, blankBefore, rfl⟩ := exists_space opening
        split at read
        case h_1 closing =>
          cases read
          obtain ⟨inner, blankInner, rfl⟩ := exists_space closing
          exact ⟨before, inner, [], blankBefore, blankInner, .nil, rfl⟩
        case h_2 =>
          obtain ⟨⟨members, rest⟩, readMembers, same⟩ := Option.bind_eq_some_iff.mp read
          cases same
          rw [readMembers?_skipSpace] at readMembers
          obtain ⟨pieces, rfl, -, areMembers⟩ := (takesWhatIsRead fuel).members readMembers
          exact ⟨before, [], pieces, blankBefore, nofun, areMembers, rfl⟩
      case h_4 => cases read
      case h_5 => cases read
      case h_6 => cases read
      case h_7 =>
        obtain ⟨_, _, same⟩ := Option.map_eq_some_iff.mp read
        cases same

/-- An object text is made of texts of members, with nothing but space around them. -/
theorem exists_pieces {text : String} (read : read? text = some (.object members)) :
    ∃ before inner after pieces, IsBlankText before ∧ IsBlankText inner ∧ IsBlankText after ∧
      List.Forall₂ IsMember pieces members ∧
        text.toList = before ++ '{' :: (inner ++ (commaSeparated pieces ++ '}' :: after)) := by
  rw [read?] at read
  split at read
  case h_1 written rest readValue =>
    obtain ⟨left, same⟩ := Option.ite_none_right_eq_some.mp read
    cases same
    obtain ⟨before, inner, pieces, blankBefore, blankInner, areMembers, parted⟩ :=
      exists_pieces_of_readValue? readValue
    exact ⟨before, inner, rest, pieces, blankBefore, blankInner, skipSpace_eq_nil_iff.mp left,
      areMembers, parted⟩
  case h_2 => cases read

end Pieces

section Objects

/-- Space in front of a member belongs to it. -/
theorem IsMember.spaced {space piece : List Char} {member : Option String × Written}
    (isMember : IsMember piece member) (blank : IsBlankText space) :
    IsMember (space ++ piece) member := by
  obtain @⟨before, key, between, content, after, name, value, blankBefore, readsName, blankBetween,
    readsValue, blankAfter⟩ := isMember
  have blank : IsBlankText (space ++ before) := fun c member =>
    (List.mem_append.mp member).elim (blank c) (blankBefore c)
  rw [← List.append_assoc]
  exact .intro blank readsName blankBetween readsValue blankAfter

/-- The text of a member is read as the member wherever it stands. -/
theorem MemberText.isMember (member : MemberText) : IsMember member.text member.entry := by
  obtain ⟨before, inner, after, pieces, blankBefore, blankInner, blankAfter, areMembers, parted⟩ :=
    exists_pieces member.reads
  obtain ⟨piece, _, isMember, noOther, rfl⟩ := List.forall₂_cons_right_iff.mp areMembers
  obtain rfl := List.forall₂_nil_right_iff.mp noOther
  rw [String.toList_ofList, printObject, List.cons_append, commaSeparated, commaSeparated] at parted
  -- A brace is no space, so the object stands between the two braces.
  obtain rfl : before = [] := by
    cases before with
    | nil => rfl
    | cons c before =>
        obtain ⟨rfl, -⟩ := List.cons.inj parted
        cases blankBefore _ List.mem_cons_self
  obtain rfl : after = [] := by
    obtain rfl | ⟨after, c, rfl⟩ := List.eq_nil_or_concat after
    · rfl
    · have ending : '{' :: member.text ++ ['}'] =
          '{' :: (inner ++ (piece ++ '}' :: after)) ++ [c] := by simpa using parted
      obtain ⟨rfl, -⟩ := List.cons.inj (List.append_inj_right' ending rfl)
      cases blankAfter '}' (by simp)
  obtain ⟨-, parted⟩ := List.cons.inj parted
  rw [← List.append_assoc] at parted
  rw [List.append_cancel_right parted]
  exact isMember.spaced blankInner

/-- A text of a member is read as the member in an object without other members. -/
def MemberText.ofPiece (piece : List Char) (entry : Option String × Written)
    (isMember : IsMember piece entry) : MemberText where
  text := piece
  name := entry.1
  value := entry.2
  reads := by
    have blank : IsBlankText [] := nofun
    have read := read?_pieces (.cons isMember .nil) blank blank blank
    rwa [List.nil_append, List.nil_append] at read

/-- The text of an object reads as its members. -/
theorem ObjectText.read?_text (object : ObjectText) :
    read? object.text = some (.object object.entries) := by
  refine read?_pieces ?_ object.blankBefore object.blankInner object.blankAfter
  rw [ObjectText.entries, List.forall₂_map_left_iff, List.forall₂_map_right_iff, List.forall₂_same]
  exact fun member _ => member.isMember

/-- Texts of members are the texts of some members. -/
theorem exists_memberTexts {pieces : List (List Char)} {entries : List (Option String × Written)}
    (areMembers : List.Forall₂ IsMember pieces entries) :
    ∃ members : List MemberText, members.map MemberText.text = pieces ∧
      members.map MemberText.entry = entries := by
  induction areMembers with
  | nil => exact ⟨[], rfl, rfl⟩
  | @cons piece entry pieces entries isMember _ ih =>
      obtain ⟨members, rfl, rfl⟩ := ih
      exact ⟨.ofPiece piece entry isMember :: members, rfl, rfl⟩

/-- Every text that reads as an object is made of the texts of its members. -/
theorem exists_objectText {text : String} {entries : List (Option String × Written)}
    (read : read? text = some (.object entries)) :
    ∃ object : ObjectText, object.text = text ∧ object.entries = entries := by
  obtain ⟨before, inner, after, pieces, blankBefore, blankInner, blankAfter, areMembers, parted⟩ :=
    exists_pieces read
  obtain ⟨members, rfl, rfl⟩ := exists_memberTexts areMembers
  refine ⟨⟨before, inner, members, after, blankBefore, blankInner, blankAfter⟩, ?_, rfl⟩
  rw [ObjectText.text, ← parted, String.ofList_toList]

end Objects

end MeshConsole.Json
