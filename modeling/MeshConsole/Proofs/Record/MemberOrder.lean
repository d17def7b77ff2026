/-
This file shows that nodes and links are decoded alike whatever the order of their members is, and
whatever members with unknown names stand among them. A name without a text is no unknown name: it
leaves no record at all.
-/

import MeshConsole.Proofs.Json.ObjectText
import MeshConsole.Proofs.Record.NodeViews
import MeshConsole.Record.Link

namespace MeshConsole

open Json Record

/-- A member counts for a record unless it has a name that the record does not know. -/
def countsFor (names : List String) (entry : Option String × Written) : Bool :=
  entry.1.all names.contains

/-- Two objects have the same members that count, in any order. -/
def SameKnown (names : List String) (first second : List (Option String × Written)) : Prop :=
  (first.filter (countsFor names)).Perm (second.filter (countsFor names))

/-- The values that a node takes under a name. -/
def Node.accepts (name : String) (value : Written) : Bool :=
  if name = "id" then (NodeId.decode? value).isSome
  else if name = "is_local" ∨ name = "in_use" ∨ name = "deep_sleep" then (boolean? value).isSome
  else if name = "dev_type" then (DevType.decode? isNull value).isSome
  else (text? value).isSome

/-- The values that a link takes under a name. -/
def Link.accepts (name : String) (value : Written) : Bool :=
  if name = "id" then (value.value? (depthLimit - 1)).isSome
  else if name = "weight" then (float? value).isSome
  else (NodeId.decode? value).isSome

/-- What a record asks of the members of an object. -/
structure IsAccepted (names needed : List String) (accepts : String → Written → Bool)
    (entries : List (Option String × Written)) : Prop where
  /-- Every name has a text. -/
  named : ∀ entry ∈ entries, entry.1.isSome = true
  /-- No known name is repeated. -/
  once : ∀ known ∈ names, (valuesNamed known entries).length ≤ 1
  /-- No needed name is missing. -/
  complete : ∀ known ∈ needed, valuesNamed known entries ≠ []
  /-- Every known name has a value of its kind. -/
  fitting : ∀ known ∈ names, ∀ value ∈ valuesNamed known entries, accepts known value = true

/-- How a record is read off the members of an object. -/
structure IgnoresOrder {α : Type} (names needed : List String)
    (accepts : String → Written → Bool) (decode : Nat → Written → Option α) : Prop where
  /-- The order of the members does not matter. -/
  permuted : ∀ (object : ObjectText) (members : List MemberText), object.members.Perm members →
    ofText? decode { object with members }.text = ofText? decode object.text
  /-- A member with an unknown name does not matter, wherever it stands. -/
  unknown : ∀ (object : ObjectText) (front back : List MemberText) (member : MemberText)
    (name : String), object.members = front ++ back → member.name = some name → name ∉ names →
      ofText? decode { object with members := front ++ member :: back }.text =
        ofText? decode object.text
  /-- Two texts with the same members under known names give the same record, or none. -/
  same : ∀ first second : ObjectText,
    SameKnown names first.entries second.entries →
      ofText? decode first.text = ofText? decode second.text
  /-- There is a record exactly if the members have no fault. -/
  accepted : ∀ object : ObjectText,
    (ofText? decode object.text).isSome = true ↔
      IsAccepted names needed accepts object.entries

section Fields

variable {α : Type} {names needed : List String} {accepts : String → Written → Bool}
  {entries first second : List (Option String × Written)} {build : Fields → Option α}

/-- Which of two objects comes first does not matter. -/
theorem SameKnown.symm (same : SameKnown names first second) : SameKnown names second first :=
  List.Perm.symm same

/-- The known values of two objects are the same up to their order if the known members are. -/
theorem SameKnown.perm_values (same : SameKnown names first second) {known : String}
    (isKnown : known ∈ names) : (valuesNamed known first).Perm (valuesNamed known second) := by
  have kept (written : Written) : countsFor names (some known, written) = true := by
    simpa [countsFor] using isKnown
  have values := same.filterMap fun member => if member.1 = some known then some member.2 else none
  rwa [← valuesNamed, ← valuesNamed, valuesNamed_filter kept, valuesNamed_filter kept] at values

/-- A member without a name counts, so it stands in both objects or in none. -/
theorem SameKnown.named (same : SameKnown names first second)
    (named : ∀ entry ∈ first, entry.1.isSome = true) :
    ∀ entry ∈ second, entry.1.isSome = true := by
  rintro ⟨name | name, value⟩ member
  · have counted : (none, value) ∈ second.filter (countsFor names) :=
      List.mem_filter.mpr ⟨member, rfl⟩
    exact named _ (List.mem_filter.mp (same.mem_iff.mpr counted)).1
  · rfl

/-- Two lists of at most one value start alike if they hold the same values. -/
theorem head?_eq_of_perm {values others : List Written} (same : values.Perm others)
    (single : values.length ≤ 1) : values.head? = others.head? := by
  match values, single with
  | [], _ => rw [same.nil_eq]
  | [value], _ => rw [List.singleton_perm.mp same]

/-- A list of at most one value holds the value that it starts with. -/
theorem mem_head?_iff {value : Written} {values : List Written} (single : values.length ≤ 1) :
    value ∈ values.head? ↔ value ∈ values := by
  match values, single with
  | [], _ => simp
  | [other], _ => simp [eq_comm]

/-- Objects with the same known members have the same known fields. -/
theorem SameKnown.exists_fields {fields : Fields} (same : SameKnown names first second)
    (found : objectFields? names first = some fields) :
    ∃ others, objectFields? names second = some others ∧
      ∀ known ∈ names, fields known = others known := by
  obtain ⟨named, once, rfl⟩ := objectFields?_eq_some_iff.mp found
  refine ⟨fun known => (valuesNamed known second).head?, objectFields?_eq_some_iff.mpr
    ⟨same.named named, fun known isKnown => ?_, rfl⟩, fun known isKnown => ?_⟩
  · rw [← (same.perm_values isKnown).length_eq]
    exact once known isKnown
  · exact head?_eq_of_perm (same.perm_values isKnown) (once known isKnown)

/-- A record that is built from known fields does not depend on the order of the members. -/
theorem SameKnown.bind_fields (same : SameKnown names first second)
    (congr : ∀ fields others : Fields, (∀ known ∈ names, fields known = others known) →
      build fields = build others) :
    (objectFields? names first).bind build = (objectFields? names second).bind build := by
  cases found : objectFields? names first with
  | some fields =>
      obtain ⟨others, foundOthers, agree⟩ := same.exists_fields found
      rw [foundOthers]
      exact congr fields others agree
  | none =>
      cases foundOthers : objectFields? names second with
      | none => rfl
      | some others =>
          obtain ⟨fields, again, -⟩ := same.symm.exists_fields foundOthers
          cases found.symm.trans again

/-- A record is built exactly if the members have no fault. -/
theorem isSome_bind_objectFields?
    (built : ∀ fields : Fields, (build fields).isSome = true ↔
      (∀ known ∈ needed, fields known ≠ none) ∧
        ∀ known ∈ names, ∀ value ∈ fields known, accepts known value = true) :
    ((objectFields? names entries).bind build).isSome = true ↔
      IsAccepted names needed accepts entries := by
  constructor
  · intro isSome
    obtain ⟨record, isRecord⟩ := Option.isSome_iff_exists.mp isSome
    obtain ⟨fields, found, isBuilt⟩ := Option.bind_eq_some_iff.mp isRecord
    obtain ⟨complete, fitting⟩ := (built fields).mp (Option.isSome_iff_exists.mpr ⟨record, isBuilt⟩)
    obtain ⟨named, once, rfl⟩ := objectFields?_eq_some_iff.mp found
    refine ⟨named, once, fun known isNeeded missing => ?_, fun known isKnown value member => ?_⟩
    · exact complete known isNeeded (List.head?_eq_none_iff.mpr missing)
    · exact fitting known isKnown value ((mem_head?_iff (once known isKnown)).mpr member)
  · intro accepted
    have found := objectFields?_eq_some_iff.mpr ⟨accepted.named, accepted.once, rfl⟩
    rw [found, Option.bind_some, built]
    refine ⟨fun known isNeeded missing => ?_, fun known isKnown value first => ?_⟩
    · exact accepted.complete known isNeeded (List.head?_eq_none_iff.mp missing)
    · exact accepted.fitting known isKnown value (List.mem_of_mem_head? first)

end Fields

section Records

variable {α : Type} {fields others : Fields} {name : String}

/-- A needed field is read if it is there and of its kind. -/
theorem isSome_required {decode : Written → Option α} :
    (required decode fields name).isSome = true ↔
      fields name ≠ none ∧ ∀ value ∈ fields name, (decode value).isSome = true := by
  cases there : fields name <;> simp [required, there]

/-- Any other field is read unless it is of another kind. -/
theorem isSome_optional {decode : Written → Option α} {default : α} :
    (Record.optional decode default fields name).isSome = true ↔
      ∀ value ∈ fields name, (decode value).isSome = true := by
  cases there : fields name <;> simp [Record.optional, there]

/-- A step that never looks at a result only asks for one. -/
theorem any_const {found : Option α} {rest : Bool} :
    (found.any fun _ => rest) = (found.isSome && rest) := by
  cases found <;> rfl

/-- A node is built from its needed field and from fields of the right kinds. -/
theorem Node.isSome_ofFields? :
    (Node.ofFields? isNull fields).isSome = true ↔
      (∀ known ∈ ["id"], fields known ≠ none) ∧
        ∀ known ∈ Node.names, ∀ value ∈ fields known, Node.accepts known value = true := by
  simp only [Node.ofFields?, Option.bind_eq_bind, Option.isSome_bind, Option.pure_def,
    Option.isSome_some, any_const, Bool.and_eq_true, isSome_required, isSome_optional]
  simp [Node.names, Node.accepts, and_assoc]

/-- The link that the members describe. -/
def Link.ofFields? (room : Nat) (fields : Fields) : Option Link := do
  let id ← Record.optional (Written.value? (room - 1)) .null fields "id"
  let source ← required NodeId.decode? fields "from"
  let target ← required NodeId.decode? fields "to"
  let weight ← Record.optional float? 0.0 fields "weight"
  pure { id, source, target, weight }

/-- A link is built from its needed fields and from fields of the right kinds. -/
theorem Link.isSome_ofFields? :
    (Link.ofFields? depthLimit fields).isSome = true ↔
      (∀ known ∈ ["from", "to"], fields known ≠ none) ∧
        ∀ known ∈ Link.names, ∀ value ∈ fields known, Link.accepts known value = true := by
  simp only [Link.ofFields?, Option.bind_eq_bind, Option.isSome_bind, Option.pure_def,
    Option.isSome_some, any_const, Bool.and_eq_true, isSome_required, isSome_optional]
  simp [Link.names, Link.accepts, and_assoc, and_left_comm]

/-- The values under other names do not matter for a link. -/
theorem Link.ofFields?_congr {room : Nat}
    (same : ∀ known ∈ Link.names, fields known = others known) :
    Link.ofFields? room fields = Link.ofFields? room others := by
  simp only [Link.names, List.forall_mem_cons] at same
  simp only [Link.ofFields?, required, Record.optional, same]

variable {names needed : List String} {accepts : String → Written → Bool}
  {decode : Nat → Written → Option α}

/-- A record that is built from the known fields of an object ignores their order. -/
theorem ignoresOrder_of_build (build : Nat → Fields → Option α)
    (objects : ∀ room entries,
      decode room (.object entries) = (objectFields? names entries).bind (build room))
    (congr : ∀ room (fields others : Fields), (∀ known ∈ names, fields known = others known) →
      build room fields = build room others)
    (built : ∀ fields : Fields, (build depthLimit fields).isSome = true ↔
      (∀ known ∈ needed, fields known ≠ none) ∧
        ∀ known ∈ names, ∀ value ∈ fields known, accepts known value = true) :
    IgnoresOrder names needed accepts decode := by
  have read (object : ObjectText) : ofText? decode object.text =
      (objectFields? names object.entries).bind (build depthLimit) := by
    rw [ofText?, object.read?_text, Option.bind_some, objects]
  have same (first second : ObjectText)
      (perm : SameKnown names first.entries second.entries) :
      ofText? decode first.text = ofText? decode second.text := by
    rw [read, read]
    exact perm.bind_fields (congr depthLimit)
  constructor
  case permuted =>
    intro object members perm
    exact same _ _ ((perm.symm.map MemberText.entry).filter _)
  case unknown =>
    intro object front back member name parted named unknown
    have passed : countsFor names member.entry = false := by
      simpa [countsFor, MemberText.entry, named] using unknown
    refine same _ _ (.of_eq ?_)
    simp [ObjectText.entries, parted, passed]
  case same => exact same
  case accepted =>
    intro object
    rw [read]
    exact isSome_bind_objectFields? built

end Records

/-- Half a surrogate pair may stand for the name of a member, which then has no text. -/
theorem isMember_halfPair :
    IsMember ['"', '\\', 'u', 'd', '8', '0', '0', '"', ':', '1']
      (none, .number (some (.integer 1))) := by
  have blank : IsBlankText [] := List.forall_mem_nil _
  have unit (other : List Char) :
      readUnit? (['d', '8', '0', '0'] ++ other) = some (0xd800, other) := rfl
  have alone : ClosesNoPair (['"'] ++ []) := by
    intro more same
    cases same
  have read : readNumber? ['1'] = some (some (.integer 1), []) := rfl
  obtain ⟨used, same, number⟩ := takes_of_readNumber? read
  rw [List.append_nil] at same
  subst same
  exact .intro blank (takes_quote.half unit rfl alone) blank number blank

/-- How nodes and links are read off the texts of objects. -/
structure RecordsIgnoreOrder : Prop where
  /-- The texts of objects are the texts of their members between commas. -/
  objects : ∀ text entries, Json.read? text = some (.object entries) ↔
    ∃ object : ObjectText, object.text = text ∧ object.entries = entries
  nodes : IgnoresOrder Node.names ["id"] Node.accepts Node.decode?
  links : IgnoresOrder Link.names ["from", "to"] Link.accepts Link.decode?

/-- Neither the order of the members nor members with unknown names matter for a node or a link.
The outcome is a record exactly if every name has a text, no needed name is missing, no known name
is repeated and every known name has a value of its kind. -/
theorem records_ignoreOrder : RecordsIgnoreOrder where
  objects := by
    intro text entries
    refine ⟨exists_objectText, ?_⟩
    rintro ⟨object, rfl, rfl⟩
    exact object.read?_text
  nodes := by
    refine ignoresOrder_of_build (fun _ => Node.ofFields? isNull) ?_ ?_ ?_
    · exact fun _ _ => rfl
    · exact fun _ _ _ => Node.ofFields?_congr isNull
    · exact fun _ => Node.isSome_ofFields?
  links := by
    refine ignoresOrder_of_build Link.ofFields? ?_ ?_ ?_
    · exact fun _ _ => rfl
    · exact fun _ _ _ => Link.ofFields?_congr
    · exact fun _ => Link.isSome_ofFields?

/-- Half a surrogate pair is none of the names of a node, and yet no node is read once a member has
it for a name. -/
theorem records_ignoreOrder_halfPair :
    ¬ (∀ (object : ObjectText) (front back : List MemberText) (member : MemberText),
      object.members = front ++ back → (∀ name ∈ member.name, name ∉ Node.names) →
        ofText? Node.decode? { object with members := front ++ member :: back }.text =
          ofText? Node.decode? object.text) ∧
    ofText? Node.decode? "\x7b\"id\":7\x7d" = some { id := ⟨7⟩ } ∧
    ofText? Node.decode? "\x7b\"id\":7,\"\\ud800\":1\x7d" = none := by
  have alone : ofText? Node.decode? "\x7b\"id\":7\x7d" = some { id := ⟨7⟩ } := by decide +kernel
  have joined : ofText? Node.decode? "\x7b\"id\":7,\"\\ud800\":1\x7d" = none := by
    decide +kernel
  refine ⟨fun ignored => ?_, alone, joined⟩
  obtain ⟨known, knownText⟩ : ∃ known : MemberText, known.text = "\"id\":7".toList :=
    ⟨⟨_, _, _, (readsAs_object [.ofNatural "id" 7 (by decide)]).read?⟩, by decide +kernel⟩
  let nameless := MemberText.ofPiece _ _ isMember_halfPair
  have blank : IsBlankText [] := List.forall_mem_nil _
  let object : ObjectText := ⟨[], [], [known], [], blank, blank, blank⟩
  have aloneText : object.text = "\x7b\"id\":7\x7d" := by
    simp only [object, ObjectText.text, List.map_cons, List.map_nil, knownText]
    decide
  have joinedText : { object with members := [known, nameless] }.text =
      "\x7b\"id\":7,\"\\ud800\":1\x7d" := by
    simp only [object, ObjectText.text, List.map_cons, List.map_nil, knownText]
    decide
  have same := ignored object [known] [] nameless rfl
    fun name named => absurd named (Option.not_mem_none name)
  rw [List.singleton_append, joinedText, joined, aloneText, alone] at same
  cases same

/-- An unknown member may hold known names and values that no record has. -/
example :
    ofText? Node.decode? ("\x7b \"tag\":\"x\", \"hops\":[\x7b\"id\":9\x7d,\"\\ud800\",1e999]," ++
      "\"id\": 7 \x7d") = some { id := ⟨7⟩, tag := "x" } ∧
    ofText? Node.decode? "\x7b\"id\":7,\"tag\":\"x\"\x7d" = some { id := ⟨7⟩, tag := "x" } := by
  decide +kernel

end MeshConsole
