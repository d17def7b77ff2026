/-
This file compares the two readings of a body that describes a node. The main statement is that a
body which is read as a node with its remote part is also read as a node, and as the same one.
-/

import MeshConsole.Record.Node

namespace MeshConsole

open Json Record

/-- The values that a body has for the role of a node. -/
def rolesIn (body : String) : List Written :=
  match Json.read? body with
  | some (.object members) => valuesNamed "dev_type" members
  | _ => []

/-- This test recognises strings. -/
def isTextRole : Written → Bool
  | .text _ => true
  | _ => false

/-- The role is missing or a string. -/
def HasTextRole (body : String) : Prop := ∀ role ∈ rolesIn body, isTextRole role = true

instance (body : String) : Decidable (HasTextRole body) :=
  inferInstanceAs (Decidable (∀ role ∈ rolesIn body, isTextRole role = true))

/-- This test recognises objects whose only member holds an empty object. -/
def isHollowRole : Written → Bool
  | .object [(_, .object [])] => true
  | _ => false

/-- How a body is read as a node that is read as a node with its remote part. -/
structure ListReading (body : String) (details : NodeDetails) : Prop where
  /-- With a string as the role, or none, the node is that of the details. -/
  text : HasTextRole body → ofText? Node.decode? body = some details.node
  /-- Whatever the role is, there is no other node, and there is one unless the role is hollow. -/
  only : ∀ node, ofText? Node.decode? body = some node ↔
    node = details.node ∧ ∀ role ∈ rolesIn body, isHollowRole role = false

section Members

variable {name : String} {names : List String} {members : List (Option String × Written)}
  {fields : Fields}

/-- Members with other names do not matter for the values of a name. -/
theorem valuesNamed_filter {keep : Option String × Written → Bool}
    (kept : ∀ written, keep (some name, written) = true) :
    valuesNamed name (members.filter keep) = valuesNamed name members := by
  rw [valuesNamed, List.filterMap_filter]
  refine congrArg (members.filterMap ·) (funext fun member => ?_)
  by_cases same : member.1 = some name
  · have here : keep member = true := by
      rw [← Prod.eta member, same]
      exact kept member.2
    simp [same, here]
  · simp [same]

/-- An object has fields if every name has a text and no known name is repeated. -/
theorem objectFields?_eq_some_iff :
    objectFields? names members = some fields ↔
      (∀ member ∈ members, member.1.isSome = true) ∧
        (∀ known ∈ names, (valuesNamed known members).length ≤ 1) ∧
          fields = fun known => (valuesNamed known members).head? := by
  simp only [objectFields?, Option.ite_none_right_eq_some, List.all_eq_true, decide_eq_true_eq,
    Option.some.injEq, and_assoc, eq_comm (a := fields)]

/-- The values under other names do not matter for a node. -/
theorem Node.ofFields?_congr (isNothing : Written → Bool) {first second : Fields}
    (same : ∀ known ∈ Node.names, first known = second known) :
    Node.ofFields? isNothing first = Node.ofFields? isNothing second := by
  simp only [Node.names, List.forall_mem_cons] at same
  simp only [Node.ofFields?, required, Record.optional, same]

end Members

section Roles

variable {role : Written} {fields : Fields} {node : Node}

/-- The two readings call the same values nothing, except for the empty object. -/
theorem isNull_eq_isNullOrEmpty {value : Written} (filled : value ≠ .object []) :
    isNull value = isNullOrEmpty value := by
  cases value with
  | object members =>
      cases members with
      | nil => exact absurd rfl filled
      | cons member rest => rfl
  | null | boolean | number | text | array => rfl

/-- Both readings decode a role that is not hollow alike. -/
theorem DevType.decode?_isNull (solid : isHollowRole role = false) :
    DevType.decode? isNull role = DevType.decode? isNullOrEmpty role := by
  unfold DevType.decode?
  split
  case h_2 name value =>
    have filled : value ≠ .object [] := by
      rintro rfl
      cases solid
    rw [isNull_eq_isNullOrEmpty filled]
  all_goals rfl

/-- A hollow role is no role of a plain node. -/
theorem DevType.decode?_hollow (hollow : isHollowRole role = true) :
    DevType.decode? isNull role = none := by
  unfold isHollowRole at hollow
  split at hollow
  · rfl
  · cases hollow

/-- A node has the role that its members give. -/
theorem Node.devType_of_ofFields? {isNothing : Written → Bool}
    (read : Node.ofFields? isNothing fields = some node) :
    Record.optional (DevType.decode? isNothing) .unknown fields "dev_type" =
      some node.devType := by
  simp only [Node.ofFields?, Option.bind_eq_bind, Option.bind_eq_some_iff] at read
  obtain ⟨_, _, _, _, _, _, _, _, _, _, devType, role, _, _, _, _, _, _, _, _, _, _, same⟩ := read
  cases same
  exact role

/-- Both readings give the same node if the role is not hollow. -/
theorem Node.ofFields?_isNull
    (solid : ∀ role, fields "dev_type" = some role → isHollowRole role = false) :
    Node.ofFields? isNull fields = Node.ofFields? isNullOrEmpty fields := by
  have role : Record.optional (DevType.decode? isNull) .unknown fields "dev_type" =
      Record.optional (DevType.decode? isNullOrEmpty) .unknown fields "dev_type" := by
    unfold Record.optional
    split
    case h_1 role there => exact DevType.decode?_isNull (solid role there)
    case h_2 => rfl
  simp only [Node.ofFields?, role]

/-- A plain node has no hollow role. -/
theorem Node.solid_of_ofFields? (read : Node.ofFields? isNull fields = some node)
    (there : fields "dev_type" = some role) : isHollowRole role = false := by
  have given := Node.devType_of_ofFields? read
  rw [Record.optional, there] at given
  refine Bool.eq_false_iff.mpr fun hollow => ?_
  exact Option.some_ne_none _ (given.symm.trans (DevType.decode?_hollow hollow))

end Roles

section Bodies

variable {body : String} {details : NodeDetails}

/-- The node of an object with details stands among the members outside the remote part. -/
theorem NodeDetails.node_of_decode? {room : Nat} {members : List (Option String × Written)}
    (read : NodeDetails.decode? room (.object members) = some details) :
    (∀ member ∈ members, member.1.isSome = true) ∧
      ((objectFields? Node.names (members.filter fun member => member.1.all fun name =>
        !NodeDetails.names.contains name)).bind (Node.ofFields? isNullOrEmpty)) =
          some details.node := by
  simp only [NodeDetails.decode?, Option.bind_eq_bind, Option.bind_eq_some_iff,
    Option.ite_none_left_eq_some] at read
  obtain ⟨remote, remoteRead, -, values, -, shared, sharedRead, node, nodeRead, rest⟩ := read
  obtain ⟨_, _, _, _, _, _, _, _, _, _, _, _, _, _, _, _, same⟩ := rest
  cases same
  exact ⟨(objectFields?_eq_some_iff.mp remoteRead).1,
    Option.bind_eq_some_iff.mpr ⟨shared, sharedRead, nodeRead⟩⟩

/-- Both readings of a body with details take the node from the same members. -/
theorem NodeDetails.exists_fields (read : ofText? NodeDetails.decode? body = some details) :
    ∃ fields : Fields, ofText? Node.decode? body = Node.ofFields? isNull fields ∧
      Node.ofFields? isNullOrEmpty fields = some details.node ∧
        rolesIn body = (fields "dev_type").toList := by
  obtain ⟨written, found, decoded⟩ := Option.bind_eq_some_iff.mp read
  cases written with
  | null | boolean | number | text | array => cases decoded
  | object members =>
    obtain ⟨named, nodeRead⟩ := NodeDetails.node_of_decode? decoded
    obtain ⟨shared, sharedRead, nodeRead⟩ := Option.bind_eq_some_iff.mp nodeRead
    obtain ⟨-, once, rfl⟩ := objectFields?_eq_some_iff.mp sharedRead
    -- No name of a node is a name of the remote part, so the remote part takes none of its members.
    have apart : ∀ known ∈ Node.names, known ∉ NodeDetails.names := by decide
    have kept : ∀ known ∈ Node.names, valuesNamed known (members.filter fun member =>
        member.1.all fun name => !NodeDetails.names.contains name) =
          valuesNamed known members :=
      fun known member => valuesNamed_filter fun _ => by simpa using apart known member
    have once : ∀ known ∈ Node.names, (valuesNamed known members).length ≤ 1 :=
      fun known member => kept known member ▸ once known member
    refine ⟨fun known => (valuesNamed known members).head?, ?_, ?_, ?_⟩
    · have fields := objectFields?_eq_some_iff.mpr ⟨named, once, rfl⟩
      rw [ofText?, found, Option.bind_some, Node.decode?, fields?, fields, Option.bind_some]
    · rw [← nodeRead]
      exact Node.ofFields?_congr _ fun known member => by rw [kept known member]
    · have single := once "dev_type" (by decide)
      simp only [rolesIn, found, ← List.take_one, List.take_of_length_le single]

end Bodies

/-- A body that is read as a node with its remote part is read as a node exactly if its role is not
hollow, and then as the same node. A role that is missing or a string is not hollow. -/
theorem details_listReading {body : String} {details : NodeDetails}
    (read : ofText? NodeDetails.decode? body = some details) : ListReading body details := by
  obtain ⟨fields, plain, node, roles⟩ := NodeDetails.exists_fields read
  have same (solid : ∀ role ∈ rolesIn body, isHollowRole role = false) :
      ofText? Node.decode? body = some details.node := by
    rw [plain, Node.ofFields?_isNull fun role there => solid role (by simp [roles, there]), node]
  constructor
  case text =>
    intro text
    refine same fun role member => ?_
    have string := text role member
    unfold isTextRole at string
    split at string
    · rfl
    · cases string
  case only =>
    intro other
    refine ⟨fun decoded => ?_, fun ⟨equal, solid⟩ => equal ▸ same solid⟩
    have solid : ∀ role ∈ rolesIn body, isHollowRole role = false := fun role member =>
      Node.solid_of_ofFields? (plain ▸ decoded) (Option.mem_toList.mp (roles ▸ member))
    exact ⟨Option.some.inj (decoded.symm.trans (same solid)), solid⟩

/-- Neither the members of the remote part nor unknown members nor the order matter. -/
theorem listReading_shuffled :
    let body := "\x7b\"flags\": 3, \"hops\": [\x7b\"id\": 9\x7d], \"dev_type\": \"bridge\", " ++
      "\"id\": 1000, \"hops\": null, \"in_use\": true, \"error\": \"\", \"channel\": -6\x7d"
    let node : Node := { id := ⟨1000⟩, inUse := true, devType := .bridge }
    ofText? NodeDetails.decode? body = some { node, channel := -6, flags := 3 } ∧
      HasTextRole body ∧ ofText? Node.decode? body = some node := by
  intro body node
  have read : ofText? NodeDetails.decode? body = some { node, channel := -6, flags := 3 } := by
    decide +kernel
  have role : HasTextRole body := by decide +kernel
  exact ⟨read, role, (details_listReading read).text role⟩

end MeshConsole
