/-
This file follows the records of nodes over the wire. The main statement is that every node and
every node with its remote part reads back from its JSON text as it was, and that the payload that
creates a node reads as a node with the given fields.
-/

import MeshConsole.Proofs.Json.Printed
import MeshConsole.Record.Node

namespace MeshConsole

open Json Record

/-- What a text becomes that is decoded as a record and written again. -/
def rewritten? {α : Type} (decode : Nat → Written → Option α) (toJson : α → String)
    (text : String) : Option String :=
  (ofText? decode text).map toJson

/-- The records of a kind pass over the wire unharmed. -/
structure SurvivesWire {α : Type} (decode : Nat → Written → Option α) (toJson : α → String) :
    Prop where
  /-- A record reads back from its JSON text. -/
  back : ∀ record, ofText? decode (toJson record) = some record
  /-- The text of a record that was read changes no more when it is read and written again. -/
  settled : ∀ text, (rewritten? decode toJson text).bind (rewritten? decode toJson) =
    rewritten? decode toJson text

/-- What reads back is settled after one reading. -/
theorem survivesWire_of_back {α : Type} {decode : Nat → Written → Option α} {toJson : α → String}
    (back : ∀ record, ofText? decode (toJson record) = some record) :
    SurvivesWire decode toJson := by
  refine ⟨back, fun text => ?_⟩
  cases read : ofText? decode text with
  | none => simp only [rewritten?, read, Option.map_none, Option.bind_none]
  | some record => simp only [rewritten?, read, Option.map_some, Option.bind_some, back]

section Members

/-- The members of an object whose names all have a text. -/
def namedMembers (pairs : List (String × Written)) : List (Option String × Written) :=
  pairs.map fun pair => (some pair.1, pair.2)

/-- Among members with distinct names a name has at most one value. -/
theorem valuesNamed_of_nodup (name : String) {pairs : List (String × Written)}
    (distinct : (pairs.map Prod.fst).Nodup) :
    valuesNamed name (namedMembers pairs) = (member? name pairs).toList := by
  induction pairs with
  | nil => rfl
  | cons pair rest ih =>
      obtain ⟨missing, distinct⟩ := List.nodup_cons.mp distinct
      by_cases same : pair.1 = name
      · subst same
        have none : member? pair.1 rest = none := by
          rw [member?, Option.map_eq_none_iff, List.find?_eq_none]
          intro other member
          rw [beq_iff_eq]
          intro same
          exact missing (List.mem_map.mpr ⟨other, member, same⟩)
        have values := ih distinct
        rw [none] at values
        simpa [namedMembers, valuesNamed, member?] using values
      · have values := ih distinct
        simpa [namedMembers, valuesNamed, member?, same] using values

/-- The known members of an object with distinct names are its members by name. -/
theorem objectFields?_of_nodup (names : List String) {pairs : List (String × Written)}
    (distinct : (pairs.map Prod.fst).Nodup) :
    objectFields? names (namedMembers pairs) = some fun name => member? name pairs := by
  have named : (namedMembers pairs).all (·.1.isSome) = true := by simp [namedMembers]
  have once (name : String) : (valuesNamed name (namedMembers pairs)).length ≤ 1 := by
    rw [valuesNamed_of_nodup name distinct]
    exact Option.length_toList_le
  rw [objectFields?, if_pos ⟨named, by simp [once]⟩]
  congr
  funext name
  rw [valuesNamed_of_nodup name distinct, Option.head?_toList]

/-- A whole number between the bounds is decoded. -/
theorem integer?_of_mem {low high value : Int} (within : low ≤ value ∧ value ≤ high) :
    integer? low high (.number (some (.integer value))) = some value :=
  if_pos within

/-- A word without a sign is decoded as it was written. -/
theorem word?_toNat (value : UInt32) :
    word? (.number (some (.integer value.toNat))) = some value := by
  have small := value.toNat_lt
  rw [word?, integer?_of_mem (by omega), Option.map_some, Int.toNat_natCast, UInt32.ofNat_toNat]

/-- A byte without a sign is decoded as it was written. -/
theorem byte?_toNat (value : UInt8) :
    byte? (.number (some (.integer value.toNat))) = some value := by
  have small := value.toNat_lt
  rw [byte?, integer?_of_mem (by omega), Option.map_some, Int.toNat_natCast, UInt8.ofNat_toNat]

/-- A byte with a sign is decoded as it was written. -/
theorem signedByte?_toInt (value : Int8) :
    signedByte? (.number (some (.integer value.toInt))) = some value := by
  have low := value.le_toInt
  have high := value.toInt_lt
  rw [signedByte?, integer?_of_mem (by omega), Option.map_some, Int8.ofInt_toInt]

/-- The name of a role is decoded as the role. -/
theorem ofName_name (role : DevType) : DevType.ofName role.name = role := by
  cases role <;> rfl

end Members

section Nodes

/-- The members of a node. -/
def Node.printed (node : Node) : List PrintedMember :=
  [.ofNatural "id" node.id.value.toNat (Nat.lt_trans node.id.value.toNat_lt (by decide)),
   .ofText "tag" node.tag,
   .ofBoolean "is_local" node.isLocal,
   .ofBoolean "in_use" node.inUse,
   .ofBoolean "deep_sleep" node.deepSleep,
   .ofText "dev_type" node.devType.name,
   .ofText "firmrev" node.firmware,
   .ofText "libvers" node.meshVersion,
   .ofText "comptime" node.compileTime,
   .ofText "last_seen" node.lastSeen,
   .ofText "path" node.path]

/-- The members of a node as they are read. -/
def Node.pairs (node : Node) : List (String × Written) :=
  node.printed.map fun member => (member.name, member.written)

/-- The members of a node have its values. -/
theorem Node.ofFields?_pairs (isNothing : Written → Bool) (node : Node) :
    Node.ofFields? isNothing (fun name => member? name node.pairs) = some node := by
  have id : required NodeId.decode? (fun name => member? name node.pairs) "id" = some node.id := by
    change (word? (.number (some (.integer node.id.value.toNat)))).map NodeId.mk = _
    rw [word?_toNat, Option.map_some]
  have devType : optional (DevType.decode? isNothing) .unknown (fun name => member? name node.pairs)
      "dev_type" = some node.devType :=
    congrArg some (ofName_name node.devType)
  simp only [Node.ofFields?, id, devType, Option.bind_eq_bind, Option.bind_some]
  rfl

/-- The JSON text of a node is the object of its members. -/
theorem read?_node (node : Node) :
    Json.read? node.toJson = some (.object (namedMembers node.pairs)) :=
  (readsAs_object node.printed).read?

/-- A node reads back from its JSON text. -/
theorem node_back (node : Node) : ofText? Node.decode? node.toJson = some node := by
  have distinct : (node.pairs.map Prod.fst).Nodup := (by decide : Node.names.Nodup)
  rw [ofText?, read?_node, Option.bind_some, Node.decode?, fields?,
    objectFields?_of_nodup _ distinct, Option.bind_some, Node.ofFields?_pairs]

end Nodes

section Details

/-- The members of the remote part. -/
def NodeDetails.printedRemote (details : NodeDetails) : List PrintedMember :=
  [.ofText "error" details.error,
   .ofText "dev_tag" details.deviceTag,
   .ofInteger "channel" details.channel.toInt
    (by have := details.channel.le_toInt; omega) (by have := details.channel.toInt_lt; omega),
   .ofInteger "tx_power" details.txPower.toInt
    (by have := details.txPower.le_toInt; omega) (by have := details.txPower.toInt_lt; omega),
   .ofNatural "groups" details.groups.toNat (Nat.lt_trans details.groups.toNat_lt (by decide)),
   .ofText "revision" details.revision,
   .ofNatural "binded" details.binded.toNat (Nat.lt_trans details.binded.toNat_lt (by decide)),
   .ofNatural "flags" details.flags.toNat (Nat.lt_trans details.flags.toNat_lt (by decide))]

/-- The members of the remote part as they are read. -/
def NodeDetails.remotePairs (details : NodeDetails) : List (String × Written) :=
  details.printedRemote.map fun member => (member.name, member.written)

/-- The JSON text of a node with its remote part is the object of the members of both parts. -/
theorem read?_details (details : NodeDetails) : Json.read? details.toJson =
    some (.object (namedMembers (details.node.pairs ++ details.remotePairs))) :=
  (readsAs_object (details.node.printed ++ details.printedRemote)).read?

/-- The members outside the remote part are those of the node. -/
theorem filter_pairs (details : NodeDetails) :
    (namedMembers (details.node.pairs ++ details.remotePairs)).filter
        (fun member => member.1.all fun name => !NodeDetails.names.contains name) =
      namedMembers details.node.pairs := by
  rw [namedMembers, List.map_append, List.filter_append]
  rfl

/-- A node with its remote part reads back from its JSON text. -/
theorem details_back (details : NodeDetails) :
    ofText? NodeDetails.decode? details.toJson = some details := by
  have distinct : ((details.node.pairs ++ details.remotePairs).map Prod.fst).Nodup := by
    rw [List.map_append]
    exact (by decide : (Node.names ++ NodeDetails.names).Nodup)
  have shared : (details.node.pairs.map Prod.fst).Nodup := (by decide : Node.names.Nodup)
  have values : ∃ values, memberValues? (depthLimit - 1) (namedMembers details.node.pairs) =
    some values := ⟨_, rfl⟩
  obtain ⟨values, read⟩ := values
  let remote : Fields := fun name => member? name (details.node.pairs ++ details.remotePairs)
  have channel : optional signedByte? 0 remote "channel" = some details.channel :=
    signedByte?_toInt details.channel
  have txPower : optional signedByte? 0 remote "tx_power" = some details.txPower :=
    signedByte?_toInt details.txPower
  have groups : optional byte? 0 remote "groups" = some details.groups :=
    byte?_toNat details.groups
  have binded : optional word? 0 remote "binded" = some details.binded :=
    word?_toNat details.binded
  have flags : optional word? 0 remote "flags" = some details.flags := word?_toNat details.flags
  rw [ofText?, read?_details, Option.bind_some, NodeDetails.decode?,
    objectFields?_of_nodup _ distinct, filter_pairs]
  simp only [Option.bind_eq_bind, Option.bind_some, objectFields?_of_nodup _ shared,
    Node.ofFields?_pairs, read, remote, channel, txPower, groups, binded, flags]
  rfl

end Details

section Payload

/-- The members of a payload that creates a node. -/
def NewNode.printed (input : NewNode) : List PrintedMember :=
  [.ofNatural "id" input.id.value.toNat (Nat.lt_trans input.id.value.toNat_lt (by decide)),
   .ofText "tag" input.tag,
   .ofBoolean "in_use" input.inUse]

/-- The members of a payload as they are read. -/
def NewNode.pairs (input : NewNode) : List (String × Written) :=
  input.printed.map fun member => (member.name, member.written)

/-- The JSON text of a payload is the object of its members. -/
theorem read?_newNode (input : NewNode) :
    Json.read? input.toJson = some (.object (namedMembers input.pairs)) :=
  (readsAs_object input.printed).read?

/-- The payload that creates a node reads as a node with the given fields. -/
theorem newNode_back (input : NewNode) : ofText? Node.decode? input.toJson =
    some { id := input.id, tag := input.tag, inUse := input.inUse } := by
  have distinct : (input.pairs.map Prod.fst).Nodup :=
    (by decide : ["id", "tag", "in_use"].Nodup)
  have id : required NodeId.decode? (fun name => member? name input.pairs) "id" =
      some input.id := by
    change (word? (.number (some (.integer input.id.value.toNat)))).map NodeId.mk = _
    rw [word?_toNat, Option.map_some]
  rw [ofText?, read?_newNode, Option.bind_some, Node.decode?, fields?,
    objectFields?_of_nodup _ distinct, Option.bind_some]
  simp only [Node.ofFields?, id, Option.bind_eq_bind, Option.bind_some]
  rfl

end Payload

/-- Nodes and nodes with their remote part pass over the wire unharmed. The payload that creates a
node reads as a node with its identifier, its tag and its use, and nothing else. -/
theorem nodeRecords_surviveWire :
    SurvivesWire Node.decode? Node.toJson ∧ SurvivesWire NodeDetails.decode? NodeDetails.toJson ∧
      ∀ input : NewNode, ofText? Node.decode? input.toJson =
        some { id := input.id, tag := input.tag, inUse := input.inUse } :=
  ⟨survivesWire_of_back node_back, survivesWire_of_back details_back, newNode_back⟩

end MeshConsole
