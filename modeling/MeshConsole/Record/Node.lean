/-
This file holds the records of mesh nodes: as lists give them, as a single fetch gives them with
the remote part, and as forms send them.
-/

import MeshConsole.NodeId
import MeshConsole.Record.DevType
import MeshConsole.Json.Printer

namespace MeshConsole

open Json Record

/-- One mesh participant, configured or discovered. -/
structure Node where
  id : NodeId
  tag : String := ""
  isLocal : Bool := false
  inUse : Bool := false
  deepSleep : Bool := false
  devType : DevType := .unknown
  firmware : String := ""
  meshVersion : String := ""
  compileTime : String := ""
  lastSeen : String := ""
  path : String := ""
deriving DecidableEq

/-- The member names of a node, in order. -/
def Node.names : List String :=
  ["id", "tag", "is_local", "in_use", "deep_sleep", "dev_type", "firmrev", "libvers", "comptime",
    "last_seen", "path"]

/-- A node identifier is a whole number of 32 bits. -/
def NodeId.decode? (written : Written) : Option NodeId :=
  (word? written).map NodeId.mk

/-- The node that the members describe. Only the identifier must be there. -/
def Node.ofFields? (isNothing : Written → Bool) (fields : Fields) : Option Node := do
  let id ← required NodeId.decode? fields "id"
  let tag ← optional text? "" fields "tag"
  let isLocal ← optional boolean? false fields "is_local"
  let inUse ← optional boolean? false fields "in_use"
  let deepSleep ← optional boolean? false fields "deep_sleep"
  let devType ← optional (DevType.decode? isNothing) .unknown fields "dev_type"
  let firmware ← optional text? "" fields "firmrev"
  let meshVersion ← optional text? "" fields "libvers"
  let compileTime ← optional text? "" fields "comptime"
  let lastSeen ← optional text? "" fields "last_seen"
  let path ← optional text? "" fields "path"
  pure { id, tag, isLocal, inUse, deepSleep, devType, firmware, meshVersion, compileTime,
         lastSeen, path }

/-- This function decodes a node. -/
def Node.decode? (_room : Nat) (written : Written) : Option Node :=
  (fields? Node.names written).bind (Node.ofFields? isNull)

/-- The JSON text of a truth value. -/
def printBoolean (value : Bool) : List Char :=
  if value then "true".toList else "false".toList

/-- The JSON text of a string. -/
def printText (value : String) : List Char :=
  quote value.toList

/-- The JSON text of an identifier. -/
def NodeId.print (id : NodeId) : List Char :=
  Text.decimal id.value.toNat

/-- The written members of a node, in order. -/
def Node.members (node : Node) : List (List Char) :=
  [printMember "id" node.id.print,
   printMember "tag" (printText node.tag),
   printMember "is_local" (printBoolean node.isLocal),
   printMember "in_use" (printBoolean node.inUse),
   printMember "deep_sleep" (printBoolean node.deepSleep),
   printMember "dev_type" (printText node.devType.name),
   printMember "firmrev" (printText node.firmware),
   printMember "libvers" (printText node.meshVersion),
   printMember "comptime" (printText node.compileTime),
   printMember "last_seen" (printText node.lastSeen),
   printMember "path" (printText node.path)]

/-- The JSON text of a node. -/
def Node.toJson (node : Node) : String :=
  String.ofList (printObject node.members)

/-- A discovered node with the remote part that the backend asks the device for. -/
structure NodeDetails where
  node : Node
  /-- The fault of the remote query, empty when there was none. -/
  error : String := ""
  deviceTag : String := ""
  channel : Int8 := 0
  txPower : Int8 := 0
  groups : UInt8 := 0
  revision : String := ""
  binded : UInt32 := 0
  flags : UInt32 := 0
deriving DecidableEq

/-- The member names of the remote part, in order. -/
def NodeDetails.names : List String :=
  ["error", "dev_tag", "channel", "tx_power", "groups", "revision", "binded", "flags"]

/-- The members of both parts stand in one object. Every member outside the remote part must have
a value, whether or not the node uses it. -/
def NodeDetails.decode? (room : Nat) : Written → Option NodeDetails
  | .object members => do
    let remote ← objectFields? NodeDetails.names members
    let others := members.filter fun member => member.1.all fun name =>
      !NodeDetails.names.contains name
    if room = 0 then none
    else
      let _ ← memberValues? (room - 1) others
      let shared ← objectFields? Node.names others
      let node ← Node.ofFields? isNullOrEmpty shared
      let error ← optional text? "" remote "error"
      let deviceTag ← optional text? "" remote "dev_tag"
      let channel ← optional signedByte? 0 remote "channel"
      let txPower ← optional signedByte? 0 remote "tx_power"
      let groups ← optional byte? 0 remote "groups"
      let revision ← optional text? "" remote "revision"
      let binded ← optional word? 0 remote "binded"
      let flags ← optional word? 0 remote "flags"
      pure { node, error, deviceTag, channel, txPower, groups, revision, binded, flags }
  | _ => none

/-- The written members of both parts, the node first. -/
def NodeDetails.members (details : NodeDetails) : List (List Char) :=
  details.node.members ++
  [printMember "error" (printText details.error),
   printMember "dev_tag" (printText details.deviceTag),
   printMember "channel" (printInteger details.channel.toInt),
   printMember "tx_power" (printInteger details.txPower.toInt),
   printMember "groups" (Text.decimal details.groups.toNat),
   printMember "revision" (printText details.revision),
   printMember "binded" (Text.decimal details.binded.toNat),
   printMember "flags" (Text.decimal details.flags.toNat)]

/-- The JSON text of a node with its remote part. -/
def NodeDetails.toJson (details : NodeDetails) : String :=
  String.ofList (printObject details.members)

/-- The bound server address as the console shows it. -/
def NodeDetails.bindedText (details : NodeDetails) : String :=
  String.ofList ('0' :: 'x' :: Text.upperHex details.binded.toNat)

/-- The status line of the remote query. -/
def NodeDetails.errorLine (details : NodeDetails) : String :=
  if details.error.isEmpty then "No error" else details.error

/-- The payload that creates a node. -/
structure NewNode where
  id : NodeId
  tag : String
  inUse : Bool
deriving DecidableEq

/-- The JSON text of a create payload. -/
def NewNode.toJson (input : NewNode) : String :=
  String.ofList (printObject
    [printMember "id" input.id.print,
     printMember "tag" (printText input.tag),
     printMember "in_use" (printBoolean input.inUse)])

/-- The payload that changes the editable fields of a node. -/
structure NodeChange where
  tag : String
  inUse : Bool
deriving DecidableEq

/-- The JSON text of an update payload. -/
def NodeChange.toJson (update : NodeChange) : String :=
  String.ofList (printObject
    [printMember "tag" (printText update.tag),
     printMember "in_use" (printBoolean update.inUse)])

end MeshConsole
