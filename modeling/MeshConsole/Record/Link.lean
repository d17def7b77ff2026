/-
This file holds the records of links and the keys of records.
-/

import MeshConsole.Record.Node
import MeshConsole.Record.Weight

namespace MeshConsole

open Json Record

/-- The path segment that addresses a record. A string stands for itself, every other identifier
for its JSON text. -/
def recordKey : Value → String
  | .text value => value
  | other => other.compact

/-- A weighted edge between two nodes. The console does not interpret its identifier. -/
structure Link where
  id : Value := .null
  source : NodeId
  target : NodeId
  weight : Float := 0.0

/-- The member names of a link, in order. -/
def Link.names : List String := ["id", "from", "to", "weight"]

/-- This function decodes a link. Both ends must be there. -/
def Link.decode? (room : Nat) (written : Written) : Option Link := do
  let fields ← fields? Link.names written
  let id ← optional (Written.value? (room - 1)) .null fields "id"
  let source ← required NodeId.decode? fields "from"
  let target ← required NodeId.decode? fields "to"
  let weight ← optional float? 0.0 fields "weight"
  pure { id, source, target, weight }

/-- The JSON text of a link. -/
def Link.toJson (link : Link) : String :=
  String.ofList (printObject
    [printMember "id" (print link.id),
     printMember "from" link.source.print,
     printMember "to" link.target.print,
     printMember "weight" (Decimal.json link.weight)])

/-- The payload that creates or changes a link. -/
structure LinkPayload where
  source : NodeId
  target : NodeId
  weight : Float

/-- The JSON text of a link payload. -/
def LinkPayload.toJson (input : LinkPayload) : String :=
  String.ofList (printObject
    [printMember "from" input.source.print,
     printMember "to" input.target.print,
     printMember "weight" (Decimal.json input.weight)])

end MeshConsole
