/-
This file turns the content of forms into payloads. Every faulty field is reported at once.
-/

import MeshConsole.Decimal.Reader
import MeshConsole.Record.Link
import MeshConsole.Text.Blank

namespace MeshConsole

/-- The percent of a weight field lies between 0 and 100. -/
def readPercent? (content : String) : Option Float :=
  (Decimal.read? (Text.trim content.toList)).filter fun percent =>
    decide (0.0 ≤ percent) && decide (percent ≤ 100.0)

/-- The fault of a field without a readable value. -/
def faultUnless {α : Type} (field : String) (fault : FieldFault) : Option α → FieldFaults
  | some _ => []
  | none => [(field, fault)]

/-- The payload of a link form. The content of the fields is trimmed first. -/
def LinkPayload.ofForm (source target percent : String) : Except FieldFaults LinkPayload :=
  let sourceId := NodeId.ofCanonical? (Text.trimmed source)
  let targetId := NodeId.ofCanonical? (Text.trimmed target)
  let weight := (readPercent? percent).map weightOfPercent
  match sourceId, targetId, weight with
  | some source, some target, some weight => .ok ⟨source, target, weight⟩
  | _, _, _ =>
    .error (faultUnless "from" .notCanonical sourceId ++
      faultUnless "to" .notCanonical targetId ++
      faultUnless "weight" .weightOutOfRange weight)

/-- The payload of a form that creates a node. -/
def NewNode.ofForm (id tag : String) (inUse : Bool) : Except FieldFaults NewNode :=
  match NodeId.ofField "id" (Text.trimmed id) with
  | .ok id => .ok ⟨id, Text.trimmed tag, inUse⟩
  | .error faults => .error faults

/-- The payload of a form that changes a node. -/
def NodeChange.ofForm (tag : String) (inUse : Bool) : NodeChange :=
  ⟨Text.trimmed tag, inUse⟩

end MeshConsole
