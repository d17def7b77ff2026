/-
This file holds the states of nodes that the picture tells apart by color.
-/

import MeshConsole.Record.Node

namespace MeshConsole

/-- The state of a node in the picture. -/
inductive NodeStatus where
  /-- The device of the console itself. -/
  | ownDevice
  /-- Configured but not in use. -/
  | inactive
  /-- Deep sleep is the normal state of an edge device. -/
  | sleepingEdge
  /-- Deep sleep of any other device is a warning. -/
  | sleepingWarning
  | activeEdge
  | activeStandard
deriving DecidableEq, Repr

/-- The color of a state as a style text. -/
def NodeStatus.color : NodeStatus → String
  | .ownDevice => "#ffd700"
  | .inactive => "#808080"
  | .sleepingEdge => "#008b8b"
  | .sleepingWarning => "#ff0000"
  | .activeEdge => "#00ffff"
  | .activeStandard => "#2e8b57"

/-- The state of a node. The first rule that applies decides. -/
def Node.status (node : Node) : NodeStatus :=
  if node.isLocal then .ownDevice
  else if !node.inUse then .inactive
  else if node.deepSleep then
    if node.devType = .edge then .sleepingEdge else .sleepingWarning
  else if node.devType = .edge then .activeEdge
  else .activeStandard

end MeshConsole
