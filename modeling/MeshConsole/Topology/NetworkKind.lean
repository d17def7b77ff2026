/-
This file holds the two networks that the console can draw.
-/

import MeshConsole.Backend.Collection

namespace MeshConsole

/-- A network is discovered or configured. -/
inductive NetworkKind where
  | dynamic
  | static
deriving DecidableEq, Repr, Inhabited

/-- Both networks, in the order of the selector. -/
def NetworkKind.all : List NetworkKind := [.dynamic, .static]

/-- The collection of the nodes. -/
def NetworkKind.nodesCollection : NetworkKind → Collection
  | .dynamic => .autoNodes
  | .static => .nodes

/-- The collection of the links. -/
def NetworkKind.linksCollection : NetworkKind → Collection
  | .dynamic => .autoLinks
  | .static => .links

/-- The label in the selector. -/
def NetworkKind.label : NetworkKind → String
  | .dynamic => "Dynamic network"
  | .static => "Static network"

/-- The value in the selector. -/
def NetworkKind.key : NetworkKind → String
  | .dynamic => "dynamic"
  | .static => "static"

/-- The name in the log. -/
def NetworkKind.name : NetworkKind → String
  | .dynamic => "Dynamic"
  | .static => "Static"

/-- The network of a selector value. -/
def NetworkKind.ofKey? (key : String) : Option NetworkKind :=
  NetworkKind.all.find? fun variant => variant.key == key

end MeshConsole
