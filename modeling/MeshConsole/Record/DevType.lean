/-
This file holds the hardware role of a mesh node.
-/

import MeshConsole.Record.Fields

namespace MeshConsole

open Json

/-- The hardware role of a mesh node. Names that the console does not know are `unknown`. -/
inductive DevType where
  | edge
  | coordinator
  | bridge
  | unknown
deriving DecidableEq, Repr, Inhabited

/-- The name that the backend uses. -/
def DevType.name : DevType → String
  | .edge => "edge"
  | .coordinator => "coordinator"
  | .bridge => "bridge"
  | .unknown => "unknown"

/-- The backend also sends the second role without its last letter. -/
def DevType.ofName (name : String) : DevType :=
  if name = "edge" then .edge
  else if name = "coordinator" ∨ name = "coordinato" then .coordinator
  else if name = "bridge" then .bridge
  else .unknown

/-- The letter that the tables show. -/
def DevType.letter : DevType → String
  | .edge => "E"
  | .coordinator => "C"
  | _ => "B"

/-- A role is written as its name, or as an object whose only member has this name and holds
nothing. -/
def DevType.decode? (isNothing : Written → Bool) : Written → Option DevType
  | .text name => name.map DevType.ofName
  | .object [(name, value)] => if isNothing value then name.map DevType.ofName else none
  | _ => none

/-- In a plain record only `null` is nothing. -/
def isNull : Written → Bool
  | .null => true
  | _ => false

/-- Among the members of a joined record an empty object is nothing too. -/
def isNullOrEmpty : Written → Bool
  | .null => true
  | .object [] => true
  | _ => false

end MeshConsole
