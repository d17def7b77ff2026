/-
This file holds JSON as it stands in a text, before anything is decoded, and its values.
-/

import MeshConsole.Json.Value

namespace MeshConsole.Json

/-- The members of an object keep their written order and their repetitions. A string whose
escapes name half a surrogate pair has no text, and a number too large for a double has no value.
Both are still well-formed, so a member that nobody decodes may hold them. -/
inductive Written where
  | null
  | boolean (value : Bool)
  | number (value : Option Number)
  | text (value : Option String)
  | array (items : List Written)
  | object (members : List (Option String × Written))

instance : Inhabited Written := ⟨.null⟩

/-- A decoded value opens at most this many arrays and objects inside each other. -/
def depthLimit : Nat := 127

mutual

/-- The value that a text denotes, if at most `room` containers stand inside each other. -/
def Written.value? (room : Nat) : Written → Option Value
  | .null => some .null
  | .boolean value => some (.boolean value)
  | .number value => value.map .number
  | .text value => value.map .text
  | .array items => if room = 0 then none else (itemValues? (room - 1) items).map .array
  | .object members =>
    if room = 0 then none
    else (memberValues? (room - 1) members).map fun values => .object (orderMembers values)

/-- The values of all items. -/
def itemValues? (room : Nat) : List Written → Option (List Value)
  | [] => some []
  | item :: rest => do
    let value ← item.value? room
    let values ← itemValues? room rest
    pure (value :: values)

/-- The values of all members, in written order. -/
def memberValues? (room : Nat) :
    List (Option String × Written) → Option (List (String × Value))
  | [] => some []
  | (name, written) :: rest => do
    let name ← name
    let value ← written.value? room
    let values ← memberValues? room rest
    pure ((name, value) :: values)

end

mutual

/-- A value as a text would write it. -/
def Value.written : Value → Written
  | .null => .null
  | .boolean value => .boolean value
  | .number value => .number (some value)
  | .text value => .text (some value)
  | .array items => .array (writtenItems items)
  | .object members => .object (writtenMembers members)

/-- All items as a text would write them. -/
def writtenItems : List Value → List Written
  | [] => []
  | item :: rest => item.written :: writtenItems rest

/-- All members as a text would write them. -/
def writtenMembers : List (String × Value) → List (Option String × Written)
  | [] => []
  | (name, value) :: rest => (some name, value.written) :: writtenMembers rest

end

end MeshConsole.Json
