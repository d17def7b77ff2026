/-
This file holds the ESPHome servers and connections. The console only lists them, so the members
beside the identifier stay as they arrive.
-/

import MeshConsole.Record.Link

namespace MeshConsole

open Json Record

/-- An ESPHome server or client connection. -/
structure Pairing where
  id : Value
  members : List (String × Value)

/-- The identifier must occur exactly once. Of every other name the last value counts. -/
def Pairing.decode? (room : Nat) : Written → Option Pairing
  | .object members =>
    if room = 0 then none
    else do
      let fields ← objectFields? ["id"] members
      let id ← required (Written.value? (room - 1)) fields "id"
      let others ← memberValues? (room - 1) (members.filter fun member => member.1 ≠ some "id")
      pure ⟨id, orderMembers others⟩
  | _ => none

/-- This function adds the names that are not yet columns. -/
def addColumns (columns names : List String) : List String :=
  names.foldl (fun columns name => if columns.contains name then columns else columns ++ [name])
    columns

/-- The columns of a table, each in the place where it first occurs. -/
def Pairing.columns (records : List Pairing) : List String :=
  records.foldl (fun columns record => addColumns columns (record.members.map (·.1))) []

/-- The text of one cell. Strings stand without quotes, and missing members are empty. -/
def Pairing.cell (record : Pairing) (column : String) : String :=
  match member? column record.members with
  | none | some .null => ""
  | some (.text value) => value
  | some other => other.compact

end MeshConsole
