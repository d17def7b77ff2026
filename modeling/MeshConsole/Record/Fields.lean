/-
This file decodes the members of records.
-/

import MeshConsole.Json.Reader

namespace MeshConsole.Record

open Json

/-- The members of a record by name. -/
abbrev Fields := String → Option Written

/-- The written values that stand under a name. -/
def valuesNamed (name : String) (members : List (Option String × Written)) : List Written :=
  members.filterMap fun member => if member.1 = some name then some member.2 else none

/-- The known members of an object: every name must have a text, and a known name may occur
once. -/
def objectFields? (names : List String) (members : List (Option String × Written)) :
    Option Fields :=
  if members.all (·.1.isSome) ∧ names.all (fun name => (valuesNamed name members).length ≤ 1) then
    some fun name => (valuesNamed name members).head?
  else none

/-- The item of an array at the place that a name has among the names. -/
def itemNamed? (name : String) : List String → List Written → Option Written
  | known :: names, item :: items => if name = known then some item else itemNamed? name names items
  | _, _ => none

/-- A record is an object, or an array with the members in the order of `names`. The members at
the end of an array may be missing. -/
def fields? (names : List String) : Written → Option Fields
  | .object members => objectFields? names members
  | .array items =>
    if items.length ≤ names.length then some fun name => itemNamed? name names items else none
  | _ => none

/-- A member that every record has. -/
def required {α : Type} (decode : Written → Option α) (fields : Fields) (name : String) :
    Option α :=
  (fields name).bind decode

/-- A member with a value for the records that lack it. -/
def optional {α : Type} (decode : Written → Option α) (default : α) (fields : Fields)
    (name : String) : Option α :=
  match fields name with
  | some written => decode written
  | none => some default

/-- A truth value. -/
def boolean? : Written → Option Bool
  | .boolean value => some value
  | _ => none

/-- A string that has a text. -/
def text? : Written → Option String
  | .text value => value
  | _ => none

/-- A whole number between two bounds, both included. -/
def integer? (low high : Int) : Written → Option Int
  | .number (some (.integer value)) => if low ≤ value ∧ value ≤ high then some value else none
  | _ => none

/-- A whole number of 8 bits without a sign. -/
def byte? (written : Written) : Option UInt8 :=
  (integer? 0 255 written).map fun value => UInt8.ofNat value.toNat

/-- A whole number of 8 bits with a sign. -/
def signedByte? (written : Written) : Option Int8 :=
  (integer? (-128) 127 written).map Int8.ofInt

/-- A whole number of 32 bits without a sign. -/
def word? (written : Written) : Option UInt32 :=
  (integer? 0 4294967295 written).map fun value => UInt32.ofNat value.toNat

/-- A whole number of 64 bits without a sign. -/
def size? (written : Written) : Option Nat :=
  (integer? 0 18446744073709551615 written).map Int.toNat

/-- Any number that a double can hold. -/
def float? : Written → Option Float
  | .number value => value.map Number.toFloat
  | _ => none

/-- A value or `null`. -/
def nullable? {α : Type} (decode : Written → Option α) : Written → Option (Option α)
  | .null => some none
  | written => (decode written).map some

/-- This function decodes every item of an array. -/
def items? {α : Type} (decode : Written → Option α) : List Written → Option (List α)
  | [] => some []
  | item :: rest => do
    let first ← decode item
    let others ← items? decode rest
    pure (first :: others)

/-- An array of records. The array takes one of the containers that may stand inside each other. -/
def list? {α : Type} (decode : Nat → Written → Option α) (room : Nat) : Written → Option (List α)
  | .array items => if room = 0 then none else items? (decode (room - 1)) items
  | _ => none

/-- This function decodes a whole text. -/
def ofText? {α : Type} (decode : Nat → Written → Option α) (text : String) : Option α :=
  (Json.read? text).bind (decode depthLimit)

end MeshConsole.Record
