/-
This file holds the JSON values that the console keeps without interpreting them.
-/

namespace MeshConsole.Json

/-- Whole numbers of 64 bits stay exact; every other number is a double. -/
inductive Number where
  | integer (value : Int)
  | float (value : Float)

/-- The double nearest to a number. -/
def Number.toFloat : Number → Float
  | .integer value => if value < 0 then -Float.ofNat value.natAbs else Float.ofNat value.natAbs
  | .float value => value

/-- The members of an object stand in the order of their names, each name once. -/
inductive Value where
  | null
  | boolean (value : Bool)
  | number (value : Number)
  | text (value : String)
  | array (items : List Value)
  | object (members : List (String × Value))

instance : Inhabited Value := ⟨.null⟩

/-- This function puts a member at its place in the order of names. A name that is already there
takes the new value. -/
def insertMember {α : Type} (name : String) (value : α) :
    List (String × α) → List (String × α)
  | [] => [(name, value)]
  | (other, kept) :: rest =>
    if name = other then (name, value) :: rest
    else if name < other then (name, value) :: (other, kept) :: rest
    else (other, kept) :: insertMember name value rest

/-- This function orders members by name; of a repeated name the last value stays. -/
def orderMembers {α : Type} (members : List (String × α)) : List (String × α) :=
  members.foldl (fun ordered member => insertMember member.1 member.2 ordered) []

/-- The value of a member. -/
def member? {α : Type} (name : String) (members : List (String × α)) : Option α :=
  (members.find? fun member => member.1 == name).map (·.2)

end MeshConsole.Json
