/-
This file writes JSON values as compact text.
-/

import MeshConsole.Json.Value
import MeshConsole.Decimal.Layout
import MeshConsole.Text.Digits

namespace MeshConsole.Json

/-- Quotes, backslashes and control characters are escaped; every other character stands for
itself. -/
def escapeChar (c : Char) : List Char :=
  if c = '"' then ['\\', '"']
  else if c = '\\' then ['\\', '\\']
  else if c = '\n' then ['\\', 'n']
  else if c = '\r' then ['\\', 'r']
  else if c = '\t' then ['\\', 't']
  else if c.toNat = 8 then ['\\', 'b']
  else if c.toNat = 12 then ['\\', 'f']
  else if c.toNat < 32 then
    ['\\', 'u', '0', '0', Text.lowerDigit (c.toNat / 16), Text.lowerDigit (c.toNat % 16)]
  else [c]

/-- This function writes a string between quotes. -/
def quote (cs : List Char) : List Char :=
  '"' :: cs.flatMap escapeChar ++ ['"']

/-- This function writes a whole number. -/
def printInteger (value : Int) : List Char :=
  if value < 0 then '-' :: Text.decimal value.natAbs else Text.decimal value.natAbs

/-- This function writes a number. -/
def printNumber : Number → List Char
  | .integer value => printInteger value
  | .float value => Decimal.json value

/-- This function puts a comma between parts. -/
def commaSeparated : List (List Char) → List Char
  | [] => []
  | [part] => part
  | part :: rest => part ++ ',' :: commaSeparated rest

/-- This function writes an array of written items. -/
def printArray (items : List (List Char)) : List Char :=
  '[' :: commaSeparated items ++ [']']

/-- This function writes one member of an object. -/
def printMember (name : String) (value : List Char) : List Char :=
  quote name.toList ++ ':' :: value

/-- This function writes an object of written members. -/
def printObject (members : List (List Char)) : List Char :=
  '{' :: commaSeparated members ++ ['}']

mutual

/-- This function writes a value without any space. -/
def print : Value → List Char
  | .null => "null".toList
  | .boolean true => "true".toList
  | .boolean false => "false".toList
  | .number value => printNumber value
  | .text value => quote value.toList
  | .array items => printArray (printItems items)
  | .object members => printObject (printMembers members)

/-- This function writes every item of an array. -/
def printItems : List Value → List (List Char)
  | [] => []
  | item :: rest => print item :: printItems rest

/-- This function writes every member of an object. -/
def printMembers : List (String × Value) → List (List Char)
  | [] => []
  | (name, value) :: rest => printMember name (print value) :: printMembers rest

end

/-- The compact text of a value. -/
def Value.compact (value : Value) : String :=
  String.ofList (print value)

end MeshConsole.Json
