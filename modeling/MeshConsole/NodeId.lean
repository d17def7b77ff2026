/-
This file holds node identifiers: their canonical text, the loose forms that fields and the
backend use, and the check that a field holds canonical text.
-/

import MeshConsole.Text.Digits
import MeshConsole.Text.UpperCase

namespace MeshConsole

open Text

/-- A mesh node is addressed by a number. Canonical text shows six digits, so it reaches the first
24 bits. -/
structure NodeId where
  value : UInt32
deriving DecidableEq, Repr, Inhabited

/-- The largest identifier that has six digits. -/
def NodeId.largest : NodeId := ⟨0xFFFFFF⟩

/-- Canonical text has this many digits. -/
def idWidth : Nat := 6

/-- The letter `N` and at least six capital hexadecimal digits. -/
def canonicalText (n : Nat) : List Char :=
  'N' :: padLeft idWidth '0' (upperHex n)

/-- The canonical text of an identifier. -/
def NodeId.text (id : NodeId) : String :=
  String.ofList (canonicalText id.value.toNat)

/-- An identifier as a field or the backend gives it: a number, or text in any shape. -/
inductive LooseId where
  | number (value : UInt64)
  | text (content : String)
deriving DecidableEq, Repr

/-- Numbers and texts that start with `0x` are shown in canonical form. Every other text is shown
as it is. -/
def LooseId.display : LooseId → String
  | .number value => String.ofList (canonicalText value.toNat)
  | .text content =>
    match content.toList with
    | '0' :: 'x' :: rest => String.ofList ('N' :: padLeft idWidth '0' (upperCase rest))
    | _ => content

/-- A text is a number when the letter `N` stands before hexadecimal digits of a 64 bit number,
which may carry a plus sign. Every other text stays text. -/
def LooseId.ofText (content : String) : LooseId :=
  match content.toList with
  | 'N' :: rest =>
    match readNatural? 16 UInt64.size rest with
    | some value => .number (UInt64.ofNat value)
    | none => .text content
  | _ => .text content

/-- The identifier of a canonical text: `N` and exactly six hexadecimal digits in either case. -/
def NodeId.ofCanonical? (content : String) : Option NodeId :=
  match content.toList with
  | 'N' :: rest =>
    if rest.length = idWidth then
      (readDigits? 16 rest).map fun value => ⟨UInt32.ofNat value⟩
    else none
  | _ => none

/-- This is what can be wrong with the content of a form field. -/
inductive FieldFault where
  | notCanonical
  | weightOutOfRange
deriving DecidableEq, Repr

/-- The text that stands beside a faulty field. -/
def FieldFault.message : FieldFault → String
  | .notCanonical => "Invalid node ID"
  | .weightOutOfRange => "Weight must be between 0 and 100"

/-- The faults of a form by field, in the order of the field names. -/
abbrev FieldFaults := List (String × FieldFault)

/-- This check reads a field that must hold canonical text. -/
def NodeId.ofField (field content : String) : Except FieldFaults NodeId :=
  match NodeId.ofCanonical? content with
  | some id => .ok id
  | none => .error [(field, .notCanonical)]

end MeshConsole
