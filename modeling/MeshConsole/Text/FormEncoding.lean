/-
This file writes the names and values of a query in the form that browsers use for form data.
-/

import MeshConsole.Text.Digits

namespace MeshConsole.Text

/-- These bytes stand for themselves. -/
def isKept (byte : UInt8) : Bool :=
  let code := byte.toNat
  (48 ≤ code && code ≤ 57) || (65 ≤ code && code ≤ 90) || (97 ≤ code && code ≤ 122) ||
    code == 42 || code == 45 || code == 46 || code == 95

/-- A space becomes a plus sign. Every other byte that is not kept is a percent sign and two
capital hexadecimal digits. -/
def encodeByte (byte : UInt8) : List Char :=
  if isKept byte then [Char.ofNat byte.toNat]
  else if byte = 32 then ['+']
  else ['%', upperDigit (byte.toNat / 16), upperDigit (byte.toNat % 16)]

/-- This function encodes the UTF-8 bytes of a text. -/
def encodeForm (cs : List Char) : List Char :=
  (cs.flatMap String.utf8EncodeChar).flatMap encodeByte

/-- One pair of a query. -/
def encodePair (pair : List Char × List Char) : List Char :=
  encodeForm pair.1 ++ '=' :: encodeForm pair.2

/-- The pairs of a query with ampersands between them. -/
def encodePairs : List (List Char × List Char) → List Char
  | [] => []
  | [pair] => encodePair pair
  | pair :: rest => encodePair pair ++ '&' :: encodePairs rest

end MeshConsole.Text
