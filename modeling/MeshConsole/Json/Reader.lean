/-
This file reads strict JSON texts.
-/

import MeshConsole.Json.Written
import MeshConsole.Text.Digits

namespace MeshConsole.Json

/-- The four characters that may stand between tokens. -/
def isSpace (c : Char) : Bool :=
  c == ' ' || c == '\n' || c == '\t' || c == '\r'

/-- This function skips the space in front of the next token. -/
def skipSpace (cs : List Char) : List Char :=
  cs.dropWhile isSpace

/-- Four hexadecimal digits name one unit of sixteen bits. -/
def readUnit? : List Char → Option (Nat × List Char)
  | a :: b :: c :: d :: rest =>
    (Text.readDigits? 16 [a, b, c, d]).map fun unit => (unit, rest)
  | _ => none

/-- A unit from here on opens a surrogate pair. -/
def isLeading (unit : Nat) : Bool := 0xD800 ≤ unit && unit < 0xDC00

/-- A unit from here on closes a surrogate pair. -/
def isTrailing (unit : Nat) : Bool := 0xDC00 ≤ unit && unit < 0xE000

/-- The character of a surrogate pair. -/
def pairChar (leading trailing : Nat) : Char :=
  Char.ofNat (0x10000 + (leading - 0xD800) * 0x400 + (trailing - 0xDC00))

/-- The characters that a backslash and one letter stand for. -/
def shortEscape? : Char → Option Char
  | '"' => some '"'
  | '\\' => some '\\'
  | '/' => some '/'
  | 'b' => some (Char.ofNat 8)
  | 'f' => some (Char.ofNat 12)
  | 'n' => some '\n'
  | 'r' => some '\r'
  | 't' => some '\t'
  | _ => none

/-- The text before the closing quote. The inner `none` stands for a text with half a surrogate
pair in it. -/
def readString? : Nat → List Char → Option (Option (List Char) × List Char)
  | 0, _ => none
  | _ + 1, [] => none
  | _ + 1, '"' :: rest => some (some [], rest)
  | fuel + 1, '\\' :: 'u' :: rest => do
    let (unit, rest) ← readUnit? rest
    if isLeading unit then
      match rest with
      | '\\' :: 'u' :: more =>
        let (second, after) ← readUnit? more
        if isTrailing second then
          let (text, rest) ← readString? fuel after
          pure (text.map (pairChar unit second :: ·), rest)
        else
          let (_, rest) ← readString? fuel rest
          pure (none, rest)
      | _ =>
        let (_, rest) ← readString? fuel rest
        pure (none, rest)
    else
      let (text, rest) ← readString? fuel rest
      pure (if isTrailing unit then none else text.map (Char.ofNat unit :: ·), rest)
  | fuel + 1, '\\' :: letter :: rest => do
    let c ← shortEscape? letter
    let (text, rest) ← readString? fuel rest
    pure (text.map (c :: ·), rest)
  | fuel + 1, c :: rest =>
    if c.toNat < 32 ∨ c = '\\' then none
    else do
      let (text, rest) ← readString? fuel rest
      pure (text.map (c :: ·), rest)

/-- This test recognises the ten digits. -/
def isDigit (c : Char) : Bool := '0' ≤ c && c ≤ '9'

/-- A significand takes digits as long as it fits into 64 bits. The result also counts the digits
that are left. -/
def takeDigits (significand : Nat) : List Char → Nat × Nat
  | [] => (significand, 0)
  | c :: rest =>
    let next := significand * 10 + (c.toNat - 48)
    if next < UInt64.size then takeDigits next rest else (significand, rest.length + 1)

/-- A double is scaled by one exact power of ten after another, at most the 308th. There is no
value when the result is too large. -/
def scaleByTen (x : Float) (exponent : Int) : Option Float :=
  if 308 < exponent then (if x == 0.0 then some x else none)
  else if 0 ≤ exponent then
    let scaled := x * Float.ofScientific 1 false exponent.toNat
    if scaled.isInf then none else some scaled
  else if -308 ≤ exponent then some (x / Float.ofScientific 1 false exponent.natAbs)
  else if x == 0.0 then some x
  else scaleByTen (x / 1e308) (exponent + 308)
termination_by (-exponent).toNat
decreasing_by omega

/-- The value of a number from its parts: digits before the point, digits after it, exponent. -/
def numberValue (negative : Bool) (whole : List Char) (fraction : Option (List Char))
    (exponent : Option Int) : Option Number :=
  let (significand, dropped) := takeDigits 0 whole
  if fraction.isNone ∧ exponent.isNone ∧ dropped = 0 ∧
      (negative = false ∨ 0 < significand ∧ significand ≤ 9223372036854775808) then
    some (.integer (if negative then -(significand : Int) else significand))
  else
    let digits := fraction.getD []
    let (significand, unread) := takeDigits significand digits
    let places : Int := digits.length - unread
    (scaleByTen (Float.ofNat significand) (dropped - places + exponent.getD 0)).map fun x =>
      .float (if negative then -x else x)

/-- An exponent part needs at least one digit after its mark and sign. -/
def readExponent? : List Char → Option (Option Int × List Char)
  | mark :: rest =>
    if mark = 'e' ∨ mark = 'E' then
      let (negative, body) := match rest with
        | '-' :: body => (true, body)
        | '+' :: body => (false, body)
        | body => (false, body)
      match body.span isDigit with
      | ([], _) => none
      | (digits, rest) =>
        (Text.readDigits? 10 digits).map fun value =>
          (some (if negative then -(value : Int) else value), rest)
    else some (none, mark :: rest)
  | [] => some (none, [])

/-- A fraction part needs at least one digit after its point. -/
def readFraction? : List Char → Option (Option (List Char) × List Char)
  | '.' :: rest =>
    match rest.span isDigit with
    | ([], _) => none
    | (digits, rest) => some (some digits, rest)
  | rest => some (none, rest)

/-- A number has no plus sign in front and no needless zero. -/
def readNumber? (cs : List Char) : Option (Option Number × List Char) := do
  let (negative, body) := match cs with
    | '-' :: body => (true, body)
    | body => (false, body)
  let (whole, rest) := body.span isDigit
  if whole = [] ∨ (whole.head? = some '0' ∧ 1 < whole.length) then none
  else
    let (fraction, rest) ← readFraction? rest
    let (exponent, rest) ← readExponent? rest
    pure (numberValue negative whole fraction exponent, rest)

mutual

/-- This function reads one value. The fuel bounds the number of characters. -/
def readValue? : Nat → List Char → Option (Written × List Char)
  | 0, _ => none
  | fuel + 1, cs =>
    match skipSpace cs with
    | '"' :: rest => do
      let (text, rest) ← readString? (fuel + 1) rest
      pure (.text (text.map String.ofList), rest)
    | '[' :: rest =>
      match skipSpace rest with
      | ']' :: rest => some (.array [], rest)
      | rest => do
        let (items, rest) ← readItems? fuel rest
        pure (.array items, rest)
    | '{' :: rest =>
      match skipSpace rest with
      | '}' :: rest => some (.object [], rest)
      | rest => do
        let (members, rest) ← readMembers? fuel rest
        pure (.object members, rest)
    | 'n' :: 'u' :: 'l' :: 'l' :: rest => some (.null, rest)
    | 't' :: 'r' :: 'u' :: 'e' :: rest => some (.boolean true, rest)
    | 'f' :: 'a' :: 'l' :: 's' :: 'e' :: rest => some (.boolean false, rest)
    | rest => (readNumber? rest).map fun (value, rest) => (.number value, rest)

/-- This function reads the items of an array and its closing bracket. -/
def readItems? : Nat → List Char → Option (List Written × List Char)
  | 0, _ => none
  | fuel + 1, cs => do
    let (item, rest) ← readValue? fuel cs
    match skipSpace rest with
    | ',' :: rest =>
      let (items, rest) ← readItems? fuel rest
      pure (item :: items, rest)
    | ']' :: rest => pure ([item], rest)
    | _ => none

/-- This function reads the members of an object and its closing brace. -/
def readMembers? : Nat → List Char → Option (List (Option String × Written) × List Char)
  | 0, _ => none
  | fuel + 1, cs =>
    match skipSpace cs with
    | '"' :: rest => do
      let (name, rest) ← readString? (fuel + 1) rest
      let name := name.map String.ofList
      match skipSpace rest with
      | ':' :: rest =>
        let (value, rest) ← readValue? fuel rest
        match skipSpace rest with
        | ',' :: rest =>
          let (members, rest) ← readMembers? fuel rest
          pure ((name, value) :: members, rest)
        | '}' :: rest => pure ([(name, value)], rest)
        | _ => none
      | _ => none
    | _ => none

end

/-- A whole text is one value with nothing but space around it. -/
def read? (text : String) : Option Written :=
  let cs := text.toList
  match readValue? (cs.length + 1) cs with
  | some (written, rest) => if skipSpace rest = [] then some written else none
  | none => none

end MeshConsole.Json
