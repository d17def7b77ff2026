/-
This file writes natural numbers in a base and reads them back.
-/

namespace MeshConsole.Text

/-- The digits of a number, the most significant first. -/
def digits (base n : Nat) : List Nat :=
  if 2 ≤ base ∧ base ≤ n then digits base (n / base) ++ [n % base] else [n]
termination_by n
decreasing_by exact Nat.div_lt_self (by omega) (by omega)

/-- The character of a digit below 16, with capital letters. -/
def upperDigit (digit : Nat) : Char :=
  Char.ofNat (if digit < 10 then 48 + digit else 55 + digit)

/-- The character of a digit below 16, with small letters. -/
def lowerDigit (digit : Nat) : Char :=
  Char.ofNat (if digit < 10 then 48 + digit else 87 + digit)

/-- This function writes a number in decimal digits. -/
def decimal (n : Nat) : List Char :=
  (digits 10 n).map upperDigit

/-- This function writes a number in hexadecimal digits with capital letters. -/
def upperHex (n : Nat) : List Char :=
  (digits 16 n).map upperDigit

/-- This function writes a number in hexadecimal digits with small letters. -/
def lowerHex (n : Nat) : List Char :=
  (digits 16 n).map lowerDigit

/-- This function fills a text up to `width` characters with `filler` in front. -/
def padLeft (width : Nat) (filler : Char) (cs : List Char) : List Char :=
  List.replicate (width - cs.length) filler ++ cs

/-- The value of an ASCII digit of the base; letters count in either case. -/
def digitValue? (base : Nat) (c : Char) : Option Nat :=
  let code := c.toNat
  let value :=
    if 48 ≤ code ∧ code ≤ 57 then code - 48
    else if 65 ≤ code ∧ code ≤ 90 then code - 55
    else if 97 ≤ code ∧ code ≤ 122 then code - 87
    else base
  if value < base then some value else none

/-- The number that the digits denote after the digits read so far. -/
def readDigitsFrom? (base : Nat) : Nat → List Char → Option Nat
  | value, [] => some value
  | value, c :: rest =>
    match digitValue? base c with
    | some digit => readDigitsFrom? base (value * base + digit) rest
    | none => none

/-- The number that one or more digits denote. -/
def readDigits? (base : Nat) : List Char → Option Nat
  | [] => none
  | cs => readDigitsFrom? base 0 cs

/-- The number below `bound` that a text denotes; one plus sign may stand in front. -/
def readNatural? (base bound : Nat) (cs : List Char) : Option Nat :=
  let body := match cs with
    | '+' :: rest => rest
    | _ => cs
  (readDigits? base body).filter (· < bound)

end MeshConsole.Text
