/-
This file holds the white space of the Unicode standard and the trimming of texts.
-/

namespace MeshConsole.Text

/-- A character is blank when the Unicode standard gives it the property `White_Space`. -/
def isBlank (c : Char) : Bool :=
  let code := c.toNat
  (9 ≤ code && code ≤ 13) || code == 0x20 || code == 0x85 || code == 0xA0 || code == 0x1680 ||
    (0x2000 ≤ code && code ≤ 0x200A) || code == 0x2028 || code == 0x2029 || code == 0x202F ||
    code == 0x205F || code == 0x3000

/-- This function drops the longest final run of characters that satisfy `p`. -/
def dropTrailing (p : Char → Bool) (cs : List Char) : List Char :=
  (cs.reverse.dropWhile p).reverse

/-- This function drops the blank characters at both ends. -/
def trim (cs : List Char) : List Char :=
  dropTrailing isBlank (cs.dropWhile isBlank)

/-- This function drops the blank characters at both ends of a string. -/
def trimmed (s : String) : String :=
  String.ofList (trim s.toList)

/-- This function drops every slash at the end of a string. -/
def withoutTrailingSlashes (s : String) : String :=
  String.ofList (dropTrailing (· == '/') s.toList)

/-- This function drops every slash at the start of a string. -/
def withoutLeadingSlashes (s : String) : String :=
  String.ofList (s.toList.dropWhile (· == '/'))

end MeshConsole.Text
