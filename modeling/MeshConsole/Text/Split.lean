/-
This file cuts texts at separators and strips fixed beginnings and endings.
-/

namespace MeshConsole.Text

/-- The parts of a text between its separators; a text without one is its only part. -/
def splitAt (separator : Char) : List Char → List (List Char)
  | [] => [[]]
  | c :: rest =>
    if c = separator then [] :: splitAt separator rest
    else match splitAt separator rest with
      | [] => [[c]]
      | part :: parts => (c :: part) :: parts

/-- The text after the last separator, if there is a separator. -/
def afterLast? (separator : Char) : List Char → Option (List Char)
  | [] => none
  | c :: rest =>
    match afterLast? separator rest with
    | some tail => some tail
    | none => if c = separator then some rest else none

/-- The rest of a text that starts with `start`. -/
def dropStart? : List Char → List Char → Option (List Char)
  | [], rest => some rest
  | _ :: _, [] => none
  | c :: start, d :: rest => if c = d then dropStart? start rest else none

theorem dropStart?_length {start cs rest : List Char} (found : dropStart? start cs = some rest) :
    cs.length = start.length + rest.length := by
  induction start generalizing cs with
  | nil => simp_all [dropStart?]
  | cons c start ih =>
    cases cs with
    | nil => simp [dropStart?] at found
    | cons d cs =>
      by_cases same : c = d
      · simp only [dropStart?, same, if_true] at found
        have := ih found
        simp only [List.length_cons]
        omega
      · simp [dropStart?, same] at found

/-- This function removes `start` from the front as often as it stands there. -/
def dropStarts (start : List Char) (cs : List Char) : List Char :=
  match _found : dropStart? start cs with
  | some rest => if 0 < start.length then dropStarts start rest else cs
  | none => cs
termination_by cs.length
decreasing_by
  have := dropStart?_length _found
  omega

end MeshConsole.Text
