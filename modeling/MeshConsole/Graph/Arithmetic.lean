/-
This file holds the operations on doubles that the drawing code shares.
-/

namespace MeshConsole.Graph

/-- The larger of two doubles. A value that is no number yields the other one. -/
def larger (a b : Float) : Float :=
  if a.isNaN then b else if b.isNaN then a else if a < b then b else a

/-- The smaller of two doubles. A value that is no number yields the other one. -/
def smaller (a b : Float) : Float :=
  if a.isNaN then b else if b.isNaN then a else if b < a then b else a

/-- This function moves a value between two bounds. -/
def between {α : Type} [LT α] [DecidableLT α] (low high value : α) : α :=
  if value < low then low else if high < value then high else value

/-- The value between two computed bounds. There is none when the bounds are reversed or one of
them is no number. -/
def between? (low high value : Float) : Option Float :=
  if low ≤ high then some (between low high value) else none

/-- The ratio of a circle's circumference to its diameter. -/
def pi : Float := 3.141592653589793

/-- The distance from the origin. -/
def norm (dx dy : Float) : Float :=
  (dx * dx + dy * dy).sqrt

/-- This easing starts and ends with slope zero. -/
def smoothStep (t : Float) : Float :=
  t * t * (3.0 - 2.0 * t)

end MeshConsole.Graph
