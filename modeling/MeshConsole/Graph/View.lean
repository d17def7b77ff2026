/-
This file holds the view of the plane and the gestures that move it or a node. It works with any
numbers, and the plane may use coarser ones than the screen.
-/

import MeshConsole.Graph.Arithmetic

namespace MeshConsole

/-- The plane may be coarser than the screen. -/
class Coarsen (screen plane : Type) where
  coarsen : screen → plane

/-- The plane of the drawing keeps positions as single precision numbers. -/
instance : Coarsen Float Float32 := ⟨Float.toFloat32⟩

/-- A point of the plane at `p` is drawn at `p * k` away from the corner `(x, y)`. -/
structure View (screen : Type) where
  x : screen
  y : screen
  k : screen
deriving DecidableEq

/-- The hold of the pointer on a node, with the places of both when it took hold. -/
structure Grasp (screen plane : Type) where
  active : Bool
  node : Option Nat
  startX : screen
  startY : screen
  nodeStartX : plane
  nodeStartY : plane
deriving DecidableEq

/-- A node follows the pointer. -/
structure Drag (screen plane : Type) where
  node : Nat
  startX : screen
  startY : screen
  nodeStartX : plane
  nodeStartY : plane
deriving DecidableEq

/-- The view follows the pointer while `active` holds. -/
structure Pan (screen : Type) where
  active : Bool
  startX : screen
  startY : screen
  viewStartX : screen
  viewStartY : screen
deriving DecidableEq

/-- The view together with what the pointer holds. -/
structure Gesture (screen plane : Type) where
  view : View screen
  grasp : Grasp screen plane
  pan : Pan screen
deriving DecidableEq

/-- A node follows the pointer as long as an active grasp names it. -/
def Gesture.drag {screen plane : Type} (gesture : Gesture screen plane) :
    Option (Drag screen plane) :=
  match gesture.grasp with
  | ⟨true, some node, startX, startY, nodeStartX, nodeStartY⟩ =>
    some ⟨node, startX, startY, nodeStartX, nodeStartY⟩
  | _ => none

/-- A node under the pointer and its position. -/
structure Grip (plane : Type) where
  node : Nat
  x : plane
  y : plane
deriving DecidableEq

section

variable {screen plane : Type} [Add screen] [Sub screen] [Mul screen] [Div screen] [LT screen]
  [DecidableLT screen] [OfScientific screen] [Add plane] [OfScientific plane]
  [Coarsen screen plane]

/-- The pointer holds no node. -/
def Grasp.empty : Grasp screen plane := ⟨false, none, 0.0, 0.0, 0.0, 0.0⟩

/-- The point of the plane that is drawn at a point of the screen. -/
def View.toPlane (view : View screen) (x y : screen) : screen × screen :=
  ((x - view.x) / view.k, (y - view.y) / view.k)

/-- One step of the wheel scales the view about a point of the screen. The zoom stays between a
tenth and ten. -/
def View.zoom (view : View screen) (x y : screen) (closer : Bool) : View screen :=
  let factor : screen := if closer then 1.1 else 0.9
  let k := Graph.between (0.1 : screen) (10.0 : screen) (view.k * factor)
  let ratio := k / view.k
  { x := x - (x - view.x) * ratio
    y := y - (y - view.y) * ratio
    k }

/-- A press takes the node under the pointer, or else the view. -/
def Gesture.press (gesture : Gesture screen plane) (under : Option (Grip plane))
    (x y : screen) : Gesture screen plane :=
  match under with
  | some grip => { gesture with grasp := ⟨true, some grip.node, x, y, grip.x, grip.y⟩ }
  | none => { gesture with pan := ⟨true, x, y, gesture.view.x, gesture.view.y⟩ }

/-- The place where a dragged node belongs when the pointer is at a point of the screen. -/
def Drag.target (drag : Drag screen plane) (view : View screen) (x y : screen) : Grip plane :=
  { node := drag.node
    x := drag.nodeStartX + Coarsen.coarsen ((x - drag.startX) / view.k)
    y := drag.nodeStartY + Coarsen.coarsen ((y - drag.startY) / view.k) }

/-- The view keeps its distance to the pointer while it is panned. -/
def Gesture.panTo (gesture : Gesture screen plane) (x y : screen) : Gesture screen plane :=
  if gesture.pan.active then
    { gesture with
      view :=
        { gesture.view with
          x := gesture.pan.viewStartX + (x - gesture.pan.startX)
          y := gesture.pan.viewStartY + (y - gesture.pan.startY) } }
  else gesture

/-- This function lets go of everything. -/
def Gesture.release (gesture : Gesture screen plane) : Gesture screen plane :=
  { gesture with grasp := .empty, pan := { gesture.pan with active := false } }

/-- The wheel zooms about the pointer whatever the pointer holds. -/
def Gesture.zoom (gesture : Gesture screen plane) (x y : screen) (closer : Bool) :
    Gesture screen plane :=
  { gesture with view := gesture.view.zoom x y closer }

end

end MeshConsole
