/-
This file follows the pointer through one gesture: a press, and then moves and steps of the wheel in
any order. With exact numbers it says which point of the plane is under the pointer while the view
is panned, and how far a dragged node is from this point.
-/

import Mathlib.Algebra.Field.Rat
import Mathlib.Algebra.Module.Torsion.Prod
import Mathlib.Algebra.Module.Torsion.Field
import Mathlib.Algebra.Order.Field.Basic
import Mathlib.Algebra.Order.Ring.Unbundled.Rat
import Mathlib.Data.List.DropRight
import Mathlib.Tactic.FieldSimp
import Mathlib.Tactic.Linarith
import Mathlib.Tactic.NormNum
import Mathlib.Tactic.Ring
import MeshConsole.Proofs.Graph.PinnedNodes

namespace MeshConsole

/-- What a gesture works on: the view and what the pointer holds, the places of the nodes, and the
place of the pointer. -/
structure PointerCourse (screen plane : Type) where
  gesture : Gesture screen plane
  spots : Nat → Option (plane × plane)
  x : screen
  y : screen

/-- What the pointer does after a press. The wheel zooms at the place of the pointer. -/
inductive GestureEvent (screen : Type) where
  | moved (x y : screen)
  | zoomed (closer : Bool)
deriving DecidableEq

/-- The event is a step of the wheel. -/
def GestureEvent.isZoom {screen : Type} : GestureEvent screen → Bool
  | .moved .. => false
  | .zoomed _ => true

/-- The events up to the last move of the pointer. -/
def upToLastMove {screen : Type} (events : List (GestureEvent screen)) :
    List (GestureEvent screen) :=
  events.rdropWhile GestureEvent.isZoom

/-- The pointer has moved. -/
def HasMoved {screen : Type} (events : List (GestureEvent screen)) : Prop :=
  ∃ x y, .moved x y ∈ events

namespace PointerCourse

section Steps

variable {screen plane : Type} [Add screen] [Sub screen] [Mul screen] [Div screen] [LT screen]
  [DecidableLT screen] [OfScientific screen] [Add plane] [OfScientific plane]
  [Coarsen screen plane]

/-- A node under the pointer. -/
def grip (course : PointerCourse screen plane) (node : Nat) : Grip plane :=
  match course.spots node with
  | some (x, y) => ⟨node, x, y⟩
  | none => ⟨node, 0.0, 0.0⟩

/-- A press takes the node under the pointer, or else the view. -/
def press (course : PointerCourse screen plane) (under : Option Nat) (x y : screen) :
    PointerCourse screen plane :=
  { course with gesture := course.gesture.press (under.map course.grip) x y, x, y }

/-- The places of the nodes once one of them is put elsewhere. -/
def put (course : PointerCourse screen plane) (grip : Grip plane) (node : Nat) :
    Option (plane × plane) :=
  if grip.node = node then (course.spots node).map fun _ => (grip.x, grip.y)
  else course.spots node

/-- A move of the pointer takes a dragged node along, or else a panned view. -/
def move (course : PointerCourse screen plane) (x y : screen) : PointerCourse screen plane :=
  match course.gesture.drag with
  | some drag => { course with spots := course.put (drag.target course.gesture.view x y), x, y }
  | none => { course with gesture := course.gesture.panTo x y, x, y }

/-- What one more event leads to. -/
def after (course : PointerCourse screen plane) :
    GestureEvent screen → PointerCourse screen plane
  | .moved x y => course.move x y
  | .zoomed closer => { course with gesture := course.gesture.zoom course.x course.y closer }

/-- What several events lead to. -/
def run (course : PointerCourse screen plane) (events : List (GestureEvent screen)) :
    PointerCourse screen plane :=
  events.foldl after course

/-- The view. -/
def view (course : PointerCourse screen plane) : View screen := course.gesture.view

/-- The point of the plane that is drawn under the pointer. -/
def underPointer (course : PointerCourse screen plane) : screen × screen :=
  course.view.toPlane course.x course.y

/-- A move of the pointer pans the view. -/
def Pans (course : PointerCourse screen plane) : Prop :=
  course.gesture.pan.active = true ∧ course.gesture.drag = none

end Steps

end PointerCourse

/-- The course of a diagram whose pointer is at a place. -/
def Diagram.course (diagram : Diagram) (x y : Float) : PointerCourse Float Float32 :=
  ⟨diagram.gesture, diagram.simulation.spot?, x, y⟩

section Diagrams

variable (diagram : Diagram) (sizes : Sizes) (x y : Float)

/-- A press on a diagram is one on its course, with the node that the diagram finds. -/
theorem Diagram.course_press (lastX lastY : Float) :
    (diagram.press sizes x y).course x y =
      (diagram.course lastX lastY).press (diagram.nodeAt? sizes x y) x y := by
  simp only [course, press, PointerCourse.press]
  congr 3
  funext node
  simp only [PointerCourse.grip, Simulation.spot?]
  cases diagram.simulation.bodies[node]? <;> rfl

/-- A move over a diagram is one on its course. -/
theorem Diagram.course_move (lastX lastY : Float) :
    (diagram.move sizes x y).course x y = (diagram.course lastX lastY).move x y := by
  cases dragging : diagram.gesture.drag with
  | none =>
      simp only [move, PointerCourse.move, course, dragging]
      rfl
  | some drag =>
      rw [move_of_drag dragging]
      simp only [PointerCourse.move, course, dragging]
      congr 1
      funext place
      simp only [Simulation.spot?, bodies_pin, PointerCourse.put]
      split_ifs <;> simp [Function.comp_def]

/-- A step of the wheel over a diagram is one on its course. -/
theorem Diagram.course_zoom (closer : Bool) :
    (diagram.zoom x y closer).course x y = (diagram.course x y).after (.zoomed closer) := rfl

/-- What happens to a diagram when the pointer is first at `(x, y)`. -/
def gestureEvents (sizes : Sizes) (x y : Float) : List (GestureEvent Float) → List DiagramEvent
  | [] => []
  | .moved x y :: rest => .moved sizes x y :: gestureEvents sizes x y rest
  | .zoomed closer :: rest => .zoomed x y closer :: gestureEvents sizes x y rest

/-- Events of the pointer over a diagram are those on its course. -/
theorem Diagram.course_run (events : List (GestureEvent Float)) :
    (diagram.run (gestureEvents sizes x y events)).course ((diagram.course x y).run events).x
        ((diagram.course x y).run events).y = (diagram.course x y).run events := by
  induction events generalizing diagram x y with
  | nil => rfl
  | cons event rest ih =>
      cases event with
      | moved newX newY =>
          have later := ih (diagram.move sizes newX newY) newX newY
          rw [diagram.course_move sizes newX newY x y] at later
          exact later
      | zoomed closer => exact ih (diagram.zoom x y closer) x y

/-- A whole gesture over a diagram is one on its course. -/
theorem Diagram.course_gesture (events : List (GestureEvent Float)) (lastX lastY : Float) :
    let course :=
      ((diagram.course lastX lastY).press (diagram.nodeAt? sizes x y) x y).run events
    (diagram.run (.pressed sizes x y :: gestureEvents sizes x y events)).course course.x course.y =
      course := by
  rw [← diagram.course_press sizes x y lastX lastY]
  exact (diagram.press sizes x y).course_run sizes x y events

end Diagrams

/-- With exact numbers the plane is as fine as the screen. -/
instance exactPlane (number : Type) : Coarsen number number := ⟨id⟩

section Exact

variable {number : Type} [Field number] {view : View number}
  {start course : PointerCourse number number} {drag : Drag number number}
  {events : List (GestureEvent number)}

/-- The way from the point under the pointer to a node. -/
def PointerCourse.offset? (course : PointerCourse number number) (node : Nat) :
    Option (number × number) :=
  (course.spots node).map (· - course.underPointer)

/-- A scaled point is the same one exactly if the scale is one or the point is the origin. -/
theorem smul_eq_self_iff {scale : number} {point : number × number} :
    scale • point = point ↔ scale = 1 ∨ point = 0 := by
  calc scale • point = point
    _ ↔ (scale - 1) • point = 0 := by rw [sub_smul, one_smul, sub_eq_zero]
    _ ↔ scale = 1 ∨ point = 0 := by rw [smul_eq_zero, sub_eq_zero]

/-- The place for a dragged node is as far from the pointer as its start is from the point that
the view shows where the drag began. -/
theorem Drag.target_sub_toPlane (drag : Drag number number) (view : View number)
    (x y : number) :
    ((drag.target view x y).x, (drag.target view x y).y) - view.toPlane x y =
      (drag.nodeStartX, drag.nodeStartY) - view.toPlane drag.startX drag.startY := by
  refine Prod.ext ?_ ?_ <;> simp only [target, View.toPlane, Coarsen.coarsen, id, Prod.fst_sub,
    Prod.snd_sub] <;> ring

/-- A move of the pointer keeps the zoom. -/
theorem PointerCourse.k_move (course : PointerCourse number number) (x y : number) :
    (course.move x y).view.k = course.view.k := by
  simp only [move, view]
  split
  · rfl
  · simp only [Gesture.panTo]
    split_ifs <;> rfl

/-- The way to a dragged node after a move. -/
theorem PointerCourse.offset?_move (dragging : course.gesture.drag = some drag)
    (there : (course.spots drag.node).isSome) (x y : number) :
    (course.move x y).offset? drag.node =
      some ((drag.nodeStartX, drag.nodeStartY) -
        course.view.toPlane drag.startX drag.startY) := by
  obtain ⟨spot, there⟩ := Option.isSome_iff_exists.mp there
  rw [← drag.target_sub_toPlane course.view x y]
  simp only [move, dragging, offset?, put, Drag.target, if_true, there, Option.map_some]
  rfl

variable [LinearOrder number]

/-- What is under the pointer after a press at `(x, y)` and some more events. -/
structure PointerFollowed (course : PointerCourse number number) (under : Option Nat)
    (x y : number) (events : List (GestureEvent number)) : Prop where
  /-- A step of the wheel keeps the point under the pointer and its way to every node. -/
  zoomed : ∀ closer,
    (((course.press under x y).run events).after (.zoomed closer)).underPointer =
      ((course.press under x y).run events).underPointer ∧
    ∀ node, (((course.press under x y).run events).after (.zoomed closer)).offset? node =
      ((course.press under x y).run events).offset? node
  /-- While the view is panned, the point under the pointer is the one under the press, scaled by
  how far the zoom at the last move is from the one at the press. -/
  panned : under = none → course.gesture.drag = none →
    ((course.press under x y).run events).underPointer =
      (course.view.k / ((course.press under x y).run (upToLastMove events)).view.k) •
        (course.press under x y).underPointer
  /-- It is the same point exactly if the last move found the zoom of the press, or if the press
  was on the origin. -/
  panned_iff : under = none → course.gesture.drag = none →
    (((course.press under x y).run events).underPointer = (course.press under x y).underPointer ↔
      ((course.press under x y).run (upToLastMove events)).view.k = course.view.k ∨
        (course.press under x y).underPointer = 0)
  /-- Once the pointer has moved, the way to a dragged node is the one from the point that the last
  move found at the place of the press. -/
  dragged : ∀ node spot, under = some node → course.spots node = some spot → HasMoved events →
    ((course.press under x y).run events).offset? node =
      some (spot - ((course.press under x y).run (upToLastMove events)).view.toPlane x y)
  /-- It is the one at the press exactly if the last move found at the place of the press what was
  there at the press. -/
  dragged_iff : ∀ node spot, under = some node → course.spots node = some spot →
    HasMoved events →
    (((course.press under x y).run events).offset? node =
        (course.press under x y).offset? node ↔
      ((course.press under x y).run (upToLastMove events)).view.toPlane x y =
        (course.press under x y).underPointer)
  /-- A node that an earlier press took is dragged on by a press on the view. -/
  leftover : ∀ drag, under = none → course.gesture.drag = some drag →
    (course.spots drag.node).isSome → HasMoved events →
    ((course.press under x y).run events).offset? drag.node =
      some ((drag.nodeStartX, drag.nodeStartY) -
        ((course.press under x y).run (upToLastMove events)).view.toPlane drag.startX drag.startY)

namespace PointerCourse

section Holds

/-- The pointer keeps its hold on a node. -/
theorem grasp_after (course : PointerCourse number number) (event : GestureEvent number) :
    (course.after event).gesture.grasp = course.gesture.grasp := by
  cases event with
  | moved x y =>
      simp only [after, move]
      split
      · rfl
      · simp only [Gesture.panTo]
        split_ifs <;> rfl
  | zoomed closer => rfl

/-- The pointer keeps its hold on the view. -/
theorem pan_after (course : PointerCourse number number) (event : GestureEvent number) :
    (course.after event).gesture.pan = course.gesture.pan := by
  cases event with
  | moved x y =>
      simp only [after, move]
      split
      · rfl
      · simp only [Gesture.panTo]
        split_ifs <;> rfl
  | zoomed closer => rfl

/-- A node stays one. -/
theorem isSome_spots_after {node : Nat} (there : (course.spots node).isSome)
    (event : GestureEvent number) : ((course.after event).spots node).isSome := by
  cases event with
  | moved x y =>
      simp only [after, move]
      split
      · simp only [put]
        split_ifs
        · rwa [Option.isSome_map]
        · exact there
      · exact there
  | zoomed closer => exact there

/-- The last event comes after a run of the others. -/
theorem run_concat (start : PointerCourse number number) (events : List (GestureEvent number))
    (event : GestureEvent number) :
    start.run (events ++ [event]) = (start.run events).after event :=
  List.foldl_concat ..

/-- A run keeps the hold on a node. -/
theorem drag_run (start : PointerCourse number number) (events : List (GestureEvent number)) :
    (start.run events).gesture.drag = start.gesture.drag := by
  have held : (start.run events).gesture.grasp = start.gesture.grasp := by
    induction events using List.reverseRecOn with
    | nil => rfl
    | append_singleton events event ih => rw [run_concat, grasp_after, ih]
  simp only [Gesture.drag, held]

/-- A run keeps the hold on the view. -/
theorem pan_run (start : PointerCourse number number) (events : List (GestureEvent number)) :
    (start.run events).gesture.pan = start.gesture.pan := by
  induction events using List.reverseRecOn with
  | nil => rfl
  | append_singleton events event ih => rw [run_concat, pan_after, ih]

/-- A node stays one in a run. -/
theorem isSome_spots_run {node : Nat} (there : (start.spots node).isSome)
    (events : List (GestureEvent number)) : ((start.run events).spots node).isSome := by
  induction events using List.reverseRecOn with
  | nil => exact there
  | append_singleton events event ih =>
      rw [run_concat]
      exact isSome_spots_after ih event

end Holds

end PointerCourse

variable [IsStrictOrderedRing number]

/-- A step of the wheel leads to a positive zoom. -/
theorem View.k_zoom_pos (view : View number) (x y : number) (closer : Bool) :
    0 < (view.zoom x y closer).k := by
  simp only [zoom, Graph.between]
  split_ifs <;> norm_num at * <;> linarith

/-- A step of the wheel leaves the point of the plane under the pointer where it is. -/
theorem View.toPlane_zoom (zooms : view.k ≠ 0) (x y : number) (closer : Bool) :
    (view.zoom x y closer).toPlane x y = view.toPlane x y := by
  have after := (view.k_zoom_pos x y closer).ne'
  simp only [toPlane, zoom] at after ⊢
  generalize Graph.between (0.1 : number) 10.0 _ = k at after ⊢
  refine Prod.ext ?_ ?_ <;> field_simp <;> ring

namespace PointerCourse

section Steps

/-- The zoom never becomes zero. -/
theorem k_after_ne_zero (zooms : course.view.k ≠ 0) (event : GestureEvent number) :
    (course.after event).view.k ≠ 0 := by
  cases event with
  | moved x y => exact (course.k_move x y).trans_ne zooms
  | zoomed closer => exact (course.gesture.view.k_zoom_pos course.x course.y closer).ne'

/-- A run never leads to a zoom of zero. -/
theorem k_run_ne_zero (zooms : start.view.k ≠ 0) (events : List (GestureEvent number)) :
    (start.run events).view.k ≠ 0 := by
  induction events using List.reverseRecOn with
  | nil => exact zooms
  | append_singleton events event ih =>
      rw [run_concat]
      exact k_after_ne_zero ih event

/-- A step of the wheel keeps the point under the pointer. -/
theorem underPointer_zoomed (zooms : course.view.k ≠ 0) (closer : Bool) :
    (course.after (.zoomed closer)).underPointer = course.underPointer :=
  View.toPlane_zoom zooms course.x course.y closer

/-- A step of the wheel keeps the way from the point under the pointer to a node. -/
theorem offset?_zoomed (zooms : course.view.k ≠ 0) (closer : Bool) (node : Nat) :
    (course.after (.zoomed closer)).offset? node = course.offset? node := by
  rw [offset?, underPointer_zoomed zooms]
  rfl

/-- The point under the pointer after a move that pans the view. -/
theorem underPointer_move (pans : course.Pans) (x y : number) :
    (course.move x y).underPointer =
      ((course.gesture.pan.startX - course.gesture.pan.viewStartX) / course.view.k,
        (course.gesture.pan.startY - course.gesture.pan.viewStartY) / course.view.k) := by
  obtain ⟨active, free⟩ := pans
  simp only [move, free, underPointer, view, Gesture.panTo, active, if_true, View.toPlane]
  refine Prod.ext ?_ ?_ <;> ring

end Steps

section Runs

/-- The point under the pointer depends on the zoom that the last move found. -/
theorem underPointer_run (zooms : start.view.k ≠ 0) (pans : start.Pans)
    (grasped : start.underPointer =
      ((start.gesture.pan.startX - start.gesture.pan.viewStartX) / start.view.k,
        (start.gesture.pan.startY - start.gesture.pan.viewStartY) / start.view.k))
    (events : List (GestureEvent number)) :
    (start.run events).underPointer =
      (start.view.k / (start.run (upToLastMove events)).view.k) • start.underPointer := by
  induction events using List.reverseRecOn with
  | nil =>
      change start.underPointer = (start.view.k / start.view.k) • start.underPointer
      rw [div_self zooms, one_smul]
  | append_singleton events event ih =>
      cases event with
      | moved x y =>
          have last : upToLastMove (events ++ [.moved x y]) = events ++ [.moved x y] :=
            List.rdropWhile_concat_neg _ _ _ (by simp [GestureEvent.isZoom])
          have stillPans : (start.run events).Pans := by
            rwa [Pans, pan_run, drag_run]
          have scale := k_run_ne_zero zooms events
          rw [last, run_concat, after, underPointer_move stillPans, pan_run, k_move, grasped]
          refine Prod.ext ?_ ?_ <;> simp only [Prod.smul_mk, smul_eq_mul] <;> field_simp
      | zoomed closer =>
          have last : upToLastMove (events ++ [.zoomed closer]) = upToLastMove events :=
            List.rdropWhile_concat_pos _ _ _ rfl
          rw [last, run_concat, underPointer_zoomed (k_run_ne_zero zooms events), ih]

/-- The way to a dragged node depends on the view that the last move found. -/
theorem offset?_run (zooms : start.view.k ≠ 0) (dragging : start.gesture.drag = some drag)
    (there : (start.spots drag.node).isSome) (moved : HasMoved events) :
    (start.run events).offset? drag.node =
      some ((drag.nodeStartX, drag.nodeStartY) -
        (start.run (upToLastMove events)).view.toPlane drag.startX drag.startY) := by
  induction events using List.reverseRecOn with
  | nil => simp [HasMoved] at moved
  | append_singleton events event ih =>
      cases event with
      | moved x y =>
          have last : upToLastMove (events ++ [.moved x y]) = events ++ [.moved x y] :=
            List.rdropWhile_concat_neg _ _ _ (by simp [GestureEvent.isZoom])
          have stillDrags := (start.drag_run events).trans dragging
          have kept : ((start.run events).move x y).view = (start.run events).view := by
            simp only [move, stillDrags]
            rfl
          rw [last, run_concat, after, offset?_move stillDrags (isSome_spots_run there events),
            kept]
      | zoomed closer =>
          have last : upToLastMove (events ++ [.zoomed closer]) = upToLastMove events :=
            List.rdropWhile_concat_pos _ _ _ rfl
          have before : HasMoved events := by simpa [HasMoved] using moved
          rw [last, run_concat, offset?_zoomed (k_run_ne_zero zooms events), ih before]

end Runs

end PointerCourse

/-- The point under a pointer that pans the view is the one under the press exactly as long as no
move finds another zoom. A dragged node keeps its way to the pointer exactly as long as every move
finds at the place of the press what was there at the press. -/
theorem gesture_followsPointer (course : PointerCourse number number)
    (zooms : course.view.k ≠ 0) (under : Option Nat) (x y : number)
    (events : List (GestureEvent number)) : PointerFollowed course under x y events := by
  have startZooms : (course.press under x y).view.k ≠ 0 := by
    cases under <;> exact zooms
  have panned : under = none → course.gesture.drag = none →
      ((course.press under x y).run events).underPointer =
        (course.view.k / ((course.press under x y).run (upToLastMove events)).view.k) •
          (course.press under x y).underPointer := by
    rintro rfl free
    exact PointerCourse.underPointer_run startZooms ⟨rfl, free⟩ rfl events
  have dragged : ∀ node spot, under = some node → course.spots node = some spot →
      HasMoved events →
      ((course.press under x y).run events).offset? node =
        some (spot - ((course.press under x y).run (upToLastMove events)).view.toPlane x y) := by
    rintro node ⟨spotX, spotY⟩ rfl there moved
    have dragging : (course.press (some node) x y).gesture.drag =
        some ⟨node, x, y, spotX, spotY⟩ := by
      simp [PointerCourse.press, PointerCourse.grip, there, Gesture.press, Gesture.drag]
    exact PointerCourse.offset?_run startZooms dragging (Option.isSome_of_eq_some there) moved
  constructor
  case zoomed =>
    have now := PointerCourse.k_run_ne_zero startZooms events
    exact fun closer => ⟨PointerCourse.underPointer_zoomed now closer,
      fun node => PointerCourse.offset?_zoomed now closer node⟩
  case panned => exact panned
  case panned_iff =>
    intro onView free
    have last := PointerCourse.k_run_ne_zero startZooms (upToLastMove events)
    rw [panned onView free, smul_eq_self_iff, div_eq_one_iff_eq last, eq_comm]
  case dragged => exact dragged
  case dragged_iff =>
    intro node spot onNode there moved
    have before : (course.press under x y).offset? node =
        some (spot - (course.press under x y).underPointer) :=
      congrArg (Option.map _) there
    rw [dragged node spot onNode there moved, before, Option.some_inj, sub_right_inj]
  case leftover =>
    rintro drag rfl held there moved
    exact PointerCourse.offset?_run startZooms held there moved

/-- The view over some nodes before a gesture. -/
def quietCourse (spots : Nat → Option (ℚ × ℚ)) : PointerCourse ℚ ℚ :=
  ⟨⟨⟨400, 300, 1⟩, .empty, ⟨false, 0, 0, 0, 0⟩⟩, spots, 0, 0⟩

/-- Without a step of the wheel a dragged node keeps its way to the pointer. -/
theorem gesture_followsPointer_moves :
    (quietCourse fun _ => none).view.k ≠ 0 ∧
      (((quietCourse fun _ => none).press none 500 300).run [.moved 520 310]).underPointer =
        ((quietCourse fun _ => none).press none 500 300).underPointer := by
  have zooms : (quietCourse fun _ => none).view.k ≠ 0 := one_ne_zero
  have followed := gesture_followsPointer (quietCourse fun _ => none) zooms none 500 300
    [.moved 520 310]
  exact ⟨zooms, (followed.panned_iff rfl rfl).mpr (.inl rfl)⟩

/-- After a step of the wheel a move lets the panned point and the dragged node slip. -/
theorem gesture_slips_afterZoom :
    let view := (quietCourse fun _ => none).press none 500 300
    let node := (quietCourse fun _ => some (100, 0)).press (some 0) 500 300
    (view.underPointer = (100, 0) ∧
        (view.run [.zoomed true, .moved 500 300]).underPointer = (1000 / 11, 0)) ∧
      node.offset? 0 = some (0, 0) ∧
        (node.run [.moved 600 300, .zoomed true, .moved 600 300]).offset? 0 =
          some (-100 / 11, 0) := by
  decide +kernel

end Exact

end MeshConsole
