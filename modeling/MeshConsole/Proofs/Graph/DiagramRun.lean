/-
This file follows a diagram through what happens on its canvas. Nothing that happens there changes
the picture that the diagram was built from.
-/

import MeshConsole.Graph.Diagram

namespace MeshConsole

/-- Something that happens to a diagram. -/
inductive DiagramEvent where
  | hovered (node : Option Nat)
  | pressed (sizes : Sizes) (x y : Float)
  | moved (sizes : Sizes) (x y : Float)
  | released
  | left
  | zoomed (x y : Float) (closer : Bool)
  | resized (width height : Float)
  | ticked (dt : Float32)

namespace Diagram

/-- The diagram after one more event. -/
def after (diagram : Diagram) : DiagramEvent → Diagram
  | .hovered node => diagram.hover node
  | .pressed sizes x y => diagram.press sizes x y
  | .moved sizes x y => diagram.move sizes x y
  | .released => diagram.release
  | .left => diagram.leave
  | .zoomed x y closer => diagram.zoom x y closer
  | .resized width height => diagram.resize width height
  | .ticked dt => diagram.tick dt

/-- The diagram after several events. -/
def run (diagram : Diagram) (events : List DiagramEvent) : Diagram :=
  events.foldl after diagram

/-- Two diagrams show the same nodes and links with the same weights. -/
structure SamePicture (first second : Diagram) : Prop where
  looks : second.looks = first.looks
  strands : second.strands = first.strands
  values : second.values = first.values
  links : second.simulation.links = first.simulation.links

/-- An event keeps the picture. -/
theorem samePicture_after (diagram : Diagram) (event : DiagramEvent) :
    SamePicture diagram (diagram.after event) := by
  cases event with
  | moved sizes x y =>
      simp only [after, move]
      split <;> exact ⟨rfl, rfl, rfl, rfl⟩
  | hovered | pressed | released | left | zoomed | resized | ticked => exact ⟨rfl, rfl, rfl, rfl⟩

/-- Events keep the picture. -/
theorem samePicture_run (diagram : Diagram) (events : List DiagramEvent) :
    SamePicture diagram (diagram.run events) := by
  induction events generalizing diagram with
  | nil => exact ⟨rfl, rfl, rfl, rfl⟩
  | cons event rest ih =>
      have first := diagram.samePicture_after event
      have others := ih (diagram.after event)
      exact ⟨others.looks.trans first.looks, others.strands.trans first.strands,
        others.values.trans first.values, others.links.trans first.links⟩

end Diagram

end MeshConsole
