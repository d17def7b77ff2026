/-
This file holds the colors of the drawing.
-/

import MeshConsole.Graph.Color

namespace MeshConsole

/-- The colors and effects of the drawing. -/
structure Theme where
  background : Color := ⟨22, 27, 34, 1.0⟩
  /-- The color in the middle of the background. -/
  backgroundCenter : Color := ⟨30, 35, 42, 1.0⟩
  /-- The darkness of the edges of the background. -/
  vignette : Float := 0.15
  edge : Color := ⟨140, 160, 180, 0.5⟩
  edgeLabelBackground : Color := ⟨22, 27, 34, 0.85⟩
  edgeLabel : Color := ⟨230, 235, 240, 1.0⟩
  /-- Nodes are shaded like balls. -/
  shadesNodes : Bool := true
  nodeLabel : Color := ⟨255, 255, 255, 0.85⟩
  ring : Color := ⟨255, 255, 255, 1.0⟩

instance : Inhabited Theme := ⟨{}⟩

end MeshConsole
