/-
This file holds the sizes of what is drawn and how they follow the zoom.
-/

import MeshConsole.Decimal.Layout
import MeshConsole.Graph.Arithmetic

namespace MeshConsole

/-- This is how a size reacts to the zoom. -/
inductive SizeRule where
  /-- The size on the screen stays fixed. -/
  | onScreen
  /-- The size follows the zoom as long as it stays between two sizes on the screen. -/
  | clamped (least most : Float)

/-- The size in the plane for a base size at zoom `k`. There is none when the bounds of the rule
are reversed. -/
def SizeRule.apply? (rule : SizeRule) (base k : Float) : Option Float :=
  match rule with
  | .onScreen => some (base / k)
  | .clamped least most => Graph.between? (least / k) (most / k) base

/-- The base sizes. -/
structure Sizing where
  nodeRadius : Float := 5.0
  nodeRule : SizeRule := .clamped 5.0 (1.0 / 0.0)
  hitRadius : Float := 12.0
  /-- The font size of labels in pixels. -/
  labelSize : Float := 10.0
  /-- Below this zoom labels stop growing. -/
  labelLeastZoom : Float := 0.5
  lineWidth : Float := 1.5
  arrowSize : Float := 5.0
  arrowRule : SizeRule := .clamped 0.0 18.0
  ringWidth : Float := 1.5
  ringOffset : Float := 2.0

/-- The sizes in the plane at one zoom. -/
structure Sizes where
  k : Float
  nodeRadius : Float
  hitRadius : Float
  labelSize : Float
  labelFont : String
  lineWidth : Float
  arrowSize : Float
  /-- Arrows fade when the view zooms out. -/
  arrowAlpha : Float
  ringWidth : Float
  ringOffset : Float

/-- This function resolves the sizes at zoom `k`. -/
def Sizing.resolve? (sizing : Sizing) (k : Float) : Option Sizes := do
  let nodeRadius ← sizing.nodeRule.apply? sizing.nodeRadius k
  let hitRadius ← sizing.nodeRule.apply? sizing.hitRadius k
  let arrowSize ← sizing.arrowRule.apply? sizing.arrowSize k
  let labelSize := sizing.labelSize / Graph.larger k sizing.labelLeastZoom
  pure
    { k, nodeRadius, hitRadius, labelSize
      labelFont := Decimal.plain labelSize ++ "px sans-serif"
      lineWidth := sizing.lineWidth / k
      arrowSize
      arrowAlpha := Graph.between 0.0 1.0 k
      ringWidth := sizing.ringWidth / k
      ringOffset := sizing.ringOffset / k }

end MeshConsole
