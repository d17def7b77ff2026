/-
This file holds drawings: the calls that they make on a canvas, and what remains of a drawing when
a call fails.
-/

import MeshConsole.Graph.Color

namespace MeshConsole

/-- The paint of a fill. -/
inductive Paint where
  | color (color : Color)
  /-- A style text that is handed on as it is. -/
  | text (css : String)
  /-- The gradient that was created last. -/
  | gradient

/-- A call on the canvas. -/
inductive CanvasCall where
  | save
  | restore
  | beginPath
  | closePath
  | stroke
  | fill
  | moveTo (x y : Float)
  | lineTo (x y : Float)
  | fillRect (x y width height : Float)
  | translate (x y : Float)
  | scale (x y : Float)
  | arc (x y radius start stop : Float)
  | fillText (text : String) (x y : Float)
  | measureText (text : String)
  | createRadialGradient (x0 y0 r0 x1 y1 r1 : Float)
  | addColorStop (offset : Float) (color : Color)
  | setLineDash (segments : List Float)
  | strokeStyle (color : Color)
  | fillStyle (paint : Paint)
  | lineWidth (width : Float)
  | lineDashOffset (offset : Float)
  | globalAlpha (alpha : Float)
  | font (font : String)

/-- The name of a call. -/
def CanvasCall.name : CanvasCall → String
  | .save => "save"
  | .restore => "restore"
  | .beginPath => "beginPath"
  | .closePath => "closePath"
  | .stroke => "stroke"
  | .fill => "fill"
  | .moveTo .. => "moveTo"
  | .lineTo .. => "lineTo"
  | .fillRect .. => "fillRect"
  | .translate .. => "translate"
  | .scale .. => "scale"
  | .arc .. => "arc"
  | .fillText .. => "fillText"
  | .measureText .. => "measureText"
  | .createRadialGradient .. => "createRadialGradient"
  | .addColorStop .. => "addColorStop"
  | .setLineDash .. => "setLineDash"
  | .strokeStyle .. => "strokeStyle="
  | .fillStyle .. => "fillStyle="
  | .lineWidth .. => "lineWidth="
  | .lineDashOffset .. => "lineDashOffset="
  | .globalAlpha .. => "globalAlpha="
  | .font .. => "font="

/-- These calls can fail. -/
def CanvasCall.canFail : CanvasCall → Bool
  | .translate .. | .scale .. | .arc .. | .fillText .. | .measureText ..
  | .createRadialGradient .. | .addColorStop .. | .setLineDash .. => true
  | _ => false

/-- A step of a drawing is a call, and the calls that are still made when it fails. -/
structure DrawStep where
  call : CanvasCall
  afterFault : List CanvasCall := []

/-- Calls after whose failure nothing more is made. -/
def steps (calls : List CanvasCall) : List DrawStep :=
  calls.map fun call => ⟨call, []⟩

/-- A canvas decides whether the call of a kind fails, given how many of its kind came before. -/
abbrev CanvasFaults := String → Nat → Bool

/-- The calls that were made, and whether one of them failed. -/
structure Played where
  calls : List CanvasCall
  failed : Bool

/-- The number of calls of a kind. -/
def countNamed (name : String) (calls : List CanvasCall) : Nat :=
  (calls.filter fun call => call.name == name).length

/-- This function plays a drawing up to its first failing call. The list `made` holds the calls so
far, the latest first. -/
def play (faults : CanvasFaults) (made : List CanvasCall) : List DrawStep → Played
  | [] => ⟨[], false⟩
  | step :: rest =>
    if step.call.canFail && faults step.call.name (countNamed step.call.name made) then
      ⟨step.call :: step.afterFault, true⟩
    else
      let played := play faults (step.call :: made) rest
      ⟨step.call :: played.calls, played.failed⟩

/-- No call fails. -/
def noFaults : CanvasFaults := fun _ _ => false

end MeshConsole
