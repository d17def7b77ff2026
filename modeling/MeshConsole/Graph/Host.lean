/-
This file holds the canvas element that shows a diagram: its mounting, its animation frames, its
resizing and its pointer events.
-/

import MeshConsole.Graph.Frame
import MeshConsole.Log

namespace MeshConsole

/-- This is what a canvas gives when it is asked for a drawing context. -/
inductive ContextKind where
  | drawing
  /-- Asking fails, or the answer is nothing, or it is of another kind. -/
  | missing
deriving DecidableEq, Repr

/-- The surroundings of a canvas. -/
structure Screen where
  hasWindow : Bool := true
  /-- The size of the window, if it can be read. -/
  viewport : Option (Float × Float) := none
  /-- The size of the element around the canvas, if there is one. -/
  parent : Option (Int × Int) := none
  origin : Float × Float := (0.0, 0.0)
  context : ContextKind := .drawing

instance : Inhabited Screen := ⟨{}⟩

/-- The settings of a canvas. -/
structure CanvasProps where
  /-- The canvas fills the window. -/
  fullscreen : Bool := false
  width : Option Float := none
  height : Option Float := none
  /-- The element becomes available after its creation. -/
  appears : Bool := true

/-- The state of a canvas. -/
structure CanvasHost where
  props : CanvasProps
  /-- The picture to show. -/
  picture : Picture := {}
  /-- The diagram, once the canvas is mounted. -/
  diagram : Option Diagram := none
  /-- Mounting has come to an end. -/
  mounted : Bool := false
  alive : Bool := true
  /-- The last frame was drawn without a failure. -/
  drewWell : Bool := true
  /-- The number of frames that are requested and have not run. -/
  framesDue : Nat := 0
  /-- The number of listeners for the size of the window. -/
  listeners : Nat := 0
  /-- The size of the element in whole pixels. -/
  size : UInt32 × UInt32 := (0, 0)

instance : Inhabited CanvasHost := ⟨{ props := {} }⟩

/-- A length of the surrounding element counts when it is positive. -/
def parentLength (length : Option Int) (fallback : Float) : Float :=
  match length with
  | some length => if 0 < length then Float.ofInt length else fallback
  | none => fallback

/-- The size of a canvas when it is mounted. -/
def CanvasProps.startSize (props : CanvasProps) (screen : Screen) : Float × Float :=
  if props.fullscreen then screen.viewport.getD (800.0, 600.0)
  else
    (props.width.getD (parentLength (screen.parent.map (·.1)) 800.0),
      props.height.getD (parentLength (screen.parent.map (·.2)) 600.0))

/-- This function sets the size of the element. -/
def CanvasHost.setSize (host : CanvasHost) (width height : Float) : CanvasHost :=
  { host with size := (width.toUInt32, height.toUInt32) }

/-- Mounting needs the element and a window. It happens once, and without a drawing context it
ends with nothing to draw on. -/
def CanvasHost.mount (host : CanvasHost) (screen : Screen) : CanvasHost × List LogLine :=
  if host.mounted ∨ ¬host.props.appears ∨ ¬screen.hasWindow then (host, [])
  else
    let (width, height) := host.props.startSize screen
    let sized := { host.setSize width height with mounted := true }
    match screen.context with
    | .missing => (sized, [.make .warn "canvas has no 2d context"])
    | .drawing =>
      ({ sized with
          diagram := some (Diagram.ofPicture host.picture width height)
          listeners := if host.props.fullscreen then host.listeners + 1 else host.listeners
          framesDue := host.framesDue + 1 }, [])

/-- The diagram of another picture takes the place of a diagram. The size and the view stay. -/
def Diagram.replace (diagram : Diagram) (picture : Picture) : Diagram :=
  let fresh := Diagram.ofPicture picture diagram.width diagram.height
  { fresh with gesture := { fresh.gesture with view := diagram.gesture.view } }

/-- A mounted canvas builds its diagram anew. -/
def CanvasHost.rebuild (host : CanvasHost) : CanvasHost × List LogLine :=
  match host.diagram with
  | none => (host, [])
  | some old =>
    ({ host with diagram := some (old.replace host.picture) },
      [.make .debug
        ("canvas rebuilt with " ++ toString host.picture.nodes.length ++ " nodes, " ++
          toString host.picture.links.length ++ " links")])

/-- Another picture is shown. -/
def CanvasHost.show (host : CanvasHost) (picture : Picture) : CanvasHost × List LogLine :=
  if host.alive then { host with picture }.rebuild else (host, [])

/-- A canvas that is created mounts itself and then builds its diagram once more. -/
def CanvasHost.create (props : CanvasProps) (picture : Picture) (screen : Screen) :
    CanvasHost × List LogLine :=
  let (host, lines) := CanvasHost.mount { props, picture } screen
  let (host, more) := host.rebuild
  (host, lines ++ more)

/-- One frame lasts this many seconds. -/
def frameTime : Float32 := 0.016

/-- The behaviour of the canvas during one frame. -/
structure CanvasBehavior where
  textWidth : TextWidth
  faults : CanvasFaults := noFaults
  /-- The text of a value that a failing call throws. -/
  thrown : String

/-- What a frame did. -/
structure FrameRun where
  host : CanvasHost
  calls : List CanvasCall
  lines : List LogLine

/-- This function draws one frame of a diagram at its zoom. -/
def Diagram.drawWith (diagram : Diagram) (behavior : CanvasBehavior) : Played :=
  match ({} : Sizing).resolve? diagram.gesture.view.k with
  | some sizes => diagram.frame sizes {} behavior.textWidth behavior.faults
  | none => ⟨[], false⟩

/-- A requested frame moves the diagram, draws it and requests the next one. The first of several
failing frames in a row is logged. After the canvas has gone nothing more is drawn. -/
def CanvasHost.frame (host : CanvasHost) (behavior : CanvasBehavior) : FrameRun :=
  let begun := { host with framesDue := host.framesDue - 1 }
  if ¬host.alive then
    ⟨begun, [], [.make .debug "graph canvas unmounted, stopping animation"]⟩
  else
    let next := { begun with framesDue := begun.framesDue + 1 }
    match host.diagram with
    | none => ⟨next, [], []⟩
    | some diagram =>
      let moved := diagram.tick frameTime
      let played := moved.drawWith behavior
      { host := { next with diagram := some moved, drewWell := !played.failed }
        calls := played.calls
        lines := if played.failed ∧ host.drewWell then
            [.make .warn ("graph render failed: " ++ behavior.thrown)]
          else [] }

/-- One frame after another runs. -/
def CanvasHost.framesOf (behavior : CanvasBehavior) : Nat → CanvasHost → FrameRun
  | 0, host => ⟨host, [], []⟩
  | count + 1, host =>
    let first := host.frame behavior
    let rest := framesOf behavior count first.host
    ⟨rest.host, first.calls ++ rest.calls, first.lines ++ rest.lines⟩

/-- The browser runs the frames that are requested. -/
def CanvasHost.runFrame (host : CanvasHost) (behavior : CanvasBehavior) : FrameRun :=
  CanvasHost.framesOf behavior host.framesDue host

/-- Several frames in a row. The result shows the calls of the last one. -/
def CanvasHost.runFrames (behavior : CanvasBehavior) : Nat → CanvasHost → FrameRun
  | 0, host => ⟨host, [], []⟩
  | 1, host => host.runFrame behavior
  | count + 1, host =>
    let first := host.runFrame behavior
    let rest := runFrames behavior count first.host
    { rest with lines := first.lines ++ rest.lines }

/-- The window has another size. Every listener of a canvas that is still there follows it. -/
def CanvasHost.windowResized (host : CanvasHost) (screen : Screen) : CanvasHost :=
  if host.listeners = 0 ∨ ¬host.alive then host
  else
    match screen.viewport with
    | none => host
    | some (width, height) =>
      { host.setSize width height with
        diagram := host.diagram.map (·.resize width height) }

/-- The canvas goes away. A frame that is still requested will notice. -/
def CanvasHost.unmount (host : CanvasHost) : CanvasHost :=
  { host with alive := false }

/-- An event of the pointer, with its place in the window. -/
inductive PointerEvent where
  | down (x y : Int)
  | move (x y : Int)
  | up
  | leave
  | wheel (x y : Int) (closer : Bool)
  /-- The canvas does not listen to any other event. -/
  | other
deriving DecidableEq, Repr

/-- This function lets an event that has a place act on the diagram at this place. -/
def CanvasHost.atPoint (host : CanvasHost) (screen : Screen) (x y : Int)
    (act : Diagram → Float → Float → Diagram) : CanvasHost :=
  let pointX := Float.ofInt x - screen.origin.1
  let pointY := Float.ofInt y - screen.origin.2
  { host with diagram := host.diagram.map fun diagram => act diagram pointX pointY }

/-- The default sizes let an event act at the current zoom. -/
def Diagram.withSizes (act : Diagram → Sizes → Float → Float → Diagram) (diagram : Diagram)
    (x y : Float) : Diagram :=
  match ({} : Sizing).resolve? diagram.gesture.view.k with
  | some sizes => act diagram sizes x y
  | none => diagram

/-- A canvas without a diagram ignores the pointer. -/
def CanvasHost.pointer (host : CanvasHost) (screen : Screen) : PointerEvent → CanvasHost
  | .down x y => host.atPoint screen x y (Diagram.withSizes Diagram.press)
  | .move x y => host.atPoint screen x y (Diagram.withSizes Diagram.move)
  | .up => { host with diagram := host.diagram.map Diagram.release }
  | .leave => { host with diagram := host.diagram.map Diagram.leave }
  | .wheel x y closer => host.atPoint screen x y fun diagram pointX pointY =>
      diagram.zoom pointX pointY closer
  | .other => host

/-- The canvas listens to an event. -/
def PointerEvent.isHandled : PointerEvent → Bool
  | .other => false
  | _ => true

/-- Only the wheel keeps the browser from acting on its own. -/
def PointerEvent.prevents : PointerEvent → Bool
  | .wheel .. => true
  | _ => false

end MeshConsole
