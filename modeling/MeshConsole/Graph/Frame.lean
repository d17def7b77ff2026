/-
This file draws a diagram: the background, then the links, then the dimmed and the lit nodes, and
last the labels of lit links.
-/

import MeshConsole.Graph.Canvas
import MeshConsole.Graph.Diagram
import MeshConsole.Graph.Theme

namespace MeshConsole

open MeshConsole.Graph

/-- The width of a text on the canvas. -/
abbrev TextWidth := String → Float

/-- The background is a gradient with perhaps darker edges. -/
def Diagram.drawBackground (diagram : Diagram) (theme : Theme) : List DrawStep :=
  let x := diagram.width / 2.0
  let y := diagram.height / 2.0
  let longer := larger diagram.width diagram.height
  let shorter := smaller diagram.width diagram.height
  let whole := CanvasCall.fillRect 0.0 0.0 diagram.width diagram.height
  let ground : List CanvasCall :=
    [.createRadialGradient x y 0.0 x y (longer * 0.8),
     .addColorStop 0.0 theme.backgroundCenter,
     .addColorStop 1.0 theme.background,
     .fillStyle .gradient,
     whole]
  let vignette : List CanvasCall :=
    if 0.0 < theme.vignette then
      [.createRadialGradient x y (shorter * 0.3) x y (longer * 0.7),
       .addColorStop 0.0 ⟨0, 0, 0, 0.0⟩,
       .addColorStop 1.0 ⟨0, 0, 0, theme.vignette⟩,
       .fillStyle .gradient,
       whole]
    else []
  steps (ground ++ vignette)

/-- The opacity and the width of a link: lit links stand out, and others step back when any node
is lit. -/
def linkEmphasis (linkLight strongest : Float) : Float × Float :=
  if 0.01 < linkLight then (0.7 + 0.3 * linkLight, 1.0 + 0.4 * linkLight)
  else if 0.01 < strongest then (0.7 - 0.5 * strongest, 1.0 - 0.3 * strongest)
  else (0.7, 1.0)

/-- The tip of a link is a triangle that touches the target. -/
def drawArrow (sizes : Sizes) (color : Color) (alpha tipX tipY ux uy : Float) : List CanvasCall :=
  let backX := tipX - ux * sizes.arrowSize
  let backY := tipY - uy * sizes.arrowSize
  let sideX := -uy * sizes.arrowSize * 0.5
  let sideY := ux * sizes.arrowSize * 0.5
  [.setLineDash [],
   .fillStyle (.color (color.withAlpha (alpha * color.alpha))),
   .beginPath,
   .moveTo tipX tipY,
   .lineTo (backX + sideX) (backY + sideY),
   .lineTo (backX - sideX) (backY - sideY),
   .closePath,
   .fill]

/-- A link is a dashed line from rim to rim whose dashes flow to the target, and an arrow while
arrows are visible. Links without length are not drawn. -/
def Diagram.drawLink (diagram : Diagram) (sizes : Sizes) (theme : Theme) (link : Nat × Nat) :
    List DrawStep :=
  match diagram.looks[link.1]?, diagram.looks[link.2]?, diagram.simulation.bodies[link.1]?,
      diagram.simulation.bodies[link.2]? with
  | some look1, some look2, some body1, some body2 =>
    let (x1, y1) := body1.position
    let (x2, y2) := body2.position
    let length := norm (x2 - x1) (y2 - y1)
    if length < 0.001 then []
    else
      let light := smoothStep (diagram.highlight.linkIntensity link.1 link.2)
      let strongest := smoothStep diagram.highlight.strongest
      let (alpha, widthFactor) := linkEmphasis light strongest
      let color := theme.edge
      let ux := (x2 - x1) / length
      let uy := (y2 - y1) / length
      let radius1 := sizes.nodeRadius * look1.size
      let radius2 := sizes.nodeRadius * look2.size
      let line : List CanvasCall :=
        [.strokeStyle (color.withAlpha (alpha * color.alpha)),
         .lineWidth (sizes.lineWidth * widthFactor),
         .setLineDash [8.0, 4.0],
         .lineDashOffset (-diagram.flowTime * 12.0),
         .beginPath,
         .moveTo (x1 + ux * radius1) (y1 + uy * radius1),
         .lineTo (x2 - ux * (radius2 + sizes.arrowSize)) (y2 - uy * (radius2 + sizes.arrowSize)),
         .stroke]
      let arrowAlpha := alpha * sizes.arrowAlpha
      let arrow := if 0.05 < arrowAlpha then
          drawArrow sizes color arrowAlpha (x2 - ux * radius2) (y2 - uy * radius2) ux uy
        else []
      steps (line ++ arrow)
  | _, _, _, _ => []

/-- A node is a disc, perhaps shaded, with its label beside it unless it is faint. -/
def drawNode (sizes : Sizes) (theme : Theme) (look : NodeLook) (body : Body)
    (alpha radiusFactor : Float) : List DrawStep :=
  let (x, y) := body.position
  let radius := sizes.nodeRadius * radiusFactor * look.size
  let disc : List CanvasCall :=
    [.globalAlpha alpha,
     .beginPath,
     .arc x y radius 0.0 (2.0 * pi)]
  let shade : List CanvasCall :=
    if theme.shadesNodes then
      let base := Color.ofCss look.color
      [.createRadialGradient (x - radius * 0.3) (y - radius * 0.3) 0.0 x y radius,
       .addColorStop 0.0 (base.lighten 0.4),
       .addColorStop 0.7 base,
       .addColorStop 1.0 (base.darken 0.2),
       .fillStyle .gradient]
    else [.fillStyle (.text look.color)]
  let label : List CanvasCall :=
    if !look.label.isEmpty && 0.5 < alpha then
      [.fillStyle (.color theme.nodeLabel),
       .font sizes.labelFont,
       .fillText look.label (x + radius + 4.0) (y + 3.0)]
    else []
  steps (disc ++ shade ++ .fill :: label ++ [.globalAlpha 1.0])

/-- Nodes with more light than this are drawn in front of all others. -/
def inFront (intensity : Float) : Bool :=
  0.01 < intensity

/-- The ring around the hovered node. Its stroke is made even when its path fails. -/
def drawRing (sizes : Sizes) (theme : Theme) (look : NodeLook) (body : Body)
    (radiusFactor light : Float) : List DrawStep :=
  let (x, y) := body.position
  let radius := sizes.nodeRadius * look.size * radiusFactor
  let strokes : List CanvasCall :=
    [.strokeStyle (theme.ring.withAlpha (0.8 * light)),
     .lineWidth sizes.ringWidth,
     .stroke]
  [⟨.beginPath, []⟩,
   ⟨.arc x y (radius + sizes.ringOffset) 0.0 (2.0 * pi), strokes⟩] ++ steps strokes

/-- A node behind the lit ones. It is dimmed and shrunk when any node is lit. -/
def Diagram.drawBehind (diagram : Diagram) (sizes : Sizes) (theme : Theme) (place : Nat) :
    List DrawStep :=
  match diagram.looks[place]?, diagram.simulation.bodies[place]? with
  | some look, some body =>
    let strongest := smoothStep diagram.highlight.strongest
    drawNode sizes theme look body (1.0 - 0.6 * strongest) (1.0 - 0.15 * strongest)
  | _, _ => []

/-- A lit node, with its ring while the ring is lit. -/
def Diagram.drawLit (diagram : Diagram) (sizes : Sizes) (theme : Theme) (place : Nat) :
    List DrawStep :=
  match diagram.looks[place]?, diagram.simulation.bodies[place]? with
  | some look, some body =>
    let light := smoothStep (diagram.highlight.intensities.at place)
    let ringLight := smoothStep (diagram.highlight.rings.at place)
    let radiusFactor := 1.0 + 0.25 * light
    drawNode sizes theme look body 1.0 radiusFactor ++
      if 0.01 < ringLight then drawRing sizes theme look body radiusFactor ringLight else []
  | _, _ => []

/-- The places of the nodes behind and in front. -/
def Diagram.passes (diagram : Diagram) : List Nat × List Nat :=
  (List.range diagram.looks.size).partition fun place =>
    !inFront (diagram.highlight.intensities.at place)

/-- Dimmed nodes come first, so lit nodes land on top. -/
def Diagram.drawNodes (diagram : Diagram) (sizes : Sizes) (theme : Theme) : List DrawStep :=
  diagram.passes.1.flatMap (diagram.drawBehind sizes theme) ++
    diagram.passes.2.flatMap (diagram.drawLit sizes theme)

/-- A lit link shows its weight in its middle. The opacity is put back even when the text
fails. -/
def Diagram.drawLinkLabel (diagram : Diagram) (sizes : Sizes) (theme : Theme)
    (textWidth : TextWidth) (link : Nat × Nat) : List DrawStep :=
  let light := smoothStep (diagram.highlight.linkIntensity link.1 link.2)
  if light < 0.5 then []
  else
    match diagram.linkValue? link.1 link.2, diagram.simulation.bodies[link.1]?,
        diagram.simulation.bodies[link.2]? with
    | some value, some body1, some body2 =>
      let text := linkLabel value
      let (x1, y1) := body1.position
      let (x2, y2) := body2.position
      let x := (x1 + x2) / 2.0
      let y := (y1 + y2) / 2.0
      let width := textWidth text
      let pad := 2.0 / sizes.k
      let height := sizes.labelSize + pad * 2.0
      let opaqueAgain := CanvasCall.globalAlpha 1.0
      steps
        [.measureText text,
         .globalAlpha light,
         .fillStyle (.color theme.edgeLabelBackground),
         .fillRect (x - width / 2.0 - pad) (y - height / 2.0) (width + pad * 2.0) height,
         .fillStyle (.color theme.edgeLabel)] ++
      [⟨.fillText text (x - width / 2.0) (y + height / 4.0), [opaqueAgain]⟩,
       ⟨opaqueAgain, []⟩]
    | _, _, _ => []

/-- Everything inside the view. -/
def Diagram.drawWorld (diagram : Diagram) (sizes : Sizes) (theme : Theme)
    (textWidth : TextWidth) : List DrawStep :=
  let view := diagram.gesture.view
  let links := diagram.simulation.links
  steps [.translate view.x view.y, .scale view.k view.k] ++
    links.flatMap (diagram.drawLink sizes theme) ++
    steps [.setLineDash []] ++
    diagram.drawNodes sizes theme ++
    steps [.font sizes.labelFont] ++
    links.flatMap (diagram.drawLinkLabel sizes theme textWidth)

/-- One frame. A failing background ends it. Everything inside the view is drawn between a save
and a restore, and the restore comes even after a failure. -/
def Diagram.frame (diagram : Diagram) (sizes : Sizes) (theme : Theme) (textWidth : TextWidth)
    (faults : CanvasFaults) : Played :=
  let background := play faults [] (diagram.drawBackground theme)
  if background.failed then background
  else
    let made := CanvasCall.save :: background.calls.reverse
    let world := play faults made (diagram.drawWorld sizes theme textWidth)
    ⟨background.calls ++ CanvasCall.save :: world.calls ++ [CanvasCall.restore], world.failed⟩

end MeshConsole
