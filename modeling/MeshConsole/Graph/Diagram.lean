/-
This file holds the diagram of one picture: the simulated bodies, what is shown for them, the view
and the highlight.
-/

import MeshConsole.Graph.Highlight
import MeshConsole.Graph.Simulation
import MeshConsole.Graph.Sizing
import MeshConsole.Graph.View
import MeshConsole.Topology.Picture

namespace MeshConsole

/-- What is shown for a body. -/
structure NodeLook where
  id : NodeId
  label : String
  color : String
  /-- Better connected nodes are larger. The least size is one. -/
  size : Float

instance : Inhabited NodeLook := ⟨⟨⟨0⟩, "", "", 1.0⟩⟩

/-- A link between two bodies with the weight it comes from. -/
structure Strand where
  source : Nat
  target : Nat
  value : Float
  rest : Float

/-- The number of link ends counted for each identifier. -/
abbrev Degrees := List (NodeId × Nat)

/-- This function counts one more link end. -/
def Degrees.count (id : NodeId) : Degrees → Degrees
  | [] => [(id, 1)]
  | (other, ends) :: rest =>
    if other = id then (other, ends + 1) :: rest else (other, ends) :: Degrees.count id rest

/-- The number of link ends at an identifier. -/
def Degrees.at (degrees : Degrees) (id : NodeId) : Nat :=
  ((degrees.find? fun entry => entry.1 == id).map (·.2)).getD 0

/-- A link with two different ends counts at both. A link from a node to itself does not count. -/
def Degrees.ofLinks (links : List PictureLink) : Degrees :=
  links.foldl (fun degrees link =>
    if link.source = link.target then degrees
    else Degrees.count link.target (Degrees.count link.source degrees)) []

/-- The largest number of link ends, at least one. -/
def Degrees.largest (degrees : Degrees) : Nat :=
  degrees.foldl (fun largest entry => max largest entry.2) 1

/-- The size of a node with some of the largest number of link ends. -/
def nodeSize (degree largest : Nat) : Float :=
  1.0 + 0.6 * (Float.ofNat degree / Float.ofNat largest).sqrt

/-- Bodies start on a circle around the origin. -/
def startBody (place count : Nat) : Body :=
  let angle := Float.ofNat place * 2.0 * Graph.pi / Float.ofNat count
  { x := (100.0 * angle.cos).toFloat32, y := (100.0 * angle.sin).toFloat32 }

/-- The place of the last node with an identifier. -/
def lastPlace? (id : NodeId) : List PictureNode → Option Nat
  | [] => none
  | node :: rest =>
    match lastPlace? id rest with
    | some place => some (place + 1)
    | none => if node.id = id then some 0 else none

/-- The strand of a link. There is none for a link from a node to itself and for a link whose ends
are not both nodes. -/
def strand? (nodes : List PictureNode) (link : PictureLink) : Option Strand :=
  if link.source = link.target then none
  else
    match lastPlace? link.source nodes, lastPlace? link.target nodes with
    | some source, some target => some ⟨source, target, link.value, restLength link.value⟩
    | _, _ => none

/-- The weights of directed pairs of bodies. -/
abbrev PairValues := List ((Nat × Nat) × Float)

/-- This function sets the weight of a pair. -/
def PairValues.set (pair : Nat × Nat) (value : Float) : PairValues → PairValues
  | [] => [(pair, value)]
  | (other, kept) :: rest =>
    if other = pair then (pair, value) :: rest else (other, kept) :: PairValues.set pair value rest

/-- The weight of a pair. -/
def PairValues.get? (values : PairValues) (pair : Nat × Nat) : Option Float :=
  (values.find? fun entry => entry.1 == pair).map (·.2)

/-- The diagram of one picture. -/
structure Diagram where
  looks : Array NodeLook
  simulation : Simulation
  strands : List Strand
  values : PairValues
  gesture : Gesture Float Float32
  highlight : Highlight := {}
  width : Float
  height : Float
  /-- The time for which the dashes of the links have flowed. -/
  flowTime : Float := 0.0

/-- The view at the start shows the origin in the middle. -/
def middleView (width height : Float) : View Float :=
  ⟨width / 2.0, height / 2.0, 1.0⟩

/-- The diagram of a picture on a canvas of some size. -/
def Diagram.ofPicture (picture : Picture) (width height : Float) : Diagram :=
  let degrees := Degrees.ofLinks picture.links
  let count := picture.nodes.length
  let look (node : PictureNode) : NodeLook :=
    ⟨node.id, node.label, node.color, nodeSize (degrees.at node.id) degrees.largest⟩
  let strands := picture.links.filterMap (strand? picture.nodes)
  let bodies := (List.range count).map fun place => startBody place count
  { looks := (picture.nodes.map look).toArray
    simulation := strands.foldl
      (fun simulation strand => simulation.link strand.source strand.target)
      { bodies := bodies.toArray }
    strands
    values := strands.foldl (fun values strand =>
      PairValues.set (strand.source, strand.target) strand.value values) []
    gesture :=
      { view := middleView width height, grasp := .empty, pan := ⟨false, 0.0, 0.0, 0.0, 0.0⟩ }
    width
    height }

/-- The weight of the link drawn from one node to another. -/
def Diagram.linkValue? (diagram : Diagram) (source target : Nat) : Option Float :=
  diagram.values.get? (source, target)

/-- The position of a body with the precision of the screen. -/
def Body.position (body : Body) : Float × Float :=
  (body.x.toFloat, body.y.toFloat)

/-- This test decides whether a point of the plane hits a node. -/
def hits (sizes : Sizes) (look : NodeLook) (body : Body) (x y : Float) : Bool :=
  let (bodyX, bodyY) := body.position
  Graph.norm (bodyX - x) (bodyY - y) < sizes.hitRadius * look.size

/-- The last node under a point of the screen, which is the one drawn on top. -/
def Diagram.nodeAt? (diagram : Diagram) (sizes : Sizes) (x y : Float) : Option Nat :=
  let (planeX, planeY) := diagram.gesture.view.toPlane x y
  (List.range diagram.looks.size).foldl (fun found place =>
    match diagram.looks[place]?, diagram.simulation.bodies[place]? with
    | some look, some body => if hits sizes look body planeX planeY then some place else found
    | _, _ => found) none

/-- The directed pairs of the strands. -/
def Diagram.pairs (diagram : Diagram) : List (Nat × Nat) :=
  diagram.strands.map fun strand => (strand.source, strand.target)

/-- This function highlights a node and its neighbours. -/
def Diagram.hover (diagram : Diagram) (node : Option Nat) : Diagram :=
  { diagram with highlight := diagram.highlight.hover node diagram.pairs }

/-- A press takes the node under the pointer, or else the view. -/
def Diagram.press (diagram : Diagram) (sizes : Sizes) (x y : Float) : Diagram :=
  let grip := (diagram.nodeAt? sizes x y).map fun node =>
    match diagram.simulation.bodies[node]? with
    | some body => (⟨node, body.x, body.y⟩ : Grip Float32)
    | none => ⟨node, 0.0, 0.0⟩
  { diagram with gesture := diagram.gesture.press grip x y }

/-- This function puts a body at a place and anchors it there. -/
def Diagram.pin (diagram : Diagram) (grip : Grip Float32) : Diagram :=
  { diagram with
    simulation :=
      { diagram.simulation with
        bodies := diagram.simulation.bodies.modify grip.node fun body =>
          { body with x := grip.x, y := grip.y, anchored := true } } }

/-- A move of the pointer moves and pins a dragged node. Without one it highlights the node under
the pointer and pans the view. -/
def Diagram.move (diagram : Diagram) (sizes : Sizes) (x y : Float) : Diagram :=
  match diagram.gesture.drag with
  | some drag => diagram.pin (drag.target diagram.gesture.view x y)
  | none =>
    let hovering := diagram.hover (diagram.nodeAt? sizes x y)
    { hovering with gesture := hovering.gesture.panTo x y }

/-- The pointer lets go. Dragged nodes stay pinned. -/
def Diagram.release (diagram : Diagram) : Diagram :=
  { diagram with gesture := diagram.gesture.release }

/-- The pointer leaves the canvas. -/
def Diagram.leave (diagram : Diagram) : Diagram :=
  diagram.release.hover none

/-- One step of the wheel. -/
def Diagram.zoom (diagram : Diagram) (x y : Float) (closer : Bool) : Diagram :=
  { diagram with gesture := diagram.gesture.zoom x y closer }

/-- The canvas has another size. -/
def Diagram.resize (diagram : Diagram) (width height : Float) : Diagram :=
  { diagram with width, height }

/-- The shift of the first of two points that moves both a share of the way towards the rest
length. The second point moves the other way. Points in one place stay. -/
def springShift (first second : Float × Float) (rest strength : Float) : Float × Float :=
  let dx := second.1 - first.1
  let dy := second.2 - first.2
  let distance := Graph.norm dx dy
  if distance < 1e-6 then (0.0, 0.0)
  else
    let stretch := (distance - rest) / distance * strength * 0.5
    (dx * stretch, dy * stretch)

/-- The share of the length error that one step corrects. -/
def strandStrength : Float := 0.1

/-- The shifts that a strand gives to its two ends. -/
def Strand.shifts (strand : Strand) (bodies : Array Body) : List (Nat × Float × Float) :=
  match bodies[strand.source]?, bodies[strand.target]? with
  | some first, some second =>
    let (x, y) := springShift first.position second.position strand.rest strandStrength
    [(strand.source, x, y), (strand.target, -x, -y)]
  | _, _ => []

/-- The sum of the shifts of one body. A body at no strand has none. -/
def totalShift? (shifts : List (Nat × Float × Float)) (place : Nat) : Option (Float × Float) :=
  shifts.foldl (fun total shift =>
    if shift.1 = place then
      let (x, y) := total.getD (0.0, 0.0)
      some (x + shift.2.1, y + shift.2.2)
    else total) none

/-- A body that is not anchored takes its shift. -/
def Body.shift (body : Body) (shift : Option (Float × Float)) : Body :=
  match shift with
  | some (x, y) =>
    if body.anchored then body
    else { body with x := body.x + x.toFloat32, y := body.y + y.toFloat32 }
  | none => body

/-- The strands pull their ends towards the rest lengths. -/
def Diagram.relax (diagram : Diagram) : Diagram :=
  let bodies := diagram.simulation.bodies
  let shifts := diagram.strands.flatMap fun strand => strand.shifts bodies
  { diagram with
    simulation :=
      { diagram.simulation with
        bodies := bodies.mapIdx fun place body => body.shift (totalShift? shifts place) } }

/-- The diagram `dt` seconds later, when the forces have led to a simulation. -/
def Diagram.advance (diagram : Diagram) (simulation : Simulation) (dt : Float32) : Diagram :=
  let moved := { diagram with simulation }.relax
  { moved with
    flowTime := moved.flowTime + dt.toFloat
    highlight := moved.highlight.tick dt.toFloat }

/-- One step of `dt` seconds. -/
def Diagram.tick (diagram : Diagram) (dt : Float32) : Diagram :=
  diagram.advance (diagram.simulation.step dt) dt

end MeshConsole
