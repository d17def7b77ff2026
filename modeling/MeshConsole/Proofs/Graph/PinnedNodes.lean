/-
This file follows the anchored nodes of a diagram. The main statement is that a node stays where it
was anchored until the pointer drags it to another place.
-/

import Mathlib.Tactic.ByContra
import Mathlib.Tactic.SplitIfs
import MeshConsole.Proofs.Graph.DiagramRun

namespace MeshConsole

/-- Forces lead from a simulation to the one `dt` seconds later. -/
abbrev Motion := Simulation → Float32 → Simulation

/-- The place at which a body is anchored. -/
def Body.pin? (body : Body) : Option (Float32 × Float32) :=
  if body.anchored then some (body.x, body.y) else none

/-- The places at which bodies are anchored, by their numbers. -/
def pinsOf (bodies : Array Body) (place : Nat) : Option (Float32 × Float32) :=
  bodies[place]?.bind Body.pin?

/-- The place at which a body of a simulation is anchored. -/
def Simulation.pin? (simulation : Simulation) (place : Nat) : Option (Float32 × Float32) :=
  pinsOf simulation.bodies place

/-- The place of a body of a simulation. -/
def Simulation.spot? (simulation : Simulation) (place : Nat) : Option (Float32 × Float32) :=
  simulation.bodies[place]?.map fun body => (body.x, body.y)

/-- Forces keep pins if they neither anchor nor free a body and leave every anchored body where it
is. -/
def KeepsPins (motion : Motion) : Prop :=
  ∀ simulation dt place, (motion simulation dt).pin? place = simulation.pin? place

namespace Diagram

/-- The diagram after one more event, when any forces move its bodies. -/
def afterBy (motion : Motion) (diagram : Diagram) : DiagramEvent → Diagram
  | .ticked dt => diagram.advance (motion diagram.simulation dt) dt
  | event => diagram.after event

/-- The diagram after several events, when any forces move its bodies. -/
def runBy (motion : Motion) (diagram : Diagram) (events : List DiagramEvent) : Diagram :=
  events.foldl (afterBy motion) diagram

/-- The bodies of a diagram are moved by the forces of its simulation. -/
theorem afterBy_step (diagram : Diagram) (event : DiagramEvent) :
    diagram.afterBy Simulation.step event = diagram.after event := by
  cases event <;> rfl

/-- A run of a diagram is one under the forces of its simulation. -/
theorem runBy_step (diagram : Diagram) (events : List DiagramEvent) :
    diagram.runBy Simulation.step events = diagram.run events := by
  induction events generalizing diagram with
  | nil => rfl
  | cons event rest ih =>
      rw [runBy, List.foldl_cons, afterBy_step]
      exact ih (diagram.after event)

/-- The pointer drags a node, so that it takes the node along when it moves. -/
def Drags (diagram : Diagram) (place : Nat) : Prop :=
  diagram.gesture.drag.map Drag.node = some place

end Diagram

/-- What holds of the anchored nodes of a diagram after some events. -/
structure PinnedNodes (motion : Motion) (diagram : Diagram) (events : List DiagramEvent) :
    Prop where
  /-- An anchored node stays anchored. -/
  anchored : ∀ place, (diagram.simulation.pin? place).isSome →
    ((diagram.runBy motion events).simulation.pin? place).isSome
  /-- It stays where it is as long as the pointer does not move while it drags this node. -/
  kept : ∀ place spot, diagram.simulation.pin? place = some spot →
    (∀ earlier sizes x y later, events = earlier ++ .moved sizes x y :: later →
      ¬ (diagram.runBy motion earlier).Drags place) →
    (diagram.runBy motion events).simulation.pin? place = some spot
  /-- The nodes keep their identifiers, labels, colors and sizes. -/
  looks : (diagram.runBy motion events).looks = diagram.looks
  strands : (diagram.runBy motion events).strands = diagram.strands
  values : (diagram.runBy motion events).values = diagram.values
  /-- The next event moves an anchored node only if it is a move of the pointer that drags it. -/
  moved : ∀ event place, ((diagram.runBy motion events).simulation.pin? place).isSome →
    ((diagram.runBy motion events).afterBy motion event).simulation.spot? place ≠
      (diagram.runBy motion events).simulation.spot? place →
    (∃ sizes x y, event = .moved sizes x y) ∧ (diagram.runBy motion events).Drags place
  /-- Only the passing of time and a dragging pointer change anything about the bodies. -/
  still : ∀ event, (∀ dt, event ≠ .ticked dt) →
    (∀ sizes x y, event = .moved sizes x y →
      (diagram.runBy motion events).gesture.drag = none) →
    ((diagram.runBy motion events).afterBy motion event).simulation =
      (diagram.runBy motion events).simulation
  /-- A dragging pointer leaves all other bodies alone. -/
  others : ∀ sizes x y place, ¬ (diagram.runBy motion events).Drags place →
    ((diagram.runBy motion events).move sizes x y).simulation.bodies[place]? =
      (diagram.runBy motion events).simulation.bodies[place]?
  /-- It anchors the dragged body at the place that belongs to the pointer. -/
  dragged : ∀ sizes x y drag body, (diagram.runBy motion events).gesture.drag = some drag →
    (diagram.runBy motion events).simulation.bodies[drag.node]? = some body →
    ((diagram.runBy motion events).move sizes x y).simulation.pin? drag.node =
      some ((drag.target (diagram.runBy motion events).gesture.view x y).x,
        (drag.target (diagram.runBy motion events).gesture.view x y).y)

section Forces

variable {bodies : Array Body}

/-- A change that leaves the pins of single bodies alone leaves all pins alone. -/
theorem pinsOf_modify {f : Body → Body} (keeps : ∀ body, (f body).pin? = body.pin?)
    (changed : Nat) : pinsOf (bodies.modify changed f) = pinsOf bodies := by
  funext place
  simp only [pinsOf, Array.getElem?_modify]
  split_ifs with same
  · cases bodies[place]? with
    | none => rfl
    | some body => exact keeps body
  · rfl

/-- Changes one after the other leave the pins alone if every single one does. -/
theorem pinsOf_foldl {α : Type} {f : Array Body → α → Array Body}
    (keeps : ∀ bodies item, pinsOf (f bodies item) = pinsOf bodies) (items : List α) :
    pinsOf (items.foldl f bodies) = pinsOf bodies := by
  induction items generalizing bodies with
  | nil => rfl
  | cons item rest ih => exact ih.trans (keeps bodies item)

/-- A push leaves the pin of a body alone. -/
theorem Body.pin?_push (forces : Forces) (fx fy dt : Float32) (body : Body) :
    (body.push forces fx fy dt).pin? = body.pin? := rfl

/-- The movement of a body leaves its pin alone. -/
theorem Body.pin?_move (forces : Forces) (dt : Float32) (body : Body) :
    (body.move forces dt).pin? = body.pin? := by
  unfold Body.move
  split_ifs with anchored
  · rfl
  · simp [Body.pin?, anchored]

/-- The pull of a link leaves the pins alone. -/
theorem pinsOf_attract (forces : Forces) (dt : Float32) (current : Nat) (bodies : Array Body)
    (other : Nat) : pinsOf (Simulation.attract forces dt current bodies other) = pinsOf bodies := by
  unfold Simulation.attract
  split
  · exact pinsOf_modify (Body.pin?_push forces _ _ dt) current
  · rfl

/-- The push between two bodies leaves the pins alone. -/
theorem pinsOf_repel (forces : Forces) (dt : Float32) (current : Nat) (bodies : Array Body)
    (other : Nat) : pinsOf (Simulation.repel forces dt current bodies other) = pinsOf bodies := by
  unfold Simulation.repel
  split
  case h_1 first second _ _ =>
    have pushed (fx fy : Float32) (bodies : Array Body) (place : Nat) :
        pinsOf (bodies.modify place fun body => body.push forces fx fy dt) = pinsOf bodies :=
      pinsOf_modify (Body.pin?_push forces fx fy dt) place
    cases first.anchored <;> cases second.anchored <;> simp [pushed]
  case h_2 => rfl

/-- The step of one body leaves the pins alone. -/
theorem Simulation.pinsOf_stepBody (simulation : Simulation) (dt : Float32) (bodies : Array Body)
    (current : Nat) : pinsOf (simulation.stepBody dt bodies current) = pinsOf bodies := by
  unfold stepBody
  rw [pinsOf_modify (Body.pin?_move simulation.forces dt), pinsOf_foldl (pinsOf_repel _ _ _),
    pinsOf_foldl (pinsOf_attract _ _ _)]

/-- The forces of a simulation keep pins. -/
theorem Simulation.keepsPins_step : KeepsPins Simulation.step := by
  intro simulation dt place
  exact congrFun (pinsOf_foldl (simulation.pinsOf_stepBody dt) _) place

end Forces

section Steps

variable {motion : Motion} {diagram : Diagram} {place : Nat}

/-- The shift of a body leaves its pin alone. -/
theorem Body.pin?_shift (body : Body) (shift : Option (Float × Float)) :
    (body.shift shift).pin? = body.pin? := by
  unfold Body.shift
  split
  · split_ifs with anchored
    · rfl
    · simp [Body.pin?, anchored]
  · rfl

/-- The pull of the strands keeps pins. -/
theorem Diagram.pin?_relax (diagram : Diagram) (place : Nat) :
    diagram.relax.simulation.pin? place = diagram.simulation.pin? place := by
  simp only [relax, Simulation.pin?, pinsOf, Array.getElem?_mapIdx]
  cases diagram.simulation.bodies[place]? with
  | none => rfl
  | some body => exact body.pin?_shift _

/-- Time keeps pins, if the forces do. -/
theorem Diagram.pin?_advance (keeps : KeepsPins motion) (dt : Float32) :
    (diagram.advance (motion diagram.simulation dt) dt).simulation.pin? place =
      diagram.simulation.pin? place :=
  (pin?_relax _ place).trans (keeps diagram.simulation dt place)

/-- A body that is put at a place is anchored there, and no other one is changed. -/
theorem Diagram.bodies_pin (diagram : Diagram) (grip : Grip Float32) (place : Nat) :
    (diagram.pin grip).simulation.bodies[place]? =
      if grip.node = place then
        diagram.simulation.bodies[place]?.map fun body =>
          { body with x := grip.x, y := grip.y, anchored := true }
      else diagram.simulation.bodies[place]? := by
  simp only [pin, Array.getElem?_modify]

/-- The pin of the body that is put at a place. -/
theorem Diagram.pin?_pin (diagram : Diagram) (grip : Grip Float32) (place : Nat) :
    (diagram.pin grip).simulation.pin? place =
      if grip.node = place then
        diagram.simulation.bodies[place]?.map fun _ => (grip.x, grip.y)
      else diagram.simulation.pin? place := by
  simp only [Simulation.pin?, pinsOf, bodies_pin]
  split_ifs
  · cases diagram.simulation.bodies[place]? <;> rfl
  · rfl

/-- The place that belongs to the pointer is one for the dragged node. -/
@[simp]
theorem Drag.node_target (drag : Drag Float Float32) (view : View Float) (x y : Float) :
    (drag.target view x y).node = drag.node := rfl

/-- A move of the pointer puts the dragged node at the place that belongs to the pointer. -/
theorem Diagram.move_of_drag {drag : Drag Float Float32}
    (dragging : diagram.gesture.drag = some drag) (sizes : Sizes) (x y : Float) :
    diagram.move sizes x y = diagram.pin (drag.target diagram.gesture.view x y) := by
  simp only [move, dragging]

/-- A move of the pointer that drags nothing leaves the bodies alone. -/
theorem Diagram.simulation_move_of_none (free : diagram.gesture.drag = none)
    (sizes : Sizes) (x y : Float) : (diagram.move sizes x y).simulation = diagram.simulation := by
  simp only [move, free]
  rfl

/-- Only the passing of time and a dragging pointer change anything about the bodies. -/
theorem Diagram.simulation_afterBy {event : DiagramEvent} (timeless : ∀ dt, event ≠ .ticked dt)
    (free : ∀ sizes x y, event = .moved sizes x y → diagram.gesture.drag = none) :
    (diagram.afterBy motion event).simulation = diagram.simulation := by
  cases event with
  | ticked dt => exact absurd rfl (timeless dt)
  | moved sizes x y => exact diagram.simulation_move_of_none (free sizes x y rfl) sizes x y
  | hovered | pressed | released | left | zoomed | resized => rfl

/-- A move of the pointer leaves all bodies alone that it does not drag. -/
theorem Diagram.bodies_move (undragged : ¬ diagram.Drags place) (sizes : Sizes) (x y : Float) :
    (diagram.move sizes x y).simulation.bodies[place]? = diagram.simulation.bodies[place]? := by
  cases dragging : diagram.gesture.drag with
  | none => rw [simulation_move_of_none dragging]
  | some drag =>
      have other : drag.node ≠ place := fun same => undragged (by simp [Drags, dragging, same])
      rw [move_of_drag dragging, bodies_pin, Drag.node_target, if_neg other]

/-- An event keeps the pin of a node unless it is a move of the pointer that drags this node. -/
theorem Diagram.pin?_afterBy (keeps : KeepsPins motion) {event : DiagramEvent}
    (free : ∀ sizes x y, event = .moved sizes x y → ¬ diagram.Drags place) :
    (diagram.afterBy motion event).simulation.pin? place = diagram.simulation.pin? place := by
  cases event with
  | ticked dt => exact pin?_advance keeps dt
  | moved sizes x y =>
      exact congrArg (·.bind Body.pin?) (bodies_move (free sizes x y rfl) sizes x y)
  | hovered | pressed | released | left | zoomed | resized => rfl

/-- An event leaves an anchored node anchored. -/
theorem Diagram.isSome_pin?_afterBy (keeps : KeepsPins motion) (event : DiagramEvent)
    (anchored : (diagram.simulation.pin? place).isSome) :
    ((diagram.afterBy motion event).simulation.pin? place).isSome := by
  by_cases dragged : ∃ sizes x y, event = .moved sizes x y ∧ diagram.Drags place
  · obtain ⟨sizes, x, y, rfl, drags⟩ := dragged
    obtain ⟨drag, dragging, same⟩ := Option.map_eq_some_iff.mp drags
    obtain ⟨spot, pinned⟩ := Option.isSome_iff_exists.mp anchored
    obtain ⟨body, there, -⟩ := Option.bind_eq_some_iff.mp pinned
    have moved : diagram.afterBy motion (.moved sizes x y) =
      diagram.pin (drag.target diagram.gesture.view x y) := move_of_drag dragging sizes x y
    rw [moved, pin?_pin, Drag.node_target, if_pos same, there]
    rfl
  · have free : ∀ sizes x y, event = .moved sizes x y → ¬ diagram.Drags place :=
      fun sizes x y same drags => dragged ⟨sizes, x, y, same, drags⟩
    rwa [pin?_afterBy keeps free]

/-- An anchored body is where it is anchored. -/
theorem Simulation.spot?_of_pin? {simulation : Simulation} {spot : Float32 × Float32}
    (pinned : simulation.pin? place = some spot) : simulation.spot? place = some spot := by
  obtain ⟨body, there, pinned⟩ := Option.bind_eq_some_iff.mp pinned
  unfold Body.pin? at pinned
  split_ifs at pinned
  rw [spot?, there]
  exact pinned

/-- An event keeps what is shown for the nodes and the links between them. -/
theorem Diagram.samePicture_afterBy (motion : Motion) (diagram : Diagram) (event : DiagramEvent) :
    (diagram.afterBy motion event).looks = diagram.looks ∧
      (diagram.afterBy motion event).strands = diagram.strands ∧
      (diagram.afterBy motion event).values = diagram.values := by
  cases event with
  | ticked dt => exact ⟨rfl, rfl, rfl⟩
  | hovered | pressed | moved | released | left | zoomed | resized =>
      have same := diagram.samePicture_after
      exact ⟨(same _).looks, (same _).strands, (same _).values⟩

end Steps

section Runs

variable {motion : Motion} {diagram : Diagram} {place : Nat}

/-- Events keep what is shown for the nodes and the links between them. -/
theorem Diagram.samePicture_runBy (motion : Motion) (diagram : Diagram)
    (events : List DiagramEvent) :
    (diagram.runBy motion events).looks = diagram.looks ∧
      (diagram.runBy motion events).strands = diagram.strands ∧
      (diagram.runBy motion events).values = diagram.values := by
  induction events generalizing diagram with
  | nil => exact ⟨rfl, rfl, rfl⟩
  | cons event rest ih =>
      obtain ⟨looks, strands, values⟩ := diagram.samePicture_afterBy motion event
      obtain ⟨later, laterStrands, laterValues⟩ := ih (diagram.afterBy motion event)
      exact ⟨later.trans looks, laterStrands.trans strands, laterValues.trans values⟩

/-- Events leave an anchored node anchored. -/
theorem Diagram.isSome_pin?_runBy (keeps : KeepsPins motion) (events : List DiagramEvent)
    (anchored : (diagram.simulation.pin? place).isSome) :
    ((diagram.runBy motion events).simulation.pin? place).isSome := by
  induction events generalizing diagram with
  | nil => exact anchored
  | cons event rest ih => exact ih (isSome_pin?_afterBy keeps event anchored)

/-- An anchored node stays where it is as long as the pointer does not move while it drags this
node. -/
theorem Diagram.pin?_runBy (keeps : KeepsPins motion) {events : List DiagramEvent}
    (free : ∀ earlier sizes x y later, events = earlier ++ .moved sizes x y :: later →
      ¬ (diagram.runBy motion earlier).Drags place) :
    (diagram.runBy motion events).simulation.pin? place = diagram.simulation.pin? place := by
  induction events generalizing diagram with
  | nil => rfl
  | cons event rest ih =>
      have first : (diagram.afterBy motion event).simulation.pin? place =
          diagram.simulation.pin? place := by
        refine pin?_afterBy keeps fun sizes x y same => ?_
        exact free [] sizes x y rest (congrArg (· :: rest) same)
      refine (ih fun earlier sizes x y later same => ?_).trans first
      exact free (event :: earlier) sizes x y later (congrArg (event :: ·) same)

end Runs

/-- A node that is once anchored stays anchored, and it stays at its place until the pointer drags
it, whatever else happens to its diagram and whatever the forces do to the other nodes. -/
theorem nodes_stayPinned (motion : Motion) (keeps : KeepsPins motion) (diagram : Diagram)
    (events : List DiagramEvent) : PinnedNodes motion diagram events := by
  obtain ⟨looks, strands, values⟩ := diagram.samePicture_runBy motion events
  constructor
  case anchored => exact fun place anchored => Diagram.isSome_pin?_runBy keeps events anchored
  case kept => exact fun place spot pinned free => (Diagram.pin?_runBy keeps free).trans pinned
  case looks => exact looks
  case strands => exact strands
  case values => exact values
  case moved =>
    intro event place anchored moved
    by_contra other
    have free : ∀ sizes x y, event = .moved sizes x y →
        ¬ (diagram.runBy motion events).Drags place :=
      fun sizes x y same drags => other ⟨⟨sizes, x, y, same⟩, drags⟩
    obtain ⟨spot, pinned⟩ := Option.isSome_iff_exists.mp anchored
    have after := (Diagram.pin?_afterBy keeps free).trans pinned
    exact moved ((Simulation.spot?_of_pin? after).trans (Simulation.spot?_of_pin? pinned).symm)
  case still => exact fun event => Diagram.simulation_afterBy
  case others => exact fun sizes x y place undragged => Diagram.bodies_move undragged sizes x y
  case dragged =>
    intro sizes x y drag body dragging there
    rw [Diagram.move_of_drag dragging, Diagram.pin?_pin, Drag.node_target, if_pos rfl, there]
    rfl

/-- Two linked nodes, the first of which is anchored. -/
def anchoredPair : Diagram :=
  (Diagram.ofPicture
    { nodes := [⟨⟨1⟩, "n1", "#808080"⟩, ⟨⟨2⟩, "n2", "#008b8b"⟩], links := [⟨⟨1⟩, ⟨2⟩, 0.5⟩] }
    800.0 600.0).pin ⟨0, 30.0, 10.0⟩

/-- Time passes and the pointer moves over the canvas without a node. -/
def idleEvents : List DiagramEvent :=
  [.ticked 0.016, .moved ⟨1.0, 5.0, 12.0, 10.0, "10px sans-serif", 1.5, 5.0, 1.0, 1.5, 2.0⟩ 5.0 5.0,
    .ticked 0.016]

/-- The anchored one of two nodes stays where it is under the forces of the simulation. -/
theorem nodes_stayPinned_idle :
    KeepsPins Simulation.step ∧ anchoredPair.simulation.pin? 0 = some (30.0, 10.0) ∧
      (anchoredPair.run idleEvents).simulation.pin? 0 = some (30.0, 10.0) := by
  have keeps := Simulation.keepsPins_step
  have pinned : anchoredPair.simulation.pin? 0 = some (30.0, 10.0) := rfl
  have nodes := nodes_stayPinned Simulation.step keeps anchoredPair idleEvents
  refine ⟨keeps, pinned, ?_⟩
  rw [← Diagram.runBy_step]
  refine nodes.kept 0 _ pinned fun earlier sizes x y later same => ?_
  -- The only move comes after the first tick, when the pointer holds no node.
  match earlier, same with
  | [first], same =>
      obtain ⟨rfl, -⟩ := List.cons.inj same
      exact nofun
  | [], same | [_, _], same | _ :: _ :: _ :: _, same => simp [idleEvents] at same

end MeshConsole
