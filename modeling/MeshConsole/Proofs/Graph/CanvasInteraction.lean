/-
This file shows that the pointer and the highlight of a mounted canvas always agree with the diagram
that the canvas shows, whatever the pointer does, however time passes and whatever picture comes.
-/

import Mathlib.Tactic.SplitIfs
import MeshConsole.Graph.Host
import MeshConsole.Proofs.Graph.DrawnLinks

namespace MeshConsole

/-- Something that happens to the diagram of a mounted canvas. The canvas chooses for itself which
node is hovered. -/
inductive MountedEvent where
  | happened (event : DiagramEvent) (unchosen : ∀ node, event ≠ .hovered node)
  | replaced (picture : Picture)

/-- The diagram of a mounted canvas after one more event. -/
def Diagram.afterMounted (diagram : Diagram) : MountedEvent → Diagram
  | .happened event _ => diagram.after event
  | .replaced picture => diagram.replace picture

/-- The diagram of a mounted canvas after several events. -/
def Diagram.runMounted (diagram : Diagram) (events : List MountedEvent) : Diagram :=
  events.foldl afterMounted diagram

/-- The nodes with a value. -/
def NodeValues.nodes (values : NodeValues) : List Nat := values.map Prod.fst

/-- A grasp belongs to a diagram of some number of nodes. -/
structure Grasp.Fits {screen plane : Type} (grasp : Grasp screen plane) (count : Nat) : Prop where
  active : grasp.active = true ↔ grasp.node.isSome = true
  node : ∀ node, grasp.node = some node → node < count

/-- A highlight belongs to a diagram of some number of nodes with some links. -/
structure Highlight.Fits (highlight : Highlight) (count : Nat) (links : List (Nat × Nat)) :
    Prop where
  hovered : ∀ node, highlight.hovered = some node → node < count
  /-- Without a hovered node nothing is a target. -/
  unhovered : highlight.hovered = none → highlight.targets = []
  /-- The targets are the hovered node and what a link in either direction joins to it. -/
  targets : ∀ node, highlight.hovered = some node → ∀ other, other ∈ highlight.targets ↔
    other = node ∨ (node, other) ∈ links ∨ (other, node) ∈ links
  /-- Every target is held. -/
  held : ∀ node ∈ highlight.targets, node ∈ highlight.holds.nodes
  holds : ∀ node ∈ highlight.holds.nodes, node < count
  intensities : ∀ node ∈ highlight.intensities.nodes, node < count
  rings : ∀ node ∈ highlight.rings.nodes, node < count

/-- The pointer and the highlight of a diagram agree with its nodes and links. -/
structure Diagram.WellFormed (diagram : Diagram) : Prop where
  /-- Every node that is shown has a body. -/
  bodies : diagram.simulation.bodies.size = diagram.looks.size
  links : ∀ link ∈ diagram.pairs, link.1 < diagram.looks.size ∧ link.2 < diagram.looks.size
  grasp : diagram.gesture.grasp.Fits diagram.looks.size
  highlight : diagram.highlight.Fits diagram.looks.size diagram.pairs

/-- The pointer neither drags nor pans nor hovers. -/
structure Diagram.Untouched (diagram : Diagram) : Prop where
  inactive : diagram.gesture.grasp.active = false
  ungrasped : diagram.gesture.grasp.node = none
  still : diagram.gesture.pan.active = false
  unhovered : diagram.highlight.hovered = none

section Values

variable {values : NodeValues} {node other : Nat}

/-- A change of one value adds no other node. -/
theorem NodeValues.mem_nodes_change {f : Float → Float} :
    node ∈ (NodeValues.change other f values).nodes ↔ node = other ∨ node ∈ values.nodes := by
  induction values with
  | nil => simp [change, nodes]
  | cons entry rest ih =>
      simp only [nodes] at ih
      by_cases same : entry.1 = other
      · simp [change, nodes, same]
      · simp [change, nodes, same, ih, or_left_comm]

/-- Changes of several values add no other nodes. -/
theorem NodeValues.mem_nodes_foldl_change {f : Float → Float} {changed : List Nat} :
    node ∈ (changed.foldl (fun values place => NodeValues.change place f values) values).nodes ↔
      node ∈ changed ∨ node ∈ values.nodes := by
  induction changed generalizing values with
  | nil => simp
  | cons place rest ih =>
      rw [List.foldl_cons, ih, mem_nodes_change, List.mem_cons]
      exact or_left_comm.trans or_assoc.symm

/-- Values that are changed in their places have the same nodes. -/
theorem NodeValues.nodes_map {f : Nat × Float → Nat × Float}
    (keeps : ∀ entry, (f entry).1 = entry.1) : nodes (values.map f) = values.nodes := by
  simp [nodes, Function.comp_def, keeps]

/-- Forgetting some values adds no nodes. -/
theorem NodeValues.nodes_filter_subset (kept : Nat × Float → Bool) :
    nodes (values.filter kept) ⊆ values.nodes :=
  List.map_subset _ (List.filter_sublist).subset

end Values

section Neighbours

variable {node other : Nat} {links : List (Nat × Nat)}

/-- Adding a node lists it beside the others. -/
theorem mem_addNode {nodes : List Nat} :
    other ∈ addNode nodes node ↔ other ∈ nodes ∨ other = node := by
  unfold addNode
  split_ifs with listed
  · have listed : node ∈ nodes := List.contains_iff_mem.mp listed
    exact ⟨.inl, fun either => either.elim id fun same => same ▸ listed⟩
  · simp

/-- Adding several nodes lists them beside the others. -/
theorem mem_foldl_addNode {nodes added : List Nat} :
    other ∈ added.foldl addNode nodes ↔ other ∈ nodes ∨ other ∈ added := by
  induction added generalizing nodes with
  | nil => simp
  | cons node rest ih => rw [List.foldl_cons, ih, mem_addNode, List.mem_cons, or_assoc]

/-- The neighbourhood of a node is the node and what a link in either direction joins to it. -/
theorem mem_neighbourhood :
    other ∈ neighbourhood node links ↔
      other = node ∨ (node, other) ∈ links ∨ (other, node) ∈ links := by
  rw [neighbourhood, mem_foldl_addNode, List.mem_singleton, List.mem_filterMap]
  -- A link from the node to itself adds nothing, since the node is there already.
  refine or_congr_right' fun different => ⟨?_, ?_⟩
  · rintro ⟨⟨source, target⟩, member, found⟩
    unfold otherEnd? at found
    split_ifs at found with isSource isTarget
    · exact .inl (by simp_all)
    · exact .inr (by simp_all)
  · rintro (outgoing | incoming)
    · exact ⟨_, outgoing, if_pos rfl⟩
    · exact ⟨_, incoming, (if_neg different).trans (if_pos rfl)⟩

example : neighbourhood 1 [(0, 1), (2, 3), (1, 2)] = [1, 0, 2] := by decide

end Neighbours

namespace Highlight

variable {highlight : Highlight} {count : Nat} {links : List (Nat × Nat)}

/-- Hovering a node of the diagram, or none, keeps the highlight fit. -/
theorem Fits.hover (fits : highlight.Fits count links)
    (known : ∀ link ∈ links, link.1 < count ∧ link.2 < count) {node : Option Nat}
    (there : ∀ place, node = some place → place < count) :
    (highlight.hover node links).Fits count links := by
  unfold Highlight.hover
  split_ifs with same
  · exact fits
  · cases node with
    | none =>
        exact { fits with
          hovered := nofun, unhovered := fun _ => rfl, targets := nofun, held := nofun }
    | some node =>
        have inside : ∀ other ∈ neighbourhood node links, other < count := by
          intro other member
          rcases mem_neighbourhood.mp member with rfl | outgoing | incoming
          · exact there _ rfl
          · exact (known _ outgoing).2
          · exact (known _ incoming).1
        refine { fits with
          hovered := there, unhovered := nofun
          targets := ?targets, held := ?held, holds := ?holds }
        case targets =>
          rintro _ ⟨⟩ other
          exact mem_neighbourhood
        case held => exact fun other member => NodeValues.mem_nodes_foldl_change.mpr (.inl member)
        case holds =>
          exact fun other member =>
            (NodeValues.mem_nodes_foldl_change.mp member).elim (inside other) (fits.holds other)

/-- No node starts to be held while time passes. -/
theorem nodes_runHolds_subset (seconds : Float) :
    (highlight.runHolds seconds).nodes ⊆ highlight.holds.nodes := by
  intro node member
  obtain ⟨entry, kept, rfl⟩ := List.mem_map.mp member
  obtain ⟨⟨place, left⟩, held, found⟩ := List.mem_filterMap.mp kept
  have same : entry.1 = place := by
    dsimp only at found
    split_ifs at found <;> exact (congrArg Prod.fst (Option.some.inj found)).symm
  exact same ▸ List.mem_map_of_mem held

/-- A target that is held stays held while time passes. -/
theorem mem_nodes_runHolds {node : Nat} (target : node ∈ highlight.targets)
    (held : node ∈ highlight.holds.nodes) (seconds : Float) :
    node ∈ (highlight.runHolds seconds).nodes := by
  obtain ⟨⟨place, left⟩, member, rfl⟩ := List.mem_map.mp held
  have listed : highlight.targets.contains place = true := List.contains_iff_mem.mpr target
  have kept : (place, left) ∈ highlight.runHolds seconds :=
    List.mem_filterMap.mpr ⟨_, member, if_pos listed⟩
  exact List.mem_map_of_mem kept

/-- The passing of time keeps the highlight fit. -/
theorem Fits.tick (fits : highlight.Fits count links) (seconds : Float) :
    (highlight.tick seconds).Fits count links := by
  -- Every target is held, and what is held is a node.
  have target : ∀ node ∈ highlight.targets, node < count :=
    fun node member => fits.holds node (fits.held node member)
  have fadedNode (holds share entry) : (highlight.faded holds share entry).1 = entry.1 := by
    unfold faded
    split_ifs <;> rfl
  have fadedRingNode (holds share entry) : (highlight.fadedRing holds share entry).1 = entry.1 := by
    unfold fadedRing
    split_ifs <;> rfl
  refine { fits with
    held := ?held, holds := ?holds, intensities := ?intensities, rings := ?rings }
  case held =>
    intro node (target : node ∈ highlight.targets)
    exact mem_nodes_runHolds target (fits.held node target) seconds
  case holds => exact fun node member => fits.holds node (nodes_runHolds_subset seconds member)
  case intensities =>
    intro node member
    have lit := NodeValues.nodes_filter_subset _ member
    rw [NodeValues.nodes_map (fadedNode _ _)] at lit
    exact (NodeValues.mem_nodes_foldl_change.mp lit).elim (target node) (fits.intensities node)
  case rings =>
    intro node member
    have ringed := NodeValues.nodes_filter_subset _ member
    rw [NodeValues.nodes_map (fadedRingNode _ _)] at ringed
    cases hovers : highlight.hovered with
    | none =>
        simp only [hovers] at ringed
        exact fits.rings node ringed
    | some hovered =>
        simp only [hovers] at ringed
        rcases NodeValues.mem_nodes_change.mp ringed with rfl | before
        · exact fits.hovered node hovers
        · exact fits.rings node before

end Highlight

section Bodies

/-- Changes of bodies one after the other keep their number if every single one does. -/
theorem size_foldl_bodies {α : Type} {f : Array Body → α → Array Body}
    (keeps : ∀ bodies item, (f bodies item).size = bodies.size) (bodies : Array Body)
    (items : List α) : (items.foldl f bodies).size = bodies.size :=
  List.foldlRecOn items f (motive := fun current => current.size = bodies.size) rfl
    fun current same item _ => (keeps current item).trans same

/-- Links change no body. -/
theorem Simulation.bodies_foldl_link (simulation : Simulation) (strands : List Strand) :
    (strands.foldl (fun simulation strand => simulation.link strand.source strand.target)
      simulation).bodies = simulation.bodies := by
  have bodies_link (simulation : Simulation) (source target : Nat) :
      (simulation.link source target).bodies = simulation.bodies := by
    unfold link
    split_ifs <;> rfl
  induction strands generalizing simulation with
  | nil => rfl
  | cons strand rest ih => exact (ih _).trans (bodies_link simulation _ _)

/-- The forces keep the number of bodies. -/
theorem Simulation.size_step (simulation : Simulation) (dt : Float32) :
    (simulation.step dt).bodies.size = simulation.bodies.size := by
  have attract (current) : ∀ bodies other,
      (Simulation.attract simulation.forces dt current bodies other).size = bodies.size := by
    intro bodies other
    unfold Simulation.attract
    split <;> simp
  have repel (current) : ∀ bodies other,
      (Simulation.repel simulation.forces dt current bodies other).size = bodies.size := by
    intro bodies other
    unfold Simulation.repel
    split
    · dsimp only
      split_ifs <;> simp
    · rfl
  refine size_foldl_bodies (fun bodies current => ?_) _ _
  simp only [stepBody, Array.size_modify]
  rw [size_foldl_bodies (repel current), size_foldl_bodies (attract current)]

end Bodies

section Grasps

variable {screen plane : Type} {gesture : Gesture screen plane} {count : Nat}

/-- A pointer that holds no node fits every diagram. -/
theorem Grasp.fits_empty [OfScientific screen] [OfScientific plane] :
    (Grasp.empty : Grasp screen plane).Fits count :=
  ⟨by simp [empty], nofun⟩

/-- A press takes a node of the diagram. -/
theorem Grasp.Fits.press (fits : gesture.grasp.Fits count) {under : Option (Grip plane)}
    (there : ∀ grip, under = some grip → grip.node < count) (x y : screen) :
    (gesture.press under x y).grasp.Fits count := by
  cases under with
  | none => exact fits
  | some grip =>
      refine ⟨by simp [Gesture.press], fun node same => ?_⟩
      exact Option.some.inj same ▸ there grip rfl

/-- Panning does not touch the grasp. -/
@[simp]
theorem Gesture.grasp_panTo [Add screen] [Sub screen] (gesture : Gesture screen plane)
    (x y : screen) : (gesture.panTo x y).grasp = gesture.grasp := by
  unfold panTo
  split_ifs <;> rfl

end Grasps

namespace Diagram

variable {diagram : Diagram}

/-- What lies under the pointer is a node of the diagram. -/
theorem lt_of_nodeAt? {sizes : Sizes} {x y : Float} {place : Nat}
    (found : diagram.nodeAt? sizes x y = some place) : place < diagram.looks.size := by
  have inside : ∀ place, diagram.nodeAt? sizes x y = some place → place < diagram.looks.size := by
    unfold nodeAt?
    refine List.foldlRecOn (motive := fun found => ∀ place, found = some place →
      place < diagram.looks.size) _ _ nofun ?_
    intro found inside other member place same
    split at same
    · split_ifs at same
      · exact Option.some.inj same ▸ List.mem_range.mp member
      · exact inside place same
    · exact inside place same
  exact inside place found

/-- Hovering a node of the diagram, or none, keeps the diagram well formed. -/
theorem WellFormed.hover (formed : diagram.WellFormed) {node : Option Nat}
    (there : ∀ place, node = some place → place < diagram.looks.size) :
    (diagram.hover node).WellFormed :=
  { formed with highlight := formed.highlight.hover formed.links there }

/-- Letting go keeps the diagram well formed. -/
theorem WellFormed.release (formed : diagram.WellFormed) : diagram.release.WellFormed :=
  { formed with grasp := Grasp.fits_empty }

/-- A press keeps the diagram well formed. -/
theorem WellFormed.press (formed : diagram.WellFormed) (sizes : Sizes) (x y : Float) :
    (diagram.press sizes x y).WellFormed := by
  refine { formed with grasp := formed.grasp.press (fun grip same => ?_) x y }
  obtain ⟨node, found, rfl⟩ := Option.map_eq_some_iff.mp same
  have inside := lt_of_nodeAt? found
  split <;> exact inside

/-- A move of the pointer keeps the diagram well formed. -/
theorem WellFormed.move (formed : diagram.WellFormed) (sizes : Sizes) (x y : Float) :
    (diagram.move sizes x y).WellFormed := by
  unfold Diagram.move
  split
  · exact { formed with bodies := (Array.size_modify ..).trans formed.bodies }
  · have hovering : (diagram.hover (diagram.nodeAt? sizes x y)).WellFormed :=
      formed.hover fun place => lt_of_nodeAt?
    exact { hovering with grasp := (Gesture.grasp_panTo _ x y).symm ▸ hovering.grasp }

/-- The passing of time keeps the diagram well formed. -/
theorem WellFormed.tick (formed : diagram.WellFormed) (dt : Float32) :
    (diagram.tick dt).WellFormed := by
  have bodies : (diagram.tick dt).simulation.bodies.size = diagram.simulation.bodies.size :=
    Array.size_mapIdx.trans (diagram.simulation.size_step dt)
  exact { formed with
    bodies := bodies.trans formed.bodies, highlight := formed.highlight.tick dt.toFloat }

/-- The pointer that leaves the canvas keeps the diagram well formed. -/
theorem WellFormed.leave (formed : diagram.WellFormed) : diagram.leave.WellFormed :=
  formed.release.hover nofun

/-- After the pointer has left nothing is held or hovered. -/
theorem untouched_leave (diagram : Diagram) : diagram.leave.Untouched := by
  refine ⟨rfl, rfl, rfl, ?_⟩
  simp only [leave, hover, Highlight.hover]
  split_ifs with same
  · exact same
  · rfl

/-- A node stands at a place of the list in which it is found. -/
theorem lt_of_lastPlace? {nodes : List PictureNode} {id : NodeId} {place : Nat}
    (found : lastPlace? id nodes = some place) : place < nodes.length := by
  induction nodes generalizing place with
  | nil => simp [lastPlace?] at found
  | cons node rest ih =>
      unfold lastPlace? at found
      split at found
      case h_1 later inRest => exact Option.some.inj found ▸ Nat.succ_lt_succ (ih inRest)
      case h_2 =>
        split_ifs at found
        exact Option.some.inj found ▸ Nat.succ_pos _

/-- The diagram of a picture is well formed. -/
theorem wellFormed_ofPicture (picture : Picture) (width height : Float) :
    (ofPicture picture width height).WellFormed := by
  constructor
  case bodies =>
    simp [ofPicture, Simulation.bodies_foldl_link]
  case links =>
    intro link member
    obtain ⟨strand, drawn, rfl⟩ := List.mem_map.mp member
    obtain ⟨edge, -, found⟩ : ∃ edge ∈ picture.links, strand? picture.nodes edge = some strand :=
      List.mem_filterMap.mp drawn
    obtain ⟨⟨-, source, target⟩, -⟩ := strand?_eq_some_iff.mp found
    have count : (ofPicture picture width height).looks.size = picture.nodes.length := by
      simp [ofPicture]
    exact count ▸ ⟨lt_of_lastPlace? source, lt_of_lastPlace? target⟩
  case grasp => exact Grasp.fits_empty
  case highlight => constructor <;> simp [ofPicture, NodeValues.nodes]

/-- The diagram of another picture is well formed. -/
theorem wellFormed_replace (diagram : Diagram) (picture : Picture) :
    (diagram.replace picture).WellFormed :=
  { wellFormed_ofPicture picture diagram.width diagram.height with }

/-- Every event keeps the diagram of a mounted canvas well formed. -/
theorem WellFormed.afterMounted (formed : diagram.WellFormed) (event : MountedEvent) :
    (diagram.afterMounted event).WellFormed := by
  cases event with
  | replaced picture => exact diagram.wellFormed_replace picture
  | happened event unchosen =>
      cases event with
      | hovered node => exact absurd rfl (unchosen node)
      | pressed sizes x y => exact formed.press sizes x y
      | moved sizes x y => exact formed.move sizes x y
      | released => exact formed.release
      | left => exact formed.leave
      | zoomed | resized => exact { formed with }
      | ticked dt => exact formed.tick dt

/-- Events keep the diagram of a mounted canvas well formed. -/
theorem WellFormed.runMounted (formed : diagram.WellFormed) (events : List MountedEvent) :
    (diagram.runMounted events).WellFormed :=
  List.foldlRecOn events Diagram.afterMounted formed
    fun _ formed event _ => formed.afterMounted event

end Diagram

/-- Whatever happens on a mounted canvas, the pointer and the highlight agree with the nodes and
links of its diagram, and nothing is held or hovered once the pointer has left. -/
theorem canvas_wellFormed (picture : Picture) (width height : Float) (events : List MountedEvent) :
    ((Diagram.ofPicture picture width height).runMounted events).WellFormed ∧
      ((Diagram.ofPicture picture width height).runMounted events).leave.Untouched :=
  ⟨(Diagram.wellFormed_ofPicture picture width height).runMounted events,
    Diagram.untouched_leave _⟩

end MeshConsole
