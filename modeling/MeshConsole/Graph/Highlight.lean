/-
This file holds the highlight of the node under the pointer and its neighbours, which fades in
and out.
-/

import MeshConsole.Graph.Arithmetic

namespace MeshConsole

/-- Values by node. -/
abbrev NodeValues := List (Nat × Float)

/-- The value of a node, zero without an entry. -/
def NodeValues.at (values : NodeValues) (node : Nat) : Float :=
  ((values.find? fun entry => entry.1 == node).map (·.2)).getD 0.0

/-- This function changes the value of one node. A node without an entry starts at zero. -/
def NodeValues.change (node : Nat) (f : Float → Float) : NodeValues → NodeValues
  | [] => [(node, f 0.0)]
  | (other, value) :: rest =>
    if other = node then (other, f value) :: rest
    else (other, value) :: NodeValues.change node f rest

/-- The state of the highlight. -/
structure Highlight where
  hovered : Option Nat := none
  /-- The hovered node and every node linked to it. -/
  targets : List Nat := []
  intensities : NodeValues := []
  rings : NodeValues := []
  /-- The seconds for which a node keeps its light. -/
  holds : NodeValues := []
  /-- The largest intensity after the last step. -/
  strongest : Float := 0.0

instance : Inhabited Highlight := ⟨{}⟩

/-- A highlight is held this many seconds before it may fade. -/
def holdTime : Float := 0.12

/-- The other end of a link at a node. -/
def otherEnd? (node : Nat) (link : Nat × Nat) : Option Nat :=
  if link.1 = node then some link.2
  else if link.2 = node then some link.1
  else none

/-- This function adds a node that is not yet listed. -/
def addNode (nodes : List Nat) (node : Nat) : List Nat :=
  if nodes.contains node then nodes else nodes ++ [node]

/-- A node and its neighbours, each once. -/
def neighbourhood (node : Nat) (links : List (Nat × Nat)) : List Nat :=
  (links.filterMap (otherEnd? node)).foldl addNode [node]

/-- Hovering another node changes the targets and holds the light of the new ones. -/
def Highlight.hover (highlight : Highlight) (node : Option Nat) (links : List (Nat × Nat)) :
    Highlight :=
  if highlight.hovered = node then highlight
  else
    match node with
    | none => { highlight with hovered := none, targets := [] }
    | some node =>
      let targets := neighbourhood node links
      { highlight with
        hovered := some node
        targets
        holds := targets.foldl
          (fun holds target => NodeValues.change target (fun _ => holdTime) holds)
          highlight.holds }

/-- A light that is held does not fade. -/
def isHeld (holds : NodeValues) (node : Nat) : Bool :=
  0.0 < holds.at node

/-- The share of the way to full light in `seconds`. -/
def fadeIn (seconds : Float) : Float := 1.0 - (-6.0 * seconds).exp

/-- The share of light that is left after `seconds`. -/
def fadeOut (seconds : Float) : Float := (-4.0 * seconds).exp

/-- This function moves an intensity towards full light. -/
def brighten (share intensity : Float) : Float :=
  intensity + (1.0 - intensity) * share

/-- The holds run down on nodes that are no targets, and end at zero. -/
def Highlight.runHolds (highlight : Highlight) (seconds : Float) : NodeValues :=
  highlight.holds.filterMap fun (node, left) =>
    if highlight.targets.contains node then some (node, left)
    else if 0.0 < left - seconds then some (node, left - seconds)
    else none

/-- The light of a node that is neither a target nor held fades. -/
def Highlight.faded (highlight : Highlight) (holds : NodeValues) (share : Float)
    (entry : Nat × Float) : Nat × Float :=
  if !highlight.targets.contains entry.1 && !isHeld holds entry.1 then
    (entry.1, entry.2 * share)
  else entry

/-- A ring fades when its node is neither hovered nor held. -/
def Highlight.fadedRing (highlight : Highlight) (holds : NodeValues) (share : Float)
    (entry : Nat × Float) : Nat × Float :=
  if highlight.hovered ≠ some entry.1 ∧ !isHeld holds entry.1 then
    (entry.1, entry.2 * share)
  else entry

/-- One step of `seconds`. Light that has almost gone is forgotten. -/
def Highlight.tick (highlight : Highlight) (seconds : Float) : Highlight :=
  let bright := brighten (fadeIn seconds)
  let lit := highlight.targets.foldl (fun values node => NodeValues.change node bright values)
    highlight.intensities
  let ringed := match highlight.hovered with
    | some node => NodeValues.change node bright highlight.rings
    | none => highlight.rings
  let holds := highlight.runHolds seconds
  let faded := lit.map (highlight.faded holds (fadeOut seconds))
  let fadedRings := ringed.map (highlight.fadedRing holds (fadeOut seconds))
  { highlight with
    holds
    intensities := faded.filter fun (node, intensity) =>
      highlight.targets.contains node || 0.005 < intensity
    rings := fadedRings.filter fun (node, intensity) =>
      highlight.hovered == some node || 0.005 < intensity
    strongest := faded.foldl (fun strongest entry => Graph.larger strongest entry.2) 0.0 }

/-- The light of a link is the geometric mean of the light at its ends. -/
def Highlight.linkIntensity (highlight : Highlight) (source target : Nat) : Float :=
  (highlight.intensities.at source * highlight.intensities.at target).sqrt

end MeshConsole
