/-
This file turns node and link records into the picture that the canvas shows.
-/

import MeshConsole.Topology.Status
import MeshConsole.Record.Link

namespace MeshConsole

/-- A node of the picture. -/
structure PictureNode where
  id : NodeId
  label : String
  color : String
deriving DecidableEq

/-- A directed link of the picture with its quality. -/
structure PictureLink where
  source : NodeId
  target : NodeId
  value : Float

/-- The nodes and links of one network. -/
structure Picture where
  nodes : List PictureNode := []
  links : List PictureLink := []

instance : Inhabited Picture := ⟨{}⟩

/-- The node that stands for a record. -/
def Node.inPicture (node : Node) : PictureNode :=
  ⟨node.id, node.tag, node.status.color⟩

/-- The link that stands for a record. -/
def Link.inPicture (link : Link) : PictureLink :=
  ⟨link.source, link.target, link.weight⟩

/-- The picture of one collection of nodes and links, in their order. -/
def Picture.build (nodes : List Node) (links : List Link) : Picture :=
  ⟨nodes.map Node.inPicture, links.map Link.inPicture⟩

/-- The length at which a link is at rest: low weights are drawn short. -/
def restLength (value : Float) : Float :=
  10.0 + value * 100.0

/-- The text that a highlighted link shows. -/
def linkLabel (value : Float) : String :=
  Decimal.plain (Decimal.round (value * 100.0)) ++ "%"

end MeshConsole
