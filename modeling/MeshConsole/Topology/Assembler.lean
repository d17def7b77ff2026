/-
This file assembles the picture of a network from two fetches, first the nodes and then the links.
Every request carries a ticket of the activation that issued it, so a reply for an earlier
activation is recognised and dropped.
-/

import MeshConsole.Topology.Picture
import MeshConsole.Topology.NetworkKind
import MeshConsole.Backend.Failure
import MeshConsole.Log

namespace MeshConsole

/-- The activation that a fetch belongs to. -/
structure Ticket where
  generation : Nat
  variant : NetworkKind
deriving DecidableEq, Repr

/-- The half of the picture that a fetch loads. -/
inductive Half where
  | nodes
  | links
deriving DecidableEq, Repr

/-- The name of a half in the log. -/
def Half.name : Half → String
  | .nodes => "Nodes"
  | .links => "Links"

/-- A fetch that the page has to run. -/
structure Fetch where
  ticket : Ticket
  half : Half
  collection : Collection
deriving DecidableEq, Repr

/-- The place of an assembler in its cycle. -/
inductive Stage where
  | idle
  | awaitingNodes
  | awaitingLinks (nodes : List Node)
  | ready
deriving DecidableEq

/-- The text of a stage in the log. -/
def Stage.text : Stage → String
  | .idle => "idle"
  | .awaitingNodes => "awaiting nodes"
  | .awaitingLinks nodes => "awaiting links for " ++ toString nodes.length ++ " nodes"
  | .ready => "ready"

/-- The half that a stage waits for. -/
def Stage.expected? : Stage → Option Half
  | .awaitingNodes => some .nodes
  | .awaitingLinks _ => some .links
  | .idle | .ready => none

/-- The state of one graph view. -/
structure Assembler where
  stage : Stage := .idle
  /-- The network of the current activation. -/
  variant : Option NetworkKind := none
  generation : Nat := 0
  /-- The picture of the current activation, once it is complete. -/
  view : Option Picture := none
  /-- The failure of the latest fetch of the current activation. -/
  lastError : Option RequestFailure := none

instance : Inhabited Assembler := ⟨{}⟩

/-- The next state of an assembler with a result and the logged lines. -/
structure Assembled (α : Type) where
  state : Assembler
  result : α
  lines : List LogLine := []

/-- An activation starts a new cycle. It drops the picture and makes every ticket stale. -/
def Assembler.activate (assembler : Assembler) (variant : NetworkKind) : Assembled Fetch :=
  let generation := assembler.generation + 1
  { state := { stage := .awaitingNodes, variant := some variant, generation }
    result := ⟨⟨generation, variant⟩, .nodes, variant.nodesCollection⟩
    lines := [.make .debug
      ("graph activation " ++ toString generation ++ " for " ++ variant.name)] }

/-- A refresh activates the current network again. Before the first activation it does nothing. -/
def Assembler.refresh (assembler : Assembler) : Assembled (Option Fetch) :=
  match assembler.variant with
  | some variant =>
    let started := assembler.activate variant
    ⟨started.state, some started.result, started.lines⟩
  | none => ⟨assembler, none, []⟩

/-- A ticket is current when it names the current activation. -/
def Assembler.isCurrent (assembler : Assembler) (ticket : Ticket) : Bool :=
  ticket.generation == assembler.generation && assembler.variant == some ticket.variant

/-- The line for a reply that does not count, or nothing if it counts. A reply counts when its
ticket is current and the assembler waits for its half. -/
def Assembler.refusal? (assembler : Assembler) (ticket : Ticket) (half : Half) :
    Option LogLine :=
  if !assembler.isCurrent ticket then
    some (.make .debug
      ("dropping stale " ++ half.name ++ " response for " ++ ticket.variant.name))
  else if assembler.stage.expected? ≠ some half then
    some (.make .debug
      ("ignoring " ++ half.name ++ " response while " ++ assembler.stage.text))
  else none

/-- This step takes the result of a node fetch. It yields the link fetch that comes next. -/
def Assembler.nodesLoaded (assembler : Assembler) (ticket : Ticket)
    (result : Except RequestFailure (List Node)) : Assembled (Option Fetch) :=
  match assembler.refusal? ticket .nodes with
  | some line => ⟨assembler, none, [line]⟩
  | none =>
    match result with
    | .ok nodes =>
      { state := { assembler with stage := .awaitingLinks nodes }
        result := some ⟨ticket, .links, ticket.variant.linksCollection⟩
        lines := [.make .info
          ("loaded " ++ toString nodes.length ++ " nodes from " ++
            ticket.variant.nodesCollection.path)] }
    | .error error =>
      { state := { assembler with lastError := some error }
        result := none
        lines := [.make .warn ("node fetch failed: " ++ error.text)] }

/-- This step takes the result of a link fetch. It yields the picture that is now complete. -/
def Assembler.linksLoaded (assembler : Assembler) (ticket : Ticket)
    (result : Except RequestFailure (List Link)) : Assembled (Option Picture) :=
  match assembler.refusal? ticket .links with
  | some line => ⟨assembler, none, [line]⟩
  | none =>
    match result with
    | .error error =>
      { state := { assembler with lastError := some error }
        result := none
        lines := [.make .warn ("link fetch failed: " ++ error.text)] }
    | .ok links =>
      match assembler.stage with
      | .awaitingLinks nodes =>
        let view := Picture.build nodes links
        { state := { assembler with stage := .ready, view := some view }
          result := some view
          lines := [.make .info
            ("graph ready with " ++ toString view.nodes.length ++ " nodes, " ++
              toString view.links.length ++ " links")] }
      | _ => ⟨assembler, none, []⟩

end MeshConsole
