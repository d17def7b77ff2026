/-
This file tells from the inputs of an assembler alone which activation is the current one, what has
arrived for it and what is to be handed out next.
-/

import Mathlib.Data.List.TakeWhile
import MeshConsole.Proofs.Topology.AssemblerRun

namespace MeshConsole

/-- The network that an input activates, where the latest activation was for a given network. -/
def AssemblerInput.opens? (latest : Option NetworkKind) : AssemblerInput → Option NetworkKind
  | .activate variant => some variant
  | .refresh => latest
  | _ => none

/-- The nodes that an input brings for a ticket. -/
def AssemblerInput.okNodes? (ticket : Ticket) : AssemblerInput → Option (List Node)
  | .nodes other (.ok records) => if other = ticket then some records else none
  | _ => none

/-- The links that an input brings for a ticket. -/
def AssemblerInput.okLinks? (ticket : Ticket) : AssemblerInput → Option (List Link)
  | .links other (.ok records) => if other = ticket then some records else none
  | _ => none

/-- The inputs from the first one on that brings nodes for a ticket. -/
def AssemblerInput.fromNodes (ticket : Ticket) (inputs : List AssemblerInput) :
    List AssemblerInput :=
  inputs.dropWhile fun input => (input.okNodes? ticket).isNone

/-- An input that brings nodes brings no links. -/
theorem AssemblerInput.okLinks?_of_okNodes? {ticket : Ticket} {input : AssemblerInput}
    (brings : input.okNodes? ticket ≠ none) : input.okLinks? ticket = none := by
  unfold okNodes? at brings
  split at brings
  · rfl
  · exact absurd rfl brings

/-- Nothing is left exactly when no input brings nodes. -/
theorem AssemblerInput.fromNodes_eq_nil_iff (ticket : Ticket) (inputs : List AssemblerInput) :
    fromNodes ticket inputs = [] ↔ inputs.findSome? (okNodes? ticket) = none := by
  simp [fromNodes, List.dropWhile_eq_nil_iff, List.findSome?_eq_none_iff]

/-- One more input belongs to the inputs from the nodes on, unless it is still before them. -/
theorem AssemblerInput.fromNodes_append (ticket : Ticket) (inputs : List AssemblerInput)
    (input : AssemblerInput) :
    fromNodes ticket (inputs ++ [input]) =
      if inputs.findSome? (okNodes? ticket) = none then fromNodes ticket [input]
      else fromNodes ticket inputs ++ [input] := by
  have empty_iff := fromNodes_eq_nil_iff ticket inputs
  unfold fromNodes at empty_iff ⊢
  rw [List.dropWhile_append]
  simp only [List.isEmpty_iff, empty_iff]

/-- One input alone never brings links after nodes. -/
theorem AssemblerInput.fromNodes_single (ticket : Ticket) (input : AssemblerInput) :
    (fromNodes ticket [input]).findSome? (okLinks? ticket) = none := by
  by_cases brings : input.okNodes? ticket = none
  · simp [fromNodes, brings]
  · have there : (input.okNodes? ticket).isNone = false := by
      rw [Option.isNone_eq_false_iff, Option.isSome_iff_ne_none]
      exact brings
    have noLinks := okLinks?_of_okNodes? brings
    simp [fromNodes, List.dropWhile, there, noLinks]

/-- The current activation as the inputs tell it. -/
structure Cycle where
  /-- The number of activations so far. -/
  number : Nat := 0
  /-- The network of the latest activation. -/
  variant? : Option NetworkKind := none
  /-- The inputs after the latest activation, in order. -/
  since : List AssemblerInput := []

namespace Cycle

/-- An input opens the next activation or belongs to the current one. -/
def next (cycle : Cycle) (input : AssemblerInput) : Cycle :=
  match input.opens? cycle.variant? with
  | some variant => { number := cycle.number + 1, variant? := some variant }
  | none => { cycle with since := cycle.since ++ [input] }

/-- The activation after several inputs. -/
def after (cycle : Cycle) (inputs : List AssemblerInput) : Cycle :=
  inputs.foldl next cycle

/-- The ticket of the activation. -/
def ticket? (cycle : Cycle) : Option Ticket :=
  cycle.variant?.map fun variant => ⟨cycle.number, variant⟩

/-- The nodes that arrived first for the activation. -/
def nodes? (cycle : Cycle) : Option (List Node) :=
  cycle.ticket?.bind fun ticket => cycle.since.findSome? (AssemblerInput.okNodes? ticket)

/-- The links that arrived first for the activation once its nodes were there. -/
def links? (cycle : Cycle) : Option (List Link) :=
  cycle.ticket?.bind fun ticket =>
    (AssemblerInput.fromNodes ticket cycle.since).findSome? (AssemblerInput.okLinks? ticket)

/-- The picture of the activation, once its nodes and its links are there. -/
def picture? (cycle : Cycle) : Option Picture :=
  cycle.nodes?.bind fun nodes => cycle.links?.map fun links => .build nodes links

/-- The stage that fits what has arrived. -/
def stage (cycle : Cycle) : Stage :=
  match cycle.variant?, cycle.nodes?, cycle.links? with
  | none, _, _ => .idle
  | some _, none, _ => .awaitingNodes
  | some _, some nodes, none => .awaitingLinks nodes
  | some _, some _, some _ => .ready

/-- What an input leads to: an activation to the request for its nodes, the first nodes to the
request for the links, and the first links after them to the picture. -/
def handout (cycle : Cycle) (input : AssemblerInput) : Handout :=
  match input.opens? cycle.variant? with
  | some variant =>
    { fetch? := some (Ticket.fetch ⟨cycle.number + 1, variant⟩ .nodes) }
  | none =>
    { fetch? :=
        if cycle.nodes? = none ∧ (cycle.next input).nodes? ≠ none then
          cycle.ticket?.map fun ticket => ticket.fetch .links
        else none
      picture? := if cycle.picture? = none then (cycle.next input).picture? else none }

@[simp] theorem after_nil (cycle : Cycle) : cycle.after [] = cycle := rfl

@[simp] theorem after_cons (cycle : Cycle) (input : AssemblerInput) (rest : List AssemblerInput) :
    cycle.after (input :: rest) = (cycle.next input).after rest := rfl

/-- An input that activates a network opens the next activation. -/
theorem next_opens {cycle : Cycle} {input : AssemblerInput} {variant : NetworkKind}
    (opens : input.opens? cycle.variant? = some variant) :
    cycle.next input = { number := cycle.number + 1, variant? := some variant } := by
  simp [next, opens]

/-- Any other input belongs to the current activation. -/
theorem next_stays {cycle : Cycle} {input : AssemblerInput}
    (stays : input.opens? cycle.variant? = none) :
    cycle.next input = { cycle with since := cycle.since ++ [input] } := by
  simp [next, stays]

/-- The links wait for the nodes. -/
theorem links?_eq_none {cycle : Cycle} (missing : cycle.nodes? = none) : cycle.links? = none := by
  unfold nodes? at missing
  unfold links?
  cases known : cycle.ticket? with
  | none => rfl
  | some ticket =>
      rw [known, Option.bind_some] at missing
      simp [(AssemblerInput.fromNodes_eq_nil_iff ticket cycle.since).mpr missing]

/-- There is no picture exactly as long as there are no links. -/
theorem picture?_eq_none_iff (cycle : Cycle) : cycle.picture? = none ↔ cycle.links? = none := by
  cases missing : cycle.nodes? with
  | none => simp [picture?, missing, links?_eq_none missing]
  | some nodes => simp [picture?, missing]

/-- An input of an activation brings nodes unless there are nodes already. -/
theorem nodes?_next {cycle : Cycle} {input : AssemblerInput}
    (stays : input.opens? cycle.variant? = none) :
    (cycle.next input).nodes? =
      cycle.nodes?.or (cycle.ticket?.bind fun ticket => input.okNodes? ticket) := by
  rw [next_stays stays]
  unfold nodes? ticket?
  cases cycle.variant? with
  | none => rfl
  | some variant => simp [List.findSome?_append]

/-- An input of an activation brings links once there are nodes, unless there are links already. -/
theorem links?_next {cycle : Cycle} {input : AssemblerInput}
    (stays : input.opens? cycle.variant? = none) :
    (cycle.next input).links? =
      if cycle.nodes? = none then none
      else cycle.links?.or (cycle.ticket?.bind fun ticket => input.okLinks? ticket) := by
  rw [next_stays stays]
  unfold links? nodes? ticket?
  cases cycle.variant? with
  | none => rfl
  | some variant =>
      simp only [Option.map_some, Option.bind_some, AssemblerInput.fromNodes_append]
      split
      · exact AssemblerInput.fromNodes_single _ input
      · simp [List.findSome?_append]

/-- A reply to the request for nodes brings the nodes of its own activation. -/
theorem nodes?_next_nodes (cycle : Cycle) (ticket : Ticket)
    (result : Except RequestFailure (List Node)) :
    (cycle.next (.nodes ticket result)).nodes? =
      cycle.nodes?.or (if cycle.ticket? = some ticket then result.toOption else none) := by
  rw [nodes?_next rfl]
  cases cycle.ticket? with
  | none => simp
  | some current =>
      cases result <;> simp [AssemblerInput.okNodes?, Except.toOption, eq_comm]

/-- A reply to the request for nodes brings no links. -/
theorem links?_next_nodes (cycle : Cycle) (ticket : Ticket)
    (result : Except RequestFailure (List Node)) :
    (cycle.next (.nodes ticket result)).links? = cycle.links? := by
  rw [links?_next rfl]
  split
  case isTrue missing => rw [links?_eq_none missing]
  case isFalse => cases cycle.ticket? <;> simp [AssemblerInput.okLinks?]

/-- A reply to the request for links brings no nodes. -/
theorem nodes?_next_links (cycle : Cycle) (ticket : Ticket)
    (result : Except RequestFailure (List Link)) :
    (cycle.next (.links ticket result)).nodes? = cycle.nodes? := by
  rw [nodes?_next rfl]
  cases cycle.ticket? <;> simp [AssemblerInput.okNodes?]

/-- A reply to the request for links brings the links of its own activation once there are
nodes. -/
theorem links?_next_links (cycle : Cycle) (ticket : Ticket)
    (result : Except RequestFailure (List Link)) :
    (cycle.next (.links ticket result)).links? =
      if cycle.nodes? = none then none
      else cycle.links?.or (if cycle.ticket? = some ticket then result.toOption else none) := by
  rw [links?_next rfl]
  congr 2
  cases cycle.ticket? with
  | none => simp
  | some current =>
      cases result <;> simp [AssemblerInput.okLinks?, Except.toOption, eq_comm]

/-- The nodes are awaited from the start of an activation until they are there. -/
theorem expected?_nodes_iff {cycle : Cycle} {ticket : Ticket}
    (known : cycle.ticket? = some ticket) :
    cycle.stage.expected? = some .nodes ↔ cycle.nodes? = none := by
  obtain ⟨variant, known, -⟩ := Option.map_eq_some_iff.mp known
  unfold stage
  rw [known]
  cases cycle.nodes? <;> cases cycle.links? <;> simp [Stage.expected?]

/-- The links are awaited as long as there are nodes and no links. -/
theorem expected?_links_iff {cycle : Cycle} {ticket : Ticket}
    (known : cycle.ticket? = some ticket) :
    cycle.stage.expected? = some .links ↔ cycle.nodes? ≠ none ∧ cycle.links? = none := by
  obtain ⟨variant, known, -⟩ := Option.map_eq_some_iff.mp known
  unfold stage
  rw [known]
  cases cycle.nodes? <;> cases cycle.links? <;> simp [Stage.expected?]

/-- An input that leaves nodes and links alone leads to nothing. -/
theorem handout_of_same {cycle : Cycle} {input : AssemblerInput}
    (stays : input.opens? cycle.variant? = none)
    (sameNodes : (cycle.next input).nodes? = cycle.nodes?)
    (sameLinks : (cycle.next input).links? = cycle.links?) : cycle.handout input = {} := by
  have samePicture : (cycle.next input).picture? = cycle.picture? := by
    rw [picture?, picture?, sameNodes, sameLinks]
  rw [handout, stays, sameNodes, samePicture]
  simp

end Cycle

end MeshConsole
