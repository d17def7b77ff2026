/-
This file runs an assembler on any inputs, in any order and with any tickets, and says what each
kind of input does to it.
-/

import MeshConsole.Topology.Assembler

namespace MeshConsole

/-- Something that is done to an assembler. -/
inductive AssemblerInput where
  | activate (variant : NetworkKind)
  | refresh
  | nodes (ticket : Ticket) (result : Except RequestFailure (List Node))
  | links (ticket : Ticket) (result : Except RequestFailure (List Link))

/-- The collection of a half of a network. -/
def NetworkKind.collection (variant : NetworkKind) : Half → Collection
  | .nodes => variant.nodesCollection
  | .links => variant.linksCollection

/-- The request for a half of the picture of an activation. -/
def Ticket.fetch (ticket : Ticket) (half : Half) : Fetch :=
  ⟨ticket, half, ticket.variant.collection half⟩

@[simp] theorem Ticket.fetch_half (ticket : Ticket) (half : Half) :
    (ticket.fetch half).half = half := rfl

/-- What an assembler hands out in answer to an input. -/
structure Handout where
  fetch? : Option Fetch := none
  picture? : Option Picture := none

/-- The same step with another result. -/
def Assembled.map {α β : Type} (f : α → β) (assembled : Assembled α) : Assembled β :=
  ⟨assembled.state, f assembled.result, assembled.lines⟩

/-- The answer of an assembler to an input. -/
def Assembler.feed (assembler : Assembler) : AssemblerInput → Assembled Handout
  | .activate variant => (assembler.activate variant).map fun fetch => { fetch? := some fetch }
  | .refresh => assembler.refresh.map fun fetch? => { fetch? }
  | .nodes ticket result => (assembler.nodesLoaded ticket result).map fun fetch? => { fetch? }
  | .links ticket result => (assembler.linksLoaded ticket result).map fun picture? => { picture? }

/-- The state of an assembler after several inputs. -/
def Assembler.run (assembler : Assembler) (inputs : List AssemblerInput) : Assembler :=
  inputs.foldl (fun assembler input => (assembler.feed input).state) assembler

/-- A run goes on from where the first part of it ends. -/
theorem Assembler.run_append (assembler : Assembler) (first second : List AssemblerInput) :
    assembler.run (first ++ second) = (assembler.run first).run second :=
  List.foldl_append

/-- The last input of a run works on the state before it. -/
theorem Assembler.run_append_singleton (assembler : Assembler) (inputs : List AssemblerInput)
    (input : AssemblerInput) :
    assembler.run (inputs ++ [input]) = ((assembler.run inputs).feed input).state := by
  rw [run_append]
  rfl

/-- A ticket is current when it carries the number and the network of the activation. -/
theorem Assembler.isCurrent_iff (assembler : Assembler) (ticket : Ticket) :
    assembler.isCurrent ticket = true ↔
      ticket.generation = assembler.generation ∧ assembler.variant = some ticket.variant := by
  simp [isCurrent]

/-- A reply counts exactly when its ticket is current and its half is awaited. -/
theorem Assembler.refusal?_eq_none_iff (assembler : Assembler) (ticket : Ticket) (half : Half) :
    assembler.refusal? ticket half = none ↔
      assembler.isCurrent ticket = true ∧ assembler.stage.expected? = some half := by
  unfold refusal?
  cases assembler.isCurrent ticket <;> simp

/-- Nodes that do not count leave the assembler as it is and ask for nothing. -/
theorem Assembler.nodesLoaded_refused {assembler : Assembler} {ticket : Ticket}
    (result : Except RequestFailure (List Node))
    (refused : assembler.refusal? ticket .nodes ≠ none) :
    (assembler.nodesLoaded ticket result).state = assembler ∧
      (assembler.nodesLoaded ticket result).result = none := by
  obtain ⟨line, eq⟩ := Option.ne_none_iff_exists'.mp refused
  simp [nodesLoaded, eq]

/-- Nodes that count are kept and lead to the links. -/
theorem Assembler.nodesLoaded_ok {assembler : Assembler} {ticket : Ticket} (nodes : List Node)
    (counts : assembler.refusal? ticket .nodes = none) :
    (assembler.nodesLoaded ticket (.ok nodes)).state =
        { assembler with stage := .awaitingLinks nodes } ∧
      (assembler.nodesLoaded ticket (.ok nodes)).result = some (ticket.fetch .links) := by
  simp [nodesLoaded, counts, Ticket.fetch, NetworkKind.collection]

/-- A failure of the nodes that counts is kept and leads to nothing. -/
theorem Assembler.nodesLoaded_error {assembler : Assembler} {ticket : Ticket}
    (failure : RequestFailure) (counts : assembler.refusal? ticket .nodes = none) :
    (assembler.nodesLoaded ticket (.error failure)).state =
        { assembler with lastError := some failure } ∧
      (assembler.nodesLoaded ticket (.error failure)).result = none := by
  simp [nodesLoaded, counts]

/-- Links that do not count leave the assembler as it is and complete nothing. -/
theorem Assembler.linksLoaded_refused {assembler : Assembler} {ticket : Ticket}
    (result : Except RequestFailure (List Link))
    (refused : assembler.refusal? ticket .links ≠ none) :
    (assembler.linksLoaded ticket result).state = assembler ∧
      (assembler.linksLoaded ticket result).result = none := by
  obtain ⟨line, eq⟩ := Option.ne_none_iff_exists'.mp refused
  simp [linksLoaded, eq]

/-- Links that count complete the picture of the nodes that wait for them. -/
theorem Assembler.linksLoaded_ok {assembler : Assembler} {ticket : Ticket} {nodes : List Node}
    (links : List Link) (counts : assembler.refusal? ticket .links = none)
    (waiting : assembler.stage = .awaitingLinks nodes) :
    (assembler.linksLoaded ticket (.ok links)).state =
        { assembler with stage := .ready, view := some (.build nodes links) } ∧
      (assembler.linksLoaded ticket (.ok links)).result = some (.build nodes links) := by
  simp [linksLoaded, counts, waiting]

/-- A failure of the links that counts is kept and completes nothing. -/
theorem Assembler.linksLoaded_error {assembler : Assembler} {ticket : Ticket}
    (failure : RequestFailure) (counts : assembler.refusal? ticket .links = none) :
    (assembler.linksLoaded ticket (.error failure)).state =
        { assembler with lastError := some failure } ∧
      (assembler.linksLoaded ticket (.error failure)).result = none := by
  simp [linksLoaded, counts]

end MeshConsole
