/-
This file shows that every run of an assembler agrees with the account that its inputs give of the
current activation: in its state and in all that it hands out.
-/

import MeshConsole.Proofs.Topology.AssemblerCycle

namespace MeshConsole

/-- An assembler agrees with the account of the current activation. -/
structure Assembler.Follows (assembler : Assembler) (cycle : Cycle) : Prop where
  generation : assembler.generation = cycle.number
  variant : assembler.variant = cycle.variant?
  stage : assembler.stage = cycle.stage
  view : assembler.view = cycle.picture?

/-- The answer to an input agrees with the account in its state and in what it hands out. -/
structure Assembled.Follows (assembled : Assembled Handout) (cycle : Cycle)
    (input : AssemblerInput) : Prop where
  state : assembled.state.Follows (cycle.next input)
  result : assembled.result = cycle.handout input

namespace Assembler.Follows

variable {assembler : Assembler} {cycle : Cycle}

/-- A new assembler agrees with the empty account. -/
theorem new : Assembler.Follows {} {} where
  generation := rfl
  variant := rfl
  stage := rfl
  view := rfl

/-- The current ticket is the one of the current activation. -/
theorem isCurrent_iff (agrees : assembler.Follows cycle) (ticket : Ticket) :
    assembler.isCurrent ticket = true ↔ cycle.ticket? = some ticket := by
  rw [Assembler.isCurrent_iff, agrees.generation, agrees.variant, Cycle.ticket?,
    Option.map_eq_some_iff]
  constructor
  · rintro ⟨number, variant⟩
    exact ⟨ticket.variant, variant, by rw [← number]⟩
  · rintro ⟨variant, known, rfl⟩
    exact ⟨rfl, known⟩

/-- A reply counts when it comes for the current activation and for the half that is awaited. -/
theorem counts_iff (agrees : assembler.Follows cycle) (ticket : Ticket) (half : Half) :
    assembler.refusal? ticket half = none ↔
      cycle.ticket? = some ticket ∧ cycle.stage.expected? = some half := by
  rw [refusal?_eq_none_iff, agrees.isCurrent_iff, agrees.stage]

/-- Nodes count when they come for the current activation and it has none. -/
theorem counts_nodes_iff (agrees : assembler.Follows cycle) (ticket : Ticket) :
    assembler.refusal? ticket .nodes = none ↔
      cycle.ticket? = some ticket ∧ cycle.nodes? = none := by
  rw [agrees.counts_iff]
  exact and_congr_right fun known => Cycle.expected?_nodes_iff known

/-- Links count when they come for the current activation and it has nodes but no links. -/
theorem counts_links_iff (agrees : assembler.Follows cycle) (ticket : Ticket) :
    assembler.refusal? ticket .links = none ↔
      cycle.ticket? = some ticket ∧ cycle.nodes? ≠ none ∧ cycle.links? = none := by
  rw [agrees.counts_iff]
  exact and_congr_right fun known => Cycle.expected?_links_iff known

/-- An input that brings nothing new may at most leave a failure behind. -/
theorem keep (agrees : assembler.Follows cycle) {input : AssemblerInput}
    (stays : input.opens? cycle.variant? = none)
    (sameNodes : (cycle.next input).nodes? = cycle.nodes?)
    (sameLinks : (cycle.next input).links? = cycle.links?)
    {assembled : Assembled Handout} {lastError : Option RequestFailure}
    (state : assembled.state = { assembler with lastError }) (result : assembled.result = {}) :
    assembled.Follows cycle input := by
  refine ⟨?_, result.trans (Cycle.handout_of_same stays sameNodes sameLinks).symm⟩
  have sameVariant : (cycle.next input).variant? = cycle.variant? := by
    rw [Cycle.next_stays stays]
  rw [state]
  constructor
  · rw [Cycle.next_stays stays]
    exact agrees.generation
  · rw [sameVariant]
    exact agrees.variant
  · rw [Cycle.stage, sameNodes, sameLinks, sameVariant]
    exact agrees.stage
  · rw [Cycle.picture?, sameNodes, sameLinks]
    exact agrees.view

/-- An activation agrees with the account. -/
theorem activate (agrees : assembler.Follows cycle) {input : AssemblerInput}
    {variant : NetworkKind} (opens : input.opens? cycle.variant? = some variant) :
    ((assembler.activate variant).map fun fetch => { fetch? := some fetch }).Follows
      cycle input := by
  constructor
  · rw [Cycle.next_opens opens]
    exact ⟨congrArg (· + 1) agrees.generation, rfl, rfl, rfl⟩
  · rw [Cycle.handout, opens, ← agrees.generation]
    rfl

/-- A refresh agrees with the account. Before the first activation it does nothing. -/
theorem refresh (agrees : assembler.Follows cycle) :
    (assembler.refresh.map fun fetch? => { fetch? }).Follows cycle .refresh := by
  have account : AssemblerInput.refresh.opens? cycle.variant? = assembler.variant :=
    agrees.variant.symm
  unfold Assembler.refresh
  cases known : assembler.variant with
  | none =>
      have stays := account.trans known
      have noTicket : cycle.ticket? = none := by
        rw [Cycle.ticket?, ← agrees.variant, known]
        rfl
      refine agrees.keep stays ?_ ?_ rfl rfl
      · simp [Cycle.nodes?_next stays, noTicket]
      · rw [Cycle.links?_next stays, Cycle.links?, noTicket]
        simp
  | some variant => exact agrees.activate (account.trans known)

/-- A reply to a request for nodes agrees with the account. -/
theorem nodesLoaded (agrees : assembler.Follows cycle) (ticket : Ticket)
    (result : Except RequestFailure (List Node)) :
    ((assembler.nodesLoaded ticket result).map fun fetch? => { fetch? }).Follows cycle
      (.nodes ticket result) := by
  have sameLinks := cycle.links?_next_nodes ticket result
  have arrived := cycle.nodes?_next_nodes ticket result
  by_cases counts : assembler.refusal? ticket .nodes = none
  · obtain ⟨current, missing⟩ := (agrees.counts_nodes_iff ticket).mp counts
    rw [missing, if_pos current, Option.none_or] at arrived
    cases result with
    | ok nodes =>
        obtain ⟨state, result⟩ := Assembler.nodesLoaded_ok nodes counts
        obtain ⟨variant, known, -⟩ := Option.map_eq_some_iff.mp current
        have sameVariant : (cycle.next (.nodes ticket (.ok nodes))).variant? = some variant := known
        have noLinks := sameLinks.trans (Cycle.links?_eq_none missing)
        have noPicture := (Cycle.picture?_eq_none_iff _).mpr noLinks
        constructor
        · simp only [Assembled.map, state]
          refine ⟨agrees.generation, agrees.variant, ?_, ?_⟩
          · rw [Cycle.stage, arrived, noLinks, sameVariant]
            rfl
          · rw [agrees.view, noPicture, Cycle.picture?, missing]
            rfl
        · simp [Assembled.map, result, Cycle.handout, AssemblerInput.opens?, missing, arrived,
            current, noPicture, Except.toOption]
    | error failure =>
        obtain ⟨state, result⟩ := Assembler.nodesLoaded_error failure counts
        refine agrees.keep rfl (arrived.trans missing.symm) sameLinks state ?_
        simp [Assembled.map, result]
  · obtain ⟨state, refused⟩ := Assembler.nodesLoaded_refused result counts
    refine agrees.keep rfl ?_ sameLinks state (by simp [Assembled.map, refused])
    rw [arrived]
    split
    case isTrue current =>
      have present : cycle.nodes? ≠ none := fun missing =>
        counts ((agrees.counts_nodes_iff ticket).mpr ⟨current, missing⟩)
      exact Option.or_of_isSome (Option.isSome_iff_ne_none.mpr present)
    case isFalse => exact Option.or_none

/-- A reply to a request for links agrees with the account. -/
theorem linksLoaded (agrees : assembler.Follows cycle) (ticket : Ticket)
    (result : Except RequestFailure (List Link)) :
    ((assembler.linksLoaded ticket result).map fun picture? => { picture? }).Follows cycle
      (.links ticket result) := by
  have sameNodes := cycle.nodes?_next_links ticket result
  have arrived := cycle.links?_next_links ticket result
  by_cases counts : assembler.refusal? ticket .links = none
  · obtain ⟨current, present, missing⟩ := (agrees.counts_links_iff ticket).mp counts
    rw [if_neg present, missing, if_pos current, Option.none_or] at arrived
    cases result with
    | ok links =>
        obtain ⟨nodes, there⟩ := Option.ne_none_iff_exists'.mp present
        obtain ⟨variant, known, -⟩ := Option.map_eq_some_iff.mp current
        have sameVariant : (cycle.next (.links ticket (.ok links))).variant? = some variant := known
        have waiting : assembler.stage = .awaitingLinks nodes := by
          rw [agrees.stage, Cycle.stage, known, there, missing]
        have noPicture := (Cycle.picture?_eq_none_iff _).mpr missing
        have picture : (cycle.next (.links ticket (.ok links))).picture? =
            some (.build nodes links) := by
          rw [Cycle.picture?, sameNodes, arrived, there]
          rfl
        obtain ⟨state, result⟩ := Assembler.linksLoaded_ok links counts waiting
        constructor
        · simp only [Assembled.map, state]
          refine ⟨agrees.generation, agrees.variant, ?_, picture.symm⟩
          rw [Cycle.stage, sameNodes, arrived, there, sameVariant]
          rfl
        · simp [Assembled.map, result, Cycle.handout, AssemblerInput.opens?, sameNodes, noPicture,
            picture]
    | error failure =>
        obtain ⟨state, result⟩ := Assembler.linksLoaded_error failure counts
        refine agrees.keep rfl sameNodes (arrived.trans missing.symm) state ?_
        simp [Assembled.map, result]
  · obtain ⟨state, refused⟩ := Assembler.linksLoaded_refused result counts
    refine agrees.keep rfl sameNodes ?_ state (by simp [Assembled.map, refused])
    rw [arrived]
    split
    case isTrue missing => exact (Cycle.links?_eq_none missing).symm
    case isFalse present =>
      split
      case isTrue current =>
        have complete : cycle.links? ≠ none := fun missing =>
          counts ((agrees.counts_links_iff ticket).mpr ⟨current, present, missing⟩)
        exact Option.or_of_isSome (Option.isSome_iff_ne_none.mpr complete)
      case isFalse => exact Option.or_none

/-- The answer to every input agrees with the account. -/
theorem feed (agrees : assembler.Follows cycle) (input : AssemblerInput) :
    (assembler.feed input).Follows cycle input := by
  cases input with
  | activate variant => exact agrees.activate rfl
  | refresh => exact agrees.refresh
  | nodes ticket result => exact agrees.nodesLoaded ticket result
  | links ticket result => exact agrees.linksLoaded ticket result

/-- Every run keeps the agreement. -/
theorem run (agrees : assembler.Follows cycle) (inputs : List AssemblerInput) :
    (assembler.run inputs).Follows (cycle.after inputs) := by
  induction inputs generalizing assembler cycle with
  | nil => exact agrees
  | cons input rest ih => exact ih (agrees.feed input).state

end Assembler.Follows

end MeshConsole
