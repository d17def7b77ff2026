/-
This file tells from the inputs of an assembler alone which replies count for the current
activation and which are ignored, and says what each kind does to the assembler.
-/

import MeshConsole.Proofs.Topology.AssemblerAgreement

namespace MeshConsole

/-- The ticket and the half of a reply. -/
def AssemblerInput.reply? : AssemblerInput → Option (Ticket × Half)
  | .nodes ticket _ => some (ticket, .nodes)
  | .links ticket _ => some (ticket, .links)
  | .activate _ | .refresh => none

/-- The failure that a reply reports. -/
def AssemblerInput.failure? : AssemblerInput → Option RequestFailure
  | .nodes _ (.error failure) | .links _ (.error failure) => some failure
  | _ => none

/-- Only a reply reports a failure. -/
theorem AssemblerInput.failure?_eq_none {input : AssemblerInput} (noReply : input.reply? = none) :
    input.failure? = none := by
  cases input with
  | activate variant => rfl
  | refresh => rfl
  | nodes ticket result => cases noReply
  | links ticket result => cases noReply

/-- Links are awaited once there are nodes. -/
theorem Stage.exists_nodes_of_expected? {stage : Stage} (waits : stage.expected? = some .links) :
    ∃ nodes, stage = .awaitingLinks nodes := by
  cases stage with
  | idle => cases waits
  | awaitingNodes => cases waits
  | awaitingLinks nodes => exact ⟨nodes, rfl⟩
  | ready => cases waits

namespace Cycle

/-- A reply counts when it carries the ticket of the activation and the half that is awaited. -/
def Counts (cycle : Cycle) (input : AssemblerInput) : Prop :=
  ∃ reply ∈ input.reply?, cycle.ticket? = some reply.1 ∧ cycle.stage.expected? = some reply.2

/-- A reply is ignored when it is for another activation or for a half that is not awaited. -/
def Ignores (cycle : Cycle) (input : AssemblerInput) : Prop :=
  ∃ reply ∈ input.reply?, cycle.ticket? ≠ some reply.1 ∨ cycle.stage.expected? ≠ some reply.2

instance (cycle : Cycle) (input : AssemblerInput) : Decidable (cycle.Counts input) :=
  inferInstanceAs (Decidable (∃ reply ∈ input.reply?, _ ∧ _))

/-- An input that does not count is ignored or is no reply. -/
theorem not_counts_iff (cycle : Cycle) (input : AssemblerInput) :
    ¬ cycle.Counts input ↔ cycle.Ignores input ∨ input.reply? = none := by
  unfold Counts Ignores
  cases input.reply? with
  | none => simp
  | some reply => simp [imp_iff_not_or]

/-- A reply that counts is not ignored. -/
theorem not_counts_of_ignores {cycle : Cycle} {input : AssemblerInput}
    (ignored : cycle.Ignores input) : ¬ cycle.Counts input :=
  (cycle.not_counts_iff input).mpr (.inl ignored)

/-- The nodes that wait for links are those of the activation. -/
theorem nodes?_of_stage {cycle : Cycle} {nodes : List Node}
    (waits : cycle.stage = .awaitingLinks nodes) : cycle.nodes? = some nodes := by
  unfold stage at waits
  split at waits
  case h_1 => cases waits
  case h_2 => cases waits
  case h_3 nodes' _ there _ =>
    obtain rfl : nodes' = nodes := Stage.awaitingLinks.inj waits
    exact there
  case h_4 => cases waits

/-- The replies among several further inputs of the activation that count, in order. -/
def countedAmong (cycle : Cycle) : List AssemblerInput → List AssemblerInput
  | [] => []
  | input :: rest =>
    (if cycle.Counts input then [input] else []) ++
      countedAmong { cycle with since := cycle.since ++ [input] } rest

/-- The replies of the activation that counted, in order. -/
def counted (cycle : Cycle) : List AssemblerInput :=
  countedAmong { cycle with since := [] } cycle.since

/-- One more input of the activation counts or not by what came before it. -/
theorem countedAmong_append (cycle : Cycle) (inputs : List AssemblerInput)
    (input : AssemblerInput) :
    cycle.countedAmong (inputs ++ [input]) = cycle.countedAmong inputs ++
      if Counts { cycle with since := cycle.since ++ inputs } input then [input] else [] := by
  induction inputs generalizing cycle with
  | nil => simp [countedAmong]
  | cons first rest ih => simp [countedAmong, ih]

/-- No reply counts before the first activation. -/
theorem countedAmong_idle {cycle : Cycle} (idle : cycle.variant? = none)
    (inputs : List AssemblerInput) : cycle.countedAmong inputs = [] := by
  induction inputs generalizing cycle with
  | nil => rfl
  | cons input rest ih =>
      have noTicket : cycle.ticket? = none := congrArg (Option.map _) idle
      have none_later : countedAmong { cycle with since := cycle.since ++ [input] } rest = [] :=
        ih idle
      simp [countedAmong, Counts, noTicket, none_later]

theorem counted_idle {cycle : Cycle} (idle : cycle.variant? = none) : cycle.counted = [] := by
  have started : Cycle.variant? { cycle with since := [] } = none := idle
  exact countedAmong_idle started cycle.since

/-- An input that activates a network opens an activation without replies. -/
theorem counted_next_opens {cycle : Cycle} {input : AssemblerInput} {variant : NetworkKind}
    (opens : input.opens? cycle.variant? = some variant) : (cycle.next input).counted = [] := by
  rw [next_opens opens]
  rfl

/-- Any other input is one more reply of the activation if it counts. -/
theorem counted_next_stays {cycle : Cycle} {input : AssemblerInput}
    (stays : input.opens? cycle.variant? = none) :
    (cycle.next input).counted =
      cycle.counted ++ if cycle.Counts input then [input] else [] := by
  rw [next_stays stays]
  exact countedAmong_append { cycle with since := [] } cycle.since input

end Cycle

namespace Assembler.Follows

variable {assembler : Assembler} {cycle : Cycle} {input : AssemblerInput}

/-- An input that activates a network starts its cycle. -/
theorem feed_opens (agrees : assembler.Follows cycle) {variant : NetworkKind}
    (opens : input.opens? cycle.variant? = some variant) :
    (assembler.feed input).state = (assembler.activate variant).state := by
  cases input with
  | activate other =>
      obtain rfl : other = variant := Option.some.inj opens
      rfl
  | refresh =>
      have known : assembler.variant = some variant := agrees.variant.trans opens
      simp [Assembler.feed, Assembled.map, Assembler.refresh, known]
  | nodes ticket result => cases opens
  | links ticket result => cases opens

/-- A refresh before the first activation does nothing. -/
theorem feed_idle (agrees : assembler.Follows cycle) (stays : input.opens? cycle.variant? = none)
    (noReply : input.reply? = none) : (assembler.feed input).state = assembler := by
  cases input with
  | activate variant => cases stays
  | refresh =>
      have unknown : assembler.variant = none := agrees.variant.trans stays
      simp [Assembler.feed, Assembled.map, Assembler.refresh, unknown]
  | nodes ticket result => cases noReply
  | links ticket result => cases noReply

/-- An ignored reply leaves the assembler as it is and leads to nothing. -/
theorem feed_ignored (agrees : assembler.Follows cycle) (ignored : cycle.Ignores input) :
    (assembler.feed input).state = assembler ∧ (assembler.feed input).result = {} := by
  obtain ⟨⟨ticket, half⟩, reply, other⟩ := ignored
  have refused : assembler.refusal? ticket half ≠ none := by
    rw [ne_eq, agrees.counts_iff, not_and_or]
    exact other
  cases input with
  | activate variant => cases reply
  | refresh => cases reply
  | nodes ticket result =>
      cases reply
      obtain ⟨state, nothing⟩ := nodesLoaded_refused result refused
      exact ⟨state, by simp [Assembler.feed, Assembled.map, nothing]⟩
  | links ticket result =>
      cases reply
      obtain ⟨state, nothing⟩ := linksLoaded_refused result refused
      exact ⟨state, by simp [Assembler.feed, Assembled.map, nothing]⟩

/-- A failed reply that counts leaves its failure behind and changes nothing else. -/
theorem feed_failed (agrees : assembler.Follows cycle) (counts : cycle.Counts input)
    {failure : RequestFailure} (failed : input.failure? = some failure) :
    (assembler.feed input).state = { assembler with lastError := some failure } ∧
      (assembler.feed input).result = {} := by
  obtain ⟨⟨ticket, half⟩, reply, current⟩ := counts
  have accepted := (agrees.counts_iff ticket half).mpr current
  cases input with
  | activate variant => cases reply
  | refresh => cases reply
  | nodes ticket result =>
      cases reply
      cases result with
      | ok nodes => cases failed
      | error other =>
          obtain rfl : other = failure := Option.some.inj failed
          obtain ⟨state, nothing⟩ := nodesLoaded_error other accepted
          exact ⟨state, by simp [Assembler.feed, Assembled.map, nothing]⟩
  | links ticket result =>
      cases reply
      cases result with
      | ok links => cases failed
      | error other =>
          obtain rfl : other = failure := Option.some.inj failed
          obtain ⟨state, nothing⟩ := linksLoaded_error other accepted
          exact ⟨state, by simp [Assembler.feed, Assembled.map, nothing]⟩

/-- A successful reply that counts leaves an earlier failure where it is. -/
theorem lastError_feed_succeeded (agrees : assembler.Follows cycle)
    (counts : cycle.Counts input) (succeeded : input.failure? = none) :
    (assembler.feed input).state.lastError = assembler.lastError := by
  obtain ⟨⟨ticket, half⟩, reply, current⟩ := counts
  have accepted := (agrees.counts_iff ticket half).mpr current
  cases input with
  | activate variant => cases reply
  | refresh => cases reply
  | nodes ticket result =>
      cases reply
      cases result with
      | ok nodes =>
          change (assembler.nodesLoaded ticket (.ok nodes)).state.lastError = assembler.lastError
          rw [(nodesLoaded_ok nodes accepted).1]
      | error failure => cases succeeded
  | links ticket result =>
      cases reply
      cases result with
      | ok links =>
          obtain ⟨nodes, waiting⟩ := Stage.exists_nodes_of_expected? (agrees.stage ▸ current.2)
          change (assembler.linksLoaded ticket (.ok links)).state.lastError = assembler.lastError
          rw [(linksLoaded_ok links accepted waiting).1]
      | error failure => cases succeeded

end Assembler.Follows

end MeshConsole
