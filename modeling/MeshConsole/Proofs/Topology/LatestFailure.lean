/-
This file says which failure an assembler reports after any run. It is the latest one among the
replies of the current activation that counted, and no later success takes it away.
-/

import MeshConsole.Proofs.Topology.CountedReplies

namespace MeshConsole

namespace Cycle

/-- The latest failure among the replies of the activation that counted. -/
def latestFailure? (cycle : Cycle) : Option RequestFailure :=
  cycle.counted.reverse.findSome? AssemblerInput.failure?

/-- The failure of the latest reply of the activation that counted, if this one failed. -/
def failureOfLatest? (cycle : Cycle) : Option RequestFailure :=
  cycle.counted.getLast?.bind AssemblerInput.failure?

/-- A reply that counts either leaves its failure or does not touch the failure before it. -/
theorem latestFailure?_next_stays {cycle : Cycle} {input : AssemblerInput}
    (stays : input.opens? cycle.variant? = none) :
    (cycle.next input).latestFailure? =
      if cycle.Counts input then input.failure?.or cycle.latestFailure?
      else cycle.latestFailure? := by
  unfold latestFailure?
  rw [counted_next_stays stays]
  split
  case isTrue =>
    rw [List.reverse_append, List.findSome?_append]
    cases failed : input.failure? <;> simp [failed]
  case isFalse => rw [List.append_nil]

/-- The latest failure is that of the latest reply unless this one succeeded after a failure. -/
theorem latestFailure?_eq_failureOfLatest?_iff (cycle : Cycle) :
    cycle.latestFailure? = cycle.failureOfLatest? ↔
      ∀ reply, cycle.counted.getLast? = some reply → reply.failure? = none →
        ∀ other ∈ cycle.counted, other.failure? = none := by
  have member (other : AssemblerInput) : other ∈ cycle.counted ↔ other ∈ cycle.counted.reverse :=
    List.mem_reverse.symm
  simp only [latestFailure?, failureOfLatest?, List.getLast?_eq_head?_reverse, member]
  cases cycle.counted.reverse with
  | nil => simp
  | cons latest earlier =>
      cases failed : latest.failure? with
      | some failure => simp [failed]
      | none => simp [failed]

end Cycle

namespace Assembler.Follows

variable {assembler : Assembler} {cycle : Cycle}

/-- Every input keeps the reported failure at the latest one. -/
theorem lastError_feed (agrees : assembler.Follows cycle)
    (reported : assembler.lastError = cycle.latestFailure?) (input : AssemblerInput) :
    (assembler.feed input).state.lastError = (cycle.next input).latestFailure? := by
  cases opens : input.opens? cycle.variant? with
  | some variant =>
      rw [agrees.feed_opens opens, Cycle.latestFailure?, Cycle.counted_next_opens opens]
      rfl
  | none =>
      rw [Cycle.latestFailure?_next_stays opens]
      split
      case isTrue counts =>
        cases failed : input.failure? with
        | some failure =>
            rw [(agrees.feed_failed counts failed).1]
            rfl
        | none =>
            rw [agrees.lastError_feed_succeeded counts failed, Option.none_or]
            exact reported
      case isFalse other =>
        rcases (cycle.not_counts_iff input).mp other with ignored | noReply
        · rw [(agrees.feed_ignored ignored).1]
          exact reported
        · rw [agrees.feed_idle opens noReply]
          exact reported

/-- Every run keeps the reported failure at the latest one. -/
theorem lastError_run (agrees : assembler.Follows cycle)
    (reported : assembler.lastError = cycle.latestFailure?) (inputs : List AssemblerInput) :
    (assembler.run inputs).lastError = (cycle.after inputs).latestFailure? := by
  induction inputs generalizing assembler cycle with
  | nil => exact reported
  | cons input rest ih =>
      exact ih (agrees.feed input).state (agrees.lastError_feed reported input)

end Assembler.Follows

/-- What holds of the failure that a new assembler reports after a run. -/
structure ReportedFailure (inputs : List AssemblerInput) : Prop where
  /-- It is the latest failure of a reply that counted for the current activation. -/
  latest : (Assembler.run {} inputs).lastError = (Cycle.after {} inputs).latestFailure?
  /-- It is the failure of the latest reply that counted, exactly unless this one succeeded after
  a failure. -/
  ofLatest_iff : (Assembler.run {} inputs).lastError = (Cycle.after {} inputs).failureOfLatest? ↔
    ∀ reply, (Cycle.after {} inputs).counted.getLast? = some reply → reply.failure? = none →
      ∀ other ∈ (Cycle.after {} inputs).counted, other.failure? = none
  /-- An activation takes it away. -/
  activated : ∀ variant, (Assembler.run {} (inputs ++ [.activate variant])).lastError = none
  /-- A refresh takes it away. -/
  refreshed : (Assembler.run {} (inputs ++ [.refresh])).lastError = none
  /-- A failed reply that counts takes its place. -/
  failed : ∀ reply failure, (Cycle.after {} inputs).Counts reply → reply.failure? = some failure →
    (Assembler.run {} (inputs ++ [reply])).lastError = some failure
  /-- A successful reply that counts leaves it. -/
  succeeded : ∀ reply, (Cycle.after {} inputs).Counts reply → reply.failure? = none →
    (Assembler.run {} (inputs ++ [reply])).lastError = (Assembler.run {} inputs).lastError
  /-- A reply that is ignored leaves it. -/
  ignored : ∀ reply, (Cycle.after {} inputs).Ignores reply →
    (Assembler.run {} (inputs ++ [reply])).lastError = (Assembler.run {} inputs).lastError

/-- A new assembler reports the latest failure of a reply that counted for the current activation.
A success after it does not take it away. -/
theorem assembler_latestFailure (inputs : List AssemblerInput) : ReportedFailure inputs := by
  have agrees := Assembler.Follows.new.run inputs
  have latest := Assembler.Follows.new.lastError_run rfl inputs
  constructor
  case latest => exact latest
  case ofLatest_iff =>
    rw [latest]
    exact Cycle.latestFailure?_eq_failureOfLatest?_iff _
  case activated =>
    intro variant
    rw [Assembler.run_append_singleton]
    rfl
  case refreshed =>
    rw [Assembler.run_append_singleton]
    cases opens : AssemblerInput.refresh.opens? (Cycle.after {} inputs).variant? with
    | some variant =>
        rw [agrees.feed_opens opens]
        rfl
    | none =>
        rw [agrees.feed_idle opens rfl, latest, Cycle.latestFailure?, Cycle.counted_idle opens]
        rfl
  case failed =>
    intro reply failure counts failed
    rw [Assembler.run_append_singleton, (agrees.feed_failed counts failed).1]
  case succeeded =>
    intro reply counts succeeded
    rw [Assembler.run_append_singleton]
    exact agrees.lastError_feed_succeeded counts succeeded
  case ignored =>
    intro reply ignored
    rw [Assembler.run_append_singleton, (agrees.feed_ignored ignored).1]

/-- The request for the nodes fails, and a second reply for it brings them after all. -/
def AssemblerInput.nodesAtSecondTry : List AssemblerInput :=
  [.activate .dynamic, .nodes ⟨1, .dynamic⟩ (.error (.network "offline")),
    .nodes ⟨1, .dynamic⟩ (.ok [])]

/-- The latest reply that counted succeeded, and the assembler still reports the failure. -/
theorem lastError_after_success :
    (Cycle.after {} AssemblerInput.nodesAtSecondTry).failureOfLatest? = none ∧
      (Assembler.run {} AssemblerInput.nodesAtSecondTry).lastError ≠
        (Cycle.after {} AssemblerInput.nodesAtSecondTry).failureOfLatest? := by
  decide

end MeshConsole
