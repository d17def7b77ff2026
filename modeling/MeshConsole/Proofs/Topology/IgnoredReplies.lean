/-
This file shows that replies which are ignored leave no trace. Any of them may be left out of a run
of an assembler without a change in its state or in what the other inputs lead to. A failed reply
leaves no more than its failure behind.
-/

import MeshConsole.Proofs.Topology.CountedReplies
import MeshConsole.Proofs.Topology.FetchDiscipline

namespace MeshConsole

/-- The second list is the first one without some of the elements that have a property. -/
inductive LeavesOut {α : Type} (optional : α → Prop) : List α → List α → Prop where
  | nil : LeavesOut optional [] []
  | keep (element : α) {whole kept : List α} (rest : LeavesOut optional whole kept) :
    LeavesOut optional (element :: whole) (element :: kept)
  | drop {element : α} (may : optional element) {whole kept : List α}
    (rest : LeavesOut optional whole kept) : LeavesOut optional (element :: whole) kept

/-- All elements may be left out if each of them may. -/
theorem LeavesOut.all {α : Type} {optional : α → Prop} {whole : List α}
    (may : ∀ element ∈ whole, optional element) : LeavesOut optional whole [] := by
  induction whole with
  | nil => exact .nil
  | cons element rest ih =>
      obtain ⟨first, others⟩ := List.forall_mem_cons.mp may
      exact .drop first (ih others)

/-- The input is a reply that is ignored when it comes. -/
def Moment.IsIgnored (moment : Moment) : Prop :=
  moment.before.Ignores moment.input

/-- The input is a reply that is ignored when it comes or reports a failure. -/
def Moment.BringsNothing (moment : Moment) : Prop :=
  moment.IsIgnored ∨ moment.input.failure? ≠ none

/-- Two assemblers differ in the reported failure at most. -/
def Assembler.SameButFailure (first second : Assembler) : Prop :=
  ∃ lastError, second = { first with lastError }

/-- Every input keeps two assemblers alike and leads to the same with both. -/
theorem Assembler.SameButFailure.feed {first second : Assembler}
    (alike : first.SameButFailure second) (input : AssemblerInput) :
    (first.feed input).state.SameButFailure (second.feed input).state ∧
      (first.feed input).result = (second.feed input).result := by
  obtain ⟨lastError, rfl⟩ := alike
  have sameRefusal (ticket : Ticket) (half : Half) :
      refusal? { first with lastError } ticket half = first.refusal? ticket half := rfl
  cases input with
  | activate variant => exact ⟨⟨none, rfl⟩, rfl⟩
  | refresh =>
      obtain ⟨stage, variant, generation, view, failure⟩ := first
      cases variant with
      | none => exact ⟨⟨lastError, rfl⟩, rfl⟩
      | some variant => exact ⟨⟨none, rfl⟩, rfl⟩
  | nodes ticket result =>
      simp only [Assembler.feed, Assembled.map, nodesLoaded, sameRefusal]
      cases first.refusal? ticket .nodes with
      | some line => exact ⟨⟨lastError, rfl⟩, rfl⟩
      | none =>
          cases result with
          | ok nodes => exact ⟨⟨lastError, rfl⟩, rfl⟩
          | error failure => exact ⟨⟨some failure, rfl⟩, rfl⟩
  | links ticket result =>
      simp only [Assembler.feed, Assembled.map, linksLoaded, sameRefusal]
      cases first.refusal? ticket .links with
      | some line => exact ⟨⟨lastError, rfl⟩, rfl⟩
      | none =>
          cases result with
          | ok links =>
              dsimp only
              split <;> exact ⟨⟨lastError, rfl⟩, rfl⟩
          | error failure => exact ⟨⟨some failure, rfl⟩, rfl⟩

/-- What may be left out of a run without a difference. Two assemblers that are alike stay alike
and lead to the same, also when one of them goes without an input that is optional. -/
structure Assembler.Unneeded (Alike : Assembler → Assembler → Prop) (optional : Moment → Prop) :
    Prop where
  feed : ∀ first second input, Alike first second →
    Alike (first.feed input).state (second.feed input).state ∧
      (first.feed input).result = (second.feed input).result
  drop : ∀ first second cycle input, first.Follows cycle → Alike first second →
    optional ⟨cycle, input, (first.feed input).result⟩ → Alike (first.feed input).state second

namespace Assembler.Follows

variable {assembler other : Assembler} {cycle : Cycle}

/-- A run without some of the optional inputs ends alike and leads to the same elsewhere. -/
theorem leaveOut {Alike : Assembler → Assembler → Prop} {optional : Moment → Prop}
    (unneeded : Unneeded Alike optional) (agrees : assembler.Follows cycle) (account : Cycle)
    (alike : Alike assembler other) {inputs : List AssemblerInput} {kept : List Moment}
    (leaves : LeavesOut optional (assembler.moments cycle inputs) kept) :
    Alike (assembler.run inputs) (other.run (kept.map Moment.input)) ∧
      (other.moments account (kept.map Moment.input)).map Moment.handout =
        kept.map Moment.handout := by
  induction inputs generalizing assembler other cycle account kept with
  | nil =>
      cases leaves
      exact ⟨alike, rfl⟩
  | cons input rest ih =>
      have later := (agrees.feed input).state
      cases leaves with
      | keep _ leaves =>
          obtain ⟨stillAlike, sameResult⟩ := unneeded.feed assembler other input alike
          obtain ⟨final, handouts⟩ := ih later (account.next input) stillAlike leaves
          refine ⟨final, ?_⟩
          simp only [List.map_cons, moments, sameResult, handouts]
      | drop may leaves =>
          exact ih later account (unneeded.drop assembler other cycle input agrees alike may) leaves

/-- A reply that is ignored or fails changes the reported failure at most. -/
theorem feed_bringsNothing (agrees : assembler.Follows cycle) {input : AssemblerInput}
    (nothing : cycle.Ignores input ∨ input.failure? ≠ none) :
    ∃ lastError, (assembler.feed input).state = { assembler with lastError } := by
  by_cases counts : cycle.Counts input
  · have failed : input.failure? ≠ none :=
      nothing.resolve_left fun ignored => Cycle.not_counts_of_ignores ignored counts
    obtain ⟨failure, failed⟩ := Option.ne_none_iff_exists'.mp failed
    exact ⟨some failure, (agrees.feed_failed counts failed).1⟩
  · have ignored : cycle.Ignores input := by
      rcases nothing with ignored | failed
      · exact ignored
      · refine ((cycle.not_counts_iff input).mp counts).resolve_right fun noReply => ?_
        exact failed (AssemblerInput.failure?_eq_none noReply)
    exact ⟨assembler.lastError, (agrees.feed_ignored ignored).1⟩

end Assembler.Follows

/-- Ignored replies make no difference. -/
theorem Moment.unneeded_ignored : Assembler.Unneeded Eq Moment.IsIgnored where
  feed first second input alike := by
    subst alike
    exact ⟨rfl, rfl⟩
  drop first second cycle input agrees alike ignored := by
    rw [(agrees.feed_ignored ignored).1]
    exact alike

/-- Replies that are ignored or fail make no difference but in the reported failure. -/
theorem Moment.unneeded_bringsNothing :
    Assembler.Unneeded Assembler.SameButFailure Moment.BringsNothing where
  feed first second input alike := alike.feed input
  drop first second cycle input agrees alike nothing := by
    obtain ⟨lastError, rfl⟩ := alike
    obtain ⟨latest, state⟩ := agrees.feed_bringsNothing nothing
    rw [state]
    exact ⟨lastError, rfl⟩

/-- What replies that are ignored or fail mean for the run of a new assembler. -/
structure IgnoredReplies (inputs : List AssemblerInput) : Prop where
  /-- Any ignored replies may be left out. The state at the end is the same, and every other input
  leads to the same. -/
  ignored : ∀ kept, LeavesOut Moment.IsIgnored (AssemblerInput.history inputs) kept →
    Assembler.run {} (kept.map Moment.input) = Assembler.run {} inputs ∧
      (AssemblerInput.history (kept.map Moment.input)).map Moment.handout =
        kept.map Moment.handout
  /-- Failed replies may be left out, too. The state at the end is then the same but for the
  reported failure. -/
  failed : ∀ kept, LeavesOut Moment.BringsNothing (AssemblerInput.history inputs) kept →
    (Assembler.run {} inputs).SameButFailure (Assembler.run {} (kept.map Moment.input)) ∧
      (AssemblerInput.history (kept.map Moment.input)).map Moment.handout =
        kept.map Moment.handout
  /-- A failed reply that counts leaves its failure and leads to nothing. -/
  failure : ∀ reply failure, (Cycle.after {} inputs).Counts reply →
    reply.failure? = some failure →
      Assembler.run {} (inputs ++ [reply]) =
          { Assembler.run {} inputs with lastError := some failure } ∧
        ((Assembler.run {} inputs).feed reply).result = {}
  /-- Awaited nodes still lead to the request for the links after any replies that are ignored or
  fail. -/
  nodes_later : ∀ ticket nodes between, (Cycle.after {} inputs).Counts (.nodes ticket (.ok nodes)) →
    (∀ moment ∈ (Assembler.run {} inputs).moments (Cycle.after {} inputs) between,
      moment.BringsNothing) →
    ((Assembler.run {} (inputs ++ between)).feed (.nodes ticket (.ok nodes))).result =
      { fetch? := some (ticket.fetch .links) }
  /-- Awaited links still complete the picture after any replies that are ignored or fail. -/
  links_later : ∀ ticket links between, (Cycle.after {} inputs).Counts (.links ticket (.ok links)) →
    (∀ moment ∈ (Assembler.run {} inputs).moments (Cycle.after {} inputs) between,
      moment.BringsNothing) →
    ∃ nodes, (Cycle.after {} inputs).nodes? = some nodes ∧
      ((Assembler.run {} (inputs ++ between)).feed (.links ticket (.ok links))).result =
        { picture? := some (.build nodes links) }

namespace Assembler.Follows

variable {assembler : Assembler} {cycle : Cycle}

/-- After replies that are ignored or fail, every input still leads to the same. -/
theorem feed_after_bringsNothing (agrees : assembler.Follows cycle)
    {between : List AssemblerInput}
    (nothing : ∀ moment ∈ assembler.moments cycle between, moment.BringsNothing)
    (input : AssemblerInput) :
    ((assembler.run between).feed input).result = (assembler.feed input).result := by
  have alike := (agrees.leaveOut Moment.unneeded_bringsNothing {}
    ⟨assembler.lastError, rfl⟩ (.all nothing)).1
  exact (alike.feed input).2

/-- Nodes that count lead to the request for the links. -/
theorem feed_nodes (agrees : assembler.Follows cycle) {ticket : Ticket} {nodes : List Node}
    (counts : cycle.Counts (.nodes ticket (.ok nodes))) :
    (assembler.feed (.nodes ticket (.ok nodes))).result =
      { fetch? := some (ticket.fetch .links) } := by
  obtain ⟨reply, same, current⟩ := counts
  cases same
  have accepted := (agrees.counts_iff ticket .nodes).mpr current
  simp [Assembler.feed, Assembled.map, (nodesLoaded_ok nodes accepted).2]

/-- Links that count complete the picture of the nodes that are there. -/
theorem feed_links (agrees : assembler.Follows cycle) {ticket : Ticket} {links : List Link}
    (counts : cycle.Counts (.links ticket (.ok links))) :
    ∃ nodes, cycle.nodes? = some nodes ∧ (assembler.feed (.links ticket (.ok links))).result =
      { picture? := some (.build nodes links) } := by
  obtain ⟨reply, same, current⟩ := counts
  cases same
  have accepted := (agrees.counts_iff ticket .links).mpr current
  obtain ⟨nodes, waiting⟩ := Stage.exists_nodes_of_expected? current.2
  have completed := linksLoaded_ok links accepted (agrees.stage.trans waiting)
  exact ⟨nodes, Cycle.nodes?_of_stage waiting,
    by simp [Assembler.feed, Assembled.map, completed.2]⟩

end Assembler.Follows

/-- Replies that are ignored leave no trace in the run of a new assembler, and failed ones none but
the failure that it reports. -/
theorem assembler_ignoredReplies (inputs : List AssemblerInput) : IgnoredReplies inputs := by
  have agrees := Assembler.Follows.new.run inputs
  constructor
  case ignored =>
    intro kept leaves
    obtain ⟨same, handouts⟩ :=
      Assembler.Follows.new.leaveOut Moment.unneeded_ignored {} rfl leaves
    exact ⟨same.symm, handouts⟩
  case failed =>
    intro kept leaves
    exact Assembler.Follows.new.leaveOut Moment.unneeded_bringsNothing {} ⟨none, rfl⟩ leaves
  case failure =>
    intro reply failure counts failed
    obtain ⟨state, nothing⟩ := agrees.feed_failed counts failed
    rw [Assembler.run_append_singleton]
    exact ⟨state, nothing⟩
  case nodes_later =>
    intro ticket nodes between counts nothing
    rw [Assembler.run_append, agrees.feed_after_bringsNothing nothing]
    exact agrees.feed_nodes counts
  case links_later =>
    intro ticket links between counts nothing
    rw [Assembler.run_append, agrees.feed_after_bringsNothing nothing]
    exact agrees.feed_links counts

/-- Nodes of the first activation that come after the second one began may be left out. -/
theorem staleNodes_leftOut :
    LeavesOut Moment.IsIgnored
        (AssemblerInput.history
          [.activate .dynamic, .activate .static, .nodes ⟨1, .dynamic⟩ (.ok [])])
        (AssemblerInput.history [.activate .dynamic, .activate .static]) ∧
      Assembler.run {} [.activate .dynamic, .activate .static] =
        Assembler.run {}
          [.activate .dynamic, .activate .static, .nodes ⟨1, .dynamic⟩ (.ok [])] := by
  have stale : Moment.IsIgnored
      ⟨.after {} [.activate .dynamic, .activate .static], .nodes ⟨1, .dynamic⟩ (.ok []), {}⟩ :=
    ⟨_, rfl, .inl (by decide)⟩
  have leaves : LeavesOut Moment.IsIgnored
      (AssemblerInput.history
        [.activate .dynamic, .activate .static, .nodes ⟨1, .dynamic⟩ (.ok [])])
      (AssemblerInput.history [.activate .dynamic, .activate .static]) :=
    .keep _ (.keep _ (.drop stale .nil))
  exact ⟨leaves, ((assembler_ignoredReplies _).ignored _ leaves).1⟩

end MeshConsole
