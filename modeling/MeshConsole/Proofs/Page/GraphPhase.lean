/-
This file shows that a page that draws a network always stands as the replies to the requests of
its current activation put it: in its assembler, in what it shows and in what it waits for.
-/

import Mathlib.Data.List.Perm.Basic
import MeshConsole.Proofs.Page.GraphCourse

namespace MeshConsole

/-- What the replies to the requests of one activation have led to. -/
inductive GraphPhase where
  | asked
  | nodesFailed (failure : RequestFailure)
  | nodesThere (nodes : List Node)
  | linksFailed (nodes : List Node) (failure : RequestFailure)
  | complete (nodes : List Node) (links : List Link)

/-- The request of an activation for a half of its picture. -/
def Ticket.inquiry (ticket : Ticket) (half : Half) : Inquiry :=
  ⟨ticket.fetch half, ticket.generation⟩

/-- The reply to the request of an activation for its nodes. -/
def Ticket.nodesReply (ticket : Ticket) (result : Except RequestFailure (List Node)) :
    GraphReply :=
  ⟨ticket.inquiry .nodes, .nodesArrived (ticket.fetch .nodes) result⟩

/-- The reply to the request of an activation for its links. -/
def Ticket.linksReply (ticket : Ticket) (result : Except RequestFailure (List Link)) :
    GraphReply :=
  ⟨ticket.inquiry .links, .linksArrived (ticket.fetch .links) result⟩

namespace GraphPhase

/-- The stage of the assembler. -/
def stage : GraphPhase → Stage
  | .asked | .nodesFailed _ => .awaitingNodes
  | .nodesThere nodes | .linksFailed nodes _ => .awaitingLinks nodes
  | .complete _ _ => .ready

/-- The picture, once it is complete. -/
def picture? : GraphPhase → Option Picture
  | .complete nodes links => some (.build nodes links)
  | _ => none

/-- The failure of a request of the activation. -/
def failure? : GraphPhase → Option RequestFailure
  | .nodesFailed failure | .linksFailed _ failure => some failure
  | _ => none

/-- The half that has been asked for and is not answered. After a failure nothing is asked for. -/
def awaited? : GraphPhase → Option Half
  | .asked => some .nodes
  | .nodesThere _ => some .links
  | _ => none

/-- The replies of the activation, the latest first. -/
def replies (ticket : Ticket) : GraphPhase → List GraphReply
  | .asked => []
  | .nodesFailed failure => [ticket.nodesReply (.error failure)]
  | .nodesThere nodes => [ticket.nodesReply (.ok nodes)]
  | .linksFailed nodes failure =>
    [ticket.linksReply (.error failure), ticket.nodesReply (.ok nodes)]
  | .complete nodes links => [ticket.linksReply (.ok links), ticket.nodesReply (.ok nodes)]

/-- The assembler of an activation. -/
def assembler (phase : GraphPhase) (ticket : Ticket) : Assembler :=
  { stage := phase.stage, variant := some ticket.variant, generation := ticket.generation,
    view := phase.picture?, lastError := phase.failure? }

end GraphPhase

namespace GraphCourse

/-- Requests and replies belong to activations that have begun, and the ticket of a request carries
the number of its activation. -/
structure Numbered (course : GraphCourse) : Prop where
  number : ∀ inquiry ∈ course.waiting, inquiry.fetch.ticket.generation = inquiry.activation
  waiting_le : ∀ inquiry ∈ course.waiting, inquiry.activation ≤ course.activations
  replies_le : ∀ reply ∈ course.replies, reply.inquiry.activation ≤ course.activations

/-- The course stands as the replies of its current activation put it. -/
structure Matches (course : GraphCourse) (phase : GraphPhase) : Prop
    extends Numbered course where
  assembler : course.page.assembler = phase.assembler course.ticket
  shown : course.page.shown = phase.picture?.getD {}
  canvas : course.canvas = phase.picture?.getD {}
  /-- A failure is shown once a request of the activation has failed. It is the latest one for the
  network, which an earlier activation may have asked for. -/
  error : course.page.error =
    phase.failure?.bind fun _ => course.latestFailure?.map RequestFailure.userMessage
  answered : course.current = phase.replies course.ticket
  pending : course.pending.Perm (phase.awaited?.map course.ticket.inquiry).toList

variable {course : GraphCourse} {phase : GraphPhase} {index : Nat} {inquiry : Inquiry}

/-- The page and the canvas have no part in the numbers. -/
theorem Numbered.showing (numbered : course.Numbered) (page : NetworkGraph) (canvas : Picture) :
    { course with page, canvas }.Numbered :=
  ⟨numbered.number, numbered.waiting_le, numbered.replies_le⟩

/-- A request of the current activation keeps the numbers. -/
theorem Numbered.asking (numbered : course.Numbered) (page : NetworkGraph) (canvas : Picture)
    {ticket : Ticket} (current : ticket.generation = course.activations) (half : Half) :
    { course with page, canvas, waiting := course.waiting ++ [ticket.inquiry half] }.Numbered := by
  refine ⟨?_, ?_, numbered.replies_le⟩
  · intro inquiry waits
    rcases List.mem_append.mp waits with waits | waits
    · exact numbered.number inquiry waits
    · obtain rfl := List.mem_singleton.mp waits
      rfl
  · intro inquiry waits
    rcases List.mem_append.mp waits with waits | waits
    · exact numbered.waiting_le inquiry waits
    · obtain rfl := List.mem_singleton.mp waits
      exact Nat.le_of_eq current

/-- A request of the current activation is pending. -/
theorem pending_asking (course : GraphCourse) (page : NetworkGraph) (canvas : Picture)
    (ticket : Ticket) (current : ticket.generation = course.activations) (half : Half) :
    { course with
      page, canvas, waiting := course.waiting ++ [ticket.inquiry half] }.pending =
      course.pending ++ [ticket.inquiry half] := by
  simp [pending, List.filter_append, Ticket.inquiry, current]

/-- An activation begins with no request and no reply. -/
theorem Numbered.begin (numbered : course.Numbered) :
    { course with activations := course.activations + 1 }.Numbered ∧
      { course with activations := course.activations + 1 }.pending = [] ∧
      { course with activations := course.activations + 1 }.current = [] := by
  refine ⟨⟨numbered.number, ?_, ?_⟩, ?_, ?_⟩
  · exact fun inquiry waits => Nat.le_succ_of_le (numbered.waiting_le inquiry waits)
  · exact fun reply answered => Nat.le_succ_of_le (numbered.replies_le reply answered)
  · refine List.filter_eq_nil_iff.mpr fun inquiry waits same => ?_
    have earlier := numbered.waiting_le inquiry waits
    have later : inquiry.activation = course.activations + 1 := of_decide_eq_true same
    omega
  · refine List.filter_eq_nil_iff.mpr fun reply answered same => ?_
    have earlier := numbered.replies_le reply answered
    have later : reply.inquiry.activation = course.activations + 1 := of_decide_eq_true same
    omega

/-- A new activation asks for its nodes. -/
theorem Numbered.activate (numbered : course.Numbered)
    {page : NetworkGraph} (generation : page.assembler.generation = course.activations) :
    (course.activate page.activate).Matches .asked := by
  obtain ⟨begun, no_request, no_reply⟩ := numbered.begin
  unfold GraphCourse.activate
  rw [follow_activate, generation]
  have pending := pending_asking { course with activations := course.activations + 1 } page {}
    ⟨course.activations + 1, page.selected⟩ rfl .nodes
  exact {
    toNumbered := begun.asking _ _ rfl .nodes
    assembler := rfl
    shown := rfl
    canvas := rfl
    error := rfl
    answered := no_reply
    pending := .of_eq (pending.trans (congrArg (· ++ _) no_request)) }

/-- A refresh asks for the nodes of the same network once more. -/
theorem Numbered.reload (numbered : course.Numbered) {page : NetworkGraph}
    (known : page.assembler.variant = some page.selected)
    (generation : page.assembler.generation = course.activations) :
    (course.activate page.reload).Matches .asked := by
  unfold GraphCourse.activate
  rw [follow_reload _ _ _ known]
  exact numbered.activate generation

/-- A reply takes its request away from the waiting ones. -/
theorem pending_receive (waits : course.waiting[index]? = some inquiry)
    (event : NetworkGraphEvent) :
    ((inquiry :: (course.receive index ⟨inquiry, event⟩).waiting).filter fun inquiry =>
      inquiry.activation = course.activations).Perm course.pending := by
  obtain ⟨within, rfl⟩ := List.getElem?_eq_some_iff.mp waits
  exact (List.getElem_cons_eraseIdx_perm within).filter _

/-- A reply that reports a failure for the network on the page is the latest one that does. -/
theorem latestFailure?_receive (course : GraphCourse) (index : Nat) (reply : GraphReply) :
    (course.receive index reply).latestFailure? =
      (reply.failureFor? course.page.selected).or course.latestFailure? := by
  simp only [latestFailure?, receive, List.findSome?_cons]
  cases reply.failureFor? course.page.selected <;> rfl

/-- A reply to a waiting request keeps the numbers. -/
theorem Numbered.receive (numbered : course.Numbered)
    (waits : course.waiting[index]? = some inquiry) (event : NetworkGraphEvent) :
    (course.receive index ⟨inquiry, event⟩).Numbered where
  number other waits := numbered.number other (List.mem_of_mem_eraseIdx waits)
  waiting_le other waits := numbered.waiting_le other (List.mem_of_mem_eraseIdx waits)
  replies_le reply answered := by
    rcases List.mem_cons.mp answered with rfl | answered
    · exact numbered.waiting_le inquiry (List.mem_of_getElem? waits)
    · exact numbered.replies_le reply answered

/-- A report of a failure is shown if it is for the network on the page and the activation has
failed. -/
theorem Matches.reports_iff (matched : course.Matches phase) (fetch : Fetch) :
    (course.page.assembler.variant = some fetch.ticket.variant ∧
        course.page.assembler.lastError.isSome) ↔
      course.page.selected = fetch.ticket.variant ∧ phase.failure? ≠ none := by
  rw [matched.assembler]
  simp [GraphPhase.assembler, ticket, Option.isSome_iff_ne_none]

/-- A report leaves the latest failure for the network on the page once the activation has
failed. -/
theorem Matches.errorAfter (matched : course.Matches phase) (reply : GraphReply) :
    course.page.errorAfter reply.inquiry.fetch reply.event.failure? =
      phase.failure?.bind fun _ =>
        ((reply.failureFor? course.page.selected).or course.latestFailure?).map
          RequestFailure.userMessage := by
  have shown := matched.error
  unfold NetworkGraph.errorAfter GraphReply.failureFor?
  simp only [matched.reports_iff]
  cases own : phase.failure? with
  | none =>
      rw [own] at shown
      cases reply.event.failure? <;> simp [shown]
  | some failure =>
      rw [own] at shown
      cases reply.event.failure? with
      | none => simp [shown]
      | some other =>
          by_cases same : course.page.selected = reply.inquiry.fetch.ticket.variant
          · simp [same]
          · simp [same, Ne.symm same, shown]

/-- A reply to an earlier activation may at most change the failure that is shown. -/
theorem Matches.step_earlier (matched : course.Matches phase)
    (waits : course.waiting[index]? = some inquiry)
    (earlier : inquiry.activation ≠ course.activations)
    (outcome : Except RequestFailure Reply) :
    course.step (.replied index outcome) =
      { course.receive index ⟨inquiry, inquiry.answer course.page.client outcome⟩ with
        page := { course.page with
          error := course.page.errorAfter inquiry.fetch
            (inquiry.answer course.page.client outcome).failure? } } := by
  have refused (half : Half) :
      course.page.assembler.refusal? inquiry.fetch.ticket half ≠ none := by
    rw [ne_eq, Assembler.refusal?_eq_none_iff, Assembler.isCurrent_iff, matched.assembler]
    rintro ⟨⟨same, -⟩, -⟩
    exact earlier ((matched.number inquiry (List.mem_of_getElem? waits)).symm.trans same)
  simp only [step, waits]
  exact follow_answer_refused _ _ _ _ _ refused

/-- A reply to an earlier activation keeps the phase. -/
theorem Matches.earlier (matched : course.Matches phase)
    (waits : course.waiting[index]? = some inquiry)
    (earlier : inquiry.activation ≠ course.activations)
    (outcome : Except RequestFailure Reply) :
    (course.step (.replied index outcome)).Matches phase := by
  rw [matched.step_earlier waits earlier]
  generalize inquiry.answer course.page.client outcome = event
  have pending := pending_receive waits event
  simp only [List.filter_cons, earlier, decide_false, Bool.false_eq_true, if_false] at pending
  have current : (course.receive index ⟨inquiry, event⟩).current = course.current :=
    List.filter_cons_of_neg (fun same => earlier (of_decide_eq_true same))
  have error := matched.errorAfter ⟨inquiry, event⟩
  rw [← course.latestFailure?_receive index] at error
  exact {
    toNumbered := (matched.toNumbered.receive waits event).showing _ _
    assembler := matched.assembler
    shown := matched.shown
    canvas := matched.canvas
    error := error
    answered := current.trans matched.answered
    pending := pending.trans matched.pending }

/-- A waiting request of the current activation is the one for the awaited half. -/
theorem Matches.awaited (matched : course.Matches phase)
    (waits : course.waiting[index]? = some inquiry)
    (own : inquiry.activation = course.activations) (event : NetworkGraphEvent) :
    ∃ half, phase.awaited? = some half ∧ inquiry = course.ticket.inquiry half ∧
      (course.receive index ⟨inquiry, event⟩).pending = [] := by
  -- The pending requests are this one and the rest, and they are at most one.
  have all := (pending_receive waits event).trans matched.pending
  simp only [List.filter_cons, own, decide_true, if_true] at all
  cases awaited : phase.awaited? with
  | none =>
      rw [awaited] at all
      cases all.eq_nil
  | some half =>
      rw [awaited] at all
      obtain ⟨same, rest⟩ := List.cons.inj (List.perm_singleton.mp all)
      exact ⟨half, rfl, same, rest⟩

/-- The reply for the awaited half counts. -/
theorem Matches.counts (matched : course.Matches phase) {half : Half}
    (awaited : phase.awaited? = some half) :
    course.page.assembler.refusal? course.ticket half = none := by
  rw [Assembler.refusal?_eq_none_iff, Assembler.isCurrent_iff, matched.assembler]
  refine ⟨⟨rfl, rfl⟩, ?_⟩
  cases phase <;> cases awaited <;> rfl

/-- The reply of the current activation is the latest of its replies. -/
theorem Matches.current_receive (matched : course.Matches phase) (index : Nat)
    (reply : GraphReply) (own : reply.inquiry.activation = course.activations) :
    (course.receive index reply).current = reply :: phase.replies course.ticket := by
  rw [← matched.answered]
  exact List.filter_cons_of_pos (decide_eq_true own)

/-- A reply of the current activation answers a request for a half of the network on the page. -/
theorem Matches.inquiry_of_mem (matched : course.Matches phase) {reply : GraphReply}
    (member : reply ∈ course.current) : ∃ half, reply.inquiry = course.ticket.inquiry half := by
  rw [matched.answered] at member
  cases phase <;>
    simp only [GraphPhase.replies, List.mem_cons, List.not_mem_nil, or_false] at member
  case nodesFailed => exact ⟨.nodes, congrArg GraphReply.inquiry member⟩
  case nodesThere => exact ⟨.nodes, congrArg GraphReply.inquiry member⟩
  case linksFailed =>
    rcases member with links | nodes
    · exact ⟨.links, congrArg GraphReply.inquiry links⟩
    · exact ⟨.nodes, congrArg GraphReply.inquiry nodes⟩
  case complete =>
    rcases member with links | nodes
    · exact ⟨.links, congrArg GraphReply.inquiry links⟩
    · exact ⟨.nodes, congrArg GraphReply.inquiry nodes⟩

/-- A failure of the current activation is the latest one for its network. -/
theorem latestFailure?_receive_own (course : GraphCourse) (index : Nat) (reply : GraphReply)
    {failure : RequestFailure} (own : reply.inquiry.fetch.ticket = course.ticket)
    (failed : reply.event.failure? = some failure) :
    (course.receive index reply).latestFailure? = some failure := by
  rw [latestFailure?_receive, GraphReply.failureFor?, own, failed]
  simp [ticket]

/-- A reply to the current activation leads to the next phase, and its failure is shown. -/
theorem Matches.own (matched : course.Matches phase)
    (waits : course.waiting[index]? = some inquiry)
    (own : inquiry.activation = course.activations) (outcome : Except RequestFailure Reply) :
    ∃ later, (course.step (.replied index outcome)).Matches later ∧
      (course.step (.replied index outcome)).page.error =
        (inquiry.answer course.page.client outcome).failure?.map RequestFailure.userMessage := by
  simp only [step, waits]
  generalize answer : inquiry.answer course.page.client outcome = event
  obtain ⟨half, awaited, rfl, taken⟩ := matched.awaited waits own event
  have numbered := matched.toNumbered.receive waits event
  have counts := matched.counts awaited
  have current := matched.current_receive index ⟨course.ticket.inquiry half, event⟩ rfl
  have asking (page : NetworkGraph) (canvas : Picture) :=
    (pending_asking (course.receive index ⟨course.ticket.inquiry half, event⟩) page canvas
      course.ticket rfl .links).trans (congrArg (· ++ _) taken)
  have latest {failure : RequestFailure} (failed : event.failure? = some failure) :=
    congrArg (Option.map RequestFailure.userMessage)
      (course.latestFailure?_receive_own index ⟨course.ticket.inquiry half, event⟩ rfl failed)
  -- Only the two phases that wait for a half have a request that can be answered.
  cases phase with
  | asked =>
      obtain rfl : Half.nodes = half := Option.some.inj awaited
      obtain ⟨result, rfl⟩ := answer ▸ Inquiry.answer_nodes rfl course.page.client outcome
      simp only [NetworkGraph.respond]
      cases result with
      | ok nodes =>
          rw [follow_takeNodes_ok _ _ _ nodes counts, matched.assembler]
          refine ⟨.nodesThere nodes, ?_, matched.error⟩
          exact {
            toNumbered := numbered.asking _ _ rfl .links
            assembler := rfl
            shown := matched.shown
            canvas := matched.canvas
            error := matched.error
            answered := current
            pending := .of_eq (asking _ _) }
      | error failure =>
          rw [follow_takeNodes_error _ _ _ failure counts, matched.assembler]
          refine ⟨.nodesFailed failure, ?_, rfl⟩
          exact {
            toNumbered := numbered.showing _ _
            assembler := rfl
            shown := matched.shown
            canvas := matched.canvas
            error := (latest rfl).symm
            answered := current
            pending := .of_eq taken }
  | nodesThere nodes =>
      obtain rfl : Half.links = half := Option.some.inj awaited
      obtain ⟨result, rfl⟩ := answer ▸ Inquiry.answer_links rfl course.page.client outcome
      simp only [NetworkGraph.respond]
      cases result with
      | ok links =>
          have stage := congrArg Assembler.stage matched.assembler
          rw [follow_takeLinks_ok _ _ _ links counts stage, matched.assembler]
          refine ⟨.complete nodes links, ?_, matched.error⟩
          exact {
            toNumbered := numbered.showing _ _
            assembler := rfl
            shown := rfl
            canvas := rfl
            error := matched.error
            answered := current
            pending := .of_eq taken }
      | error failure =>
          rw [follow_takeLinks_error _ _ _ failure counts, matched.assembler]
          refine ⟨.linksFailed nodes failure, ?_, rfl⟩
          exact {
            toNumbered := numbered.showing _ _
            assembler := rfl
            shown := matched.shown
            canvas := matched.canvas
            error := (latest rfl).symm
            answered := current
            pending := .of_eq taken }
  | nodesFailed failure => cases awaited
  | linksFailed nodes failure => cases awaited
  | complete nodes links => cases awaited

/-- The assembler has the number of the activation and the network on the page. -/
theorem Matches.assembler_current (matched : course.Matches phase) :
    course.page.assembler.generation = course.activations ∧
      course.page.assembler.variant = some course.page.selected := by
  rw [matched.assembler]
  exact ⟨rfl, rfl⟩

/-- A choice of a network begins an activation, even of the network that is already there. -/
theorem Matches.selected (matched : course.Matches phase) (variant : NetworkKind) :
    (course.step (.selected variant)).Matches .asked := by
  obtain ⟨generation, known⟩ := matched.assembler_current
  simp only [GraphCourse.step, NetworkGraph.respond]
  split
  · exact matched.toNumbered.reload known generation
  · exact matched.toNumbered.activate generation

/-- A refresh begins an activation. -/
theorem Matches.refreshed (matched : course.Matches phase) :
    (course.step .refreshed).Matches .asked := by
  obtain ⟨generation, known⟩ := matched.assembler_current
  exact matched.toNumbered.reload known generation

/-- Every happening leads to some phase. -/
theorem Matches.step (matched : course.Matches phase) (happening : GraphHappening) :
    ∃ later, (course.step happening).Matches later := by
  cases happening with
  | selected variant => exact ⟨.asked, matched.selected variant⟩
  | refreshed => exact ⟨.asked, matched.refreshed⟩
  | replied index outcome =>
      cases waits : course.waiting[index]? with
      | none => exact ⟨phase, by simpa only [GraphCourse.step, waits] using matched⟩
      | some inquiry =>
          by_cases own : inquiry.activation = course.activations
          · obtain ⟨later, next, -⟩ := matched.own waits own outcome
            exact ⟨later, next⟩
          · exact ⟨phase, matched.earlier waits own outcome⟩

/-- Several happenings lead to some phase. -/
theorem Matches.run (matched : course.Matches phase) (happenings : List GraphHappening) :
    ∃ later, (course.run happenings).Matches later := by
  -- Every step may lead to another phase, so the phase varies with the course.
  induction happenings generalizing course phase with
  | nil => exact ⟨phase, matched⟩
  | cons happening rest ih =>
      obtain ⟨later, next⟩ := matched.step happening
      exact ih next

/-- Every course of a new page stands in some phase. -/
theorem exists_matches (client : Client) (selectable : Bool) (variant : NetworkKind)
    (happenings : List GraphHappening) :
    ∃ phase,
      ((start { client, selectable, selected := variant }).run happenings).Matches phase := by
  have unused : Numbered { page := { client, selectable, selected := variant } } :=
    ⟨by simp, by simp, by simp⟩
  have begun : (start { client, selectable, selected := variant }).Matches .asked :=
    unused.activate rfl
  exact begun.run happenings

end GraphCourse

end MeshConsole
