/-
This file holds which failure a page that draws a network shows. It shows one exactly when a
request of the current activation has failed, but a later failure of an earlier activation of the
same network takes its place.
-/

import MeshConsole.Proofs.Page.GraphPhase

namespace MeshConsole

namespace GraphCourse

/-- The failure of a request of the current activation. -/
def ownFailure? (course : GraphCourse) : Option RequestFailure :=
  course.current.findSome? fun reply => reply.event.failure?

/-- The page shows no failure or that of a request of the current activation. -/
def ShowsOwnFailure (course : GraphCourse) : Prop :=
  course.page.error = none ∨ ∃ reply ∈ course.current, ∃ failure,
    reply.event.failure? = some failure ∧ course.page.error = some failure.userMessage

/-- If a request of the current activation has failed, the latest failure for the network on the
page has the text of that failure. -/
def LatestIsOwn (course : GraphCourse) : Prop :=
  ∀ failure, course.ownFailure? = some failure →
    course.latestFailure?.map RequestFailure.userMessage = some failure.userMessage

end GraphCourse

/-- What holds at every point of a course of a page that draws a network. -/
structure ShownFailure (course : GraphCourse) : Prop where
  /-- A failure is shown exactly if a request of the current activation has failed. -/
  present : course.page.error ≠ none ↔ course.ownFailure? ≠ none
  /-- It is the latest failure for the network on the page, whichever activation asked. -/
  text : course.ownFailure? ≠ none →
    course.page.error = course.latestFailure?.map RequestFailure.userMessage
  /-- It is one of the current activation exactly as long as the latest failure for the network has
  the same text. -/
  own_iff : course.ShowsOwnFailure ↔ course.LatestIsOwn
  /-- A new activation takes the failure away. -/
  cleared : (∀ variant, (course.step (.selected variant)).page.error = none) ∧
    (course.step .refreshed).page.error = none
  /-- A reply to the current activation shows its failure, if it has one. -/
  current : ∀ index inquiry outcome, course.waiting[index]? = some inquiry →
    inquiry.activation = course.activations →
      (course.step (.replied index outcome)).page.error =
        (inquiry.answer course.page.client outcome).failure?.map RequestFailure.userMessage
  /-- A reply to an earlier activation shows its failure exactly if it is for the network on the
  page and a request of the current activation has failed too. Any other one changes nothing. -/
  earlier : ∀ index inquiry outcome, course.waiting[index]? = some inquiry →
    inquiry.activation ≠ course.activations →
      (course.step (.replied index outcome)).page.error =
        match (inquiry.answer course.page.client outcome).failure? with
        | some failure =>
          if course.page.selected = inquiry.fetch.ticket.variant ∧ course.ownFailure? ≠ none then
            some failure.userMessage
          else course.page.error
        | none => course.page.error

namespace GraphCourse

variable {course : GraphCourse} {phase : GraphPhase}

/-- The failure of the current activation is that of its phase. -/
theorem Matches.ownFailure?_eq (matched : course.Matches phase) :
    course.ownFailure? = phase.failure? := by
  rw [ownFailure?, matched.answered]
  cases phase <;> rfl

/-- An activation has at most one failed reply. -/
theorem Matches.ownFailure?_eq_some_iff (matched : course.Matches phase)
    (failure : RequestFailure) :
    course.ownFailure? = some failure ↔
      ∃ reply ∈ course.current, reply.event.failure? = some failure := by
  rw [matched.ownFailure?_eq, matched.answered]
  cases phase <;>
    simp [GraphPhase.failure?, GraphPhase.replies, Ticket.nodesReply, Ticket.linksReply,
      NetworkGraphEvent.failure?, NetworkGraph.failureOf]

/-- A failure of the current activation is one for the network on the page. -/
theorem Matches.latestFailure?_ne_none (matched : course.Matches phase)
    (own : course.ownFailure? ≠ none) : course.latestFailure? ≠ none := by
  obtain ⟨failure, own⟩ := Option.ne_none_iff_exists'.mp own
  obtain ⟨reply, member, failed⟩ := (matched.ownFailure?_eq_some_iff failure).mp own
  obtain ⟨half, asked⟩ := matched.inquiry_of_mem member
  have network : reply.inquiry.fetch.ticket.variant = course.page.selected := by
    rw [asked]
    rfl
  have reported : GraphReply.failureFor? course.page.selected reply = some failure := by
    rw [GraphReply.failureFor?, if_pos network, failed]
  intro missing
  have nothing := List.findSome?_eq_none_iff.mp missing reply (List.mem_filter.mp member).1
  rw [reported] at nothing
  cases nothing

/-- The failure on the page is the latest one for its network, once the activation has failed. -/
theorem Matches.error_eq (matched : course.Matches phase) (own : course.ownFailure? ≠ none) :
    course.page.error = course.latestFailure?.map RequestFailure.userMessage := by
  obtain ⟨failure, own⟩ := Option.ne_none_iff_exists'.mp own
  rw [matched.error, ← matched.ownFailure?_eq, own, Option.bind_some]

/-- A failure is shown exactly if the current activation has failed. -/
theorem Matches.error_ne_none_iff (matched : course.Matches phase) :
    course.page.error ≠ none ↔ course.ownFailure? ≠ none := by
  by_cases own : course.ownFailure? = none
  · have missing : course.page.error = none := by
      rw [matched.error, ← matched.ownFailure?_eq, own, Option.bind_none]
    simp [own, missing]
  · have there := matched.latestFailure?_ne_none own
    rw [matched.error_eq own, ne_eq, Option.map_eq_none_iff]
    exact ⟨fun _ => own, fun _ => there⟩

/-- The page shows a failure of the current activation exactly if the latest failure for the
network has its text. -/
theorem Matches.showsOwnFailure_iff (matched : course.Matches phase) :
    course.ShowsOwnFailure ↔ course.LatestIsOwn := by
  constructor
  · intro shows failure own
    have failed : course.ownFailure? ≠ none := by simp [own]
    rw [← matched.error_eq failed]
    rcases shows with missing | ⟨reply, member, other, reported, shown⟩
    · exact absurd missing (matched.error_ne_none_iff.mpr failed)
    · have same := (matched.ownFailure?_eq_some_iff other).mpr ⟨reply, member, reported⟩
      obtain rfl : failure = other := Option.some.inj (own.symm.trans same)
      exact shown
  · intro latest
    cases own : course.ownFailure? with
    | none =>
        refine .inl (not_not.mp fun shown => ?_)
        exact matched.error_ne_none_iff.mp shown own
    | some failure =>
        obtain ⟨reply, member, reported⟩ := (matched.ownFailure?_eq_some_iff failure).mp own
        refine .inr ⟨reply, member, failure, reported, ?_⟩
        rw [matched.error_eq (by simp [own])]
        exact latest failure own

/-- A report changes the failure on the page exactly if it is for the network on the page and the
current activation has failed. -/
theorem Matches.errorAfter_eq (matched : course.Matches phase) (fetch : Fetch)
    (failure? : Option RequestFailure) :
    course.page.errorAfter fetch failure? =
      match failure? with
      | some failure =>
        if course.page.selected = fetch.ticket.variant ∧ course.ownFailure? ≠ none then
          some failure.userMessage
        else course.page.error
      | none => course.page.error := by
  cases failure? with
  | none => rfl
  | some failure =>
      simp only [NetworkGraph.errorAfter, matched.reports_iff, matched.ownFailure?_eq]

end GraphCourse

/-- A page that draws a network shows a failure of its current activation unless a later failure
of an earlier activation of the same network has another text, for any choices of the network, any
refreshes and any outcomes of the requests in any order. -/
theorem graph_shownFailure (client : Client) (selectable : Bool) (variant : NetworkKind)
    (happenings : List GraphHappening) :
    ShownFailure
      ((GraphCourse.start { client, selectable, selected := variant }).run happenings) := by
  obtain ⟨phase, matched⟩ :=
    GraphCourse.exists_matches client selectable variant happenings
  constructor
  case present => exact matched.error_ne_none_iff
  case text => exact matched.error_eq
  case own_iff => exact matched.showsOwnFailure_iff
  case cleared => exact ⟨fun variant => (matched.selected variant).error, matched.refreshed.error⟩
  case current =>
    intro index inquiry outcome waits own
    obtain ⟨later, -, shown⟩ := matched.own waits own outcome
    exact shown
  case earlier =>
    intro index inquiry outcome waits earlier
    rw [matched.step_earlier waits earlier]
    exact matched.errorAfter_eq _ _

/-- Two activations of one network fail, the second one first. The page then shows the failure of
the first one. -/
theorem graph_error_of_earlier_activation :
    ¬ ((GraphCourse.start { client := ⟨""⟩, selectable := true, selected := .dynamic }).run
      [.refreshed, .replied 1 (.error (.network "second")),
        .replied 0 (.error (.network "first"))]).ShowsOwnFailure := by
  rintro (missing | ⟨reply, member, failure, reported, shown⟩)
  · cases missing
  · have own : reply.event.failure? ∈ [some (RequestFailure.network "second")] :=
      List.mem_map_of_mem (f := fun reply : GraphReply => reply.event.failure?) member
    obtain rfl : RequestFailure.network "second" = failure :=
      Option.some.inj ((List.mem_singleton.mp own).symm.trans reported)
    have text : (RequestFailure.network "first").userMessage =
        (RequestFailure.network "second").userMessage := Option.some.inj shown
    exact absurd text (by decide)

end MeshConsole
