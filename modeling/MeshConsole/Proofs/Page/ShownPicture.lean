/-
This file holds what a page that draws a network shows. It is always the picture of the replies to
the current activation, in whatever order they and the replies to earlier activations come.
-/

import MeshConsole.Proofs.Page.GraphPhase

namespace MeshConsole

/-- The picture of the results of one activation. It is empty unless both requests succeeded. -/
def Picture.ofReplies : List (Except RequestFailure (List Node)) →
    List (Except RequestFailure (List Link)) → Picture
  | [.ok nodes], [.ok links] => .build nodes links
  | _, _ => {}

/-- Each request of the current activation has its one result. The links are only asked for once
the nodes are there. -/
def GraphCourse.Answered (course : GraphCourse) : Prop :=
  (∃ failure, course.nodesReplies = [.error failure] ∧ course.linksReplies = []) ∨
    ∃ nodes result, course.nodesReplies = [.ok nodes] ∧ course.linksReplies = [result]

/-- What holds at every point of a course of a page that draws a network. -/
structure ShownPicture (course : GraphCourse) : Prop where
  /-- The page shows the picture of its assembler, or the empty one. -/
  view : course.page.shown = course.page.assembler.view.getD {}
  /-- The canvas has the picture that the page shows. -/
  canvas : course.canvas = course.page.shown
  /-- A picture that is not empty is made of two replies to the current activation. -/
  source : course.page.shown ≠ {} → ∃ nodes links, course.nodesReplies = [.ok nodes] ∧
    course.linksReplies = [.ok links] ∧ course.page.shown = .build nodes links
  /-- These replies answer requests for the network on the page. -/
  requests : ∀ reply ∈ course.current, ∃ half, reply.inquiry = course.ticket.inquiry half
  /-- The picture depends on the replies to the current activation alone. -/
  replies : course.page.shown = .ofReplies course.nodesReplies course.linksReplies
  /-- With no request of the current activation under way, all its replies are there. -/
  rest : course.pending = [] → course.Answered

namespace GraphCourse

variable {course : GraphCourse} {phase : GraphPhase}

/-- The page shows the picture of the replies to the current activation. -/
theorem Matches.shown_eq (matched : course.Matches phase) :
    course.page.shown = .ofReplies course.nodesReplies course.linksReplies := by
  rw [matched.shown, nodesReplies, linksReplies, matched.answered]
  cases phase <;> rfl

/-- An activation with no request under way has all its replies. -/
theorem Matches.answered_of_rest (matched : course.Matches phase) (rest : course.pending = []) :
    course.Answered := by
  have settled := matched.pending
  rw [rest] at settled
  unfold Answered nodesReplies linksReplies
  rw [matched.answered]
  cases phase with
  | asked => cases settled.symm.eq_nil
  | nodesFailed failure => exact .inl ⟨failure, rfl, rfl⟩
  | nodesThere nodes => cases settled.symm.eq_nil
  | linksFailed nodes failure => exact .inr ⟨nodes, .error failure, rfl, rfl⟩
  | complete nodes links => exact .inr ⟨nodes, .ok links, rfl, rfl⟩

end GraphCourse

/-- A picture of results that is not empty is the one of two successful results. -/
theorem Picture.ofReplies_ne {nodesResults : List (Except RequestFailure (List Node))}
    {linksResults : List (Except RequestFailure (List Link))}
    (shown : ofReplies nodesResults linksResults ≠ {}) :
    ∃ nodes links, nodesResults = [.ok nodes] ∧ linksResults = [.ok links] ∧
      ofReplies nodesResults linksResults = .build nodes links := by
  unfold ofReplies at shown ⊢
  split at shown
  case h_1 nodes links => exact ⟨nodes, links, rfl, rfl, rfl⟩
  case h_2 => exact absurd rfl shown

/-- A page that draws a network always shows the picture of the replies to its current activation,
for any choices of the network, any refreshes and any outcomes of the requests in any order. -/
theorem graph_shownPicture (client : Client) (selectable : Bool) (variant : NetworkKind)
    (happenings : List GraphHappening) :
    ShownPicture
      ((GraphCourse.start { client, selectable, selected := variant }).run happenings) := by
  obtain ⟨phase, matched⟩ :=
    GraphCourse.exists_matches client selectable variant happenings
  constructor
  case view =>
    rw [matched.shown, matched.assembler]
    rfl
  case canvas => rw [matched.canvas, matched.shown]
  case source =>
    rw [matched.shown_eq]
    exact Picture.ofReplies_ne
  case requests => exact fun _ member => matched.inquiry_of_mem member
  case replies => exact matched.shown_eq
  case rest => exact matched.answered_of_rest

end MeshConsole
