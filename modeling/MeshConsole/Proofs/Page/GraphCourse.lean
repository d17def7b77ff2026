/-
This file follows a page that draws a network through choices of the network, refreshes and replies
to its requests, in any order. Every request and every reply keeps the number of the activation
that it belongs to.
-/

import MeshConsole.Page.NetworkGraph
import MeshConsole.Proofs.Topology.AssemblerRun

namespace MeshConsole

/-- A request of the page. -/
structure Inquiry where
  fetch : Fetch
  /-- The activation that issued the request. -/
  activation : Nat

/-- A reply to a request of the page. -/
structure GraphReply where
  inquiry : Inquiry
  /-- The event that the reply raises on the page. -/
  event : NetworkGraphEvent

/-- The result of a request for nodes. -/
def NetworkGraphEvent.nodes? : NetworkGraphEvent → Option (Except RequestFailure (List Node))
  | .nodesArrived _ result => some result
  | _ => none

/-- The result of a request for links. -/
def NetworkGraphEvent.links? : NetworkGraphEvent → Option (Except RequestFailure (List Link))
  | .linksArrived _ result => some result
  | _ => none

/-- The failure that an event reports. -/
def NetworkGraphEvent.failure? : NetworkGraphEvent → Option RequestFailure
  | .nodesArrived _ result => NetworkGraph.failureOf result
  | .linksArrived _ result => NetworkGraph.failureOf result
  | _ => none

/-- The event that the outcome of a request raises. -/
def Inquiry.answer (inquiry : Inquiry) (client : Client)
    (outcome : Except RequestFailure Reply) : NetworkGraphEvent :=
  ((NetworkGraph.errand client inquiry.fetch).receive outcome).1

/-- The failure that a reply reports for a network. -/
def GraphReply.failureFor? (variant : NetworkKind) (reply : GraphReply) : Option RequestFailure :=
  if reply.inquiry.fetch.ticket.variant = variant then reply.event.failure? else none

/-- A page that draws a network, with what has happened to it so far. -/
structure GraphCourse where
  page : NetworkGraph
  /-- The picture that the canvas was given last. -/
  canvas : Picture := {}
  /-- The number of activations: the first one, every choice of a network and every refresh. -/
  activations : Nat := 0
  /-- The requests without a reply. -/
  waiting : List Inquiry := []
  /-- The replies, the latest first. -/
  replies : List GraphReply := []

/-- Something that happens to a page that draws a network. -/
inductive GraphHappening where
  | selected (variant : NetworkKind)
  | refreshed
  /-- The waiting request with an index has its outcome. -/
  | replied (index : Nat) (outcome : Except RequestFailure Reply)

namespace GraphCourse

/-- The course after an order of an activation. -/
def carryOut (activation : Nat) (course : GraphCourse) : GraphOrder → GraphCourse
  | .fetch fetch => { course with waiting := course.waiting ++ [⟨fetch, activation⟩] }
  | .draw picture => { course with canvas := picture }
  | .log _ => course

/-- The course after a plan of the page whose orders belong to an activation. -/
def follow (course : GraphCourse) (activation : Nat) (plan : Plan NetworkGraph GraphOrder) :
    GraphCourse :=
  plan.orders.foldl (carryOut activation) { course with page := plan.page }

/-- The course after a plan of the page that belongs to the next activation. -/
def activate (course : GraphCourse) (plan : Plan NetworkGraph GraphOrder) : GraphCourse :=
  let number := course.activations + 1
  { course with activations := number }.follow number plan

/-- A new page activates its network at once. -/
def start (page : NetworkGraph) : GraphCourse := activate { page } page.activate

/-- The course once a waiting request has its reply, before the page takes it. -/
def receive (course : GraphCourse) (index : Nat) (reply : GraphReply) : GraphCourse :=
  { course with
    waiting := course.waiting.eraseIdx index
    replies := reply :: course.replies }

/-- The course after one more happening. A request that follows a reply belongs to the activation
of the request that was answered. -/
def step (course : GraphCourse) : GraphHappening → GraphCourse
  | .selected variant => course.activate (course.page.respond (.selected variant))
  | .refreshed => course.activate (course.page.respond .refreshed)
  | .replied index outcome =>
    match course.waiting[index]? with
    | none => course
    | some inquiry =>
      let event := inquiry.answer course.page.client outcome
      (course.receive index ⟨inquiry, event⟩).follow inquiry.activation (course.page.respond event)

/-- The course after several happenings. -/
def run (course : GraphCourse) (happenings : List GraphHappening) : GraphCourse :=
  happenings.foldl step course

/-- The requests of the current activation without a reply. -/
def pending (course : GraphCourse) : List Inquiry :=
  course.waiting.filter fun inquiry => inquiry.activation = course.activations

/-- The replies to the requests of the current activation. -/
def current (course : GraphCourse) : List GraphReply :=
  course.replies.filter fun reply => reply.inquiry.activation = course.activations

/-- The results of the requests for nodes of the current activation. -/
def nodesReplies (course : GraphCourse) : List (Except RequestFailure (List Node)) :=
  course.current.filterMap fun reply => reply.event.nodes?

/-- The results of the requests for links of the current activation. -/
def linksReplies (course : GraphCourse) : List (Except RequestFailure (List Link)) :=
  course.current.filterMap fun reply => reply.event.links?

/-- The latest failure for the network that is shown, whichever activation asked. -/
def latestFailure? (course : GraphCourse) : Option RequestFailure :=
  course.replies.findSome? (GraphReply.failureFor? course.page.selected)

/-- The ticket of the current activation. -/
def ticket (course : GraphCourse) : Ticket := ⟨course.activations, course.page.selected⟩

end GraphCourse

/-- A reply to a request for nodes brings nodes or a failure. -/
theorem Inquiry.answer_nodes {inquiry : Inquiry} (half : inquiry.fetch.half = .nodes)
    (client : Client) (outcome : Except RequestFailure Reply) :
    ∃ result, inquiry.answer client outcome = .nodesArrived inquiry.fetch result := by
  unfold answer NetworkGraph.errand
  rw [half]
  exact ⟨_, rfl⟩

/-- A reply to a request for links brings links or a failure. -/
theorem Inquiry.answer_links {inquiry : Inquiry} (half : inquiry.fetch.half = .links)
    (client : Client) (outcome : Except RequestFailure Reply) :
    ∃ result, inquiry.answer client outcome = .linksArrived inquiry.fetch result := by
  unfold answer NetworkGraph.errand
  rw [half]
  exact ⟨_, rfl⟩

namespace NetworkGraph

/-- The failure on the page after a report. -/
def errorAfter (page : NetworkGraph) (fetch : Fetch) (failure? : Option RequestFailure) :
    Option String :=
  match failure? with
  | some failure =>
    if page.assembler.variant = some fetch.ticket.variant ∧ page.assembler.lastError.isSome then
      some failure.userMessage
    else page.error
  | none => page.error

end NetworkGraph

namespace GraphCourse

variable (course : GraphCourse) (activation : Nat) (page : NetworkGraph)

/-- Lines in the log do not change a course. -/
theorem follow_after_log (lines : List LogLine) (plan : Plan NetworkGraph GraphOrder) :
    course.follow activation (plan.after (lines.map .log)) = course.follow activation plan := by
  unfold follow Plan.after
  rw [List.foldl_append]
  congr 1
  induction lines with
  | nil => rfl
  | cons line rest ih => exact ih

/-- An activation asks for the nodes and takes the picture and the failure away. -/
theorem follow_activate :
    course.follow activation page.activate =
      { course with
        page := { page with
          assembler :=
            { stage := .awaitingNodes, variant := some page.selected,
              generation := page.assembler.generation + 1 }
          shown := {}
          error := none }
        canvas := {}
        waiting := course.waiting ++
          [⟨Ticket.fetch ⟨page.assembler.generation + 1, page.selected⟩ .nodes, activation⟩] } :=
  course.follow_after_log activation _ _

/-- A refresh activates the network on the page once more. -/
theorem follow_reload (known : page.assembler.variant = some page.selected) :
    course.follow activation page.reload = course.follow activation page.activate := by
  simp only [NetworkGraph.reload, Assembler.refresh, known]
  rw [← List.map_cons, follow_after_log]
  exact (course.follow_after_log activation _ _).symm

/-- A report changes nothing but the failure on the page. -/
theorem follow_report (fetch : Fetch) (failure? : Option RequestFailure) :
    course.follow activation (page.report fetch failure?) =
      { course with page := { page with error := page.errorAfter fetch failure? } } := by
  cases failure? with
  | none => rfl
  | some failure =>
      by_cases shown : page.assembler.variant = some fetch.ticket.variant ∧
          page.assembler.lastError.isSome
      · simp only [NetworkGraph.report, NetworkGraph.errorAfter, if_pos shown]
        rfl
      · simp only [NetworkGraph.report, NetworkGraph.errorAfter, if_neg shown]
        rfl

/-- A failure that counts is shown. -/
theorem follow_report_counted {fetch : Fetch} {half : Half} (failure : RequestFailure)
    (counts : page.assembler.refusal? fetch.ticket half = none) :
    course.follow activation
        ({ page with assembler := { page.assembler with lastError := some failure } }.report fetch
          (some failure)) =
      { course with
        page := { page with
          assembler := { page.assembler with lastError := some failure }
          error := some failure.userMessage } } := by
  obtain ⟨current, -⟩ := (page.assembler.refusal?_eq_none_iff _ _).mp counts
  obtain ⟨-, variant⟩ := (page.assembler.isCurrent_iff _).mp current
  rw [follow_report]
  simp [NetworkGraph.errorAfter, variant]

/-- Nodes that do not count may at most change the failure on the page. -/
theorem follow_takeNodes_refused {fetch : Fetch} (result : Except RequestFailure (List Node))
    (refused : page.assembler.refusal? fetch.ticket .nodes ≠ none) :
    course.follow activation (page.takeNodes fetch result) =
      { course with
        page := { page with error := page.errorAfter fetch (NetworkGraph.failureOf result) } } := by
  obtain ⟨state, nothing⟩ := Assembler.nodesLoaded_refused result refused
  unfold NetworkGraph.takeNodes
  rw [follow_after_log, state, nothing]
  exact course.follow_report activation page fetch _

/-- Nodes that count lead to the request for the links. -/
theorem follow_takeNodes_ok {fetch : Fetch} (nodes : List Node)
    (counts : page.assembler.refusal? fetch.ticket .nodes = none) :
    course.follow activation (page.takeNodes fetch (.ok nodes)) =
      { course with
        page := { page with assembler := { page.assembler with stage := .awaitingLinks nodes } }
        waiting := course.waiting ++ [⟨fetch.ticket.fetch .links, activation⟩] } := by
  obtain ⟨state, links⟩ := Assembler.nodesLoaded_ok nodes counts
  unfold NetworkGraph.takeNodes
  rw [follow_after_log, state, links]
  rfl

/-- A failure of the nodes that counts is shown. -/
theorem follow_takeNodes_error {fetch : Fetch} (failure : RequestFailure)
    (counts : page.assembler.refusal? fetch.ticket .nodes = none) :
    course.follow activation (page.takeNodes fetch (.error failure)) =
      { course with
        page := { page with
          assembler := { page.assembler with lastError := some failure }
          error := some failure.userMessage } } := by
  obtain ⟨state, nothing⟩ := Assembler.nodesLoaded_error failure counts
  unfold NetworkGraph.takeNodes
  rw [follow_after_log, state, nothing]
  exact course.follow_report_counted activation page failure counts

/-- Links that do not count may at most change the failure on the page. -/
theorem follow_takeLinks_refused {fetch : Fetch} (result : Except RequestFailure (List Link))
    (refused : page.assembler.refusal? fetch.ticket .links ≠ none) :
    course.follow activation (page.takeLinks fetch result) =
      { course with
        page := { page with error := page.errorAfter fetch (NetworkGraph.failureOf result) } } := by
  obtain ⟨state, nothing⟩ := Assembler.linksLoaded_refused result refused
  unfold NetworkGraph.takeLinks
  rw [follow_after_log, state, nothing]
  exact course.follow_report activation page fetch _

/-- Links that count complete the picture, which is shown and drawn. -/
theorem follow_takeLinks_ok {fetch : Fetch} {nodes : List Node} (links : List Link)
    (counts : page.assembler.refusal? fetch.ticket .links = none)
    (waiting : page.assembler.stage = .awaitingLinks nodes) :
    course.follow activation (page.takeLinks fetch (.ok links)) =
      { course with
        page := { page with
          assembler :=
            { page.assembler with stage := .ready, view := some (.build nodes links) }
          shown := .build nodes links }
        canvas := .build nodes links } := by
  obtain ⟨state, picture⟩ := Assembler.linksLoaded_ok links counts waiting
  unfold NetworkGraph.takeLinks
  rw [follow_after_log, state, picture]
  rfl

/-- A failure of the links that counts is shown. -/
theorem follow_takeLinks_error {fetch : Fetch} (failure : RequestFailure)
    (counts : page.assembler.refusal? fetch.ticket .links = none) :
    course.follow activation (page.takeLinks fetch (.error failure)) =
      { course with
        page := { page with
          assembler := { page.assembler with lastError := some failure }
          error := some failure.userMessage } } := by
  obtain ⟨state, nothing⟩ := Assembler.linksLoaded_error failure counts
  unfold NetworkGraph.takeLinks
  rw [follow_after_log, state, nothing]
  exact course.follow_report_counted activation page failure counts

/-- A reply that does not count may at most change the failure on the page. -/
theorem follow_answer_refused {inquiry : Inquiry} (client : Client)
    (outcome : Except RequestFailure Reply)
    (refused : ∀ half, page.assembler.refusal? inquiry.fetch.ticket half ≠ none) :
    course.follow activation (page.respond (inquiry.answer client outcome)) =
      { course with
        page := { page with
          error := page.errorAfter inquiry.fetch (inquiry.answer client outcome).failure? } } := by
  cases half : inquiry.fetch.half with
  | nodes =>
      obtain ⟨result, answer⟩ := inquiry.answer_nodes half client outcome
      rw [answer]
      exact course.follow_takeNodes_refused activation page result (refused .nodes)
  | links =>
      obtain ⟨result, answer⟩ := inquiry.answer_links half client outcome
      rw [answer]
      exact course.follow_takeLinks_refused activation page result (refused .links)

end GraphCourse

end MeshConsole
