/-
This file follows a table of records through clicks on its headers and controls and replies to its
requests, in any order. The main statement is that the table shows the records of its current page
and sort once its requests are answered.
-/

import MeshConsole.Page.Tables
import MeshConsole.Proofs.Markup.Clicks
import MeshConsole.Proofs.Page.LoaderCourse

namespace MeshConsole

open Json

/-- A table with what has happened to it so far. -/
structure TableCourse (α : Type) where
  listing : Listing α
  /-- All requests for records, in the order of their issue. -/
  sent : List ListRequest := []
  /-- The requests without a reply. -/
  waiting : List LoadRequest := []
  /-- The outcomes with the places of their requests, the latest first. -/
  replies : List (Nat × Except RequestFailure Reply) := []

/-- Something that happens to a table. -/
inductive TableHappening where
  | headerClicked (field : String)
  | previousClicked
  /-- The table is turned to any page, also to those that its own controls do not reach. -/
  | turned (page : Nat)
  /-- The waiting request with an index has its outcome. -/
  | replied (index : Nat) (outcome : Except RequestFailure Reply)

namespace Listing

variable {α : Type} (decode : Nat → Written → Option α) (listing : Listing α)

/-- The records or the failure that the outcome of a request brings. It does not depend on what
the request asked for. -/
def answer (outcome : Except RequestFailure Reply) : Except RequestFailure (RecordPage α) :=
  ((listing.client.list decode listing.collection {}).finish outcome).1

/-- The requests of a click on a header, in order. The first such click asks for the current page
in the new order, before it asks for the first page. -/
def sortRequests (field : String) : List ListRequest :=
  let wanted : ListRequest := { sort := listing.sort.toggled field }
  (if listing.resorted then [] else [wanted.page listing.page listing.pageSize]) ++
    [wanted.page 1 listing.pageSize]

end Listing

namespace TableCourse

variable {α : Type} (decode : Nat → Written → Option α)

/-- The course after an order of the table. -/
def carryOut (course : TableCourse α) : ListingOrder → TableCourse α
  | .load number request =>
    { course with
      sent := course.sent ++ [request]
      waiting := course.waiting ++ [⟨course.sent.length, number⟩] }
  | .delete .. | .notify .. => course

/-- The course after a plan of the table. -/
def follow (course : TableCourse α) (plan : Plan (Listing α) ListingOrder) : TableCourse α :=
  plan.orders.foldl carryOut { course with listing := plan.page }

/-- A new table asks for its records at once. -/
def start (listing : Listing α) : TableCourse α := follow { listing } listing.reload

/-- The table of the discovered nodes comes on the screen, at any of its pages. -/
def discovered (client : Client) (pageSize page : Nat) : TableCourse Node :=
  start { NodeTable.discovered client pageSize with page }

/-- The course once a waiting request has its outcome, before the table takes it. -/
def receive (course : TableCourse α) (index place : Nat) (outcome : Except RequestFailure Reply) :
    TableCourse α :=
  { course with
    waiting := course.waiting.eraseIdx index
    replies := (place, outcome) :: course.replies }

/-- The event that the outcome of a waiting request raises. -/
def raised (course : TableCourse α) (request : LoadRequest)
    (outcome : Except RequestFailure Reply) : ListingEvent α :=
  let listing := course.listing
  let wanted := course.sent[request.place]?.getD {}
  (((listing.client.list decode listing.collection wanted).errand
    (ListingEvent.loaded request.number)).receive outcome).1

/-- The course after one more happening. On the first page the control that leads back is
disabled. -/
def step (course : TableCourse α) : TableHappening → TableCourse α
  | .headerClicked field => course.follow (course.listing.respond (.sortBy field))
  | .previousClicked =>
    if 1 < course.listing.page then course.follow (course.listing.respond .previousPage)
    else course
  | .turned page => course.follow { course.listing with page }.reload
  | .replied index outcome =>
    match course.waiting[index]? with
    | none => course
    | some request =>
      (course.receive index request.place outcome).follow
        (course.listing.respond (course.raised decode request outcome))

/-- The course after several happenings. -/
def run (course : TableCourse α) (happenings : List TableHappening) : TableCourse α :=
  happenings.foldl (step decode) course

/-- The course of the loader of the table. Its keys are the requests. -/
def loads (course : TableCourse α) : LoaderCourse ListRequest (RecordPage α) where
  loader := course.listing.loader
  key := course.listing.request
  asked := course.sent
  waiting := course.waiting
  results := course.replies.map fun reply => (reply.1, course.listing.answer decode reply.2)

variable (course : TableCourse α)

/-- A click on a header changes the key of the loader once or twice. -/
theorem loads_headerClicked (field : String) :
    (course.step decode (.headerClicked field)).loads decode =
      (course.loads decode).run ((course.listing.sortRequests field).map .rekeyed) := by
  simp only [step, Listing.respond, Listing.sortBy, Listing.sortRequests]
  split_ifs <;> rfl

/-- The requests of a click on a header follow all earlier ones. -/
theorem sent_headerClicked (field : String) :
    (course.step decode (.headerClicked field)).sent =
      course.sent ++ course.listing.sortRequests field := by
  simp only [step, Listing.respond, Listing.sortBy, Listing.sortRequests]
  split_ifs
  · rfl
  · exact List.append_assoc course.sent _ _

/-- Another page changes the key of the loader. -/
theorem loads_turned (page : Nat) :
    (course.step decode (.turned page)).loads decode =
      (course.loads decode).run [.rekeyed { course.listing with page }.request] := rfl

/-- An outcome raises the event of its request with its own answer. -/
theorem raised_eq (request : LoadRequest) (outcome : Except RequestFailure Reply) :
    course.raised decode request outcome =
      .loaded request.number (course.listing.answer decode outcome) := rfl

/-- A reply completes a request of the loader. -/
theorem loads_replied (index : Nat) (outcome : Except RequestFailure Reply) :
    (course.step decode (.replied index outcome)).loads decode =
      (course.loads decode).run [.completed index (course.listing.answer decode outcome)] := by
  simp only [step, LoaderCourse.run, List.foldl, LoaderCourse.step]
  cases waits : course.waiting[index]? with
  | none => simp [loads, waits]
  | some request =>
      simp [loads, waits, raised_eq, follow, receive, Listing.respond, Listing.answer,
        Listing.request]

/-- A reply is given to the loader. -/
theorem loader_replied {index : Nat} {request : LoadRequest}
    (outcome : Except RequestFailure Reply) (waits : course.waiting[index]? = some request) :
    (course.step decode (.replied index outcome)).listing.loader =
      course.listing.loader.complete request.number (course.listing.answer decode outcome) := by
  simp only [step, waits, raised_eq]
  rfl

/-- Whatever happens to a table, its loader takes a course of its own. -/
theorem loads_step (happening : TableHappening) :
    ∃ happenings, (course.step decode happening).loads decode =
      (course.loads decode).run happenings := by
  cases happening with
  | headerClicked field => exact ⟨_, course.loads_headerClicked decode field⟩
  | previousClicked =>
      by_cases behind : 1 < course.listing.page
      · rw [step, if_pos behind]
        exact ⟨_, course.loads_turned decode (course.listing.page - 1)⟩
      · rw [step, if_neg behind]
        exact ⟨[], rfl⟩
  | turned page => exact ⟨_, course.loads_turned decode page⟩
  | replied index outcome => exact ⟨_, course.loads_replied decode index outcome⟩

/-- The loader of a new table asks for its first records. -/
theorem sound_discovered (client : Client) (pageSize page : Nat) :
    ((discovered client pageSize page).loads Node.decode?).Sound :=
  LoaderCourse.start_sound (({} : ListRequest).page page pageSize)

/-- The loader of a table keeps its invariant. -/
theorem sound_run {course : TableCourse α} (sound : (course.loads decode).Sound)
    (happenings : List TableHappening) : ((course.run decode happenings).loads decode).Sound := by
  induction happenings generalizing course with
  | nil => exact sound
  | cons happening rest ih =>
      obtain ⟨steps, same⟩ := course.loads_step decode happening
      exact ih (same ▸ sound.run steps)

/-- With nothing under way, the reply to the newest request is shown, and that request was for
what the table is to show. -/
theorem reply_of_rest {course : TableCourse α} (sound : (course.loads decode).Sound)
    (rest : course.waiting = []) :
    ∃ place outcome, (place, outcome) ∈ course.replies ∧
      course.listing.loader.load = .ofResult (course.listing.answer decode outcome) ∧
        place + 1 = course.sent.length ∧ course.sent[place]? = some course.listing.request := by
  obtain ⟨place, result, newest, completed⟩ := sound.completed_of_rest rest
  have current : course.sent.getLast? = some course.listing.request := sound.current
  have wanted : course.sent[place]? = some course.listing.request := by
    rw [← current, List.getLast?_eq_getElem?]
    exact congrArg (_[·]?) (Nat.eq_sub_of_add_eq newest)
  -- The loader keeps answers, and each of them comes from an outcome.
  obtain ⟨⟨answered, outcome⟩, replied, same⟩ := List.mem_map.mp completed
  obtain ⟨rfl, rfl⟩ := Prod.mk.inj same
  exact ⟨answered, outcome, replied, sound.shown _ _ completed newest, newest, wanted⟩

end TableCourse

section Clicks

variable {α : Type} (listing : Listing α)

/-- The rows of a table offer the clicks of their cells. -/
theorem Listing.clicks_table (headers : List (Markup (ListingEvent α)))
    (rows : List (List (Markup (ListingEvent α)))) :
    (table headers rows).clicks =
      headers.flatMap Markup.clicks ++ rows.flatMap fun row => row.flatMap Markup.clicks := by
  simp [table, Markup.plain, Traits.click?, List.flatMap_map]

/-- A header that sorts offers one click. -/
theorem Listing.clicks_sortHeader (label field : String) :
    (listing.sortHeader label field).clicks = [.sortBy field] := by
  simp [sortHeader, Traits.click?]

/-- The controls offer the step back behind the first page. -/
theorem Listing.clicks_pager :
    listing.pager.clicks = if 1 < listing.page then [.previousPage] else [] := by
  by_cases behind : 1 < listing.page <;>
    simp [pager, Markup.styled, Markup.labelled, Markup.plain, Traits.click?, behind]

/-- The page of a table offers the clicks of its heading, its records and its controls. -/
theorem Listing.clicks_view (heading : List (Markup (ListingEvent α)))
    (content : List α → Markup (ListingEvent α)) :
    (listing.view heading content).clicks =
      heading.flatMap Markup.clicks ++
        (match listing.loader.load with
          | .ready page => (content page.records).clicks
          | _ => []) ++
        if 1 < listing.page then [.previousPage] else [] := by
  rw [← clicks_pager]
  cases shown : listing.loader.load <;>
    simp [view, Load.view, shown, Markup.styled, Markup.labelled, Markup.plain, Markup.failure,
      Traits.click?]

/-- The page of the discovered nodes offers the three headers once there are records, and the step
back behind the first page. -/
theorem NodeTable.clicks_discoveredView (listing : Listing Node) :
    (discoveredView listing).clicks =
      (match listing.loader.load with
        | .ready _ => [.sortBy "id", .sortBy "tag", .sortBy "last_seen"]
        | _ => []) ++
      if 1 < listing.page then [.previousPage] else [] := by
  have rows (nodes : List Node) :
      (nodes.map discoveredRow).flatMap (fun row => row.flatMap Markup.clicks) = [] := by
    refine List.flatMap_eq_nil_iff.mpr fun row member => ?_
    obtain ⟨node, -, rfl⟩ := List.mem_map.mp member
    simp [discoveredRow, Listing.cell, Markup.labelled, Markup.plain, Markup.reference,
      Traits.click?]
  rw [discoveredView, Listing.clicks_view]
  cases listing.loader.load <;>
    simp [Listing.clicks_table, Listing.clicks_sortHeader, rows, Listing.header, Markup.labelled,
      Markup.plain, Traits.click?]

/-- The page of the discovered nodes offers no other clicks than those of a course. -/
theorem NodeTable.eq_of_mem_clicks {listing : Listing Node} {event : ListingEvent Node}
    (offered : event ∈ (discoveredView listing).clicks) :
    (∃ field, event = .sortBy field) ∨ event = .previousPage ∧ 1 < listing.page := by
  rw [clicks_discoveredView, List.mem_append] at offered
  rcases offered with header | back
  · split at header
    · simp only [List.mem_cons, List.not_mem_nil, or_false] at header
      rcases header with rfl | rfl | rfl <;> exact .inl ⟨_, rfl⟩
    · exact absurd header List.not_mem_nil
  · split_ifs at back with behind
    · exact .inr ⟨List.mem_singleton.mp back, behind⟩
    · exact absurd back List.not_mem_nil

end Clicks

/-- What holds at every point of a course of the table of the discovered nodes. -/
structure TableInOrder (course : TableCourse Node) : Prop where
  /-- A click on a header turns the sort and leads to the first page. -/
  sorted : ∀ field,
    (course.step Node.decode? (.headerClicked field)).listing.page = 1 ∧
      (course.step Node.decode? (.headerClicked field)).listing.sort =
        course.listing.sort.toggled field
  /-- The requests of such a click, perhaps with one for the page that was left. -/
  requested : ∀ field, (course.step Node.decode? (.headerClicked field)).sent =
    course.sent ++ course.listing.sortRequests field
  /-- The newest request is for the current page and sort. -/
  newest : course.sent.getLast? = some
    (({ sort := course.listing.sort } : ListRequest).page course.listing.page
      course.listing.pageSize)
  /-- A reply is shown exactly if its request is the newest at this point. -/
  written : ∀ index request outcome, course.waiting[index]? = some request →
    (course.step Node.decode? (.replied index outcome)).listing.loader.load =
      if request.place + 1 = course.sent.length then
        .ofResult (course.listing.answer Node.decode? outcome)
      else course.listing.loader.load
  /-- With nothing under way, the reply to the newest request is shown, and that request was for
  the current page and sort. -/
  rest : course.waiting = [] → ∃ place outcome, (place, outcome) ∈ course.replies ∧
    course.listing.loader.load = .ofResult (course.listing.answer Node.decode? outcome) ∧
      place + 1 = course.sent.length ∧
        course.sent[place]? = some (({ sort := course.listing.sort } : ListRequest).page
          course.listing.page course.listing.pageSize)
  /-- The page offers no other clicks than those of a course. -/
  offered : ∀ event ∈ (NodeTable.discoveredView course.listing).clicks,
    (∃ field, event = .sortBy field) ∨ event = .previousPage ∧ 1 < course.listing.page

/-- For any clicks and any replies in any order, the table of the discovered nodes shows the
records of its current page and sort once its requests are answered. -/
theorem nodeTable_inOrder (client : Client) (pageSize page : Nat)
    (happenings : List TableHappening) :
    TableInOrder ((TableCourse.discovered client pageSize page).run Node.decode? happenings) := by
  have sound := TableCourse.sound_run Node.decode?
    (TableCourse.sound_discovered client pageSize page) happenings
  generalize (TableCourse.discovered client pageSize page).run Node.decode? happenings = course
    at sound ⊢
  constructor
  case sorted =>
    intro field
    simp only [TableCourse.step, Listing.respond, Listing.sortBy]
    split_ifs <;> exact ⟨rfl, rfl⟩
  case requested => exact course.sent_headerClicked Node.decode?
  case newest => exact sound.current
  case written =>
    intro index request outcome waits
    have completed := course.loader_replied Node.decode? outcome waits
    exact (congrArg Loader.load completed).trans
      (sound.complete_load (List.mem_of_getElem? waits) _)
  case rest => exact TableCourse.reply_of_rest Node.decode? sound
  case offered => exact fun _ => NodeTable.eq_of_mem_clicks

/-- The first click on a header asks for the records of the page that it leaves, too. -/
example : ((TableCourse.discovered ⟨"/api"⟩ 25 3).step Node.decode? (.headerClicked "tag")).sent =
      [⟨⟨"id", .ascending⟩, some (50, 74)⟩, ⟨⟨"tag", .ascending⟩, some (50, 74)⟩,
        ⟨⟨"tag", .ascending⟩, some (0, 24)⟩] := rfl

end MeshConsole
