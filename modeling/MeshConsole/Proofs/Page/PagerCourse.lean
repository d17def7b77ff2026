/-
This file follows a table of configured records, with the backend behind it, through clicks on its
page and replies in any order. The main statement is that the table stays on one of the pages that
its records fill, and that it shows the number of records of the backend once all is answered.
-/

import MeshConsole.Proofs.Page.TableCourse

namespace MeshConsole

open Json

/-- The records that a table shows. -/
def Listing.shown {α : Type} (listing : Listing α) : List α :=
  match listing.loader.load with
  | .ready page => page.records
  | _ => []

/-- A table whose records can be deleted. -/
structure DeletableTable (α : Type) where
  decode : Nat → Written → Option α
  view : Listing α → Markup (ListingEvent α)
  /-- The click that deletes a record. -/
  deletion : α → ListingEvent α
  deletes : ∀ record, ∃ key message, deletion record = .delete key message
  /-- The page offers the deletion of the records that it shows, and the step back behind the
  first page. -/
  clicks : ∀ listing, (view listing).clicks =
    listing.shown.map deletion ++ if 1 < listing.page then [.previousPage] else []

section Clicks

variable {α : Type}

/-- A static table offers the deletion of its records, if each row has its own in its cells. -/
theorem Listing.clicks_deletions (listing : Listing α) (title createAddress : String)
    (headers : List (Markup (ListingEvent α))) (row : α → List (Markup (ListingEvent α)))
    (deletion : α → ListingEvent α) (still : headers.flatMap Markup.clicks = [])
    (own : ∀ record, (row record).flatMap Markup.clicks = [deletion record]) :
    (listing.view [toolbar title createAddress] fun records =>
        table headers (records.map row)).clicks =
      listing.shown.map deletion ++ if 1 < listing.page then [.previousPage] else [] := by
  have rows (records : List α) :
      (records.map row).flatMap (fun cells => cells.flatMap Markup.clicks) =
        records.map deletion := by
    rw [List.flatMap_map]
    simp only [own, List.map_eq_flatMap]
  rw [clicks_view]
  simp only [clicks_table, still, rows]
  cases loaded : listing.loader.load <;>
    simp [shown, loaded, toolbar, Markup.styled, Markup.labelled, Markup.plain, Markup.reference,
      Traits.click?]

/-- The last cell of a static record offers its deletion. -/
theorem Listing.clicks_actions (editAddress key message : String) :
    (actions editAddress key message : Markup (ListingEvent α)).clicks =
      [.delete key message] := by
  simp [actions, Markup.plain, Markup.reference, Markup.button, Traits.click?]

/-- A cell with a text offers no click. -/
theorem Listing.clicks_cell (content : String) :
    (cell content : Markup (ListingEvent α)).clicks = [] := by
  simp [cell, Markup.labelled, Markup.plain, Traits.click?]

/-- A header cell that does not sort offers no click. -/
theorem Listing.clicks_header (label : String) :
    (header label : Markup (ListingEvent α)).clicks = [] := by
  simp [header, Markup.labelled, Markup.plain, Traits.click?]

end Clicks

/-- The table of the configured nodes. -/
def NodeTable.deletable : DeletableTable Node where
  decode := Node.decode?
  view := configuredView
  deletion node := .delete (key node.id) (deletedMessage node.id)
  deletes _ := ⟨_, _, rfl⟩
  clicks listing := by
    refine listing.clicks_deletions _ _ _ configuredRow _ ?_ fun node => ?_
    · simp [Listing.clicks_header, Markup.plain, Traits.click?]
    · simp [configuredRow, Listing.clicks_cell, Listing.clicks_actions]

/-- The table of the configured links. -/
def LinkTable.deletable : DeletableTable Link where
  decode := Link.decode?
  view := configuredView
  deletion link := .delete (recordKey link.id) deletedMessage
  deletes _ := ⟨_, _, rfl⟩
  clicks listing := by
    refine listing.clicks_deletions _ _ _ (fun link => row (actions link) link) _ ?_ fun link => ?_
    · simp [Listing.clicks_header, Markup.plain, Traits.click?]
    · simp [row, actions, Listing.clicks_cell, Listing.clicks_actions]

/-- A table with the backend behind it. -/
structure PagerCourse (α : Type) where
  listing : Listing α
  /-- The number of records of the backend. -/
  held : Nat
  /-- The orders that the backend has still to serve. -/
  orders : List ListingOrder := []
  /-- The replies on their way, as the events that they raise. -/
  replies : List (ListingEvent α) := []

/-- Something that happens to a table or to the backend behind it. -/
inductive PagerHappening where
  /-- The user clicks where the page takes clicks, at the place with an index. -/
  | clicked (index : Nat)
  /-- The order with an index has its outcome. -/
  | served (index : Nat) (outcome : Except RequestFailure Reply)
  /-- The reply with an index arrives. -/
  | arrived (index : Nat)

/-- The backend has to serve an order. -/
def ListingOrder.sends : ListingOrder → Bool
  | .load .. | .delete .. => true
  | .notify .. => false

namespace PagerCourse

variable {α : Type}

/-- The course after a plan of the table. -/
def follow (course : PagerCourse α) (plan : Plan (Listing α) ListingOrder) : PagerCourse α :=
  { course with
    listing := plan.page
    orders := course.orders ++ plan.orders.filter (·.sends) }

/-- The event that the outcome of an order raises. -/
def raised? (decode : Nat → Written → Option α) (listing : Listing α) (order : ListingOrder)
    (outcome : Except RequestFailure Reply) : Option (ListingEvent α) :=
  match Listing.effect decode listing.client listing.collection order with
  | .send errand => some (errand.receive outcome).1
  | _ => none

/-- The number of records of the backend after an answer. The backend reports the number of its
records, and a deletion that succeeds removes one of them. Other answers do not happen. -/
def heldAfter? (held : Nat) : ListingEvent α → Option Nat
  | .loaded _ (.ok page) => if page.total = held then some held else none
  | .deleted _ (.ok ()) => if 0 < held then some (held - 1) else none
  | _ => some held

/-- The course once the order with an index has its reply on the way. -/
def answer (course : PagerCourse α) (index : Nat) (event : ListingEvent α) (held : Nat) :
    PagerCourse α :=
  { course with
    held, orders := course.orders.eraseIdx index, replies := course.replies ++ [event] }

/-- The course once the order with an index has its outcome. -/
def serve? (decode : Nat → Written → Option α) (course : PagerCourse α) (index : Nat)
    (outcome : Except RequestFailure Reply) : Option (PagerCourse α) := do
  let order ← course.orders[index]?
  let event ← raised? decode course.listing order outcome
  let held ← heldAfter? course.held event
  return course.answer index event held

/-- The course once a reply has left the list of those on their way. -/
def receive (course : PagerCourse α) (index : Nat) : PagerCourse α :=
  { course with replies := course.replies.eraseIdx index }

/-- The course after one more happening. -/
def step (table : DeletableTable α) (course : PagerCourse α) : PagerHappening → PagerCourse α
  | .clicked index =>
    match (table.view course.listing).clicks[index]? with
    | none => course
    | some event => course.follow (course.listing.respond event)
  | .served index outcome => (course.serve? table.decode index outcome).getD course
  | .arrived index =>
    match course.replies[index]? with
    | none => course
    | some event => (course.receive index).follow (course.listing.respond event)

/-- The course after several happenings. -/
def run (table : DeletableTable α) (course : PagerCourse α) (happenings : List PagerHappening) :
    PagerCourse α :=
  happenings.foldl (step table) course

/-- A new table asks for its records at once. -/
def start (listing : Listing α) (held : Nat) : PagerCourse α :=
  follow { listing, held } listing.reload

/-- Nothing is under way. -/
structure Settled (course : PagerCourse α) : Prop where
  orders : course.orders = []
  replies : course.replies = []

variable (course : PagerCourse α)

/-- The success of a deletion is on its way. The table asks for its records when it arrives. -/
def Shrinking : Prop := ∃ message, .deleted message (.ok ()) ∈ course.replies

/-- The newest request for records has not yet its reply. -/
def Awaits : Prop :=
  (∃ request, .load course.listing.loader.newest request ∈ course.orders) ∨
    ∃ result, .loaded course.listing.loader.newest result ∈ course.replies

/-- Records come with the number of records of the backend, or they are asked for again. -/
def Counts (page : RecordPage α) : Prop := page.total = course.held ∨ course.Shrinking

/-- A reply on its way answers a request. If that is the newest one, it counts. -/
def Expects : ListingEvent α → Prop
  | .loaded number result => number ≤ course.listing.loader.newest ∧
      (number = course.listing.loader.newest → ∀ page, result = .ok page → course.Counts page)
  | .deleted .. => True
  | _ => False

/-- What every course of a table keeps. -/
structure Sound : Prop where
  /-- The step back is disabled on the first page, and no step leads on. -/
  first : course.listing.page = 1
  live : course.listing.live = true
  /-- No order has a later number than the newest. -/
  issued : ∀ number request, .load number request ∈ course.orders →
    number ≤ course.listing.loader.newest
  expected : ∀ event ∈ course.replies, course.Expects event
  /-- Without a request under way, the shown records count. -/
  shown : course.Awaits ∨ ∀ page, course.listing.loader.load = .ready page → course.Counts page

variable {course}

/-- An element of a list is the one with an index or stays when that one is taken out. -/
theorem mem_iff_of_getElem? {β : Type} {list : List β} {index : Nat} {taken : β}
    (there : list[index]? = some taken) (other : β) :
    other ∈ list ↔ other = taken ∨ other ∈ list.eraseIdx index := by
  obtain ⟨within, rfl⟩ := List.getElem?_eq_some_iff.mp there
  exact (List.getElem_cons_eraseIdx_perm within).mem_iff.symm.trans List.mem_cons

/-- More replies on their way take no success of a deletion away. -/
theorem Shrinking.mono {later : PagerCourse α} (shrinking : course.Shrinking)
    (replies : course.replies ⊆ later.replies) : later.Shrinking :=
  shrinking.imp fun _ member => replies member

/-- A reply stays expected while the records that count still count, or a newer request is under
way. -/
theorem Expects.mono {later : PagerCourse α} {event : ListingEvent α}
    (expected : course.Expects event)
    (newer : course.listing.loader.newest ≤ later.listing.loader.newest)
    (counts : later.listing.loader.newest = course.listing.loader.newest →
      ∀ page, course.Counts page → later.Counts page) : later.Expects event := by
  cases event with
  | loaded number result =>
      obtain ⟨issued, fresh⟩ := expected
      refine ⟨Nat.le_trans issued newer, fun newest page loaded => ?_⟩
      have same : later.listing.loader.newest = course.listing.loader.newest := by omega
      exact counts same page (fresh (newest.trans same) page loaded)
  | deleted => exact trivial
  | previousPage | sortBy | delete => exact expected.elim

/-- An order for a deletion changes nothing that is shown. -/
theorem Sound.ordered (sound : course.Sound) (key message : String) :
    (course.follow (course.listing.respond (.delete key message))).Sound where
  first := sound.first
  live := sound.live
  issued number request member := by
    rcases List.mem_append.mp member with member | member
    · exact sound.issued number request member
    · exact absurd (List.mem_singleton.mp member) nofun
  expected event member := (sound.expected event member).mono (Nat.le_refl _) fun _ _ => id
  shown := sound.shown.imp_left fun awaits =>
    awaits.imp_left fun ⟨request, member⟩ => ⟨request, List.mem_append_left _ member⟩

/-- A reply that the backend gives to an order, with the number of its records after it. -/
inductive Answers (held : Nat) : ListingOrder → ListingEvent α → Nat → Prop where
  | listed (number : Nat) (request : ListRequest) (page : RecordPage α)
      (counted : page.total = held) :
      Answers held (.load number request) (.loaded number (.ok page)) held
  | unlisted (number : Nat) (request : ListRequest) (error : RequestFailure) :
      Answers held (.load number request) (.loaded number (.error error)) held
  | removed (key message : String) (there : 0 < held) :
      Answers held (.delete key message) (.deleted message (.ok ())) (held - 1)
  | kept (key message : String) (error : RequestFailure) :
      Answers held (.delete key message) (.deleted message (.error error)) held

/-- An answer to a request for records agrees with the backend if it reports their number. -/
theorem answers_load {before held number : Nat} {result : Except RequestFailure (RecordPage α)}
    (agreed : heldAfter? before (.loaded number result) = some held) (request : ListRequest) :
    Answers before (.load number request) (.loaded number result) held := by
  cases result with
  | ok page =>
      obtain ⟨counted, same⟩ := Option.ite_none_right_eq_some.mp agreed
      exact Option.some.inj same ▸ .listed number request page counted
  | error error => exact Option.some.inj agreed ▸ .unlisted number request error

/-- An answer to a deletion agrees with the backend if there is a record to delete. -/
theorem answers_delete {before held : Nat} {message : String}
    {result : Except RequestFailure Unit}
    (agreed : heldAfter? (α := α) before (.deleted message result) = some held) (key : String) :
    Answers (α := α) before (.delete key message) (.deleted message result) held := by
  cases result with
  | ok =>
      obtain ⟨there, same⟩ := Option.ite_none_right_eq_some.mp agreed
      exact Option.some.inj same ▸ .removed key message there
  | error error => exact Option.some.inj agreed ▸ .kept key message error

/-- A course goes on with the answers of the backend. -/
theorem serve?_cases {decode : Nat → Written → Option α} {index : Nat}
    {outcome : Except RequestFailure Reply} {later : PagerCourse α}
    (served : course.serve? decode index outcome = some later) :
    ∃ order event held, course.orders[index]? = some order ∧
      Answers course.held order event held ∧ later = course.answer index event held := by
  simp only [serve?, Option.bind_eq_bind, Option.bind_eq_some_iff] at served
  obtain ⟨order, waits, event, raised, held, agreed, same⟩ := served
  refine ⟨order, event, held, waits, ?_, (Option.some.inj same).symm⟩
  cases order with
  | load number request =>
      obtain rfl := Option.some.inj raised
      exact answers_load agreed request
  | delete key message =>
      obtain rfl := Option.some.inj raised
      exact answers_delete agreed key
  | notify => exact nomatch raised

/-- What counts still counts when the backend has answered, since a deletion that succeeds has
the table ask again. -/
theorem Counts.answer {order : ListingOrder} {event : ListingEvent α} {held : Nat}
    {page : RecordPage α} (counts : course.Counts page) (index : Nat)
    (answers : Answers course.held order event held) :
    (course.answer index event held).Counts page := by
  have kept (shrinking : course.Shrinking) : (course.answer index event held).Shrinking :=
    shrinking.mono (List.subset_append_left _ _)
  cases answers with
  | listed | unlisted | kept => exact counts.imp_right kept
  | removed key message =>
      exact .inr ⟨message, List.mem_append_right _ (List.mem_singleton_self _)⟩

/-- The table still waits for the newest records when the backend has answered. -/
theorem Awaits.answer {order : ListingOrder} {event : ListingEvent α} {held index : Nat}
    (awaits : course.Awaits) (waits : course.orders[index]? = some order)
    (answers : Answers course.held order event held) :
    (course.answer index event held).Awaits := by
  rcases awaits with ⟨request, member⟩ | ⟨result, member⟩
  · rcases (mem_iff_of_getElem? waits _).mp member with rfl | member
    · -- The newest request is the one that is answered.
      cases answers <;>
        exact .inr ⟨_, List.mem_append_right _ (List.mem_singleton_self _)⟩
    · exact .inl ⟨request, member⟩
  · exact .inr ⟨result, List.mem_append_left _ member⟩

/-- An answer of the backend keeps the invariant. -/
theorem Sound.answer (sound : course.Sound) {index held : Nat} {order : ListingOrder}
    {event : ListingEvent α} (waits : course.orders[index]? = some order)
    (answers : Answers course.held order event held) :
    (course.answer index event held).Sound where
  first := sound.first
  live := sound.live
  issued number request member := sound.issued number request (List.mem_of_mem_eraseIdx member)
  expected other member := by
    rcases List.mem_append.mp member with member | member
    · exact (sound.expected other member).mono (Nat.le_refl _) fun _ _ counts =>
        counts.answer index answers
    · obtain rfl := List.mem_singleton.mp member
      have issued := sound.issued
      cases answers with
      | listed number request page counted =>
          refine ⟨issued number request (List.mem_of_getElem? waits), fun _ _ loaded => ?_⟩
          exact .inl (Except.ok.inj loaded ▸ counted)
      | unlisted number request error =>
          exact ⟨issued number request (List.mem_of_getElem? waits), fun _ _ => nofun⟩
      | removed | kept => exact trivial
  shown := sound.shown.imp (·.answer waits answers) fun shown page loaded =>
    (shown page loaded).answer index answers

/-- A plan without requests changes the table alone. -/
theorem follow_of_still {plan : Plan (Listing α) ListingOrder}
    (still : plan.orders.filter (·.sends) = []) (course : PagerCourse α) :
    course.follow plan = { course with listing := plan.page } := by
  rw [follow, still, List.append_nil]

/-- What counts still counts when a reply has arrived, unless it tells of a deletion. -/
theorem Counts.receive {page : RecordPage α} (counts : course.Counts page) {index : Nat}
    {event : ListingEvent α} (arrives : course.replies[index]? = some event)
    (other : ∀ message, .deleted message (.ok ()) ≠ event) :
    (course.receive index).Counts page := by
  refine counts.imp_right fun ⟨message, member⟩ => ⟨message, ?_⟩
  exact ((mem_iff_of_getElem? arrives _).mp member).resolve_left (other message)

/-- The table still waits for the newest records when another reply has arrived. -/
theorem Awaits.receive (awaits : course.Awaits) {index : Nat} {event : ListingEvent α}
    (arrives : course.replies[index]? = some event)
    (other : ∀ result, .loaded course.listing.loader.newest result ≠ event) :
    (course.receive index).Awaits := by
  refine awaits.imp_right fun ⟨result, member⟩ => ⟨result, ?_⟩
  exact ((mem_iff_of_getElem? arrives _).mp member).resolve_left (other result)

/-- Records that arrive are shown if they are the newest, and then they count. -/
theorem Sound.loaded (sound : course.Sound) {index number : Nat}
    {result : Except RequestFailure (RecordPage α)}
    (arrives : course.replies[index]? = some (.loaded number result)) :
    ((course.receive index).follow (course.listing.respond (.loaded number result))).Sound := by
  rw [follow_of_still rfl]
  have newest := LoaderCourse.complete_newest course.listing.loader number result
  have counts (page : RecordPage α) (counts : course.Counts page) :
      (course.receive index).Counts page :=
    counts.receive arrives fun _ same => by cases same
  constructor
  case first => exact sound.first
  case live => exact sound.live
  case issued =>
    intro other request member
    exact newest ▸ sound.issued other request member
  case expected =>
    intro event member
    exact (sound.expected event (List.mem_of_mem_eraseIdx member)).mono (Nat.le_of_eq newest.symm)
      fun _ => counts
  case shown =>
    by_cases current : number = course.listing.loader.newest
    · refine .inr fun page loaded => ?_
      rw [Listing.respond, Loader.complete, if_pos current.symm] at loaded
      have read : result = .ok page := by
        cases result with
        | ok value => exact congrArg _ (Load.ready.inj loaded)
        | error => cases loaded
      have expected := sound.expected _ (List.mem_of_getElem? arrives)
      exact counts page (expected.2 current page read)
    · have old : course.listing.loader.complete number result = course.listing.loader :=
        if_neg (Ne.symm current)
      rw [Listing.respond, old]
      refine sound.shown.imp (·.receive arrives fun _ same => ?_) fun shown page loaded =>
        counts page (shown page loaded)
      exact current (ListingEvent.loaded.inj same).1.symm

/-- A table that asks for its records shows the old ones until it has the new ones. -/
theorem Sound.reload (sound : course.Sound) (index : Nat) :
    ((course.receive index).follow course.listing.reload).Sound where
  first := sound.first
  live := sound.live
  issued number request member := by
    rcases List.mem_append.mp member with member | member
    · exact Nat.le_succ_of_le (sound.issued number request member)
    · exact Nat.le_of_eq (ListingOrder.load.inj (List.mem_singleton.mp member)).1
  expected event member :=
    (sound.expected event (List.mem_of_mem_eraseIdx member)).mono (Nat.le_succ _) fun same =>
      absurd same (Nat.succ_ne_self _)
  shown := .inl (.inl ⟨_, List.mem_append_right _ (List.mem_singleton_self _)⟩)

/-- The result of a deletion has the table ask for its records, if it is a success. -/
theorem Sound.deleted (sound : course.Sound) {index : Nat} {message : String}
    {result : Except RequestFailure Unit}
    (arrives : course.replies[index]? = some (.deleted message result)) :
    ((course.receive index).follow
      (course.listing.respond (.deleted message result))).Sound := by
  cases result with
  | ok =>
      have asks : course.listing.respond (.deleted message (.ok ())) =
          course.listing.reload.after [.notify .info message] := if_pos sound.live
      rw [asks]
      exact sound.reload index
  | error error =>
      rw [follow_of_still rfl]
      exact {
        first := sound.first
        live := sound.live
        issued := sound.issued
        expected := fun event member =>
          (sound.expected event (List.mem_of_mem_eraseIdx member)).mono (Nat.le_refl _)
            fun _ _ counts => counts.receive arrives fun _ => nofun
        shown := sound.shown.imp (·.receive arrives fun _ => nofun) fun shown page loaded =>
          (shown page loaded).receive arrives fun _ => nofun }

/-- A new table asks for its records. -/
theorem sound_start {listing : Listing α} (first : listing.page = 1) (live : listing.live = true)
    (held : Nat) : (start listing held).Sound where
  first := first
  live := live
  issued _ _ member := Nat.le_of_eq (ListingOrder.load.inj (List.mem_singleton.mp member)).1
  expected := nofun
  shown := .inl (.inl ⟨_, List.mem_singleton_self _⟩)

/-- Every happening keeps the invariant. -/
theorem Sound.step (sound : course.Sound) (table : DeletableTable α)
    (happening : PagerHappening) : (course.step table happening).Sound := by
  cases happening with
  | clicked index =>
      simp only [PagerCourse.step]
      split
      · exact sound
      · next event clicked =>
          -- On the first page the step back takes no click.
          have offered := List.mem_of_getElem? clicked
          rw [table.clicks, sound.first, if_neg (Nat.lt_irrefl 1), List.append_nil] at offered
          obtain ⟨record, -, rfl⟩ := List.mem_map.mp offered
          obtain ⟨key, message, same⟩ := table.deletes record
          exact same ▸ sound.ordered key message
  | served index outcome =>
      simp only [PagerCourse.step]
      cases served : course.serve? table.decode index outcome with
      | none => exact sound
      | some later =>
          obtain ⟨order, event, held, waits, answers, rfl⟩ := serve?_cases served
          exact sound.answer waits answers
  | arrived index =>
      simp only [PagerCourse.step]
      split
      · exact sound
      · next event arrives =>
          have expected := sound.expected event (List.mem_of_getElem? arrives)
          cases event with
          | loaded number result => exact sound.loaded arrives
          | deleted message result => exact sound.deleted arrives
          | previousPage | sortBy | delete => exact expected.elim

/-- Every course keeps the invariant. -/
theorem Sound.run (sound : course.Sound) (table : DeletableTable α)
    (happenings : List PagerHappening) : (course.run table happenings).Sound :=
  List.foldlRecOn happenings (PagerCourse.step table) (motive := Sound) sound
    fun _ sound happening _ => sound.step table happening

end PagerCourse

/-- What holds at every point of a course of a table of configured records. -/
structure NeverStrands {α : Type} (table : DeletableTable α) (course : PagerCourse α) : Prop where
  /-- The page is one of the pages that the records fill. -/
  inside : 1 ≤ course.listing.page ∧
    course.listing.page ≤ pageCount course.listing.total course.listing.pageSize
  /-- With nothing under way, the records come with the number of records of the backend. -/
  counted : course.Settled → ∀ page, course.listing.loader.load = .ready page →
    page.total = course.held
  /-- The page offers no other clicks than the deletion of its records. -/
  offered : (table.view course.listing).clicks = course.listing.shown.map table.deletion

/-- A sound course never strands its user. -/
theorem PagerCourse.Sound.neverStrands {α : Type} {course : PagerCourse α} (sound : course.Sound)
    (table : DeletableTable α) : NeverStrands table course where
  inside := by
    rw [sound.first]
    exact ⟨Nat.le_refl 1, Nat.le_max_right _ 1⟩
  counted settled page loaded := by
    have idle : ¬ course.Awaits := by
      simp [Awaits, settled.orders, settled.replies]
    refine (sound.shown.resolve_left idle page loaded).resolve_right ?_
    simp [Shrinking, settled.replies]
  offered := by
    rw [table.clicks, sound.first, if_neg (Nat.lt_irrefl 1), List.append_nil]

/-- For any clicks and any replies in any order, the tables of the configured nodes and links stay
on a page that the records of the backend fill. -/
theorem pager_neverStrands (client : Client) (pageSize held : Nat)
    (happenings : List PagerHappening) :
    NeverStrands NodeTable.deletable
        ((PagerCourse.start (NodeTable.configured client pageSize) held).run NodeTable.deletable
          happenings) ∧
      NeverStrands LinkTable.deletable
        ((PagerCourse.start (LinkTable.configured client pageSize) held).run LinkTable.deletable
          happenings) := by
  have nodes : (PagerCourse.start (NodeTable.configured client pageSize) held).Sound :=
    PagerCourse.sound_start rfl rfl held
  have links : (PagerCourse.start (LinkTable.configured client pageSize) held).Sound :=
    PagerCourse.sound_start rfl rfl held
  exact ⟨(nodes.run _ happenings).neverStrands _, (links.run _ happenings).neverStrands _⟩

/-- The deletion of one of two records leaves one page for the other. -/
example :
    let listed (range body : String) : Except RequestFailure Reply :=
      .ok { contentRange := some range, body }
    ((PagerCourse.start (NodeTable.configured ⟨"/api"⟩ 1) 2).run NodeTable.deletable
      [.served 0 (listed "nodes 0-0/2" "[\x7b\"id\":7\x7d]"), .arrived 0, .clicked 0,
        .served 0 (.ok {}), .arrived 0,
        .served 0 (listed "nodes 0-0/1" "[\x7b\"id\":8\x7d]"), .arrived 0]).listing.position =
      "Page 1 of 1 (1 records)" := by decide +kernel

end MeshConsole
