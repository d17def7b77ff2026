/-
This file holds the tables of records: their loading, sorting and paging, and the deletion of
records.
-/

import MeshConsole.Markup.Outline
import MeshConsole.Page.Load

namespace MeshConsole

open Json

/-- A table of the records of one collection. -/
structure Listing (α : Type) where
  client : Client
  collection : Collection
  pageSize : Nat
  page : Nat := 1
  sort : SortKey := {}
  loader : Loader (RecordPage α) := {}
  /-- A column header has been clicked since the table was opened. -/
  resorted : Bool := false
  /-- The table is on the screen. -/
  live : Bool := true

/-- What happens on a table. -/
inductive ListingEvent (α : Type) where
  | loaded (number : Nat) (result : Except RequestFailure (RecordPage α))
  | previousPage
  | sortBy (field : String)
  /-- The record with a key is to be deleted; the message tells of the success. -/
  | delete (key message : String)
  | deleted (message : String) (result : Except RequestFailure Unit)

/-- What a table asks for. -/
inductive ListingOrder where
  | load (number : Nat) (request : ListRequest)
  | delete (key message : String)
  | notify (level : NoticeLevel) (text : String)
deriving DecidableEq, Repr

namespace Listing

variable {α : Type}

/-- The request for the records that the table is to show. -/
def request (listing : Listing α) : ListRequest :=
  ({ sort := listing.sort } : ListRequest).page listing.page listing.pageSize

/-- This step asks for the records. -/
def reload (listing : Listing α) : Plan (Listing α) ListingOrder :=
  let (issued, number) := listing.loader.issue
  { page := { listing with loader := issued }, orders := [.load number listing.request] }

/-- A click on a header sorts the table and leads back to the first page. The first such click
asks for the records before and after the change of the page. -/
def sortBy (listing : Listing α) (field : String) : Plan (Listing α) ListingOrder :=
  let sorted := { listing with sort := listing.sort.toggled field, resorted := true }
  if listing.resorted then { sorted with page := 1 }.reload
  else
    let asked := sorted.reload
    { asked.page with page := 1 }.reload.after asked.orders

/-- The answer of a table to an event. A table that has gone does not ask for records. -/
def respond (listing : Listing α) : ListingEvent α → Plan (Listing α) ListingOrder
  | .loaded number result =>
    { page := { listing with loader := listing.loader.complete number result } }
  | .previousPage => { listing with page := listing.page - 1 }.reload
  | .sortBy field => listing.sortBy field
  | .delete key message => { page := listing, orders := [.delete key message] }
  | .deleted message (.ok ()) =>
    let told := [ListingOrder.notify .info message]
    if listing.live then listing.reload.after told else { page := listing, orders := told }
  | .deleted _ (.error error) =>
    { page := listing, orders := [.notify .error error.userMessage] }

/-- This function carries out an order. -/
def effect (decode : Nat → Written → Option α) (client : Client) (collection : Collection) :
    ListingOrder → Effect (ListingEvent α)
  | .load number request =>
    .send ((client.list decode collection request).errand (.loaded number))
  | .delete key message => .send ((client.delete collection key).errand (.deleted message))
  | .notify level text => .notify level text

/-- A plan of a table as a turn. -/
def turn (decode : Nat → Written → Option α) (listing : Listing α)
    (plan : Plan (Listing α) ListingOrder) : Turn (Listing α) (ListingEvent α) :=
  plan.turn (effect decode listing.client listing.collection)

/-- A new table asks for its records. -/
def start (decode : Nat → Written → Option α) (listing : Listing α) :
    Turn (Listing α) (ListingEvent α) :=
  listing.turn decode listing.reload

/-- The answer of a table to an event as a turn. -/
def update (decode : Nat → Written → Option α) (listing : Listing α) (event : ListingEvent α) :
    Turn (Listing α) (ListingEvent α) :=
  listing.turn decode (listing.respond event)

/-- The number of records in the backend, zero while it is not known. -/
def total (listing : Listing α) : Nat :=
  match listing.loader.load with
  | .ready page => page.total
  | _ => 0

/-- The place of the table among all records. -/
def position (listing : Listing α) : String :=
  "Page " ++ toString listing.page ++ " of " ++
    toString (pageCount listing.total listing.pageSize) ++ " (" ++ toString listing.total ++
    " records)"

/-- The tag of the second button below a table ends at the comparison sign inside its condition.
This is the rest of the tag, which the button shows as text. -/
def pagerRest : String := "= pages() on:click=move |_| page.update(|p| *p += 1)>"

/-- The controls below a table. Without the rest of its tag the second button has neither a
condition nor a reaction, so it is always disabled and leads nowhere. -/
def pager (listing : Listing α) : Markup (ListingEvent α) :=
  .styled "div" pagerClass
    [.element "button"
      { disabled := listing.page ≤ 1, reactions := { click := some .previousPage } }
      [.text "Previous"],
     .labelled "span" listing.position,
     .element "button" { disabled := true } [.text pagerRest, .text "Next"]]

/-- A header cell. -/
def header (label : String) : Markup (ListingEvent α) :=
  .labelled "th" label

/-- A header cell that sorts the table and marks the sorted column. -/
def sortHeader (listing : Listing α) (label field : String) : Markup (ListingEvent α) :=
  .element "th" { styleClass := "sortable", reactions := { click := some (.sortBy field) } }
    [.text label, .text (listing.sort.marker field)]

/-- A cell with a text. -/
def cell (content : String) : Markup (ListingEvent α) :=
  .labelled "td" content

/-- A table from its header cells and the cells of its rows. -/
def table (headers : List (Markup (ListingEvent α)))
    (rows : List (List (Markup (ListingEvent α)))) : Markup (ListingEvent α) :=
  .plain "table"
    [.plain "thead" [.plain "tr" headers],
     .plain "tbody" (rows.map (Markup.plain "tr"))]

/-- The page of a table: its heading, the table once it is loaded, and the controls below it. -/
def view (listing : Listing α) (heading : List (Markup (ListingEvent α)))
    (content : List α → Markup (ListingEvent α)) : Markup (ListingEvent α) :=
  .styled "section" "resource"
    (heading ++ listing.loader.load.view (fun page => [content page.records]) ++ [listing.pager])

/-- A heading beside a reference to the page that creates a record. -/
def toolbar (title createAddress : String) : Markup (ListingEvent α) :=
  .styled "div" "toolbar" [.labelled "h2" title, .reference createAddress "Create"]

/-- The cell with the actions on a static record. -/
def actions (editAddress key message : String) : Markup (ListingEvent α) :=
  .plain "td" [.reference editAddress "Edit", .button "danger" "Delete" (.delete key message)]

end Listing

/-- The text of a truth value in a table. -/
def yesNo (value : Bool) : String :=
  if value then "Yes" else "No"

end MeshConsole
