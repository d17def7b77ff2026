/-
This file holds the first page: the revision of the backend and two counters.
-/

import MeshConsole.Page.Load

namespace MeshConsole

open Json

/-- The first page. -/
structure Dashboard where
  hello : Loader Greeting := {}
  nodes : Loader Nat := {}
  links : Loader Nat := {}

instance : Inhabited Dashboard := ⟨{}⟩

/-- A reply arrives on the first page. -/
inductive DashboardEvent where
  | helloLoaded (number : Nat) (result : Except RequestFailure Greeting)
  | nodesCounted (number : Nat) (result : Except RequestFailure Nat)
  | linksCounted (number : Nat) (result : Except RequestFailure Nat)

namespace Dashboard

/-- This call counts the records of a collection. It asks for a single record of any kind and
takes the total. -/
def count (client : Client) (collection : Collection) : Call Nat :=
  (client.list Written.value? collection ((ListRequest.sortedBy "id").page 1 1)).map (·.total)

/-- The page asks for everything when it opens. -/
def start (client : Client) (dashboard : Dashboard) : Turn Dashboard DashboardEvent :=
  let hello := dashboard.hello.send client.hello .helloLoaded
  let nodes := dashboard.nodes.send (count client .autoNodes) .nodesCounted
  let links := dashboard.links.send (count client .links) .linksCounted
  { page := { hello := hello.page, nodes := nodes.page, links := links.page }
    effects := hello.effects ++ nodes.effects ++ links.effects }

/-- The answer of the page to an event. -/
def update (dashboard : Dashboard) : DashboardEvent → Turn Dashboard DashboardEvent
  | .helloLoaded number result =>
    { page := { dashboard with hello := dashboard.hello.complete number result } }
  | .nodesCounted number result =>
    { page := { dashboard with nodes := dashboard.nodes.complete number result } }
  | .linksCounted number result =>
    { page := { dashboard with links := dashboard.links.complete number result } }

/-- The text of a counter. -/
def counterText : Load Nat → String
  | .pending => "..."
  | .ready total => toString total
  | .failed _ => "-"

/-- A card with a counter. -/
def counterCard (title : String) (count : Load Nat) : Markup DashboardEvent :=
  .styled "div" "stat-card"
    [.labelled "h3" title, .styled "p" "stat-value" [.text (counterText count)]]

/-- The card with the name and revision of the backend. -/
def revisionCard (hello : Load Greeting) : Markup DashboardEvent :=
  .styled "div" "stat-card" (hello.view fun hello =>
    [.labelled "h3" hello.name,
     .labelled "p" hello.description,
     .styled "p" "revision" [.text "Revision ", .text hello.revision]])

/-- The page. -/
def view (dashboard : Dashboard) : Markup DashboardEvent :=
  .styled "section" "dashboard"
    [.labelled "h2" "Welcome to the MeshMeshGo Admin",
     .styled "div" "cards"
      [revisionCard dashboard.hello.load,
       counterCard "Dynamic nodes" dashboard.nodes.load,
       counterCard "Static links" dashboard.links.load]]

end Dashboard

end MeshConsole
