/-
This file holds the pages that draw a network. Such a page runs the fetches that its assembler asks
for, and only pictures that the assembler completes reach the canvas.
-/

import MeshConsole.Markup
import MeshConsole.Page.Effect
import MeshConsole.Topology.Assembler

namespace MeshConsole

/-- A page that draws a network. -/
structure NetworkGraph where
  client : Client
  /-- The user can choose the network. -/
  selectable : Bool
  selected : NetworkKind
  /-- The number of clicks on the refresh button. -/
  reloads : Nat := 0
  assembler : Assembler := {}
  /-- The picture on the canvas. -/
  shown : Picture := {}
  /-- The failure that is shown. -/
  error : Option String := none

/-- What happens on a page that draws a network. -/
inductive NetworkGraphEvent where
  | selected (variant : NetworkKind)
  | refreshed
  | nodesArrived (fetch : Fetch) (result : Except RequestFailure (List Node))
  | linksArrived (fetch : Fetch) (result : Except RequestFailure (List Link))

/-- What such a page asks for. -/
inductive GraphOrder where
  | fetch (fetch : Fetch)
  | draw (picture : Picture)
  | log (line : LogLine)

namespace NetworkGraph

/-- The page with a selector of the network. -/
def selector (client : Client) : NetworkGraph :=
  { client, selectable := true, selected := .dynamic }

/-- The page of the configured network. -/
def discovery (client : Client) : NetworkGraph :=
  { client, selectable := false, selected := .static }

/-- A new activation empties the canvas, takes the failure away and runs its first fetch. -/
def begin (page : NetworkGraph) (assembler : Assembler) (fetch : Fetch) :
    Plan NetworkGraph GraphOrder :=
  { page := { page with assembler, shown := {}, error := none }
    orders := [.draw {}, .fetch fetch] }

/-- The page activates the selected network. -/
def activate (page : NetworkGraph) : Plan NetworkGraph GraphOrder :=
  let activated := page.assembler.activate page.selected
  (page.begin activated.state activated.result).after (activated.lines.map .log)

/-- The page activates the network once more. -/
def reload (page : NetworkGraph) : Plan NetworkGraph GraphOrder :=
  let refreshed := page.assembler.refresh
  let plan : Plan NetworkGraph GraphOrder := match refreshed.result with
    | some fetch => page.begin refreshed.state fetch
    | none => { page }
  plan.after (.log (.make .debug ("graph reload " ++ toString page.reloads)) ::
    refreshed.lines.map .log)

/-- The line for a fetch that led to nothing. -/
def droppedLine (fetch : Fetch) : LogLine :=
  .make .debug ("dropped " ++ fetch.half.name ++ " response for " ++ fetch.ticket.variant.name)

/-- A failed fetch is shown while its network is still selected and the assembler knows of a
failure. Any other fetch that led to nothing is logged. -/
def report (page : NetworkGraph) (fetch : Fetch) :
    Option RequestFailure → Plan NetworkGraph GraphOrder
  | some failure =>
    if page.assembler.variant = some fetch.ticket.variant ∧ page.assembler.lastError.isSome then
      { page := { page with error := some failure.userMessage } }
    else { page, orders := [.log (droppedLine fetch)] }
  | none => { page, orders := [.log (droppedLine fetch)] }

/-- The failure of a result. -/
def failureOf {α : Type} : Except RequestFailure α → Option RequestFailure
  | .ok _ => none
  | .error failure => some failure

/-- The nodes of a network arrive. -/
def takeNodes (page : NetworkGraph) (fetch : Fetch) (result : Except RequestFailure (List Node)) :
    Plan NetworkGraph GraphOrder :=
  let taken := page.assembler.nodesLoaded fetch.ticket result
  let next := { page with assembler := taken.state }
  let plan : Plan NetworkGraph GraphOrder := match taken.result with
    | some links => { page := next, orders := [.fetch links] }
    | none => next.report fetch (failureOf result)
  plan.after (taken.lines.map .log)

/-- The links of a network arrive and complete the picture. -/
def takeLinks (page : NetworkGraph) (fetch : Fetch) (result : Except RequestFailure (List Link)) :
    Plan NetworkGraph GraphOrder :=
  let taken := page.assembler.linksLoaded fetch.ticket result
  let next := { page with assembler := taken.state }
  let plan : Plan NetworkGraph GraphOrder := match taken.result with
    | some picture => { page := { next with shown := picture }, orders := [.draw picture] }
    | none => next.report fetch (failureOf result)
  plan.after (taken.lines.map .log)

/-- The answer of the page to an event. -/
def respond (page : NetworkGraph) : NetworkGraphEvent → Plan NetworkGraph GraphOrder
  | .selected variant =>
    if variant = page.selected then page.reload
    else { page with selected := variant }.activate
  | .refreshed => { page with reloads := page.reloads + 1 }.reload
  | .nodesArrived fetch result => page.takeNodes fetch result
  | .linksArrived fetch result => page.takeLinks fetch result

/-- The errand of a fetch. It asks for all records. -/
def errand (client : Client) (fetch : Fetch) : Errand NetworkGraphEvent :=
  let request := ListRequest.sortedBy "id"
  match fetch.half with
  | .nodes =>
    ((client.list Node.decode? fetch.collection request).map (·.records)).errand
      (.nodesArrived fetch)
  | .links =>
    ((client.list Link.decode? fetch.collection request).map (·.records)).errand
      (.linksArrived fetch)

/-- This function carries out an order. -/
def effect (client : Client) : GraphOrder → Effect NetworkGraphEvent
  | .fetch fetch => .send (errand client fetch)
  | .draw picture => .draw picture
  | .log line => .log line

/-- A new page activates its network. -/
def start (page : NetworkGraph) : Turn NetworkGraph NetworkGraphEvent :=
  page.activate.turn (effect page.client)

/-- The answer of the page to an event as a turn. -/
def update (page : NetworkGraph) (event : NetworkGraphEvent) :
    Turn NetworkGraph NetworkGraphEvent :=
  (page.respond event).turn (effect page.client)

/-- The button that loads the network again. -/
def refreshButton : Markup NetworkGraphEvent :=
  .button "" "Refresh" .refreshed

/-- The selector of the network. -/
def selectorField (page : NetworkGraph) : Markup NetworkGraphEvent :=
  .styled "label" "field"
    [.labelled "span" "Network type",
     .element "select"
      { control := some (.choice page.selected.key)
        reactions :=
          { choose := some fun key => (NetworkKind.ofKey? key).map .selected } }
      (NetworkKind.all.map fun variant => .labelled "option" variant.label)]

/-- The title of the page and its controls. -/
def topBar (page : NetworkGraph) : Markup NetworkGraphEvent :=
  .styled "div" "graph-top-bar"
    (if page.selectable then
      [.labelled "h2" "Graph visualization", page.selectorField, refreshButton]
    else [.labelled "h2" "Discovery", refreshButton])

/-- The page. -/
def view (page : NetworkGraph) : Markup NetworkGraphEvent :=
  .styled "section" "show-graph"
    [page.topBar,
     .styled "div" "network-graph"
      ((match page.error with
        | some message => [.failure message]
        | none => []) ++ [.styled "canvas" "force-graph-canvas" []])]

/-- The height of the canvas. -/
def canvasHeight : Float := 650.0

end NetworkGraph

end MeshConsole
