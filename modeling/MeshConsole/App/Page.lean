/-
This file joins all pages of the console into one type.
-/

import MeshConsole.App.Route
import MeshConsole.Page.Dashboard
import MeshConsole.Page.DiscoveredNode
import MeshConsole.Page.LinkForms
import MeshConsole.Page.NetworkGraph
import MeshConsole.Page.NodeForms
import MeshConsole.Page.Shell
import MeshConsole.Page.Tables

namespace MeshConsole

/-- A page of the console. -/
inductive Page where
  | dashboard (page : Dashboard) (client : Client)
  | nodes (page : Listing Node)
  | nodeCreation (page : NodeCreation)
  | node (page : NodeEditing)
  | links (page : Listing Link)
  | linkCreation (page : LinkCreation)
  | link (page : LinkEditing)
  | discoveredNodes (page : Listing Node)
  | discoveredNode (page : DiscoveredNode)
  | discoveredLinks (page : Listing Link)
  | pairings (page : Listing Pairing)
  | graph (page : NetworkGraph)
  | unknown

/-- Something that happens on a page. -/
inductive PageEvent where
  | dashboard (event : DashboardEvent)
  | nodes (event : ListingEvent Node)
  | nodeCreation (event : NodeCreationEvent)
  | node (event : NodeEditingEvent)
  | links (event : ListingEvent Link)
  | linkCreation (event : LinkCreationEvent)
  | link (event : LinkEditingEvent)
  | discoveredNode (event : DiscoveredNodeEvent)
  | pairings (event : ListingEvent Pairing)
  | graph (event : NetworkGraphEvent)

namespace Page

/-- A new page, before it asks for anything. -/
def ofRoute (client : Client) (pageSize : Nat) : Route → Page
  | .dashboard => .dashboard {} client
  | .nodes => .nodes (NodeTable.configured client pageSize)
  | .nodeCreation => .nodeCreation { client }
  | .node key => .node (NodeEditing.ofKey client key)
  | .links => .links (LinkTable.configured client pageSize)
  | .linkCreation => .linkCreation { client }
  | .link key => .link (LinkEditing.ofKey client key)
  | .discoveredNodes => .discoveredNodes (NodeTable.discovered client pageSize)
  | .discoveredNode key => .discoveredNode (DiscoveredNode.ofKey client key)
  | .discoveredLinks => .discoveredLinks (LinkTable.discovered client pageSize)
  | .servers => .pairings (PairingTable.servers client pageSize)
  | .connections => .pairings (PairingTable.connections client pageSize)
  | .discovery => .graph (NetworkGraph.discovery client)
  | .graph => .graph (NetworkGraph.selector client)
  | .unknown => .unknown

/-- A new page asks for its data. -/
def start : Page → Turn Page PageEvent
  | .dashboard page client =>
    (page.start client).map (fun page => .dashboard page client) .dashboard
  | .nodes page => (page.start Node.decode?).map .nodes .nodes
  | .node page => (page.reload Node.decode? .loaded).map .node .node
  | .links page => (page.start Link.decode?).map .links .links
  | .link page => (page.reload Link.decode? .loaded).map .link .link
  | .discoveredNodes page => (page.start Node.decode?).map .discoveredNodes .nodes
  | .discoveredNode page =>
    (page.reload NodeDetails.decode? .loaded).map .discoveredNode .discoveredNode
  | .discoveredLinks page => (page.start Link.decode?).map .discoveredLinks .links
  | .pairings page => (page.start Pairing.decode?).map .pairings .pairings
  | .graph page => page.start.map .graph .graph
  | page => { page }

/-- The answer of a page to an event. -/
def update : Page → PageEvent → Turn Page PageEvent
  | .dashboard page client, .dashboard event =>
    (page.update event).map (fun page => .dashboard page client) .dashboard
  | .nodes page, .nodes event => (page.update Node.decode? event).map .nodes .nodes
  | .nodeCreation page, .nodeCreation event => (page.update event).map .nodeCreation .nodeCreation
  | .node page, .node event => (NodeEditing.update page event).map .node .node
  | .links page, .links event => (page.update Link.decode? event).map .links .links
  | .linkCreation page, .linkCreation event => (page.update event).map .linkCreation .linkCreation
  | .link page, .link event => (LinkEditing.update page event).map .link .link
  | .discoveredNodes page, .nodes event =>
    (page.update Node.decode? event).map .discoveredNodes .nodes
  | .discoveredNode page, .discoveredNode event =>
    (DiscoveredNode.update page event).map .discoveredNode .discoveredNode
  | .discoveredLinks page, .links event =>
    (page.update Link.decode? event).map .discoveredLinks .links
  | .pairings page, .pairings event => (page.update Pairing.decode? event).map .pairings .pairings
  | .graph page, .graph event => (page.update event).map .graph .graph
  | page, _ => { page }

/-- A page for a record may stay when the address changes to another record. There is no answer
when the address names a page of another kind. -/
def retarget? : Page → Route → Option (Turn Page PageEvent)
  | .node page, .node key => some ((page.retarget Node.decode? .loaded key).map .node .node)
  | .link page, .link key => some ((page.retarget Link.decode? .loaded key).map .link .link)
  | .discoveredNode page, .discoveredNode key =>
    some ((page.retarget NodeDetails.decode? .loaded key).map .discoveredNode .discoveredNode)
  | _, _ => none

/-- The content of a page. -/
def view : Page → Markup PageEvent
  | .dashboard page _ => page.view.map .dashboard
  | .nodes page => (NodeTable.configuredView page).map .nodes
  | .nodeCreation page => page.view.map .nodeCreation
  | .node page => (NodeEditing.view page).map .node
  | .links page => (LinkTable.configuredView page).map .links
  | .linkCreation page => page.view.map .linkCreation
  | .link page => (LinkEditing.view page).map .link
  | .discoveredNodes page => (NodeTable.discoveredView page).map .nodes
  | .discoveredNode page => (DiscoveredNode.view page).map .discoveredNode
  | .discoveredLinks page => (LinkTable.discoveredView page).map .links
  | .pairings page => (PairingTable.view page).map .pairings
  | .graph page => page.view.map .graph
  | .unknown => unknownPage

/-- The page leaves the screen. Replies may still arrive for it, but a table does not ask for
records any more. -/
def retire : Page → Page
  | .nodes page => .nodes { page with live := false }
  | .links page => .links { page with live := false }
  | .discoveredNodes page => .discoveredNodes { page with live := false }
  | .discoveredLinks page => .discoveredLinks { page with live := false }
  | .pairings page => .pairings { page with live := false }
  | page => page

/-- The picture on the canvas of a page that has one. -/
def picture? : Page → Option Picture
  | .graph page => some page.shown
  | _ => none

end Page

end MeshConsole
