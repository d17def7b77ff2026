/-
This file holds the tables of nodes, links and ESPHome records.
-/

import MeshConsole.Page.Listing

namespace MeshConsole

open Listing (cell header)

namespace NodeTable

/-- The table of the configured nodes. -/
def configured (client : Client) (pageSize : Nat) : Listing Node :=
  { client, collection := .nodes, pageSize }

/-- The table of the discovered nodes. -/
def discovered (client : Client) (pageSize : Nat) : Listing Node :=
  { client, collection := .autoNodes, pageSize }

/-- The key of a node in the addresses of its record. -/
def key (id : NodeId) : String := toString id.value.toNat

/-- The message that tells of the deletion of a node. -/
def deletedMessage (id : NodeId) : String := "Node " ++ id.text ++ " deleted"

/-- The row of a configured node. -/
def configuredRow (node : Node) : List (Markup (ListingEvent Node)) :=
  [cell node.id.text, cell node.tag, cell (yesNo node.inUse), cell (yesNo node.isLocal),
    Listing.actions ("/nodes/" ++ key node.id) (key node.id) (deletedMessage node.id)]

/-- The page of the configured nodes. -/
def configuredView (listing : Listing Node) : Markup (ListingEvent Node) :=
  listing.view [Listing.toolbar "Static nodes" "/nodes/create"] fun nodes =>
    Listing.table [header "Id", header "Tag", header "In use", header "Local", .plain "th" []]
      (nodes.map configuredRow)

/-- The row of a discovered node. -/
def discoveredRow (node : Node) : List (Markup (ListingEvent Node)) :=
  [cell node.id.text, cell node.tag, cell node.firmware, cell node.meshVersion,
    cell node.compileTime, cell node.lastSeen, cell node.devType.letter,
    cell (yesNo node.inUse), cell node.path,
    .plain "td" [.reference ("/autoNodes/" ++ key node.id) "Edit"]]

/-- The page of the discovered nodes. Three of its columns can be sorted. -/
def discoveredView (listing : Listing Node) : Markup (ListingEvent Node) :=
  listing.view [.labelled "h2" "Dynamic nodes"] fun nodes =>
    Listing.table
      [listing.sortHeader "Id" "id", listing.sortHeader "Hostname" "tag", header "Firmware",
        header "Mesh ver.", header "Compile time", listing.sortHeader "Last seen" "last_seen",
        header "Type", header "In use", header "Path", .plain "th" []]
      (nodes.map discoveredRow)

end NodeTable

namespace LinkTable

/-- The table of the configured links. -/
def configured (client : Client) (pageSize : Nat) : Listing Link :=
  { client, collection := .links, pageSize }

/-- The table of the discovered links. -/
def discovered (client : Client) (pageSize : Nat) : Listing Link :=
  { client, collection := .autoLinks, pageSize }

/-- The message that tells of the deletion of a link. -/
def deletedMessage : String := "Link deleted"

/-- The row of a link with its last cell. -/
def row (last : Markup (ListingEvent Link)) (link : Link) : List (Markup (ListingEvent Link)) :=
  [cell link.source.text, cell link.target.text, cell (percentText link.weight), last]

/-- The table of links with the last cell of every row. -/
def table (last : Link → Markup (ListingEvent Link)) (links : List Link) :
    Markup (ListingEvent Link) :=
  Listing.table [header "From", header "To", header "Weight", .plain "th" []]
    (links.map fun link => row (last link) link)

/-- The cell with the actions on a configured link. -/
def actions (link : Link) : Markup (ListingEvent Link) :=
  let key := recordKey link.id
  Listing.actions ("/links/" ++ key) key deletedMessage

/-- The page of the configured links. -/
def configuredView (listing : Listing Link) : Markup (ListingEvent Link) :=
  listing.view [Listing.toolbar "Static links" "/links/create"] (table actions)

/-- The page of the discovered links. Nothing can be done with them. -/
def discoveredView (listing : Listing Link) : Markup (ListingEvent Link) :=
  listing.view [.labelled "h2" "Dynamic links"] (table fun _ => .plain "td" [])

end LinkTable

namespace PairingTable

/-- The table of the ESPHome servers. -/
def servers (client : Client) (pageSize : Nat) : Listing Pairing :=
  { client, collection := .esphomeServers, pageSize }

/-- The table of the connections to the ESPHome servers. -/
def connections (client : Client) (pageSize : Nat) : Listing Pairing :=
  { client, collection := .esphomeConnections, pageSize }

/-- The row of a record: its key and the cell of every column. -/
def row (columns : List String) (record : Pairing) : List (Markup (ListingEvent Pairing)) :=
  cell (recordKey record.id) :: columns.map fun column => cell (record.cell column)

/-- The page of a table, with the label of the collection as its title. -/
def view (listing : Listing Pairing) : Markup (ListingEvent Pairing) :=
  listing.view [.labelled "h2" listing.collection.label] fun records =>
    let columns := Pairing.columns records
    Listing.table (header "Id" :: columns.map header) (records.map (row columns))

end PairingTable

end MeshConsole
