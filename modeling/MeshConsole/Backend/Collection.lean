/-
This file names the collections of the backend.
-/

namespace MeshConsole

/-- A collection that the backend exposes. -/
inductive Collection where
  | nodes
  | links
  | autoNodes
  | autoLinks
  | esphomeServers
  | esphomeConnections
  | neighbors
deriving DecidableEq, Repr, Inhabited

/-- Every collection, in the order of the menu. -/
def Collection.all : List Collection :=
  [.nodes, .links, .autoNodes, .autoLinks, .esphomeServers, .esphomeConnections, .neighbors]

/-- The path segment of a collection, which is also its name in the log. -/
def Collection.path : Collection → String
  | .nodes => "nodes"
  | .links => "links"
  | .autoNodes => "autoNodes"
  | .autoLinks => "autoLinks"
  | .esphomeServers => "esphomeServers"
  | .esphomeConnections => "esphomeConnections"
  | .neighbors => "neighbors"

/-- The label of a collection in the menu. -/
def Collection.label : Collection → String
  | .nodes => "Static nodes"
  | .links => "Static links"
  | .autoNodes => "Dynamic nodes"
  | .autoLinks => "Dynamic links"
  | .esphomeServers => "EspHome Servers"
  | .esphomeConnections => "EspHome Clients"
  | .neighbors => "Neighbors"

/-- The collection of a path segment. -/
def Collection.ofPath? (path : String) : Option Collection :=
  Collection.all.find? fun collection => collection.path == path

end MeshConsole
