/-
This file holds the addresses of the pages.
-/

import MeshConsole.Text.Split

namespace MeshConsole

/-- The page that an address names. -/
inductive Route where
  | dashboard
  | nodes
  | nodeCreation
  | node (key : String)
  | links
  | linkCreation
  | link (key : String)
  | discoveredNodes
  | discoveredNode (key : String)
  | discoveredLinks
  | servers
  | connections
  | discovery
  | graph
  | unknown
deriving DecidableEq, Repr

/-- The parts of an address between its slashes, without empty parts and without the query. -/
def pathSegments (path : String) : List String :=
  ((Text.splitAt '/' (path.toList.takeWhile (· ≠ '?'))).filter (· ≠ [])).map String.ofList

/-- The page for the parts of an address. A fixed part goes before a key. -/
def Route.ofSegments : List String → Route
  | [] => .dashboard
  | ["nodes"] => .nodes
  | ["nodes", "create"] => .nodeCreation
  | ["nodes", key] => .node key
  | ["links"] => .links
  | ["links", "create"] => .linkCreation
  | ["links", key] => .link key
  | ["autoNodes"] => .discoveredNodes
  | ["autoNodes", key] => .discoveredNode key
  | ["autoLinks"] => .discoveredLinks
  | ["esphomeServers"] => .servers
  | ["esphomeConnections"] => .connections
  | ["discoverylive"] => .discovery
  | ["showgraph"] => .graph
  | _ => .unknown

/-- The page for an address. -/
def Route.ofPath (path : String) : Route :=
  Route.ofSegments (pathSegments path)

end MeshConsole
