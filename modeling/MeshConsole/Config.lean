/-
This file reads the settings of the console from the page that hosts it.
-/

import MeshConsole.Log
import MeshConsole.Record.Fields
import MeshConsole.Text.Blank

namespace MeshConsole

open Json Record

/-- The settings of the console. -/
structure Config where
  /-- The root of the backend, without a slash at the end. -/
  apiBase : String
  /-- The least severe lines that reach the log. -/
  logLevel : LogLevel
  /-- The number of rows on a page of a table. -/
  pageSize : Nat
deriving DecidableEq

/-- The backend stands below the page unless the settings name another root. -/
def defaultApiBase (pathname : String) : String :=
  Text.withoutTrailingSlashes pathname ++ "/api/v1"

/-- The settings of a page that gives none. -/
def Config.default (pathname : String) : Config :=
  { apiBase := defaultApiBase pathname, logLevel := .debug, pageSize := 25 }

/-- The settings as the page writes them. -/
structure WrittenConfig where
  apiBase : Option String := none
  logLevel : Option String := none
  pageSize : Option Nat := none

/-- This function decodes written settings. Each member may be missing or `null`. -/
def WrittenConfig.decode? (_room : Nat) (written : Written) : Option WrittenConfig := do
  let fields ← fields? ["api_base", "log_level", "list_page_size"] written
  let apiBase ← optional (nullable? text?) none fields "api_base"
  let logLevel ← optional (nullable? text?) none fields "log_level"
  let pageSize ← optional (nullable? size?) none fields "list_page_size"
  pure { apiBase, logLevel, pageSize }

/-- A blank root, an unknown severity and a page size of zero count as missing. -/
def WrittenConfig.resolve (written : WrittenConfig) (pathname : String) : Config :=
  let fallback := Config.default pathname
  { apiBase := match written.apiBase with
      | some base =>
        if (Text.trimmed base).isEmpty then fallback.apiBase
        else Text.withoutTrailingSlashes base
      | none => fallback.apiBase
    logLevel := (written.logLevel.bind LogLevel.ofName?).getD fallback.logLevel
    pageSize := match written.pageSize with
      | some size => if 0 < size then size else fallback.pageSize
      | none => fallback.pageSize }

/-- This function reads the settings text of a page served from `pathname`. -/
def Config.parse? (text pathname : String) : Option Config :=
  (ofText? WrittenConfig.decode? text).map (·.resolve pathname)

/-- An element of the hosting page. -/
structure HostElement where
  id : String
  isScript : Bool
  /-- There is no text when reading it fails. -/
  text : Option String

/-- The page that hosts the console, as far as the settings need it. -/
structure HostPage where
  hasWindow : Bool := true
  hasDocument : Bool := true
  /-- There is no path when reading it fails. -/
  pathname : Option String := none
  elements : List HostElement := []

/-- The settings stand in the first element with this identifier. -/
def configElementId : String := "app-config"

/-- The settings text of a page. The element must be a script whose text can be read. -/
def HostPage.configText? (page : HostPage) : Option String := do
  if page.hasWindow ∧ page.hasDocument then
    let element ← page.elements.find? fun element => element.id == configElementId
    if element.isScript then element.text else none
  else none

/-- The path that the page was served from. -/
def HostPage.path (page : HostPage) : String :=
  if page.hasWindow then page.pathname.getD "/" else "/"

/-- The reason that stands in the log when the settings text is no record of settings. -/
def configFault : String := "not a record of settings"

/-- This function reads the settings of the hosting page. Settings that cannot be read are logged
and leave the defaults. -/
def Config.load (page : HostPage) : Config × List LogLine :=
  match page.configText? with
  | none => (Config.default page.path, [])
  | some text =>
    match Config.parse? text page.path with
    | some config => (config, [])
    | none =>
      (Config.default page.path,
        [.make .warn ("failed to parse app config: " ++ configFault)])

end MeshConsole
