/-
This file runs the console: the page on the screen and those that have left it, the requests that
wait for replies, the canvas, the notices and the log.
-/

import MeshConsole.App.Page
import MeshConsole.Config
import MeshConsole.Graph.Host
import MeshConsole.Markup.Outline

namespace MeshConsole

/-- A request that waits for its reply. -/
structure WaitingRequest where
  number : Nat
  /-- The number of the page that sent it. -/
  owner : Nat
  errand : Errand PageEvent

/-- A page that has left the screen. -/
structure RetiredPage where
  number : Nat
  page : Page

/-- The state of the console. -/
structure Session where
  config : Config
  client : Client
  screen : Screen
  /-- The current address. -/
  path : String
  page : Page
  /-- Pages are numbered in the order in which they come on the screen. -/
  pageNumber : Nat := 0
  retired : List RetiredPage := []
  canvas : Option CanvasHost := none
  /-- Canvases of pages that have left the screen. -/
  lostCanvases : List CanvasHost := []
  board : NoticeBoard := {}
  /-- All requests so far. A request is numbered by its place. -/
  sent : List Request := []
  waiting : List WaitingRequest := []
  log : List LogLine := []

namespace Session

/-- Lines that are severe enough reach the log. -/
def write (session : Session) (lines : List LogLine) : Session :=
  { session with log := session.log ++ lines.filter (LogLine.passes session.config.logLevel) }

/-- A request takes the next number and waits. -/
def send (session : Session) (owner : Nat) (errand : Errand PageEvent) : Session :=
  { session with
    sent := session.sent ++ [errand.request]
    waiting := session.waiting ++ [⟨session.sent.length, owner, errand⟩] }

/-- A notice is logged too, a failure as a warning. -/
def notify (session : Session) (level : NoticeLevel) (text : String) : Session :=
  let severity : LogLevel := match level with
    | .info => .info
    | .error => .warn
  let told := session.write [.make severity text]
  { told with board := told.board.raise level text }

/-- The canvas of the page on the screen shows another picture. -/
def draw (session : Session) (owner : Nat) (picture : Picture) : Session :=
  match session.canvas with
  | some canvas =>
    if owner = session.pageNumber then
      let (canvas, lines) := canvas.show picture
      { session with canvas := some canvas }.write lines
    else session
  | none => session

/-- This step carries out an effect that leaves the page on the screen. -/
def perform (owner : Nat) (session : Session) : Effect PageEvent → Session
  | .send errand => session.send owner errand
  | .log line => session.write [line]
  | .notify level text => session.notify level text
  | .draw picture => session.draw owner picture
  | .visit _ => session

/-- The page on the screen takes a turn that does not lead to another page. -/
def settle (session : Session) (turn : Turn Page PageEvent) : Session :=
  turn.effects.foldl (perform session.pageNumber) { session with page := turn.page }

/-- A new page asks for its data. Then its canvas appears. -/
def openPage (session : Session) : Session :=
  let started := session.settle session.page.start
  match started.page.picture? with
  | none => started
  | some picture =>
    let (canvas, lines) :=
      CanvasHost.create { height := some NetworkGraph.canvasHeight } picture started.screen
    { started with canvas := some canvas }.write lines

/-- The page leaves the screen with its canvas. -/
def retirePage (session : Session) : Session :=
  { session with
    pageNumber := session.pageNumber + 1
    retired := ⟨session.pageNumber, session.page.retire⟩ :: session.retired
    canvas := none
    lostCanvases := session.lostCanvases ++ (session.canvas.map CanvasHost.unmount).toList }

/-- The address changes. A page of the same kind stays and at most asks for another record. Any
other page comes new on the screen. -/
def go (session : Session) (path : String) : Session :=
  let moved := { session with path }
  let route := Route.ofPath path
  if Route.ofPath session.path = route then moved
  else
    match session.page.retarget? route with
    | some turn => moved.settle turn
    | none =>
      { moved.retirePage with
        page := Page.ofRoute session.client session.config.pageSize route }.openPage

/-- This step carries out any effect. -/
def carryOut (owner : Nat) (session : Session) (effect : Effect PageEvent) : Session :=
  match effect with
  | .visit path => session.go path
  | other => session.perform owner other

/-- Something happens on a page, perhaps on one that has left the screen. -/
def happen (session : Session) (owner : Nat) (event : PageEvent) : Session :=
  if owner = session.pageNumber then
    let turn := session.page.update event
    turn.effects.foldl (carryOut owner) { session with page := turn.page }
  else
    match session.retired.find? fun retired => retired.number == owner with
    | none => session
    | some old =>
      let turn := old.page.update event
      let retired := session.retired.map fun retired =>
        if retired.number = owner then { retired with page := turn.page } else retired
      turn.effects.foldl (carryOut owner) { session with retired }

/-- The console starts on a page that hosts it. Lines before the settings are read are logged
down to debugging. -/
def launch (host : HostPage) (screen : Screen) (path : String) : Session :=
  let (config, lines) := Config.load host
  let session : Session :=
    { config
      client := Client.rooted config.apiBase
      screen
      path
      page := Page.ofRoute (Client.rooted config.apiBase) config.pageSize (Route.ofPath path)
      log := .make .info "logging initialized" :: lines }
  (session.write [.make .info ("using API at " ++ config.apiBase)]).openPage

/-- A waiting request meets the browser and the backend. -/
def answer (session : Session) (request : WaitingRequest) (browser : Browser) : Session :=
  let exchange := browser.exchange request.errand.request
  let (event, lines) := request.errand.receive exchange.outcome
  let waiting := session.waiting.filter fun other => other.number ≠ request.number
  ({ session with waiting }.write lines).happen request.owner event

/-- The waiting request with a number. -/
def waiting? (session : Session) (number : Nat) : Option WaitingRequest :=
  session.waiting.find? fun request => request.number == number

/-- The frames that are requested run, those of lost canvases first. -/
def frame (session : Session) (behavior : CanvasBehavior) : Session × List CanvasCall :=
  let told := session.lostCanvases.foldl
    (fun session canvas => session.write (canvas.runFrame behavior).lines) session
  let rested := { told with lostCanvases := [] }
  match session.canvas with
  | none => (rested, [])
  | some canvas =>
    let run := canvas.runFrame behavior
    ({ rested with canvas := some run.host }.write run.lines, run.calls)

/-- Several frames in a row. The result shows the calls of the last one. -/
def frames (behavior : CanvasBehavior) : Nat → Session → Session × List CanvasCall
  | 0, session => (session, [])
  | 1, session => session.frame behavior
  | count + 1, session => frames behavior count (session.frame behavior).1

end Session

end MeshConsole
