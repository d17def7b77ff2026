/-
This file holds what a page asks the console to do when something happens on it.
-/

import MeshConsole.Backend.Client
import MeshConsole.Notice
import MeshConsole.Topology.Picture

namespace MeshConsole

/-- A request that a page sends, and the event that its outcome raises. -/
structure Errand (event : Type) where
  request : Request
  receive : Except RequestFailure Reply → Logged event

/-- The errand of a call whose result raises an event. -/
def Call.errand {α event : Type} (call : Call α) (raise : Except RequestFailure α → event) :
    Errand event :=
  { request := call.request
    receive := fun outcome =>
      let (result, lines) := call.finish outcome
      (raise result, lines) }

/-- What a page asks for. -/
inductive Effect (event : Type) where
  | send (errand : Errand event)
  | log (line : LogLine)
  | notify (level : NoticeLevel) (text : String)
  /-- Another page is to be shown. -/
  | visit (path : String)
  /-- The canvas is to show another picture. -/
  | draw (picture : Picture)

/-- The answer of a page to an event: its next state and what it asks for, in order. -/
structure Turn (page event : Type) where
  page : page
  effects : List (Effect event) := []

/-- The answer of a page in its own terms: its next state and its orders. -/
structure Plan (page order : Type) where
  page : page
  orders : List order := []

/-- A plan becomes a turn when every order becomes an effect. -/
def Plan.turn {page order event : Type} (effect : order → Effect event)
    (plan : Plan page order) : Turn page event :=
  { page := plan.page, effects := plan.orders.map effect }

/-- Orders before those of a plan. -/
def Plan.after {page order : Type} (orders : List order) (plan : Plan page order) :
    Plan page order :=
  { plan with orders := orders ++ plan.orders }

/-- The same errand with another event. -/
def Errand.map {event other : Type} (f : event → other) (errand : Errand event) : Errand other :=
  { request := errand.request
    receive := fun outcome =>
      let (happening, lines) := errand.receive outcome
      (f happening, lines) }

/-- The same effect with another event. -/
def Effect.map {event other : Type} (f : event → other) : Effect event → Effect other
  | .send errand => .send (errand.map f)
  | .log line => .log line
  | .notify level text => .notify level text
  | .visit path => .visit path
  | .draw picture => .draw picture

/-- The same turn of a larger page. -/
def Turn.map {page event other happening : Type} (f : page → other) (g : event → happening)
    (turn : Turn page event) : Turn other happening :=
  { page := f turn.page, effects := turn.effects.map (Effect.map g) }

/-- The requests among effects. -/
def Effect.requests {event : Type} (effects : List (Effect event)) : List Request :=
  effects.filterMap fun effect =>
    match effect with
    | .send errand => some errand.request
    | _ => none

/-- A failed command shows its text for the user. -/
def Effect.reportFailure {event : Type} (error : RequestFailure) : List (Effect event) :=
  [.notify .error error.userMessage]

end MeshConsole
