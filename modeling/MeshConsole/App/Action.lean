/-
This file holds what the user does on the screen, and what the screen shows.
-/

import MeshConsole.App.Session

namespace MeshConsole

/-- Something that happens on the screen. -/
inductive ScreenEvent where
  | page (event : PageEvent)
  | dismiss (notice : Nat)

/-- The whole screen. -/
def Session.view (session : Session) : Markup ScreenEvent :=
  Shell.view (session.page.view.map .page) .dismiss session.board.queue.notices

/-- The session takes an event of the screen. -/
def Session.react (session : Session) : ScreenEvent → Session
  | .page event => session.happen session.pageNumber event
  | .dismiss notice => { session with board := session.board.dismiss notice }

/-- This is why an action cannot be done. -/
inductive ActionFault where
  | noElement
  | disabled
  | noHandler
  | readonly
  | notWaiting
deriving DecidableEq, Repr

/-- Something that the user, the clock or the backend does. -/
inductive Action where
  /-- A click on one of the elements with a tag whose text starts with some text. -/
  | click (tag start : String) (place : Nat)
  | type (field content : String)
  | check (field : String) (checked : Bool)
  | choose (field key : String)
  | submit
  | pointer (event : PointerEvent)
  | frames (behavior : CanvasBehavior) (count : Nat)
  | go (path : String)
  | wait (milliseconds : Nat)
  | reply (number : Nat) (browser : Browser)

/-- The result of an action. -/
structure ActionResult where
  session : Session
  fault : Option ActionFault := none
  /-- The browser is kept from acting on its own. -/
  prevented : Bool := false
  calls : List CanvasCall := []

namespace Session

/-- Boxes can only be clicked when they are notices. -/
def clickable (element : Placed ScreenEvent) : Bool :=
  element.tag != "div" || element.within == Shell.noticesClass

/-- A click leads to the address of a reference or raises the event of the element. -/
def clickOn (session : Session) (element : Placed ScreenEvent) : ActionResult :=
  match element.traits.address with
  | some address => { session := session.go address }
  | none =>
    if element.traits.disabled then { session, fault := some .disabled }
    else
      match element.traits.reactions.click with
      | some event => { session := session.react event }
      | none => { session, fault := some .noHandler }

/-- A click on an element of the screen. -/
def click (session : Session) (tag start : String) (place : Nat) : ActionResult :=
  let fits (element : Placed ScreenEvent) : Bool :=
    element.tag == tag && clickable element && element.text.startsWith start
  match (session.view.elements.filter fits)[place]? with
  | some element => session.clickOn element
  | none => { session, fault := some .noElement }

/-- An action on the first control with a label. -/
def onControl (session : Session) (field : String)
    (act : Reactions ScreenEvent → Option (Option ScreenEvent)) : ActionResult :=
  match session.view.controls.find? fun control => control.label == some field with
  | none => { session, fault := some .noElement }
  | some found =>
    match act found.reactions with
    | none => { session, fault := some .noHandler }
    | some none => { session }
    | some (some event) => { session := session.react event }

/-- The user types into a control. A text that cannot be changed refuses it. -/
def type (session : Session) (field content : String) : ActionResult :=
  match session.view.controls.find? fun control => control.label == some field with
  | some ⟨_, .text _ _ true, _⟩ => { session, fault := some .readonly }
  | _ => session.onControl field fun reactions =>
      reactions.input.map fun react => some (react content)

/-- The submission of the first form. -/
def submit (session : Session) : ActionResult :=
  match session.view.elements.find? fun element => element.tag == "form" with
  | none => { session, fault := some .noElement }
  | some form =>
    match form.traits.reactions.submit with
    | some event => { session := session.react event, prevented := true }
    | none => { session, fault := some .noHandler }

/-- An event of the pointer on the canvas. -/
def pointer (session : Session) (event : PointerEvent) : ActionResult :=
  match session.canvas with
  | none => { session, fault := some .noElement }
  | some canvas =>
    { session := { session with canvas := some (canvas.pointer session.screen event) }
      fault := if event.isHandled then none else some .noHandler
      prevented := event.prevents }

/-- This step does an action. A check mark is no key of a selector, and a key brings no check mark
to a checkbox. -/
def act (session : Session) : Action → ActionResult
  | .click tag start place => session.click tag start place
  | .type field content => session.type field content
  | .check field checked =>
    session.onControl field fun reactions =>
      (reactions.check.map fun react => some (react checked)).or
        (reactions.choose.map fun _ => none)
  | .choose field key =>
    session.onControl field fun reactions =>
      (reactions.choose.map fun react => react key).or
        (reactions.check.map fun react => some (react false))
  | .submit => session.submit
  | .pointer event => session.pointer event
  | .frames behavior count =>
    let (session, calls) := frames behavior count session
    { session, calls }
  | .go path => { session := session.go path }
  | .wait milliseconds =>
    { session := { session with board := session.board.wait milliseconds } }
  | .reply number browser =>
    match session.waiting? number with
    | some request => { session := session.answer request browser }
    | none => { session, fault := some .notWaiting }

end Session

/-- A line of an outline: the tag of an element, its reference or style class, and its text. -/
structure OutlineEntry where
  tag : String
  trait : String
  text : String
deriving DecidableEq, Repr

/-- The outline of elements: their leaves and the boxes behind tabs. -/
def outline {event : Type} (elements : List (Placed event)) : List OutlineEntry :=
  elements.filterMap fun element =>
    if element.isTab then some ⟨"div", element.traits.styleClass, ""⟩
    else if element.inOutline then some ⟨element.tag, element.trait, element.shownText⟩
    else none

/-- The outline of the page on the screen. -/
def Session.outline (session : Session) : List OutlineEntry :=
  MeshConsole.outline session.page.view.elements

/-- The leaves of a page as a written document shows them. -/
def Markup.leaves {event : Type} (part : Markup event) : List OutlineEntry :=
  (part.elements.filter Placed.inOutline).map fun element =>
    ⟨element.tag, element.trait, element.writtenText⟩

end MeshConsole
