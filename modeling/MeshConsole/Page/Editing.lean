/-
This file holds the pages that edit one record: the loading of the record for a key, and what
follows a command.
-/

import MeshConsole.Page.Load

namespace MeshConsole

open Json

/-- A page with the form for one record. The form is there once the record is loaded. -/
structure Editing (form : Type) where
  client : Client
  collection : Collection
  key : String
  loader : Loader form := {}

namespace Editing

variable {α form event : Type}

/-- This step asks for the record. -/
def reload (decode : Nat → Written → Option α)
    (loaded : Nat → Except RequestFailure α → event) (editing : Editing form) :
    Turn (Editing form) event :=
  let (issued, number) := editing.loader.issue
  let call := editing.client.one decode editing.collection editing.key
  { page := { editing with loader := issued }
    effects := [.send (call.errand (loaded number))] }

/-- The record of another key replaces the current one once it is loaded. -/
def retarget (decode : Nat → Written → Option α) (loaded : Nat → Except RequestFailure α → event)
    (editing : Editing form) (key : String) : Turn (Editing form) event :=
  if editing.key = key then { page := editing }
  else { editing with key }.reload decode loaded

/-- The record arrives and fills a form. -/
def complete (fill : α → form) (editing : Editing form) (number : Nat)
    (result : Except RequestFailure α) : Editing form :=
  { editing with loader := editing.loader.complete number (result.map fill) }

/-- The user changes the form. -/
def modify (editing : Editing form) (change : form → form) : Editing form :=
  { editing with loader := editing.loader.modify change }

/-- The form, once it is there. -/
def form? (editing : Editing form) : Option form := editing.loader.load.value?

/-- A step for a form that is there. -/
def withForm (editing : Editing form) (act : form → Turn (Editing form) event) :
    Turn (Editing form) event :=
  match editing.form? with
  | some form => act form
  | none => { page := editing }

/-- A page with a title and the form once it is there. -/
def view (editing : Editing form) (title : String) (content : form → List (Markup event)) :
    Markup event :=
  .styled "section" "resource" (.labelled "h2" title :: editing.loader.load.view content)

end Editing

/-- A successful command shows its message and leads to a list. A failed one shows its text for
the user and leads nowhere. -/
def Effect.afterCommand {event : Type} (list : String) :
    Except RequestFailure String → List (Effect event)
  | .ok message => [.notify .info message, .visit list]
  | .error error => Effect.reportFailure error

end MeshConsole
