/-
This file holds the loading of a page's data. Only the newest request may write what is shown.
-/

import MeshConsole.Page.Effect
import MeshConsole.Markup

namespace MeshConsole

/-- The data of a page: not yet there, there, or replaced by the text of a failure. -/
inductive Load (α : Type) where
  | pending
  | ready (value : α)
  | failed (message : String)
deriving DecidableEq

instance {α : Type} : Inhabited (Load α) := ⟨.pending⟩

/-- A failure shows its text for the user. -/
def Load.ofResult {α : Type} : Except RequestFailure α → Load α
  | .ok value => .ready value
  | .error error => .failed error.userMessage

/-- The loaded data with the number of the newest request. -/
structure Loader (α : Type) where
  newest : Nat := 0
  load : Load α := .pending

instance {α : Type} : Inhabited (Loader α) := ⟨{}⟩

/-- A new request takes the next number and makes every earlier one old. -/
def Loader.issue {α : Type} (loader : Loader α) : Loader α × Nat :=
  ({ loader with newest := loader.newest + 1 }, loader.newest + 1)

/-- The result of the newest request is shown. The result of an old one is dropped. -/
def Loader.complete {α : Type} (loader : Loader α) (number : Nat)
    (result : Except RequestFailure α) : Loader α :=
  if loader.newest = number then { loader with load := Load.ofResult result } else loader

/-- This function issues a request with its number. The outcome raises an event with the same
number. -/
def Loader.send {α event : Type} (loader : Loader α) (call : Call α)
    (loaded : Nat → Except RequestFailure α → event) : Turn (Loader α) event :=
  let (issued, number) := loader.issue
  { page := issued, effects := [.send (call.errand (loaded number))] }

/-- This function changes data that is there. -/
def Load.map {α β : Type} (f : α → β) : Load α → Load β
  | .pending => .pending
  | .ready value => .ready (f value)
  | .failed message => .failed message

/-- This function changes data that is there and leaves the numbering alone. -/
def Loader.modify {α : Type} (f : α → α) (loader : Loader α) : Loader α :=
  { loader with load := loader.load.map f }

/-- The data, if it is there. -/
def Load.value? {α : Type} : Load α → Option α
  | .ready value => some value
  | _ => none

/-- Until the data is there, a page shows a notice of waiting or of failure in its place. -/
def Load.view {α event : Type} (content : α → List (Markup event)) : Load α → List (Markup event)
  | .pending => [.labelled "p" "Loading..."]
  | .failed message => [.failure message]
  | .ready value => content value

end MeshConsole
