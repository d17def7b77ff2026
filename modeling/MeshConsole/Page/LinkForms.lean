/-
This file holds the pages that create and edit a configured link.
-/

import MeshConsole.Form
import MeshConsole.Page.Editing
import MeshConsole.Page.Field
import MeshConsole.Page.Tables

namespace MeshConsole

/-- The address of the list of configured links. -/
def linksAddress : String := "/links"

/-- The fields of a link. -/
structure LinkFields where
  source : String := ""
  target : String := ""
  percent : String := "100"
  faults : FieldFaults := []

/-- The user types into a field of a link. -/
inductive LinkTyping where
  | source (content : String)
  | target (content : String)
  | percent (content : String)

namespace LinkFields

/-- New content of one field. -/
def type (fields : LinkFields) : LinkTyping → LinkFields
  | .source content => { fields with source := content }
  | .target content => { fields with target := content }
  | .percent content => { fields with percent := content }

/-- The payload of the fields. -/
def input (fields : LinkFields) : Except FieldFaults LinkPayload :=
  LinkPayload.ofForm fields.source fields.target fields.percent

/-- Faulty content shows its faults and sends nothing. Else the faults go and the payload is
sent. -/
def submit {event : Type} (fields : LinkFields) (send : LinkPayload → Errand event) :
    LinkFields × List (Effect event) :=
  match fields.input with
  | .error faults => ({ fields with faults }, [])
  | .ok input => ({ fields with faults := [] }, [.send (send input)])

/-- The inputs of a link. -/
def view (fields : LinkFields) : List (Markup LinkTyping) :=
  [Field.text "From" fields.source .source (Field.faultOf fields.faults "from"),
   Field.text "To" fields.target .target (Field.faultOf fields.faults "to"),
   Field.typed "number" "Weight (%)" fields.percent .percent
    (Field.faultOf fields.faults "weight")]

/-- New fields show a link as the tables do. -/
def ofLink (link : Link) : LinkFields :=
  { source := link.source.text
    target := link.target.text
    percent := Decimal.plain (percentOfWeight link.weight) }

end LinkFields

/-- The message that tells of a saved link. -/
def linkSavedMessage (link : Link) : String :=
  "Link " ++ link.source.text ++ " -> " ++ link.target.text ++ " saved"

/-- The page that creates a link. -/
structure LinkCreation where
  client : Client
  fields : LinkFields := {}

/-- What happens on the page that creates a link. -/
inductive LinkCreationEvent where
  | typed (typing : LinkTyping)
  | submitted
  | saved (result : Except RequestFailure Link)

namespace LinkCreation

/-- The errand that creates a link. -/
def errand (page : LinkCreation) (input : LinkPayload) : Errand LinkCreationEvent :=
  (page.client.create Link.decode? .links input.toJson).errand .saved

/-- The answer of the page to an event. -/
def update (page : LinkCreation) : LinkCreationEvent → Turn LinkCreation LinkCreationEvent
  | .typed typing => { page := { page with fields := page.fields.type typing } }
  | .submitted =>
    let (fields, effects) := page.fields.submit page.errand
    { page := { page with fields }, effects }
  | .saved result =>
    { page, effects := Effect.afterCommand linksAddress (result.map linkSavedMessage) }

/-- The page. -/
def view (page : LinkCreation) : Markup LinkCreationEvent :=
  .styled "section" "resource"
    [.labelled "h2" "Create static link",
     Field.form .submitted
      (mapMarkup .typed page.fields.view ++ [.submitButton "Save"])]

end LinkCreation

/-- The form for a configured link. -/
structure LinkDraft where
  key : String
  fields : LinkFields

/-- A new form shows what the record holds. -/
def LinkDraft.ofLink (link : Link) : LinkDraft := ⟨recordKey link.id, LinkFields.ofLink link⟩

/-- What happens on the page that edits a link. -/
inductive LinkEditingEvent where
  | loaded (number : Nat) (result : Except RequestFailure Link)
  | typed (typing : LinkTyping)
  | submitted
  | saved (result : Except RequestFailure Link)
  | deletePressed
  | deleted (result : Except RequestFailure Unit)

/-- The page that edits a configured link. -/
abbrev LinkEditing := Editing LinkDraft

namespace LinkEditing

/-- The page for a key. -/
def ofKey (client : Client) (key : String) : LinkEditing := { client, collection := .links, key }

/-- The errand that changes the record with a key. -/
def errand (page : LinkEditing) (key : String) (input : LinkPayload) : Errand LinkEditingEvent :=
  (page.client.update Link.decode? .links key input.toJson).errand .saved

/-- The form is submitted. -/
def save (page : LinkEditing) (draft : LinkDraft) : Turn LinkEditing LinkEditingEvent :=
  let (fields, effects) := draft.fields.submit (errand page draft.key)
  { page := page.modify ({ · with fields }), effects }

/-- The record of the form is to be deleted. -/
def delete (page : LinkEditing) (draft : LinkDraft) : Turn LinkEditing LinkEditingEvent :=
  { page, effects := [.send ((page.client.delete .links draft.key).errand .deleted)] }

/-- The answer of the page to an event. -/
def update (page : LinkEditing) : LinkEditingEvent → Turn LinkEditing LinkEditingEvent
  | .loaded number result => { page := page.complete LinkDraft.ofLink number result }
  | .typed typing =>
    { page := page.modify fun draft => { draft with fields := draft.fields.type typing } }
  | .submitted => page.withForm (save page)
  | .deletePressed => page.withForm (delete page)
  | .saved result =>
    { page, effects := Effect.afterCommand linksAddress (result.map linkSavedMessage) }
  | .deleted result =>
    { page
      effects := Effect.afterCommand linksAddress (result.map fun _ => LinkTable.deletedMessage) }

/-- The form. -/
def formView (draft : LinkDraft) : Markup LinkEditingEvent :=
  Field.form .submitted
    (mapMarkup .typed draft.fields.view ++
      [.styled "div" "toolbar"
        [.submitButton "Save", .button "danger" "Delete" .deletePressed]])

/-- The page. -/
def view (page : LinkEditing) : Markup LinkEditingEvent :=
  Editing.view page "Edit static link" fun draft => [formView draft]

end LinkEditing

end MeshConsole
