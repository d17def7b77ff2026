/-
This file holds the pages that create and edit a configured node.
-/

import MeshConsole.Form
import MeshConsole.Page.Editing
import MeshConsole.Page.Field
import MeshConsole.Page.Tables

namespace MeshConsole

/-- The address of the list of configured nodes. -/
def nodesAddress : String := "/nodes"

/-- The page that creates a configured node. -/
structure NodeCreation where
  client : Client
  id : String := ""
  tag : String := ""
  inUse : Bool := true
  faults : FieldFaults := []

/-- What happens on the page that creates a node. -/
inductive NodeCreationEvent where
  | idTyped (content : String)
  | tagTyped (content : String)
  | inUseChecked (checked : Bool)
  | submitted
  | created (result : Except RequestFailure Node)

namespace NodeCreation

/-- Faulty content shows its faults and sends nothing. Else the faults go and the payload is
sent. -/
def submit (page : NodeCreation) : Turn NodeCreation NodeCreationEvent :=
  match NewNode.ofForm page.id page.tag page.inUse with
  | .error faults => { page := { page with faults } }
  | .ok input =>
    { page := { page with faults := [] }
      effects := [.send ((page.client.create Node.decode? .nodes input.toJson).errand .created)] }

/-- The message that tells of a new node. -/
def createdMessage (node : Node) : String := "Node " ++ node.id.text ++ " created"

/-- The answer of the page to an event. -/
def update (page : NodeCreation) : NodeCreationEvent → Turn NodeCreation NodeCreationEvent
  | .idTyped content => { page := { page with id := content } }
  | .tagTyped content => { page := { page with tag := content } }
  | .inUseChecked checked => { page := { page with inUse := checked } }
  | .submitted => page.submit
  | .created result =>
    { page, effects := Effect.afterCommand nodesAddress (result.map createdMessage) }

/-- The page. -/
def view (page : NodeCreation) : Markup NodeCreationEvent :=
  .styled "section" "resource"
    [.labelled "h2" "Create static node",
     Field.form .submitted
      [Field.text "Id" page.id .idTyped (Field.faultOf page.faults "id"),
       Field.text "Tag" page.tag .tagTyped,
       Field.check "In use" page.inUse .inUseChecked,
       .submitButton "Save"]]

end NodeCreation

/-- The form for a configured node. -/
structure NodeDraft where
  node : Node
  tag : String
  inUse : Bool

/-- A new form shows what the record holds. -/
def NodeDraft.ofNode (node : Node) : NodeDraft := ⟨node, node.tag, node.inUse⟩

/-- What happens on the page that edits a node. -/
inductive NodeEditingEvent where
  | loaded (number : Nat) (result : Except RequestFailure Node)
  | tagTyped (content : String)
  | inUseChecked (checked : Bool)
  | submitted
  | saved (id : NodeId) (result : Except RequestFailure Node)
  | deletePressed
  | deleted (id : NodeId) (result : Except RequestFailure Unit)

/-- The page that edits a configured node. -/
abbrev NodeEditing := Editing NodeDraft

/-- The message that tells of a saved node. -/
def savedMessage (id : NodeId) : String := "Node " ++ id.text ++ " saved"

namespace NodeEditing

/-- The page for a key. -/
def ofKey (client : Client) (key : String) : NodeEditing := { client, collection := .nodes, key }

/-- The payload of the form is sent. -/
def save (page : NodeEditing) (draft : NodeDraft) : Turn NodeEditing NodeEditingEvent :=
  let id := draft.node.id
  let body := (NodeChange.ofForm draft.tag draft.inUse).toJson
  let call := page.client.update Node.decode? .nodes (NodeTable.key id) body
  { page, effects := [.send (call.errand (.saved id))] }

/-- The record of the form is to be deleted. -/
def delete (page : NodeEditing) (draft : NodeDraft) : Turn NodeEditing NodeEditingEvent :=
  let id := draft.node.id
  { page, effects := [.send ((page.client.delete .nodes (NodeTable.key id)).errand (.deleted id))] }

/-- The answer of the page to an event. -/
def update (page : NodeEditing) : NodeEditingEvent → Turn NodeEditing NodeEditingEvent
  | .loaded number result => { page := page.complete NodeDraft.ofNode number result }
  | .tagTyped content => { page := page.modify ({ · with tag := content }) }
  | .inUseChecked checked => { page := page.modify ({ · with inUse := checked }) }
  | .submitted => page.withForm page.save
  | .deletePressed => page.withForm page.delete
  | .saved id result =>
    { page, effects := Effect.afterCommand nodesAddress (result.map fun _ => savedMessage id) }
  | .deleted id result =>
    { page
      effects :=
        Effect.afterCommand nodesAddress (result.map fun _ => NodeTable.deletedMessage id) }

/-- The form. -/
def formView (draft : NodeDraft) : Markup NodeEditingEvent :=
  Field.form .submitted
    [Field.fixed "Id" draft.node.id.text,
     Field.text "Tag" draft.tag .tagTyped,
     Field.check "In use" draft.inUse .inUseChecked,
     .styled "div" "toolbar"
      [.submitButton "Save", .button "danger" "Delete" .deletePressed]]

/-- The page. -/
def view (page : NodeEditing) : Markup NodeEditingEvent :=
  Editing.view page "Edit static node" fun draft => [formView draft]

end NodeEditing

end MeshConsole
