/-
This file holds the page of one discovered node: what the backend knows about it, what the device
itself answers, and the commands to it.
-/

import MeshConsole.Form
import MeshConsole.Page.Editing
import MeshConsole.Page.Field
import MeshConsole.Page.NodeForms

namespace MeshConsole

/-- The address of the list of discovered nodes. -/
def discoveredAddress : String := "/autoNodes"

/-- The parts of the form. -/
inductive NodeTab where
  /-- What the backend knows. -/
  | known
  /-- What the device answers. -/
  | remote
deriving DecidableEq, Repr

/-- The form for a discovered node. -/
structure DiscoveredDraft where
  details : NodeDetails
  tab : NodeTab := .known
  tag : String
  inUse : Bool

/-- A new form shows what the record holds. -/
def DiscoveredDraft.ofDetails (details : NodeDetails) : DiscoveredDraft :=
  { details, tag := details.node.tag, inUse := details.node.inUse }

/-- What happens on the page of a discovered node. -/
inductive DiscoveredNodeEvent where
  | loaded (number : Nat) (result : Except RequestFailure NodeDetails)
  | tabPressed (tab : NodeTab)
  | tagTyped (content : String)
  | inUseChecked (checked : Bool)
  | submitted
  | saved (id : NodeId) (result : Except RequestFailure NodeDetails)
  | rebootPressed
  | rebooted (result : Except RequestFailure String)
  | deletePressed
  | deleted (id : NodeId) (result : Except RequestFailure Unit)

/-- The page of a discovered node. -/
abbrev DiscoveredNode := Editing DiscoveredDraft

/-- The message for a reboot that the backend acknowledges without a text. -/
def rebootSent : String := "Node rebooted"

/-- A reboot shows the message of the backend. -/
def rebootEffects {event : Type} : Except RequestFailure String → List (Effect event)
  | .ok message => [.notify .info (if message.isEmpty then rebootSent else message)]
  | .error error => Effect.reportFailure error

namespace DiscoveredNode

/-- The page for a key. -/
def ofKey (client : Client) (key : String) : DiscoveredNode :=
  { client, collection := .autoNodes, key }

/-- The payload of the form is sent. -/
def save (page : DiscoveredNode) (draft : DiscoveredDraft) :
    Turn DiscoveredNode DiscoveredNodeEvent :=
  let id := draft.details.node.id
  let body := (NodeChange.ofForm draft.tag draft.inUse).toJson
  let call := page.client.update NodeDetails.decode? .autoNodes (NodeTable.key id) body
  { page, effects := [.send (call.errand (.saved id))] }

/-- The node is to be rebooted. -/
def reboot (page : DiscoveredNode) (draft : DiscoveredDraft) :
    Turn DiscoveredNode DiscoveredNodeEvent :=
  { page, effects := [.send ((page.client.reboot draft.details.node.id).errand .rebooted)] }

/-- The record of the form is to be deleted. -/
def delete (page : DiscoveredNode) (draft : DiscoveredDraft) :
    Turn DiscoveredNode DiscoveredNodeEvent :=
  let id := draft.details.node.id
  { page
    effects := [.send ((page.client.delete .autoNodes (NodeTable.key id)).errand (.deleted id))] }

/-- The answer of the page to an event. -/
def update (page : DiscoveredNode) :
    DiscoveredNodeEvent → Turn DiscoveredNode DiscoveredNodeEvent
  | .loaded number result => { page := page.complete DiscoveredDraft.ofDetails number result }
  | .tabPressed tab => { page := page.modify ({ · with tab }) }
  | .tagTyped content => { page := page.modify ({ · with tag := content }) }
  | .inUseChecked checked => { page := page.modify ({ · with inUse := checked }) }
  | .submitted => page.withForm (save page)
  | .rebootPressed => page.withForm (reboot page)
  | .deletePressed => page.withForm (delete page)
  | .saved id result =>
    { page
      effects := Effect.afterCommand discoveredAddress (result.map fun _ => savedMessage id) }
  | .rebooted result => { page, effects := rebootEffects result }
  | .deleted id result =>
    { page
      effects :=
        Effect.afterCommand discoveredAddress
          (result.map fun _ => NodeTable.deletedMessage id) }

/-- The button of a tab. -/
def tabButton (draft : DiscoveredDraft) (tab : NodeTab) (caption : String) :
    Markup DiscoveredNodeEvent :=
  .button (if draft.tab = tab then "active" else "") caption (.tabPressed tab)

/-- The box behind a tab. It is hidden while another tab is active. -/
def tabBox (draft : DiscoveredDraft) (tab : NodeTab) (fields : List (Markup DiscoveredNodeEvent)) :
    Markup DiscoveredNodeEvent :=
  .styled "div" (if draft.tab = tab then "tab" else "tab hidden") fields

/-- What the backend knows about the node. -/
def knownFields (draft : DiscoveredDraft) : List (Markup DiscoveredNodeEvent) :=
  let node := draft.details.node
  [Field.fixed "Id" node.id.text,
   Field.text "Host name" draft.tag .tagTyped,
   Field.fixed "Firmware" node.firmware,
   Field.fixed "EspMeshMesh version" node.meshVersion,
   Field.fixed "Compile time" node.compileTime,
   Field.fixed "Last seen" node.lastSeen,
   Field.check "In use" draft.inUse .inUseChecked]

/-- What the device answers. Part of it is missing when the device could not be asked. -/
def remoteFields (details : NodeDetails) : List (Markup DiscoveredNodeEvent) :=
  let answered :=
    if details.error.isEmpty then
      [Field.fixed "Device tag" details.deviceTag,
       Field.fixed "WIFI channel" (toString details.channel.toInt),
       Field.fixed "TX power" (toString details.txPower.toInt),
       Field.fixed "Groups" (toString details.groups.toNat)]
    else []
  Field.fixed "Error" details.errorLine :: answered ++
    [Field.fixed "Revision" details.revision,
     Field.fixed "Binded" details.bindedText,
     Field.fixed "Flags" (toString details.flags.toNat)]

/-- The tabs and the form. -/
def formView (draft : DiscoveredDraft) : List (Markup DiscoveredNodeEvent) :=
  [.styled "div" "tabs"
    [tabButton draft .known "Local graph information",
     tabButton draft .remote "Remote information"],
   Field.form .submitted
    [tabBox draft .known (knownFields draft),
     tabBox draft .remote (remoteFields draft.details),
     .styled "div" "toolbar"
      [.submitButton "Save changes",
       .button "" "Reboot" .rebootPressed,
       .button "danger" "Delete" .deletePressed]]]

/-- The page. -/
def view (page : DiscoveredNode) : Markup DiscoveredNodeEvent :=
  Editing.view page "Dynamic node" formView

end DiscoveredNode

end MeshConsole
