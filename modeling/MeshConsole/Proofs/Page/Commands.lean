/-
This file says which commands the pages give, and how each of them ends on its page. A command is a
save, a deletion or a reboot.
-/

import MeshConsole.App.Page

namespace MeshConsole

/-- A command. Its call yields the text that tells of the success, and a success may lead to a
list. -/
structure Command where
  call : Call String
  list : Option String := none

/-- The command that deletes the record with a key. -/
def Client.deletion (client : Client) (collection : Collection) (key message : String)
    (list : Option String := none) : Command :=
  ⟨(client.delete collection key).map fun _ => message, list⟩

/-- The submission of a form that checks its fields. -/
def PageEvent.checksFields : PageEvent → Bool
  | .linkCreation .submitted | .link .submitted | .nodeCreation .submitted => true
  | _ => false

namespace Page

/-- A page with other faults of its form, if it has a form that checks its fields. -/
def withFaults (faults : FieldFaults) : Page → Page
  | .linkCreation page => .linkCreation { page with fields := { page.fields with faults } }
  | .link page => .link (page.modify fun draft =>
      { draft with fields := { draft.fields with faults } })
  | .nodeCreation page => .nodeCreation { page with faults }
  | page => page

/-- The page once an event has given its command. A form that was checked shows no faults. -/
def cleared (page : Page) (event : PageEvent) : Page :=
  if event.checksFields then page.withFaults [] else page

/-- Two pages of one kind. -/
inductive SameKind : Page → Page → Prop where
  | dashboard {first second client other} :
      SameKind (.dashboard first client) (.dashboard second other)
  | nodes {first second} : SameKind (.nodes first) (.nodes second)
  | nodeCreation {first second} : SameKind (.nodeCreation first) (.nodeCreation second)
  | node {first second} : SameKind (.node first) (.node second)
  | links {first second} : SameKind (.links first) (.links second)
  | linkCreation {first second} : SameKind (.linkCreation first) (.linkCreation second)
  | link {first second} : SameKind (.link first) (.link second)
  | discoveredNodes {first second} : SameKind (.discoveredNodes first) (.discoveredNodes second)
  | discoveredNode {first second} : SameKind (.discoveredNode first) (.discoveredNode second)
  | discoveredLinks {first second} : SameKind (.discoveredLinks first) (.discoveredLinks second)
  | pairings {first second} : SameKind (.pairings first) (.pairings second)
  | graph {first second} : SameKind (.graph first) (.graph second)
  | unknown : SameKind .unknown .unknown

end Page

section Results

variable {ε α β : Type} {f : α → β} {result : Except ε α}

end Results

section Ends

variable {α page event : Type} {call : Call α} {raise : Except RequestFailure α → event}
  {tell : α → String} {list : Option String} {update : page → event → Turn page event}

end Ends

section LinkForms

variable {event : Type} {fields : LinkFields} {call : LinkPayload → Call Link}

/-- A change of a form that is there only depends on this form. -/
theorem Editing.modify_congr {form : Type} {editing : Editing form} {draft : form}
    (there : editing.form? = some draft) {change other : form → form}
    (same : change draft = other draft) : editing.modify change = editing.modify other := by
  unfold Editing.form? Load.value? at there
  split at there
  case h_1 content loaded =>
    obtain rfl := Option.some.inj there
    simp only [modify, Loader.modify, loaded, Load.map, same]
  case h_2 => cases there

/-- A form that is there takes its step. -/
theorem Editing.withForm_of_form? {form event : Type} {editing : Editing form} {draft : form}
    (there : editing.form? = some draft) (act : form → Turn (Editing form) event) :
    editing.withForm act = act draft := by
  simp only [withForm, there]

end LinkForms

section NodeForms

end NodeForms

namespace Page

variable {page : Page} {event : PageEvent} {command : Command} {faults : FieldFaults}

/-- A page is of its own kind. -/
theorem SameKind.refl (page : Page) : page.SameKind page := by
  cases page <;> constructor

/-- Pages of the kind of a page are of one kind. -/
theorem SameKind.trans {first second third : Page} (same : first.SameKind second)
    (also : second.SameKind third) : first.SameKind third := by
  cases same <;> cases also <;> constructor

end Page

end MeshConsole
