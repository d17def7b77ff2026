/-
This file holds the fields of forms.
-/

import MeshConsole.Markup
import MeshConsole.NodeId

namespace MeshConsole.Field

variable {event : Type}

/-- The fault of a field, if it has one. -/
def faultOf (faults : FieldFaults) (field : String) : Option FieldFault :=
  (faults.find? fun fault => fault.1 == field).map (·.2)

/-- The message below a faulty field. -/
def faultMessage (fault : Option FieldFault) : List (Markup event) :=
  match fault with
  | some fault => [.styled "span" "field-error" [.text fault.message]]
  | none => []

/-- A labelled input of some kind, with the message of its fault. -/
def typed (kind label value : String) (change : String → event) (fault : Option FieldFault) :
    Markup event :=
  .styled "label" "field"
    ([.labelled "span" label,
      .element "input"
        { control := some (.text kind value false), reactions := { input := some change } } []] ++
     faultMessage fault)

/-- A labelled text input. -/
def text (label value : String) (change : String → event) (fault : Option FieldFault := none) :
    Markup event :=
  typed "text" label value change fault

/-- A labelled text that cannot be changed. -/
def fixed (label value : String) : Markup event :=
  .styled "label" "field"
    [.labelled "span" label, .element "input" { control := some (.text "text" value true) } []]

/-- A labelled checkbox. Its label comes after it. -/
def check (label : String) (checked : Bool) (change : Bool → event) : Markup event :=
  .styled "label" "field check"
    [.element "input"
      { control := some (.checkbox checked), reactions := { check := some change } } [],
     .labelled "span" label]

/-- A form raises an event when it is submitted. -/
def form (submit : event) (children : List (Markup event)) : Markup event :=
  .element "form" { reactions := { submit := some submit } } children

end MeshConsole.Field
