/-
This file holds what a page shows: a tree of elements and texts, and the events that an element
raises.
-/

namespace MeshConsole

/-- The input that an element takes from the user. -/
inductive Control where
  | text (kind value : String) (readonly : Bool)
  | checkbox (checked : Bool)
  | choice (key : String)
deriving DecidableEq, Repr

/-- The events that an element raises. A missing entry stands for an element that ignores the
user's action. -/
structure Reactions (event : Type) where
  click : Option event := none
  submit : Option event := none
  input : Option (String → event) := none
  check : Option (Bool → event) := none
  /-- Not every key of a selector is a choice. -/
  choose : Option (String → Option event) := none

/-- Everything about an element beside its name and its content. -/
structure Traits (event : Type) where
  styleClass : String := ""
  address : Option String := none
  disabled : Bool := false
  control : Option Control := none
  reactions : Reactions event := {}

/-- A part of a page. -/
inductive Markup (event : Type) where
  | text (content : String)
  | element (tag : String) (traits : Traits event) (children : List (Markup event))

namespace Markup

variable {event other : Type}

instance : Inhabited (Markup event) := ⟨.text ""⟩

/-- An element without any trait. -/
def plain (tag : String) (children : List (Markup event)) : Markup event :=
  .element tag {} children

/-- An element with a style class. -/
def styled (tag styleClass : String) (children : List (Markup event)) : Markup event :=
  .element tag { styleClass } children

/-- An element that holds one text. -/
def labelled (tag content : String) : Markup event :=
  .plain tag [.text content]

/-- A reference to another page. -/
def reference (address content : String) : Markup event :=
  .element "a" { address := some address } [.text content]

/-- A button that raises an event. -/
def button (styleClass caption : String) (click : event) : Markup event :=
  .element "button" { styleClass, reactions := { click := some click } } [.text caption]

/-- The button that stands for the submission of a form. -/
def submitButton (caption : String) : Markup event :=
  .labelled "button" caption

/-- A message about a failure. -/
def failure (message : String) : Markup event :=
  .styled "p" "error" [.text message]

end Markup

/-- The same reactions with other events. -/
def Reactions.map {event other : Type} (f : event → other) (reactions : Reactions event) :
    Reactions other :=
  { click := reactions.click.map f
    submit := reactions.submit.map f
    input := reactions.input.map fun react content => f (react content)
    check := reactions.check.map fun react checked => f (react checked)
    choose := reactions.choose.map fun react key => (react key).map f }

/-- The same traits with other events. -/
def Traits.map {event other : Type} (f : event → other) (traits : Traits event) : Traits other :=
  { styleClass := traits.styleClass
    address := traits.address
    disabled := traits.disabled
    control := traits.control
    reactions := traits.reactions.map f }

mutual

/-- The same part with other events. -/
def Markup.map {event other : Type} (f : event → other) : Markup event → Markup other
  | .text content => .text content
  | .element tag traits children => .element tag (traits.map f) (mapMarkup f children)

/-- The same parts with other events. -/
def mapMarkup {event other : Type} (f : event → other) :
    List (Markup event) → List (Markup other)
  | [] => []
  | part :: rest => part.map f :: mapMarkup f rest

end

end MeshConsole
