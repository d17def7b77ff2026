/-
This file lists what stands on a page: its elements in document order, their texts, and the
labelled controls.
-/

import MeshConsole.Markup

namespace MeshConsole

/-- An element with the elements around it. -/
structure Placed (event : Type) where
  tag : String
  traits : Traits event
  children : List (Markup event)
  /-- The style class of the element around this one. -/
  within : String

mutual

/-- The elements of a part in document order, each before its content. -/
def Markup.elementsIn {event : Type} (within : String) : Markup event → List (Placed event)
  | .text _ => []
  | .element tag traits children =>
    ⟨tag, traits, children, within⟩ :: elementsOf traits.styleClass children

/-- The elements of several parts in document order. -/
def elementsOf {event : Type} (within : String) : List (Markup event) → List (Placed event)
  | [] => []
  | part :: rest => part.elementsIn within ++ elementsOf within rest

end

/-- The elements of a part in document order. -/
def Markup.elements {event : Type} (part : Markup event) : List (Placed event) :=
  part.elementsIn ""

mutual

/-- The texts of a part in document order. -/
def Markup.texts {event : Type} : Markup event → List String
  | .text content => [content]
  | .element _ _ children => textsOf children

/-- The texts of several parts in document order. -/
def textsOf {event : Type} : List (Markup event) → List String
  | [] => []
  | part :: rest => part.texts ++ textsOf rest

end

/-- This test recognises elements. -/
def Markup.isElement {event : Type} : Markup event → Bool
  | .text _ => false
  | .element .. => true

namespace Placed

variable {event : Type}

/-- The texts inside an element. -/
def texts (element : Placed event) : List String := textsOf element.children

/-- The whole text inside an element. -/
def text (element : Placed event) : String := String.join element.texts

/-- An outline shows a single space as no text. -/
def outlineText (whole : String) : String :=
  if whole = " " then "" else whole

/-- The text of an element in an outline. -/
def shownText (element : Placed event) : String := outlineText element.text

/-- The text of an element in the outline of a written document, where every empty text takes a
space. -/
def writtenText (element : Placed event) : String :=
  outlineText (String.join (element.texts.map fun text => if text.isEmpty then " " else text))

/-- A leaf has no element inside. -/
def isLeaf (element : Placed event) : Bool := !element.children.any Markup.isElement

/-- The elements that are children of this one. -/
def childElements (element : Placed event) : List (Placed event) :=
  element.children.flatMap fun child =>
    match child with
    | .text _ => []
    | .element tag traits children => [⟨tag, traits, children, element.traits.styleClass⟩]

/-- References show where they lead, and all other elements their style class. -/
def trait (element : Placed event) : String :=
  if element.tag = "a" then element.traits.address.getD "" else element.traits.styleClass

end Placed

/-- The style class of the controls below a table. -/
def pagerClass : String := "pager"

/-- The outline of a page leaves out boxes, controls, drawings and the buttons below a table. -/
def Placed.inOutline {event : Type} (element : Placed event) : Bool :=
  element.isLeaf && !(["div", "input", "canvas"].contains element.tag) &&
    !(element.tag == "button" && element.within == pagerClass)

/-- The boxes behind the tabs of a form are told apart by their style class. -/
def Placed.isTab {event : Type} (element : Placed event) : Bool :=
  element.tag == "div" && element.traits.styleClass.startsWith "tab" &&
    element.traits.styleClass != "tabs"

/-- A control with the label around it. -/
structure LabelledControl (event : Type) where
  /-- The first caption inside the label. -/
  label : Option String
  control : Control
  reactions : Reactions event

/-- The controls that stand directly in a label. -/
def Placed.controls {event : Type} (element : Placed event) : List (LabelledControl event) :=
  if element.tag = "label" then
    let children := element.childElements
    let label := (children.find? fun child => child.tag == "span").map Placed.text
    children.filterMap fun child =>
      child.traits.control.map fun control => ⟨label, control, child.traits.reactions⟩
  else []

/-- The labelled controls of a page in document order. -/
def Markup.controls {event : Type} (part : Markup event) : List (LabelledControl event) :=
  part.elements.flatMap Placed.controls

end MeshConsole
