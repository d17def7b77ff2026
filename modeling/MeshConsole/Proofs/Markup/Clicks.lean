/-
This file collects the events that clicks on a part of a page can raise.
-/

import MeshConsole.Markup.Outline

namespace MeshConsole

variable {event : Type}

/-- The event that a click on an element raises. A reference leads to its address, and a disabled
element ignores the click. -/
def Traits.click? (traits : Traits event) : Option event :=
  if traits.address.isSome || traits.disabled then none else traits.reactions.click

/-- The events that clicks on the elements of a part raise, in document order. -/
def Markup.clicks (part : Markup event) : List event :=
  part.elements.filterMap fun element => element.traits.click?

/-- The elements around a part do not change its clicks. -/
theorem Markup.clicks_elementsIn (within : String) (part : Markup event) :
    (part.elementsIn within).filterMap (fun element => element.traits.click?) = part.clicks := by
  cases part <;> rfl

/-- The clicks of several parts are those of one part after the other. -/
theorem clicks_elementsOf (within : String) (parts : List (Markup event)) :
    (elementsOf within parts).filterMap (fun element => element.traits.click?) =
      parts.flatMap Markup.clicks := by
  induction parts with
  | nil => rfl
  | cons part rest ih =>
      rw [elementsOf, List.filterMap_append, Markup.clicks_elementsIn, ih, List.flatMap_cons]

namespace Markup

@[simp]
theorem clicks_text (content : String) : (text content : Markup event).clicks = [] := rfl

/-- An element raises its own event and those of its content. -/
@[simp]
theorem clicks_element (tag : String) (traits : Traits event) (children : List (Markup event)) :
    (element tag traits children).clicks = traits.click?.toList ++ children.flatMap clicks := by
  rw [← clicks_elementsOf traits.styleClass]
  cases own : traits.click? <;> simp [clicks, elements, elementsIn, own]

end Markup

end MeshConsole
