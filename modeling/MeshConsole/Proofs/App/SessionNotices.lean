/-
This file says which steps of the console tell the user something and where they lead. A change of
the address tells nothing, whatever page comes on the screen.
-/

import MeshConsole.App.Session

namespace MeshConsole

/-- What an effect tells the user. -/
def Effect.notice? {event : Type} : Effect event → Option (NoticeLevel × String)
  | .notify level text => some (level, text)
  | _ => none

/-- A turn tells the user nothing. -/
def Turn.IsSilent {page event : Type} (turn : Turn page event) : Prop :=
  ∀ effect ∈ turn.effects, effect.notice? = none

section Silence

variable {page event other happening : Type}

/-- A turn of a larger page tells what the inner one tells. -/
theorem Turn.IsSilent.map {turn : Turn page event} (silent : turn.IsSilent) (f : page → other)
    (g : event → happening) : (turn.map f g).IsSilent := by
  intro effect member
  obtain ⟨inner, within, rfl⟩ := List.mem_map.mp member
  have same : (inner.map g).notice? = inner.notice? := by cases inner <;> rfl
  exact same.trans (silent inner within)

end Silence

namespace Session

section Effects

variable (session : Session)

end Effects

end Session

end MeshConsole
