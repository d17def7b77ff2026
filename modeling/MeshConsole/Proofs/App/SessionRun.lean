/-
This file follows the console through any actions. Pages keep their kind for as long as they are
known, and a request that waits is the one that was sent under its number.
-/

import Mathlib.Tactic.SplitIfs
import MeshConsole.App.Action
import MeshConsole.Proofs.Page.Commands

namespace MeshConsole.Session

/-- The session after some actions. -/
def run (session : Session) (actions : List Action) : Session :=
  actions.foldl (fun session action => (session.act action).session) session

/-- The page with a number, on the screen or after it has left it. -/
def pageOf? (session : Session) (owner : Nat) : Option Page :=
  if owner = session.pageNumber then some session.page
  else (session.retired.find? fun retired => retired.number == owner).map RetiredPage.page

/-- Every waiting request has the number of a request that was sent. -/
def Numbered (session : Session) : Prop :=
  ∀ request ∈ session.waiting, request.number < session.sent.length

/-- What every step from one session to another keeps. -/
structure Keeps (earlier later : Session) : Prop where
  sent : earlier.sent.length ≤ later.sent.length
  /-- A request that waits has waited before, or it is a new one with a new number. -/
  waiting : ∀ request ∈ later.waiting, request ∈ earlier.waiting ∨
    earlier.sent.length ≤ request.number ∧ request.number < later.sent.length
  pageNumber : earlier.pageNumber ≤ later.pageNumber
  /-- A page that is known stays known and of its kind. -/
  pages : ∀ owner page, owner ≤ earlier.pageNumber → earlier.pageOf? owner = some page →
    ∃ now, later.pageOf? owner = some now ∧ now.SameKind page

section Pages

variable {session : Session} {owner other : Nat} {page old : Page} {event : PageEvent}

end Pages

section Relation

variable {first second third : Session}

/-- A session keeps what it has. -/
theorem Keeps.refl (session : Session) : Keeps session session where
  sent := Nat.le_refl _
  waiting := fun _ member => .inl member
  pageNumber := Nat.le_refl _
  pages := fun _ page _ known => ⟨page, known, .refl page⟩

/-- One step after another keeps what both of them keep. -/
theorem Keeps.trans (before : Keeps first second) (after : Keeps second third) :
    Keeps first third where
  sent := Nat.le_trans before.sent after.sent
  waiting := by
    intro request member
    rcases after.waiting request member with member | ⟨new, old⟩
    · exact (before.waiting request member).imp_right fun ⟨new, old⟩ =>
        ⟨new, Nat.lt_of_lt_of_le old after.sent⟩
    · exact .inr ⟨Nat.le_trans before.sent new, old⟩
  pageNumber := Nat.le_trans before.pageNumber after.pageNumber
  pages := by
    intro owner page bound known
    obtain ⟨middle, known, same⟩ := before.pages owner page bound known
    obtain ⟨now, known, also⟩ :=
      after.pages owner middle (Nat.le_trans bound before.pageNumber) known
    exact ⟨now, known, also.trans same⟩

/-- A step that leaves the requests and the pages alone keeps everything. -/
theorem Keeps.of_same (sent : second.sent = first.sent) (waiting : second.waiting = first.waiting)
    (pageNumber : second.pageNumber = first.pageNumber) (page : second.page = first.page)
    (retired : second.retired = first.retired) : Keeps first second where
  sent := sent ▸ Nat.le_refl _
  waiting := fun _ member => .inl (waiting ▸ member)
  pageNumber := pageNumber ▸ Nat.le_refl _
  pages := fun owner known _ there =>
    ⟨known, by rwa [pageOf?, pageNumber, page, retired], .refl known⟩

end Relation

section Primitives

variable (session : Session)

end Primitives

section Numbers

variable {session later : Session} {request : WaitingRequest}

/-- Requests keep their numbers. -/
theorem Keeps.numbered (keeps : Keeps session later) (numbered : session.Numbered) :
    later.Numbered := by
  intro request member
  rcases keeps.waiting request member with before | ⟨-, new⟩
  · exact Nat.lt_of_lt_of_le (numbered request before) keeps.sent
  · exact new

end Numbers

end MeshConsole.Session
