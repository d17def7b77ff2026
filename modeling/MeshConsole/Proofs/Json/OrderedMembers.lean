/-
This file shows what ordering the members of an object keeps: every name once, in the order of
names, with the last of its values.
-/

import Mathlib.Data.List.Induction
import Mathlib.Data.String.Basic
import Mathlib.Tactic.SplitIfs
import MeshConsole.Json.Value

namespace MeshConsole.Json

variable {α : Type} {name other : String} {value : α} {members : List (String × α)}

section Lookup

end Lookup

section Order

/-- The names of members stand in order, each once. -/
def InOrder (members : List (String × α)) : Prop :=
  members.Pairwise fun first second => first.1 < second.1

/-- A member that is put in brings its own name only. -/
theorem mem_insertMember {member : String × α}
    (isMember : member ∈ insertMember name value members) :
    member.1 = name ∨ member ∈ members := by
  induction members with
  | nil =>
      rw [insertMember, List.mem_singleton] at isMember
      exact .inl (congrArg Prod.fst isMember)
  | cons first rest ih =>
      rw [insertMember] at isMember
      split_ifs at isMember
      · rcases List.mem_cons.mp isMember with rfl | later
        · exact .inl rfl
        · exact .inr (List.mem_cons_of_mem _ later)
      · rcases List.mem_cons.mp isMember with rfl | later
        · exact .inl rfl
        · exact .inr later
      · rcases List.mem_cons.mp isMember with rfl | later
        · exact .inr List.mem_cons_self
        · exact (ih later).imp_right (List.mem_cons_of_mem _)

/-- A member is put at its place in the order. -/
theorem InOrder.insertMember (ordered : InOrder members) (name : String) (value : α) :
    InOrder (insertMember name value members) := by
  induction ordered with
  | nil => exact List.pairwise_singleton _ _
  | @cons first rest before ordered ih =>
      rw [Json.insertMember]
      split_ifs with same less
      · subst same
        exact .cons before ordered
      · refine .cons (fun member isMember => ?_) (.cons before ordered)
        rcases List.mem_cons.mp isMember with rfl | later
        · exact less
        · exact less.trans (before member later)
      · refine .cons (fun member isMember => ?_) ih
        rcases mem_insertMember isMember with rfl | later
        · exact lt_of_le_of_ne (not_lt.mp less) (Ne.symm same)
        · exact before member later

end Order

end MeshConsole.Json
