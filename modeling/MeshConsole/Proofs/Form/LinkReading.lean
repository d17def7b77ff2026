/-
This file says which contents of a link form are taken, and what is reported of all others. Each of
the three fields is judged by its own text, and every field at fault is reported.
-/

import MeshConsole.Form
import MeshConsole.Proofs.Decimal.TypedNumber
import MeshConsole.Proofs.NodeId.Reading
import MeshConsole.Proofs.Text.Trimming

namespace MeshConsole

open Text Decimal

section Fields

/-- The double of a hundred. -/
theorem number?_hundred : number? 100.0 = some 100 := by
  exact_mod_cast number?_of_eq_ofNat (m := 100) (by decide +kernel) (by decide)

/-- A field is not reported exactly if its reader finds something. -/
theorem faultUnless_eq_nil_iff {α : Type} {field : String} {fault : FieldFault}
    {read : Option α} : faultUnless field fault read = [] ↔ ∃ value, read = some value := by
  cases read <;> simp [faultUnless]

end Fields

section Payload

variable {source target percent : String} {faults : FieldFaults}

/-- The faults that the readers of the three fields leave. -/
def linkFaults (source target percent : String) : FieldFaults :=
  faultUnless "from" .notCanonical (NodeId.ofCanonical? (trimmed source)) ++
    faultUnless "to" .notCanonical (NodeId.ofCanonical? (trimmed target)) ++
    faultUnless "weight" .weightOutOfRange ((readPercent? percent).map weightOfPercent)

/-- A payload is made of what all three readers find. -/
theorem ofForm_eq_ok_iff {input : LinkPayload} :
    LinkPayload.ofForm source target percent = .ok input ↔
      NodeId.ofCanonical? (trimmed source) = some input.source ∧
        NodeId.ofCanonical? (trimmed target) = some input.target ∧
        (readPercent? percent).map weightOfPercent = some input.weight := by
  obtain ⟨sourceId, targetId, weight⟩ := input
  unfold LinkPayload.ofForm
  dsimp only
  split
  case h_1 foundSource foundTarget foundWeight =>
    simp [foundSource, foundTarget, foundWeight]
  case h_2 missing =>
    simp only [reduceCtorEq, false_iff]
    rintro ⟨foundSource, foundTarget, foundWeight⟩
    exact missing _ _ _ foundSource foundTarget foundWeight

/-- Without a payload there are the faults of the fields, at least one of them. -/
theorem ofForm_eq_error_iff :
    LinkPayload.ofForm source target percent = .error faults ↔
      faults = linkFaults source target percent ∧ faults ≠ [] := by
  unfold LinkPayload.ofForm linkFaults
  dsimp only
  split
  case h_1 foundSource foundTarget foundWeight =>
    simp only [foundSource, foundTarget, foundWeight, reduceCtorEq, false_iff]
    rintro ⟨rfl, some⟩
    exact some rfl
  case h_2 missing =>
    rw [Except.error.injEq, eq_comm]
    refine (and_iff_left_of_imp fun same empty => ?_).symm
    rw [same] at empty
    simp only [List.append_eq_nil_iff, faultUnless_eq_nil_iff] at empty
    obtain ⟨⟨⟨_, foundSource⟩, _, foundTarget⟩, _, foundWeight⟩ := empty
    exact missing _ _ _ foundSource foundTarget foundWeight

end Payload

end MeshConsole
