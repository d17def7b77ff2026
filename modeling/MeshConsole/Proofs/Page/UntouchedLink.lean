/-
This file says what is sent when the form of a link is submitted as it was filled. The identifiers
stay as long as they have six digits, and the weight becomes a whole percent.
-/

import MeshConsole.Proofs.Backend.RecordAddress
import MeshConsole.Proofs.Form.WholePercent
import MeshConsole.Proofs.Page.Commands

namespace MeshConsole

open Text Decimal

/-- The page once the link has arrived that it waits for. -/
def LinkEditing.holding (page : LinkEditing) (link : Link) : LinkEditing :=
  (LinkEditing.update page (.loaded page.loader.newest (.ok link))).page

/-- The faults of a field that is filled with an identifier. Its text is not canonical if it has
more than six digits. -/
def longIdFaults (field : String) (id : NodeId) : FieldFaults :=
  if id.value ≤ NodeId.largest.value then [] else [(field, .notCanonical)]

/-- The faults of a form that is filled with a link. -/
def Link.faults (link : Link) : FieldFaults :=
  longIdFaults "from" link.source ++ longIdFaults "to" link.target

section Texts

/-- The text of an identifier is the letter N and a numeral of its value. -/
theorem exists_text_eq (id : NodeId) :
    ∃ hex, id.text.toList = 'N' :: hex ∧ Numeral 16 hex id.value.toNat :=
  ⟨_, String.toList_ofList, (numeral_upperHex id.value.toNat).padLeft (by decide) idWidth⟩

/-- The characters of the text of an identifier are not blank. -/
theorem isBlank_of_mem_text {id : NodeId} {c : Char} (member : c ∈ id.text.toList) :
    isBlank c = false := by
  obtain ⟨hex, text, numeral⟩ := exists_text_eq id
  rw [text] at member
  rcases List.mem_cons.mp member with rfl | member
  · decide
  · exact numeral.isBlank_of_mem member

/-- The text of an identifier has no blank characters around it. -/
theorem trimmed_text (id : NodeId) : trimmed id.text = id.text := by
  rw [trimmed_eq_iff]
  constructor
  case around => exact ⟨[], [], by simp⟩
  case first => exact fun c first => isBlank_of_mem_text (List.mem_of_head? first)
  case last => exact fun c last => isBlank_of_mem_text (List.mem_of_getLast? last)

/-- The text of an identifier is read exactly if it has six digits. -/
theorem ofCanonical?_text (id : NodeId) :
    NodeId.ofCanonical? id.text = if id.value ≤ NodeId.largest.value then some id else none := by
  split_ifs with small
  · exact (ofCanonical?_eq_some_iff ..).mpr ((isWritten_text_iff id).mpr small)
  · rw [Option.eq_none_iff_forall_ne_some]
    intro other read
    obtain ⟨hex, marked, six, -⟩ := (ofCanonical?_eq_some_iff ..).mp read
    obtain ⟨own, text, numeral⟩ := exists_text_eq id
    obtain rfl : own = hex := (List.cons.inj (text.symm.trans marked)).2
    exact small ((isWritten_text_iff id).mp ⟨own, text, six, numeral⟩)

/-- A field that is filled with an identifier is reported exactly if it is too long. -/
theorem faultUnless_text (field : String) (id : NodeId) :
    faultUnless field .notCanonical (NodeId.ofCanonical? (trimmed id.text)) =
      longIdFaults field id := by
  rw [trimmed_text, ofCanonical?_text, longIdFaults]
  split_ifs <;> rfl

end Texts

section Form

variable {link : Link}

/-- A form that is filled with a link is judged by its identifiers. -/
theorem linkFaults_ofLink (between : 0.0 ≤ link.weight ∧ link.weight ≤ 1.0) :
    linkFaults link.source.text link.target.text
      (Decimal.plain (percentOfWeight link.weight)) = link.faults := by
  have weight : faultUnless "weight" .weightOutOfRange ((readPercent?
      (Decimal.plain (percentOfWeight link.weight))).map weightOfPercent) = [] := by
    rw [readPercent?_shown between]
    rfl
  rw [linkFaults, faultUnless_text, faultUnless_text, weight, List.append_nil, Link.faults]

/-- Short identifiers leave no faults. -/
theorem Link.faults_eq_nil_iff : link.faults = [] ↔
    link.source.value ≤ NodeId.largest.value ∧ link.target.value ≤ NodeId.largest.value := by
  unfold Link.faults longIdFaults
  split_ifs <;> simp_all

/-- Short identifiers are sent again, with the restored weight. -/
theorem input_ofLink_of_short (between : 0.0 ≤ link.weight ∧ link.weight ≤ 1.0)
    (short : link.faults = []) :
    (LinkFields.ofLink link).input =
      .ok ⟨link.source, link.target, restoredWeight link.weight⟩ := by
  obtain ⟨source, target⟩ := Link.faults_eq_nil_iff.mp short
  refine ofForm_eq_ok_iff.mpr ⟨?_, ?_, ?_⟩
  · rw [LinkFields.ofLink, trimmed_text, ofCanonical?_text, if_pos source]
  · rw [LinkFields.ofLink, trimmed_text, ofCanonical?_text, if_pos target]
  · rw [LinkFields.ofLink, readPercent?_shown between]
    rfl

/-- A long identifier is reported. -/
theorem input_ofLink_of_long (between : 0.0 ≤ link.weight ∧ link.weight ≤ 1.0)
    (long : link.faults ≠ []) : (LinkFields.ofLink link).input = .error link.faults :=
  ofForm_eq_error_iff.mpr ⟨(linkFaults_ofLink between).symm, long⟩

end Form

section Page

variable {page : LinkEditing} {link : Link}

/-- The page holds the form of the link that has arrived. -/
theorem LinkEditing.form?_holding (page : LinkEditing) (link : Link) :
    (page.holding link).form? = some (.ofLink link) := by
  rw [holding, update, Editing.form?, Editing.complete, Loader.complete, if_pos rfl]
  rfl

/-- A form without faults is filled with none. -/
theorem LinkEditing.modify_holding (page : LinkEditing) (link : Link) :
    (page.holding link).modify (fun draft =>
      { draft with fields := { LinkFields.ofLink link with faults := [] } }) =
        page.holding link := by
  rw [holding, update, Editing.complete, Loader.complete, if_pos rfl]
  rfl

/-- The submission of an untouched form with short identifiers. -/
theorem LinkEditing.submitted_of_short (between : 0.0 ≤ link.weight ∧ link.weight ≤ 1.0)
    (short : link.faults = []) :
    update (page.holding link) .submitted =
      { page := page.holding link
        effects := [.send (errand (page.holding link) (recordKey link.id)
          ⟨link.source, link.target, restoredWeight link.weight⟩)] } := by
  have input := input_ofLink_of_short between short
  simp only [update, Editing.withForm_of_form? (form?_holding page link), save, LinkDraft.ofLink,
    LinkFields.submit, input, modify_holding]

/-- The errand that changes a link puts its payload to the address of the link. -/
theorem LinkEditing.request_errand (page : LinkEditing) (key : String) (input : LinkPayload) :
    (errand page key input).request =
      ⟨.put, page.client.base ++ "/links/" ++ key, some input.toJson⟩ := by
  refine (page.client.request_update Link.decode? .links key input.toJson).trans ?_
  simp [Collection.path, String.append_assoc]

/-- The submission of an untouched form with a long identifier. -/
theorem LinkEditing.submitted_of_long (between : 0.0 ≤ link.weight ∧ link.weight ≤ 1.0)
    (long : link.faults ≠ []) :
    update (page.holding link) .submitted =
      { page := (page.holding link).modify fun draft =>
          { draft with fields := { draft.fields with faults := link.faults } } } := by
  have input := input_ofLink_of_long between long
  simp only [update, Editing.withForm_of_form? (form?_holding page link), save, LinkDraft.ofLink,
    LinkFields.submit, input]
  rw [Editing.modify_congr (form?_holding page link)]
  rfl

end Page

/-- What the submission of an untouched form does with the link that filled it. -/
structure UntouchedSave (page : LinkEditing) (link : Link) : Prop where
  /-- If both identifiers have six digits, the form passes. It sends them as they are, with the
  restored weight. -/
  sent : link.source.value ≤ NodeId.largest.value → link.target.value ≤ NodeId.largest.value →
    LinkEditing.update (page.holding link) .submitted =
      { page := page.holding link
        effects := [.send (LinkEditing.errand (page.holding link) (recordKey link.id)
          ⟨link.source, link.target, restoredWeight link.weight⟩)] }
  /-- The one request puts the identifiers and the restored weight to the address of the link. -/
  requested : link.source.value ≤ NodeId.largest.value →
    link.target.value ≤ NodeId.largest.value →
      Effect.requests (LinkEditing.update (page.holding link) .submitted).effects =
        [⟨.put, page.client.base ++ "/links/" ++ recordKey link.id,
          some (LinkPayload.toJson ⟨link.source, link.target, restoredWeight link.weight⟩)⟩]
  /-- Else the fields of the longer identifiers are reported, and nothing is sent. -/
  refused : ¬ (link.source.value ≤ NodeId.largest.value ∧
      link.target.value ≤ NodeId.largest.value) →
    LinkEditing.update (page.holding link) .submitted =
      { page := (page.holding link).modify fun draft =>
          { draft with fields := { draft.fields with faults := link.faults } } }
  /-- The restored weight is the double of the whole number of hundredths nearest to the percent. -/
  rounded : ∃ percent, number? (link.weight * 100.0) = some percent ∧
    IsRounded (⌊percent + 1 / 2⌋₊ / 100) (restoredWeight link.weight)
  /-- It is the weight of the link exactly if that is a whole number of hundredths. -/
  same_iff : restoredWeight link.weight = link.weight ↔ IsWholePercent link.weight
  /-- A second submission does not change it any more. -/
  again : restoredWeight (restoredWeight link.weight) = restoredWeight link.weight

/-- An untouched form saves the identifiers that have six digits as they are, and the weight as a
whole percent. Nothing changes exactly if the weight is a whole percent. -/
theorem linkEditing_untouchedSave (page : LinkEditing) (link : Link)
    (between : 0.0 ≤ link.weight ∧ link.weight ≤ 1.0) : UntouchedSave page link := by
  have whole := isWholePercent_restoredWeight between
  constructor
  case sent =>
    intro source target
    exact LinkEditing.submitted_of_short between (Link.faults_eq_nil_iff.mpr ⟨source, target⟩)
  case requested =>
    intro source target
    rw [LinkEditing.submitted_of_short between (Link.faults_eq_nil_iff.mpr ⟨source, target⟩)]
    exact congrArg (fun request => [request]) (LinkEditing.request_errand _ _ _)
  case refused =>
    intro long
    exact LinkEditing.submitted_of_long between (mt Link.faults_eq_nil_iff.mp long)
  case rounded => exact isRounded_restoredWeight between
  case same_iff =>
    constructor
    · intro same
      rwa [same] at whole
    · exact restoredWeight_of_isWholePercent
  case again => exact restoredWeight_of_isWholePercent whole

/-- A weight of 35 percent is saved as it is. -/
theorem linkEditing_untouchedSave_wholePercent :
    let link : Link := { id := .number (.integer 7), source := ⟨1⟩, target := ⟨2⟩, weight := 0.35 }
    (0.0 ≤ link.weight ∧ link.weight ≤ 1.0) ∧ UntouchedSave (.ofKey ⟨"/api/v1"⟩ "7") link ∧
      IsWholePercent link.weight := by
  have between : (0.0 : Float) ≤ 0.35 ∧ (0.35 : Float) ≤ 1.0 := by decide +kernel
  exact ⟨between, linkEditing_untouchedSave _ _ between, .inr ⟨35, by decide, by decide +kernel⟩⟩

/-- A weight of 12.5 percent is saved as 13 percent, and an identifier of seven digits is
refused. -/
theorem linkEditing_untouchedSave_changes :
    let page : LinkEditing := .ofKey ⟨"/api/v1"⟩ "7"
    let half : Link :=
      { id := .number (.integer 7), source := ⟨1⟩, target := ⟨2⟩, weight := 0.125 }
    let long : Link :=
      { id := .number (.integer 7), source := ⟨0x1000000⟩, target := ⟨2⟩, weight := 0.5 }
    ((0.0 ≤ half.weight ∧ half.weight ≤ 1.0) ∧
      (LinkEditing.update (page.holding half) .submitted).effects =
        [.send (LinkEditing.errand (page.holding half) "7" ⟨half.source, half.target, 0.13⟩)] ∧
      LinkPayload.toJson ⟨half.source, half.target, 0.13⟩ =
        "\x7b\"from\":1,\"to\":2,\"weight\":0.13\x7d" ∧
      (0.13 : Float) ≠ half.weight) ∧
    (0.0 ≤ long.weight ∧ long.weight ≤ 1.0) ∧
      (LinkEditing.update (page.holding long) .submitted).effects = [] := by
  intro page half long
  have halfBetween : 0.0 ≤ half.weight ∧ half.weight ≤ 1.0 := by decide +kernel
  have longBetween : 0.0 ≤ long.weight ∧ long.weight ≤ 1.0 := by decide +kernel
  have restored : restoredWeight half.weight = 0.13 := by decide +kernel
  have short : half.faults = [] := by decide
  have reported : long.faults ≠ [] := by decide
  refine ⟨⟨halfBetween, ?_, by decide +kernel, by decide +kernel⟩, longBetween, ?_⟩
  · have key : recordKey half.id = "7" := by decide +kernel
    rw [LinkEditing.submitted_of_short halfBetween short, restored, key]
  · rw [LinkEditing.submitted_of_long longBetween reported]

end MeshConsole
