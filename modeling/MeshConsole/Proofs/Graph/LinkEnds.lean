/-
This file counts the link ends that decide the sizes of the nodes. The main statement says that the
count is exact for every identifier, and that the share of the largest count from which a size is
computed is never below zero or above one.
-/

import MeshConsole.Proofs.Decimal.Nearest
import MeshConsole.Proofs.Graph.ResolvedLinks

namespace MeshConsole

open Decimal

/-- The links between two different nodes that start at an identifier, and those that end there. -/
def Picture.linkEnds (picture : Picture) (id : NodeId) : Nat :=
  (picture.links.countP fun link => link.source ≠ link.target ∧ link.source = id) +
    picture.links.countP fun link => link.source ≠ link.target ∧ link.target = id

/-- The share of the largest number of link ends that an identifier has. -/
def Degrees.share (degrees : Degrees) (id : NodeId) : Float :=
  Float.ofNat (degrees.at id) / Float.ofNat degrees.largest

/-- What holds of the link ends that are counted for a picture. -/
structure CountedEnds (picture : Picture) (degrees : Degrees) : Prop where
  /-- Every link between two different nodes counts at its source and at its target. -/
  count : ∀ id, degrees.at id = picture.linkEnds id
  /-- No count is larger than the number of links, so that no counter overflows. -/
  fits : ∀ id, degrees.at id ≤ picture.links.length
  positive : 1 ≤ degrees.largest
  /-- No identifier, of a node or not, has more than the largest number. -/
  bound : ∀ id, degrees.at id ≤ degrees.largest
  /-- It is the least number with these two properties. -/
  least : ∀ most, 1 ≤ most → (∀ id, degrees.at id ≤ most) → degrees.largest ≤ most
  /-- The double that shares are divided by is not zero. -/
  divisor : 1.0 ≤ Float.ofNat degrees.largest
  /-- A share is a number from zero to one. The length of a list in memory is a machine word. -/
  share : picture.links.length < 2 ^ 64 → ∀ id, 0.0 ≤ degrees.share id ∧ degrees.share id ≤ 1.0

/-- This function counts several link ends. -/
def Degrees.countAll (degrees : Degrees) (ids : List NodeId) : Degrees :=
  ids.foldl (fun degrees id => degrees.count id) degrees

/-- The identifiers at which a link counts. -/
def PictureLink.countedAt (link : PictureLink) : List NodeId :=
  if link.source = link.target then [] else [link.source, link.target]

section Counting

variable {degrees : Degrees} {id : NodeId} {ends bound : Nat}

/-- The first entry with an identifier holds its number. -/
theorem Degrees.at_cons (entry : NodeId × Nat) (rest : Degrees) (id : NodeId) :
    Degrees.at (entry :: rest) id = if entry.1 = id then entry.2 else rest.at id := by
  by_cases same : entry.1 = id <;> simp [Degrees.at, same]

/-- One more link end is counted at its own identifier only. -/
theorem Degrees.at_count (degrees : Degrees) (id other : NodeId) :
    (degrees.count id).at other = degrees.at other + [id].count other := by
  induction degrees with
  | nil =>
      rw [count, at_cons, List.count_singleton]
      simp [Degrees.at]
  | cons entry rest ih =>
      obtain ⟨known, ends⟩ := entry
      rw [count]
      by_cases same : known = id
      · subst same
        by_cases found : known = other <;> simp [at_cons, found]
      · by_cases found : known = other
        · subst found
          simp [at_cons, same, Ne.symm same]
        · simp [at_cons, same, found, ih]

/-- Several link ends are counted as often as they occur. -/
theorem Degrees.at_countAll (degrees : Degrees) (ids : List NodeId) (id : NodeId) :
    (degrees.countAll ids).at id = degrees.at id + ids.count id := by
  induction ids generalizing degrees with
  | nil => rfl
  | cons head rest ih =>
      calc (degrees.countAll (head :: rest)).at id
        _ = (degrees.count head).at id + rest.count id := ih _
        _ = degrees.at id + ([head].count id + rest.count id) := by rw [at_count, Nat.add_assoc]
        _ = degrees.at id + (head :: rest).count id := by
            rw [← List.count_append, List.singleton_append]

/-- The identifiers with entries, after one more link end. -/
theorem Degrees.keys_count (degrees : Degrees) (id : NodeId) :
    (degrees.count id).map Prod.fst =
      if id ∈ degrees.map Prod.fst then degrees.map Prod.fst else degrees.map Prod.fst ++ [id] := by
  induction degrees with
  | nil => rfl
  | cons entry rest ih =>
      obtain ⟨known, ends⟩ := entry
      rw [count]
      by_cases same : known = id
      · simp [same]
      · simp only [if_neg same, List.map_cons, ih, List.mem_cons, Ne.symm same, false_or]
        split_ifs <;> rfl

/-- Every identifier keeps at most one entry. -/
theorem Degrees.nodup_countAll (distinct : (degrees.map Prod.fst).Nodup) (ids : List NodeId) :
    ((degrees.countAll ids).map Prod.fst).Nodup := by
  induction ids generalizing degrees with
  | nil => exact distinct
  | cons id rest ih =>
      refine ih ?_
      rw [keys_count]
      split_ifs with known
      · exact distinct
      · exact List.nodup_append_comm.mp (List.nodup_cons.mpr ⟨known, distinct⟩)

/-- An entry holds the number of its identifier, if no other entry has this identifier. -/
theorem Degrees.at_of_mem (distinct : (degrees.map Prod.fst).Nodup)
    (member : (id, ends) ∈ degrees) : degrees.at id = ends := by
  induction degrees with
  | nil => exact absurd member List.not_mem_nil
  | cons entry rest ih =>
      obtain ⟨fresh, distinct⟩ := List.nodup_cons.mp distinct
      rw [at_cons]
      rcases List.mem_cons.mp member with rfl | later
      · exact if_pos rfl
      · have different : entry.1 ≠ id := fun same => fresh (same ▸ List.mem_map_of_mem later)
        rw [if_neg different, ih distinct later]

/-- An identifier without an entry has no link ends. -/
theorem Degrees.at_eq_zero_or_mem (degrees : Degrees) (id : NodeId) :
    degrees.at id = 0 ∨ (id, degrees.at id) ∈ degrees := by
  induction degrees with
  | nil => exact .inl rfl
  | cons entry rest ih =>
      rw [at_cons]
      split_ifs with same
      · exact .inr (same ▸ List.mem_cons_self)
      · exact ih.imp_right (List.mem_cons_of_mem entry)

/-- The largest number is the least one from one on that no entry exceeds. -/
theorem Degrees.largest_le_iff_entries :
    degrees.largest ≤ bound ↔ 1 ≤ bound ∧ ∀ entry ∈ degrees, entry.2 ≤ bound := by
  unfold largest
  generalize 1 = start
  induction degrees generalizing start with
  | nil => simp
  | cons entry rest ih => simp [ih, and_assoc]

/-- The largest number is the least one from one on that no identifier exceeds. -/
theorem Degrees.largest_le_iff (distinct : (degrees.map Prod.fst).Nodup) :
    degrees.largest ≤ bound ↔ 1 ≤ bound ∧ ∀ id, degrees.at id ≤ bound := by
  rw [largest_le_iff_entries]
  refine and_congr_right fun _ => ⟨fun entries id => ?_, fun ids entry member => ?_⟩
  · rcases degrees.at_eq_zero_or_mem id with none | member
    · exact none ▸ Nat.zero_le bound
    · exact entries _ member
  · exact at_of_mem distinct member ▸ ids entry.1

/-- Links are counted end by end. -/
theorem Degrees.ofLinks_eq (links : List PictureLink) :
    Degrees.ofLinks links = Degrees.countAll [] (links.flatMap PictureLink.countedAt) := by
  rw [countAll, List.foldl_flatMap]
  refine List.foldl_ext _ _ _ fun degrees link _ => ?_
  unfold PictureLink.countedAt
  split_ifs <;> rfl

/-- Every identifier has at most one entry. -/
theorem Degrees.nodup_ofLinks (links : List PictureLink) :
    ((Degrees.ofLinks links).map Prod.fst).Nodup := by
  have none : (([] : Degrees).map Prod.fst).Nodup := List.nodup_nil
  rw [ofLinks_eq]
  exact nodup_countAll none _

/-- The link ends at an identifier are counted one by one. -/
theorem Degrees.at_ofLinks (links : List PictureLink) (id : NodeId) :
    (Degrees.ofLinks links).at id = (links.flatMap PictureLink.countedAt).count id := by
  rw [ofLinks_eq, at_countAll]
  exact Nat.zero_add _

/-- The ends at an identifier are those of the links that start there or end there. -/
theorem Picture.count_countedAt (picture : Picture) (id : NodeId) :
    (picture.links.flatMap PictureLink.countedAt).count id = picture.linkEnds id := by
  unfold linkEnds
  induction picture.links with
  | nil => rfl
  | cons link rest ih =>
      rw [List.flatMap_cons, List.count_append, ih, PictureLink.countedAt, List.countP_cons,
        List.countP_cons]
      by_cases loop : link.source = link.target
      · simp [loop]
      · simp only [loop, List.count_cons, List.count_nil, beq_iff_eq, ne_eq, not_false_eq_true,
          true_and, decide_eq_true_eq, if_false]
        omega

/-- A link counts at most once at an identifier. -/
theorem PictureLink.count_countedAt_le (link : PictureLink) (id : NodeId) :
    link.countedAt.count id ≤ 1 := by
  have distinct : link.countedAt.Nodup := by
    unfold countedAt
    split_ifs with loop <;> simp [loop]
  exact List.nodup_iff_count_le_one.mp distinct id

/-- No identifier has more link ends than there are links. -/
theorem Degrees.at_ofLinks_le (links : List PictureLink) (id : NodeId) :
    (Degrees.ofLinks links).at id ≤ links.length := by
  have each : ∀ ends ∈ links.map (List.count id ∘ PictureLink.countedAt), ends ≤ 1 :=
    List.forall_mem_map.mpr fun link _ => link.count_countedAt_le id
  rw [at_ofLinks, List.count_flatMap]
  simpa using List.sum_le_card_nsmul _ 1 each

end Counting

section Shares

variable {few most : Nat}

/-- A number of at least one is converted to a double of at least one. -/
theorem one_le_ofNat (positive : 1 ≤ most) : 1.0 ≤ Float.ofNat most := by
  have rounded := isRounded_ofNat most
  rcases lt_or_ge (most : ℚ) overflow with small | huge
  · obtain ⟨whole, number, -⟩ := rounded.finite small
    have above := rounded.above number number?_one (by exact_mod_cast positive)
    exact (le_iff_of_number? number?_one number).mpr above
  · rw [rounded.infinite huge]
    decide +kernel

/-- The rounded quotient of a number and a larger one lies between zero and one. -/
theorem quotient_between (order : few ≤ most) (positive : 1 ≤ most) (small : most < 2 ^ 64) :
    0.0 ≤ Float.ofNat few / Float.ofNat most ∧ Float.ofNat few / Float.ofNat most ≤ 1.0 := by
  have fewRounded := isRounded_ofNat few
  have mostRounded := isRounded_ofNat most
  have order : (few : ℚ) ≤ most := by exact_mod_cast order
  have positive : (1 : ℚ) ≤ most := by exact_mod_cast positive
  -- The power of two is a double, so that neither of the two numbers overflows.
  obtain ⟨top, topNumber⟩ := exists_number?_eq (m := 1) (by decide) (by decide : 64 ≤ 900)
  have bound : (most : ℚ) ≤ (1 : Nat) * 2 ^ 64 := by exact_mod_cast small.le
  obtain ⟨part, partNumber, partNonneg, -⟩ :=
    fewRounded.between number?_zero few.cast_nonneg topNumber (order.trans bound)
  obtain ⟨whole, wholeNumber, oneLe, -⟩ :=
    mostRounded.between number?_one positive topNumber bound
  have less : part ≤ whole := by
    rcases order.eq_or_lt with same | less
    · obtain rfl : few = most := by exact_mod_cast same
      exact (Option.some.inj (partNumber.symm.trans wholeNumber)).le
    · exact fewRounded.le_of_lt mostRounded less partNumber wholeNumber
  have wholePositive : 0 < whole := zero_lt_one.trans_le oneLe
  have quotient := isRounded_div partNumber wholeNumber partNonneg wholePositive
  exact (between_iff number?_zero number?_one).mpr
    (quotient.between number?_zero (div_nonneg partNonneg wholePositive.le) number?_one
      ((div_le_one wholePositive).mpr less))

end Shares

/-- The size of every node comes from the exact number of link ends at its identifier and the
largest such number, for any nodes and links: also for nodes and links that occur several times,
links from a node to itself and links that lead nowhere. -/
theorem nodeSizes_fromEnds (picture : Picture) (width height : Float) :
    CountedEnds picture (Degrees.ofLinks picture.links) ∧
      (Diagram.ofPicture picture width height).looks.toList.map NodeLook.size =
        picture.nodes.map fun node =>
          1.0 + 0.6 * ((Degrees.ofLinks picture.links).share node.id).sqrt := by
  have largest (most : Nat) : (Degrees.ofLinks picture.links).largest ≤ most ↔
      1 ≤ most ∧ ∀ id, (Degrees.ofLinks picture.links).at id ≤ most :=
    Degrees.largest_le_iff (Degrees.nodup_ofLinks picture.links)
  have fits := Degrees.at_ofLinks_le picture.links
  obtain ⟨positive, bound⟩ := (largest _).mp le_rfl
  refine ⟨⟨?count, fits, positive, bound, ?least, one_le_ofNat positive, ?share⟩, ?size⟩
  case count => exact fun id => (Degrees.at_ofLinks ..).trans (picture.count_countedAt id)
  case least => exact fun most one counts => (largest most).mpr ⟨one, counts⟩
  case share =>
    intro small id
    have most : (Degrees.ofLinks picture.links).largest ≤ max 1 picture.links.length :=
      (largest _).mpr ⟨le_max_left .., fun id => (fits id).trans (le_max_right ..)⟩
    exact quotient_between (bound id) positive (by omega)
  case size => simp [Diagram.ofPicture, Function.comp_def, nodeSize, Degrees.share]

/-- A link from a node to itself does not count, and a repeated one counts again. -/
theorem nodeSizes_fromEnds_tangled :
    tangledPicture.links.length < 2 ^ 64 ∧
      (Degrees.ofLinks tangledPicture.links).at ⟨1⟩ = 3 ∧
      (Degrees.ofLinks tangledPicture.links).at ⟨2⟩ = 2 ∧
      0.0 ≤ (Degrees.ofLinks tangledPicture.links).share ⟨2⟩ ∧
      (Degrees.ofLinks tangledPicture.links).share ⟨2⟩ ≤ 1.0 := by
  have small : tangledPicture.links.length < 2 ^ 64 := by decide
  have ends := (nodeSizes_fromEnds tangledPicture 800.0 600.0).1
  exact ⟨small, (ends.count ⟨1⟩).trans (by decide), (ends.count ⟨2⟩).trans (by decide),
    ends.share small ⟨2⟩⟩

end MeshConsole
