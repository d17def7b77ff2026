/-
This file relates the links of a picture to the arrows that its diagram draws. The main statement
says which links are drawn, and that every one that is drawn shows its own weight.
-/

import Mathlib.Data.List.Nodup
import MeshConsole.Graph.Frame
import MeshConsole.Proofs.Graph.DiagramRun

namespace MeshConsole

/-- The two ends of a link, the source first. -/
def PictureLink.ends (link : PictureLink) : NodeId × NodeId := (link.source, link.target)

/-- Every node has its own identifier, and at most one link leads from one node to another. -/
structure Picture.IsSimple (picture : Picture) : Prop where
  nodes : (picture.nodes.map PictureNode.id).Nodup
  links : (picture.links.map PictureLink.ends).Nodup

/-- A body of the diagram shows the node with an identifier. -/
def Diagram.Shows (diagram : Diagram) (place : Nat) (id : NodeId) : Prop :=
  diagram.looks[place]?.map NodeLook.id = some id

/-- Two bodies show the two ends, which are different nodes. -/
structure Diagram.Joins (diagram : Diagram) (ends : NodeId × NodeId) (pair : Nat × Nat) : Prop where
  different : ends.1 ≠ ends.2
  source : diagram.Shows pair.1 ends.1
  target : diagram.Shows pair.2 ends.2

/-- Every link between two different nodes is drawn once, from its source to its target, and its
own weight is kept for these two. -/
def Diagram.DrawsEachLink (diagram : Diagram) (picture : Picture) : Prop :=
  ∀ link ∈ picture.links, ∀ pair, diagram.Joins link.ends pair →
    diagram.simulation.links.count pair = 1 ∧ diagram.linkValue? pair.1 pair.2 = some link.value

/-- What holds of the links of a picture in a diagram. -/
structure DrawnLinks (picture : Picture) (diagram : Diagram) : Prop where
  /-- Two bodies show the ends of a link, if these are two different nodes of the picture. -/
  joined : ∀ link ∈ picture.links, link.source ≠ link.target →
    link.source ∈ picture.nodes.map PictureNode.id →
    link.target ∈ picture.nodes.map PictureNode.id →
      ∃ pair, diagram.Joins link.ends pair
  /-- A link is drawn once, unless a link in the opposite direction stands before it. Then it is
  not drawn. -/
  drawn : ∀ earlier link later pair, picture.links = earlier ++ link :: later →
    diagram.Joins link.ends pair →
      diagram.simulation.links.count pair =
        if ∃ other ∈ earlier, other.ends = link.ends.swap then 0 else 1
  /-- Only links between two different nodes are drawn. -/
  linked : ∀ pair ∈ diagram.simulation.links, ∃ link ∈ picture.links, diagram.Joins link.ends pair
  /-- The weight that is kept for the two ends of a link is its own one. -/
  value : ∀ link ∈ picture.links, ∀ pair, diagram.Joins link.ends pair →
    diagram.linkValue? pair.1 pair.2 = some link.value
  /-- The text that is written at a link is its own percentage. -/
  label : ∀ link ∈ picture.links, ∀ pair, diagram.Joins link.ends pair →
    ∀ sizes theme textWidth text x y calls,
      ⟨.fillText text x y, calls⟩ ∈ diagram.drawLinkLabel sizes theme textWidth pair →
        text = linkLabel link.value
  /-- Every link is drawn exactly if no two links lead in opposite directions between two nodes. -/
  each_iff : diagram.DrawsEachLink picture ↔
    ∀ link ∈ picture.links, ∀ pair, diagram.Joins link.ends pair →
      ∀ other ∈ picture.links, other.ends ≠ link.ends.swap

/-- The bodies at the two ends of a strand. -/
def Strand.pair (strand : Strand) : Nat × Nat := (strand.source, strand.target)

/-- The strand of a link between two bodies. -/
def PictureLink.strand (link : PictureLink) (pair : Nat × Nat) : Strand :=
  ⟨pair.1, pair.2, link.value, restLength link.value⟩

/-- This function links several pairs of bodies. -/
def Simulation.linkAll (simulation : Simulation) (pairs : List (Nat × Nat)) : Simulation :=
  pairs.foldl (fun simulation pair => simulation.link pair.1 pair.2) simulation

section Weights

variable {values : PairValues} {pair other : Nat × Nat} {value : Float}

/-- The weight of a pair is the one that was set last. -/
@[simp]
theorem PairValues.get?_set_self (values : PairValues) (pair : Nat × Nat) (value : Float) :
    (values.set pair value).get? pair = some value := by
  induction values with
  | nil => simp [set, get?]
  | cons entry rest ih =>
      obtain ⟨known, kept⟩ := entry
      by_cases same : known = pair
      · simp [set, get?, same]
      · simpa [set, get?, same] using ih

/-- The weights of all other pairs stay. -/
theorem PairValues.get?_set_of_ne (different : other ≠ pair) :
    (values.set pair value).get? other = values.get? other := by
  induction values with
  | nil => simp [set, get?, different.symm]
  | cons entry rest ih =>
      obtain ⟨known, kept⟩ := entry
      by_cases same : known = pair
      · simp [set, get?, same, different.symm]
      · by_cases found : known = other
        · simp [set, get?, found, different]
        · simpa [set, get?, same, found] using ih

/-- Strands between other bodies leave the weight of a pair alone. -/
theorem PairValues.get?_foldl_of_not_mem {strands : List Strand}
    (missing : pair ∉ strands.map Strand.pair) :
    (strands.foldl (fun values strand => PairValues.set strand.pair strand.value values)
      values).get? pair = values.get? pair := by
  induction strands generalizing values with
  | nil => rfl
  | cons strand rest ih =>
      obtain ⟨different, later⟩ := List.ne_and_not_mem_of_not_mem_cons missing
      rw [List.foldl_cons, ih later, get?_set_of_ne different]

/-- The weight of a pair that only one strand joins is the weight of this strand. -/
theorem PairValues.get?_foldl_of_mem {strands : List Strand} {strand : Strand}
    (distinct : (strands.map Strand.pair).Nodup) (member : strand ∈ strands) :
    (strands.foldl (fun values strand => PairValues.set strand.pair strand.value values)
      values).get? strand.pair = some strand.value := by
  induction strands generalizing values with
  | nil => exact absurd member List.not_mem_nil
  | cons head rest ih =>
      obtain ⟨missing, distinct⟩ := List.nodup_cons.mp distinct
      rw [List.foldl_cons]
      rcases List.mem_cons.mp member with rfl | later
      · rw [get?_foldl_of_not_mem missing, get?_set_self]
      · exact ih distinct later

end Weights

section Pairs

variable {simulation : Simulation} {pair : Nat × Nat} {pairs earlier later : List (Nat × Nat)}

/-- Two bodies are linked unless they are linked already. -/
theorem Simulation.links_link (simulation : Simulation) (pair : Nat × Nat) :
    (simulation.link pair.1 pair.2).links =
      if pair ∈ simulation.links ∨ pair.swap ∈ simulation.links then simulation.links
      else simulation.links ++ [pair] := by
  obtain ⟨source, target⟩ := pair
  simp only [link, List.contains_iff_mem, Prod.swap_prod_mk]
  split_ifs <;> rfl

/-- How the links of a simulation cover the pairs that were to be linked. -/
structure LinksCover (links pairs : List (Nat × Nat)) : Prop where
  distinct : links.Nodup
  /-- Every link is one of the pairs. -/
  asked : ∀ pair ∈ links, pair ∈ pairs
  /-- Every pair is linked, perhaps the other way round. -/
  linked : ∀ pair ∈ pairs, pair ∈ links ∨ pair.swap ∈ links
  /-- No link leads back over another one. -/
  oneWay : ∀ pair ∈ links, pair.swap ∈ links → pair.swap = pair

/-- No links cover no pairs. -/
theorem LinksCover.nil : LinksCover [] [] := by
  constructor <;> simp

/-- One more pair is covered too. -/
theorem LinksCover.link (covers : LinksCover simulation.links pairs) (pair : Nat × Nat) :
    LinksCover (simulation.link pair.1 pair.2).links (pairs ++ [pair]) := by
  rw [Simulation.links_link]
  split_ifs with known
  · constructor
    case distinct => exact covers.distinct
    case asked => exact fun other there => List.mem_append_left _ (covers.asked other there)
    case linked =>
      intro other member
      rcases List.mem_append.mp member with before | last
      · exact covers.linked other before
      · rw [List.mem_singleton.mp last]
        exact known
    case oneWay => exact covers.oneWay
  · obtain ⟨fresh, notBack⟩ := not_or.mp known
    have distinct : (simulation.links ++ [pair]).Nodup :=
      List.nodup_append_comm.mp (List.nodup_cons.mpr ⟨fresh, covers.distinct⟩)
    refine ⟨distinct, ?asked, ?linked, ?oneWay⟩ <;> simp only [List.mem_append, List.mem_singleton]
    case asked => exact fun other there => there.imp_left (covers.asked other)
    case linked =>
      rintro other (before | rfl)
      · exact (covers.linked other before).imp .inl .inl
      · exact .inl (.inr rfl)
    case oneWay =>
      rintro other (there | rfl) (back | back)
      · exact covers.oneWay other there back
      · subst back
        exact absurd there notBack
      · exact absurd back notBack
      · exact back

/-- All pairs are covered. -/
theorem LinksCover.linkAll (covers : LinksCover simulation.links earlier) :
    LinksCover (simulation.linkAll later).links (earlier ++ later) := by
  induction later generalizing simulation earlier with
  | nil => rwa [List.append_nil]
  | cons pair rest ih =>
      rw [← List.singleton_append, ← List.append_assoc]
      exact ih (covers.link pair)

/-- The links of pairs that were put into an empty simulation. -/
theorem LinksCover.ofPairs (empty : simulation.links = []) (pairs : List (Nat × Nat)) :
    LinksCover (simulation.linkAll pairs).links pairs := by
  have before : LinksCover simulation.links [] := empty ▸ .nil
  exact before.linkAll

/-- One more pair takes no link away. -/
theorem Simulation.subset_link (simulation : Simulation) (pair : Nat × Nat) :
    simulation.links ⊆ (simulation.link pair.1 pair.2).links := by
  rw [links_link]
  split_ifs
  · exact List.Subset.refl _
  · exact List.subset_append_left _ _

/-- More pairs take no link away. -/
theorem Simulation.subset_linkAll (simulation : Simulation) (pairs : List (Nat × Nat)) :
    simulation.links ⊆ (simulation.linkAll pairs).links := by
  induction pairs generalizing simulation with
  | nil => exact List.Subset.refl _
  | cons pair rest ih => exact List.Subset.trans (subset_link _ _) (ih _)

/-- A pair that is to be linked once is linked exactly if it does not lead back over an earlier
one. -/
theorem Simulation.count_linkAll (empty : simulation.links = []) (fresh : pair ∉ earlier)
    (proper : pair.swap ≠ pair) :
    (simulation.linkAll (earlier ++ pair :: later)).links.count pair =
      if pair.swap ∈ earlier then 0 else 1 := by
  have before := LinksCover.ofPairs empty earlier
  have whole := LinksCover.ofPairs empty (earlier ++ pair :: later)
  have split : simulation.linkAll (earlier ++ pair :: later) =
      ((simulation.linkAll earlier).link pair.1 pair.2).linkAll later := List.foldl_append
  have absent : pair ∉ (simulation.linkAll earlier).links :=
    fun there => fresh (before.asked pair there)
  split_ifs with back
  · -- The earlier pair took the place of this one.
    have there : pair.swap ∈ (simulation.linkAll earlier).links :=
      (before.linked _ back).resolve_right absent
    have kept : pair.swap ∈ (simulation.linkAll (earlier ++ pair :: later)).links := by
      rw [split]
      exact subset_linkAll _ later (subset_link _ _ there)
    exact List.count_eq_zero.mpr fun member => proper (whole.oneWay pair member kept)
  · have added : pair ∈ ((simulation.linkAll earlier).link pair.1 pair.2).links := by
      have neither : ¬ (pair ∈ (simulation.linkAll earlier).links ∨
          pair.swap ∈ (simulation.linkAll earlier).links) :=
        not_or.mpr ⟨absent, fun there => back (before.asked _ there)⟩
      rw [links_link]
      exact (if_neg neither).symm ▸ List.mem_append_right _ (List.mem_singleton_self pair)
    have kept : pair ∈ (simulation.linkAll (earlier ++ pair :: later)).links := by
      rw [split]
      exact subset_linkAll _ later added
    exact List.count_eq_one_of_mem whole.distinct kept

end Pairs

/-- The last of the nodes with an identifier stands at a place. -/
structure IsLastPlace (nodes : List PictureNode) (id : NodeId) (place : Nat) : Prop where
  here : nodes[place]?.map PictureNode.id = some id
  last : ∀ later, place < later → nodes[later]?.map PictureNode.id ≠ some id

section Places

variable {nodes rest : List PictureNode} {node : PictureNode} {id : NodeId} {place : Nat}

/-- An identifier without a place is none of the nodes. -/
theorem lastPlace?_eq_none_iff :
    lastPlace? id nodes = none ↔ id ∉ nodes.map PictureNode.id := by
  induction nodes with
  | nil => simp [lastPlace?]
  | cons node rest ih =>
      rw [List.map_cons, List.mem_cons, not_or, ← ih, lastPlace?]
      cases lastPlace? id rest with
      | none => simp [eq_comm]
      | some place => simp

/-- One more node in front moves every place by one. -/
theorem isLastPlace_cons_succ :
    IsLastPlace (node :: rest) id (place + 1) ↔ IsLastPlace rest id place := by
  constructor
  · rintro ⟨here, last⟩
    exact ⟨here, fun later after => last (later + 1) (Nat.succ_lt_succ after)⟩
  · rintro ⟨here, last⟩
    refine ⟨here, fun later after => ?_⟩
    obtain ⟨later, rfl⟩ : ∃ before, later = before + 1 := ⟨later - 1, by omega⟩
    exact last later (Nat.lt_of_succ_lt_succ after)

/-- The first node is the last one with an identifier if no other node has it. -/
theorem isLastPlace_cons_zero :
    IsLastPlace (node :: rest) id 0 ↔ node.id = id ∧ id ∉ rest.map PictureNode.id := by
  constructor
  · rintro ⟨here, last⟩
    refine ⟨Option.some.inj here, fun member => ?_⟩
    obtain ⟨place, found⟩ := List.mem_iff_getElem?.mp member
    rw [List.getElem?_map] at found
    exact last (place + 1) (Nat.succ_pos place) found
  · rintro ⟨same, missing⟩
    refine ⟨congrArg some same, fun later after found => missing ?_⟩
    obtain ⟨later, rfl⟩ : ∃ before, later = before + 1 := ⟨later - 1, by omega⟩
    exact List.mem_iff_getElem?.mpr ⟨later, (List.getElem?_map ..).trans found⟩

/-- The place of an identifier is that of the last node that has it. -/
theorem lastPlace?_eq_some_iff_isLastPlace :
    lastPlace? id nodes = some place ↔ IsLastPlace nodes id place := by
  induction nodes generalizing place with
  | nil =>
      constructor
      · intro found
        cases found
      · intro isLast
        cases isLast.here
  | cons node rest ih =>
      cases place with
      | zero =>
          rw [isLastPlace_cons_zero, ← lastPlace?_eq_none_iff, lastPlace?]
          cases lastPlace? id rest <;> simp
      | succ place =>
          rw [isLastPlace_cons_succ, ← ih, lastPlace?]
          cases lastPlace? id rest <;> simp

/-- There is a last node with an identifier exactly if there is one at all. -/
theorem exists_isLastPlace_iff :
    (∃ place, IsLastPlace nodes id place) ↔ id ∈ nodes.map PictureNode.id := by
  simp only [← lastPlace?_eq_some_iff_isLastPlace, ← Option.isSome_iff_exists]
  rw [← not_iff_not, ← lastPlace?_eq_none_iff, Option.not_isSome_iff_eq_none]

/-- The place of a node is where its identifier stands, if every node has its own one. -/
theorem lastPlace?_eq_some_iff (distinct : (nodes.map PictureNode.id).Nodup) :
    lastPlace? id nodes = some place ↔ nodes[place]?.map PictureNode.id = some id := by
  rw [lastPlace?_eq_some_iff_isLastPlace]
  constructor
  · exact IsLastPlace.here
  · intro here
    refine ⟨here, fun later after found => ?_⟩
    rw [← List.getElem?_map] at here found
    obtain ⟨inside, -⟩ := List.getElem?_eq_some_iff.mp found
    exact List.nodup_iff_getElem?_ne_getElem?.mp distinct place later after inside
      (here.trans found.symm)

end Places

section Strands

variable {picture : Picture} {diagram : Diagram} {ends other : NodeId × NodeId}
  {pair : Nat × Nat} {link : PictureLink} {links earlier later : List PictureLink}
  {strand : Strand}

/-- The strands of a picture, in the order of its links. -/
def Picture.strands (picture : Picture) : List Strand :=
  picture.links.filterMap (strand? picture.nodes)

/-- The diagram was built from a picture, whatever has happened to it since. -/
structure Diagram.Depicts (diagram : Diagram) (picture : Picture) : Prop where
  shows : ∀ place id, diagram.Shows place id ↔
    picture.nodes[place]?.map PictureNode.id = some id
  values : diagram.values = picture.strands.foldl
    (fun values strand => PairValues.set strand.pair strand.value values) []
  links : ∃ simulation : Simulation, simulation.links = [] ∧
    diagram.simulation.links = (simulation.linkAll (picture.strands.map Strand.pair)).links

/-- What happens to a diagram does not change the picture that it was built from. -/
theorem Diagram.depicts_run (picture : Picture) (width height : Float)
    (events : List DiagramEvent) :
    ((Diagram.ofPicture picture width height).run events).Depicts picture := by
  have same := (Diagram.ofPicture picture width height).samePicture_run events
  constructor
  case shows =>
    intro place id
    rw [Shows, same.looks]
    simp [ofPicture, Function.comp_def]
  case values => exact same.values
  case links =>
    let bodies := (List.range picture.nodes.length).map fun place =>
      startBody place picture.nodes.length
    refine ⟨{ bodies := bodies.toArray }, rfl, ?_⟩
    rw [same.links, Simulation.linkAll, List.foldl_map]
    rfl

/-- Every node of the picture is shown. -/
theorem Diagram.Depicts.exists_shows (depicts : diagram.Depicts picture) {id : NodeId}
    (member : id ∈ picture.nodes.map PictureNode.id) : ∃ place, diagram.Shows place id := by
  obtain ⟨place, found⟩ := List.mem_iff_getElem?.mp member
  rw [List.getElem?_map] at found
  exact ⟨place, (depicts.shows place id).mpr found⟩

/-- Two bodies show at most one pair of ends. -/
theorem Diagram.Joins.ends_eq (joins : diagram.Joins ends pair) (same : diagram.Joins other pair) :
    ends = other :=
  Prod.ext (Option.some.inj (joins.source.symm.trans same.source))
    (Option.some.inj (joins.target.symm.trans same.target))

/-- The same two bodies show the ends of a link in the opposite direction. -/
theorem Diagram.Joins.swap (joins : diagram.Joins ends pair) : diagram.Joins ends.swap pair.swap :=
  ⟨joins.different.symm, joins.target, joins.source⟩

/-- The two bodies of a link are different. -/
theorem Diagram.Joins.swap_ne (joins : diagram.Joins ends pair) : pair.swap ≠ pair := by
  intro same
  have turned : diagram.Joins ends.swap pair := same ▸ joins.swap
  exact joins.different (congrArg Prod.fst (joins.ends_eq turned))

/-- The strand of a link joins the places of its ends. -/
theorem strand?_eq_some_iff {nodes : List PictureNode} :
    strand? nodes link = some strand ↔
      (link.source ≠ link.target ∧ lastPlace? link.source nodes = some strand.source ∧
        lastPlace? link.target nodes = some strand.target) ∧
      strand = link.strand strand.pair := by
  obtain ⟨source, target, value, rest⟩ := strand
  unfold strand?
  split_ifs with loop
  · simp [loop]
  · split <;> simp_all [PictureLink.strand, Strand.pair, and_assoc, eq_comm]

/-- A link has a strand between the bodies of its ends, if these are two different nodes. -/
theorem Diagram.Depicts.strand?_iff_joins (depicts : diagram.Depicts picture)
    (simple : picture.IsSimple) :
    strand? picture.nodes link = some strand ↔
      diagram.Joins link.ends strand.pair ∧ strand = link.strand strand.pair := by
  have placed (id : NodeId) (place : Nat) :
      lastPlace? id picture.nodes = some place ↔ diagram.Shows place id :=
    (lastPlace?_eq_some_iff simple.nodes).trans (depicts.shows place id).symm
  rw [strand?_eq_some_iff, placed, placed]
  exact and_congr_left' ⟨fun ⟨different, source, target⟩ => ⟨different, source, target⟩,
    fun joins => ⟨joins.different, joins.source, joins.target⟩⟩

/-- The strand of a link whose ends two bodies show. -/
theorem Diagram.Depicts.strand?_eq (depicts : diagram.Depicts picture) (simple : picture.IsSimple)
    (joins : diagram.Joins link.ends pair) :
    strand? picture.nodes link = some (link.strand pair) :=
  (depicts.strand?_iff_joins simple).mpr ⟨joins, rfl⟩

/-- The strands between two bodies come from the links between the nodes that these show. -/
theorem Diagram.Depicts.mem_pairs (depicts : diagram.Depicts picture) (simple : picture.IsSimple) :
    pair ∈ (links.filterMap (strand? picture.nodes)).map Strand.pair ↔
      ∃ link ∈ links, diagram.Joins link.ends pair := by
  simp only [List.mem_map, List.mem_filterMap]
  constructor
  · rintro ⟨strand, ⟨link, member, found⟩, rfl⟩
    exact ⟨link, member, ((depicts.strand?_iff_joins simple).mp found).1⟩
  · rintro ⟨link, member, joins⟩
    exact ⟨link.strand pair, ⟨link, member, depicts.strand?_eq simple joins⟩, rfl⟩

/-- There is at most one strand from one body to another. -/
theorem Diagram.Depicts.nodup_pairs (depicts : diagram.Depicts picture)
    (simple : picture.IsSimple) : (picture.strands.map Strand.pair).Nodup := by
  have distinct := List.pairwise_map.mp simple.links
  refine List.pairwise_map.mpr (List.pairwise_filterMap.mpr (distinct.imp ?_))
  intro first second different strand found other foundOther same
  have joins := ((depicts.strand?_iff_joins simple).mp found).1
  have joinsOther := ((depicts.strand?_iff_joins simple).mp foundOther).1
  exact different (joins.ends_eq (same ▸ joinsOther))

/-- The links of a diagram cover the pairs of its strands. -/
theorem Diagram.Depicts.linksCover (depicts : diagram.Depicts picture) :
    LinksCover diagram.simulation.links (picture.strands.map Strand.pair) := by
  obtain ⟨simulation, empty, links⟩ := depicts.links
  exact links ▸ LinksCover.ofPairs empty _

/-- The link from one node to another is the only one. -/
theorem Picture.IsSimple.not_mem_earlier (simple : picture.IsSimple)
    (order : picture.links = earlier ++ link :: later) :
    ∀ other ∈ earlier, other.ends ≠ link.ends := by
  have distinct := simple.links
  rw [order, List.map_append, List.nodup_append'] at distinct
  intro other member same
  exact distinct.2.2 (List.mem_map_of_mem member) (same ▸ List.mem_map_of_mem List.mem_cons_self)

/-- A link is drawn once, unless a link in the opposite direction stands before it. -/
theorem Diagram.Depicts.count_links (depicts : diagram.Depicts picture)
    (simple : picture.IsSimple) (order : picture.links = earlier ++ link :: later)
    (joins : diagram.Joins link.ends pair) :
    diagram.simulation.links.count pair =
      if ∃ other ∈ earlier, other.ends = link.ends.swap then 0 else 1 := by
  let strands (links : List PictureLink) := links.filterMap (strand? picture.nodes)
  have pairs : picture.strands.map Strand.pair =
      (strands earlier).map Strand.pair ++ pair :: (strands later).map Strand.pair := by
    simp [Picture.strands, order, strands, depicts.strand?_eq simple joins, PictureLink.strand,
      Strand.pair]
  have fresh : pair ∉ (strands earlier).map Strand.pair := by
    intro member
    obtain ⟨other, there, same⟩ := (depicts.mem_pairs simple).mp member
    exact simple.not_mem_earlier order other there (same.ends_eq joins)
  have back : pair.swap ∈ (strands earlier).map Strand.pair ↔
      ∃ other ∈ earlier, other.ends = link.ends.swap := by
    rw [depicts.mem_pairs simple]
    exact exists_congr fun other => and_congr_right fun _ =>
      ⟨fun same => same.ends_eq joins.swap, fun same => same ▸ joins.swap⟩
  obtain ⟨simulation, empty, links⟩ := depicts.links
  rw [links, pairs, Simulation.count_linkAll empty fresh joins.swap_ne]
  simp only [back]

/-- The weight that is kept for the two ends of a link is its own one. -/
theorem Diagram.Depicts.linkValue?_eq (depicts : diagram.Depicts picture)
    (simple : picture.IsSimple) (member : link ∈ picture.links)
    (joins : diagram.Joins link.ends pair) :
    diagram.linkValue? pair.1 pair.2 = some link.value := by
  have there : link.strand pair ∈ picture.strands :=
    List.mem_filterMap.mpr ⟨link, member, depicts.strand?_eq simple joins⟩
  rw [linkValue?, depicts.values]
  exact PairValues.get?_foldl_of_mem (depicts.nodup_pairs simple) there

/-- The only text at two bodies is the percentage of the weight that is kept for them. -/
theorem Diagram.linkValue?_of_fillText {sizes : Sizes} {theme : Theme} {textWidth : TextWidth}
    {text : String} {x y : Float} {calls : List CanvasCall}
    (drawn : ⟨.fillText text x y, calls⟩ ∈ diagram.drawLinkLabel sizes theme textWidth pair) :
    ∃ value, diagram.linkValue? pair.1 pair.2 = some value ∧ text = linkLabel value := by
  simp only [drawLinkLabel] at drawn
  split at drawn
  · exact absurd drawn List.not_mem_nil
  · split at drawn
    case h_1 value _ _ found _ _ =>
      refine ⟨value, found, ?_⟩
      simp_all [steps]
    case h_2 => exact absurd drawn List.not_mem_nil

end Strands

/-- Whatever happens to the diagram of a picture, a link between two of its nodes is drawn once,
with its own weight, unless a link in the opposite direction stands before it in the picture. -/
theorem links_drawn (picture : Picture) (width height : Float) (events : List DiagramEvent)
    (simple : picture.IsSimple) :
    DrawnLinks picture ((Diagram.ofPicture picture width height).run events) := by
  have depicts := Diagram.depicts_run picture width height events
  generalize (Diagram.ofPicture picture width height).run events = diagram at depicts ⊢
  constructor
  case joined =>
    intro link _ different source target
    obtain ⟨first, source⟩ := depicts.exists_shows source
    obtain ⟨second, target⟩ := depicts.exists_shows target
    exact ⟨(first, second), different, source, target⟩
  case drawn => exact fun earlier link later pair => depicts.count_links simple
  case linked =>
    intro pair member
    exact (depicts.mem_pairs simple).mp (depicts.linksCover.asked pair member)
  case value => exact fun link member pair => depicts.linkValue?_eq simple member
  case label =>
    intro link member pair joins sizes theme textWidth text x y calls drawn
    obtain ⟨value, kept, written⟩ := Diagram.linkValue?_of_fillText drawn
    rw [depicts.linkValue?_eq simple member joins] at kept
    rw [written, Option.some.inj kept]
  case each_iff =>
    constructor
    · intro each link member pair joins other there back
      have drawn := List.count_pos_iff.mp ((each link member pair joins).1 ▸ Nat.one_pos)
      have drawnBack := List.count_pos_iff.mp
        ((each other there pair.swap (back ▸ joins.swap)).1 ▸ Nat.one_pos)
      exact joins.swap_ne (depicts.linksCover.oneWay pair drawn drawnBack)
    · intro oneWay link member pair joins
      refine ⟨?_, depicts.linkValue?_eq simple member joins⟩
      obtain ⟨earlier, later, order⟩ := List.append_of_mem member
      rw [depicts.count_links simple order joins, if_neg]
      rintro ⟨other, before, back⟩
      exact oneWay link member pair joins other (order ▸ List.mem_append_left _ before) back

/-- Two nodes with a link in each direction. -/
def twoWayPicture : Picture where
  nodes := [⟨⟨1⟩, "n1", "#808080"⟩, ⟨⟨2⟩, "n2", "#008b8b"⟩]
  links := [⟨⟨1⟩, ⟨2⟩, 0.25⟩, ⟨⟨2⟩, ⟨1⟩, 0.75⟩]

/-- The diagram of the two nodes. -/
def twoWayDiagram : Diagram := Diagram.ofPicture twoWayPicture 800.0 600.0

/-- The first of the two links is drawn, also while its source is highlighted. -/
theorem links_drawn_twoWay :
    twoWayPicture.IsSimple ∧
      (twoWayDiagram.run [.hovered (some 0)]).simulation.links.count (0, 1) = 1 ∧
      (twoWayDiagram.run [.hovered (some 0)]).linkValue? 0 1 = some 0.25 := by
  have simple : twoWayPicture.IsSimple := ⟨by decide, by decide⟩
  have links := links_drawn twoWayPicture 800.0 600.0 [.hovered (some 0)] simple
  have joins : (twoWayDiagram.run [.hovered (some 0)]).Joins (⟨1⟩, ⟨2⟩) (0, 1) :=
    ⟨by decide, rfl, rfl⟩
  refine ⟨simple, ?drawn, links.value ⟨⟨1⟩, ⟨2⟩, 0.25⟩ List.mem_cons_self _ joins⟩
  case drawn =>
    exact (links.drawn [] ⟨⟨1⟩, ⟨2⟩, 0.25⟩ [⟨⟨2⟩, ⟨1⟩, 0.75⟩] _ rfl joins).trans (if_neg (by simp))

/-- The second one is not drawn, because it leads back over the first one. -/
theorem links_undrawn_twoWay :
    twoWayPicture.IsSimple ∧ ¬ twoWayDiagram.DrawsEachLink twoWayPicture := by
  refine ⟨⟨by decide, by decide⟩, fun each => ?_⟩
  have joins : twoWayDiagram.Joins (⟨2⟩, ⟨1⟩) (1, 0) := ⟨by decide, rfl, rfl⟩
  have member : ⟨⟨2⟩, ⟨1⟩, 0.75⟩ ∈ twoWayPicture.links := List.mem_cons_of_mem _ List.mem_cons_self
  have once := (each _ member _ joins).1
  have never : twoWayDiagram.simulation.links.count (1, 0) = 0 := by decide
  exact absurd (never.symm.trans once) Nat.zero_ne_one

end MeshConsole
