/-
This file says what a diagram keeps of any picture, also of one with repeated nodes, repeated links
and links that lead nowhere. The main statement is that the strands are the links between two
different nodes, in order.
-/

import MeshConsole.Proofs.Graph.CanvasInteraction

namespace MeshConsole

/-- The two ends of a link are different nodes of the picture. -/
structure Picture.Resolves (picture : Picture) (link : PictureLink) : Prop where
  different : link.source ≠ link.target
  source : link.source ∈ picture.nodes.map PictureNode.id
  target : link.target ∈ picture.nodes.map PictureNode.id

instance (picture : Picture) (link : PictureLink) : Decidable (picture.Resolves link) :=
  decidable_of_iff (link.source ≠ link.target ∧ link.source ∈ picture.nodes.map PictureNode.id ∧
    link.target ∈ picture.nodes.map PictureNode.id)
    ⟨fun ⟨different, source, target⟩ => ⟨different, source, target⟩,
      fun resolves => ⟨resolves.different, resolves.source, resolves.target⟩⟩

/-- A link leads from the last node with the identifier of its source to the last one with that of
its target. -/
structure Picture.Leads (picture : Picture) (link : PictureLink) (pair : Nat × Nat) : Prop where
  different : link.source ≠ link.target
  source : IsLastPlace picture.nodes link.source pair.1
  target : IsLastPlace picture.nodes link.target pair.2

/-- What a diagram keeps of a picture. -/
structure ResolvedLinks (picture : Picture) (diagram : Diagram) : Prop where
  /-- There is one body for each node. -/
  bodies : diagram.simulation.bodies.size = picture.nodes.length
  /-- The bodies show the nodes in their order. -/
  looks : diagram.looks.toList.map (fun look => (look.id, look.label, look.color)) =
    picture.nodes.map fun node => (node.id, node.label, node.color)
  /-- There is one strand for each link whose ends are two different nodes, in the order of the
  links. It joins the last nodes with the identifiers of the ends. -/
  strands : List.Forall₂ (fun link strand => picture.Leads link strand.pair ∧
      strand.value = link.value ∧ strand.rest = 10.0 + link.value * 100.0)
    (picture.links.filter picture.Resolves) diagram.strands
  /-- No strand joins a body to itself. -/
  proper : ∀ strand ∈ diagram.strands, strand.source ≠ strand.target
  /-- The simulation links the bodies that strands join, any two of them once. -/
  linked : LinksCover diagram.simulation.links (diagram.strands.map Strand.pair)
  /-- The weight that is kept for two bodies is the one of the last link that leads from the first
  to the second. -/
  value_iff : ∀ source target value, diagram.linkValue? source target = some value ↔
    ∃ earlier link later, picture.links = earlier ++ link :: later ∧
      picture.Leads link (source, target) ∧
      (∀ other ∈ later, ¬ picture.Leads other (source, target)) ∧ link.value = value

section Strands

variable {picture : Picture} {link : PictureLink} {strand : Strand} {pair : Nat × Nat}
  {links earlier later : List PictureLink}

/-- A link resolves exactly if it leads from one place to another. -/
theorem Picture.resolves_iff_exists_leads :
    picture.Resolves link ↔ ∃ pair, picture.Leads link pair := by
  constructor
  · rintro ⟨different, source, target⟩
    obtain ⟨first, source⟩ := exists_isLastPlace_iff.mpr source
    obtain ⟨second, target⟩ := exists_isLastPlace_iff.mpr target
    exact ⟨(first, second), different, source, target⟩
  · rintro ⟨pair, different, source, target⟩
    exact ⟨different, exists_isLastPlace_iff.mp ⟨_, source⟩, exists_isLastPlace_iff.mp ⟨_, target⟩⟩

/-- The strand of a link joins the places between which the link leads. -/
theorem Picture.strand?_eq_some_iff_leads :
    strand? picture.nodes link = some strand ↔
      picture.Leads link strand.pair ∧ strand = link.strand strand.pair := by
  rw [strand?_eq_some_iff, lastPlace?_eq_some_iff_isLastPlace, lastPlace?_eq_some_iff_isLastPlace]
  exact and_congr_left' ⟨fun ⟨different, source, target⟩ => ⟨different, source, target⟩,
    fun leads => ⟨leads.different, leads.source, leads.target⟩⟩

/-- The strand of a link that leads from one place to another. -/
theorem Picture.Leads.strand?_eq (leads : picture.Leads link pair) :
    strand? picture.nodes link = some (link.strand pair) :=
  strand?_eq_some_iff_leads.mpr ⟨leads, rfl⟩

/-- A link leads from one place to another one. -/
theorem Picture.Leads.proper (leads : picture.Leads link pair) : pair.1 ≠ pair.2 := by
  intro same
  have sourceHere := leads.source.here
  rw [same] at sourceHere
  exact leads.different (Option.some.inj (sourceHere.symm.trans leads.target.here))

/-- A link that does not resolve has no strand. -/
theorem Picture.strand?_eq_none (lost : ¬ picture.Resolves link) :
    strand? picture.nodes link = none := by
  refine Option.eq_none_iff_forall_ne_some.mpr fun strand found => lost ?_
  exact resolves_iff_exists_leads.mpr ⟨_, (strand?_eq_some_iff_leads.mp found).1⟩

/-- The strands stand in the order of the links that resolve. -/
theorem Picture.forall₂_strands (links : List PictureLink) :
    List.Forall₂ (fun link strand => picture.Leads link strand.pair ∧
        strand.value = link.value ∧ strand.rest = 10.0 + link.value * 100.0)
      (links.filter picture.Resolves) (links.filterMap (strand? picture.nodes)) := by
  induction links with
  | nil => exact .nil
  | cons link rest ih =>
      by_cases resolves : picture.Resolves link
      · obtain ⟨pair, leads⟩ := resolves_iff_exists_leads.mp resolves
        rw [List.filter_cons, if_pos (decide_eq_true resolves),
          List.filterMap_cons_some leads.strand?_eq]
        exact .cons ⟨leads, rfl, rfl⟩ ih
      · rw [List.filter_cons, if_neg (mt of_decide_eq_true resolves),
          List.filterMap_cons_none (strand?_eq_none resolves)]
        exact ih

/-- A pair of bodies is joined by a strand exactly if a link leads from the first to the second. -/
theorem Picture.mem_pairs_iff_leads :
    pair ∈ (links.filterMap (strand? picture.nodes)).map Strand.pair ↔
      ∃ link ∈ links, picture.Leads link pair := by
  simp only [List.mem_map, List.mem_filterMap]
  constructor
  · rintro ⟨strand, ⟨link, member, found⟩, rfl⟩
    exact ⟨link, member, (strand?_eq_some_iff_leads.mp found).1⟩
  · rintro ⟨link, member, leads⟩
    exact ⟨link.strand pair, ⟨link, member, leads.strand?_eq⟩, rfl⟩

/-- The weight of the last link that leads from one body to another is kept for them. -/
theorem Picture.get?_of_leads (leads : picture.Leads link pair)
    (last : ∀ other ∈ later, ¬ picture.Leads other pair) :
    (((earlier ++ link :: later).filterMap (strand? picture.nodes)).foldl
      (fun values strand => PairValues.set strand.pair strand.value values) []).get? pair =
        some link.value := by
  have missing : pair ∉ (later.filterMap (strand? picture.nodes)).map Strand.pair := by
    rw [mem_pairs_iff_leads]
    rintro ⟨other, member, back⟩
    exact last other member back
  rw [List.filterMap_append, List.filterMap_cons_some leads.strand?_eq, List.foldl_append,
    List.foldl_cons, PairValues.get?_foldl_of_not_mem missing]
  exact PairValues.get?_set_self _ pair link.value

/-- Nothing is kept for two bodies without a link that leads from the first to the second. -/
theorem Picture.get?_of_not_leads (none : ∀ link ∈ links, ¬ picture.Leads link pair) :
    ((links.filterMap (strand? picture.nodes)).foldl
      (fun values strand => PairValues.set strand.pair strand.value values) []).get? pair =
        Option.none := by
  rw [PairValues.get?_foldl_of_not_mem]
  · rfl
  · rw [mem_pairs_iff_leads]
    rintro ⟨link, member, leads⟩
    exact none link member leads

end Strands

/-- Either no item of a list has a property, or one of those that have it is the last one. -/
theorem forall_not_or_exists_last {α : Type} (holds : α → Prop) (items : List α) :
    (∀ item ∈ items, ¬ holds item) ∨ ∃ earlier item later, items = earlier ++ item :: later ∧
      holds item ∧ ∀ other ∈ later, ¬ holds other := by
  induction items with
  | nil => exact .inl fun item member => absurd member List.not_mem_nil
  | cons item rest ih =>
      rcases ih with none | ⟨earlier, last, later, rfl, found, none⟩
      · by_cases found : holds item
        · exact .inr ⟨[], item, rest, rfl, found, none⟩
        · exact .inl (List.forall_mem_cons.mpr ⟨found, none⟩)
      · exact .inr ⟨item :: earlier, last, later, rfl, found, none⟩

/-- The diagram of any picture has one body for each node and one strand for each link between two
different nodes of the picture, in their order. Among nodes with one identifier a strand takes the
last one, and among links from one body to another the weight of the last one is kept. -/
theorem picture_linksResolved (picture : Picture) (width height : Float) :
    ResolvedLinks picture (Diagram.ofPicture picture width height) := by
  have depicts := Diagram.depicts_run picture width height []
  constructor
  case bodies => simp [Diagram.ofPicture, Simulation.bodies_foldl_link]
  case looks => simp [Diagram.ofPicture, Function.comp_def]
  case strands => exact picture.forall₂_strands picture.links
  case proper =>
    intro strand member
    obtain ⟨link, -, found⟩ : ∃ link ∈ picture.links, strand? picture.nodes link = some strand :=
      List.mem_filterMap.mp member
    exact (Picture.strand?_eq_some_iff_leads.mp found).1.proper
  case linked => exact depicts.linksCover
  case value_iff =>
    intro source target value
    have kept : (Diagram.ofPicture picture width height).linkValue? source target =
        (picture.strands.foldl (fun values strand =>
          PairValues.set strand.pair strand.value values) []).get? (source, target) :=
      congrArg (PairValues.get? · (source, target)) depicts.values
    rw [kept]
    constructor
    · intro found
      rcases forall_not_or_exists_last (picture.Leads · (source, target)) picture.links with
        none | ⟨earlier, link, later, order, leads, last⟩
      · rw [Picture.strands, Picture.get?_of_not_leads none] at found
        cases found
      · rw [Picture.strands, order, Picture.get?_of_leads leads last] at found
        exact ⟨earlier, link, later, order, leads, last, Option.some.inj found⟩
    · rintro ⟨earlier, link, later, order, leads, last, rfl⟩
      rw [Picture.strands, order, Picture.get?_of_leads leads last]

/-- A picture with a repeated node, a repeated link, a link that leads nowhere and a link from a
node to itself. -/
def tangledPicture : Picture where
  nodes := [⟨⟨1⟩, "a", "#808080"⟩, ⟨⟨2⟩, "b", "#808080"⟩, ⟨⟨1⟩, "c", "#808080"⟩]
  links := [⟨⟨1⟩, ⟨2⟩, 0.25⟩, ⟨⟨2⟩, ⟨2⟩, 0.5⟩, ⟨⟨1⟩, ⟨7⟩, 1.0⟩, ⟨⟨1⟩, ⟨2⟩, 0.75⟩]

/-- The two links from the repeated node join its last place, and the later weight is kept. -/
example : (Diagram.ofPicture tangledPicture 800.0 600.0).strands.map Strand.pair =
    [(2, 1), (2, 1)] ∧
    (Diagram.ofPicture tangledPicture 800.0 600.0).linkValue? 2 1 = some 0.75 :=
  ⟨by decide, rfl⟩

end MeshConsole
