/-
This file reads the calls of a frame as a canvas does. The main statement is that a frame without a
failure fills one disc for every node, the dimmed ones first, and that a frame which gets beyond its
background saves the canvas once and restores it with its last call, whatever fails.
-/

import MeshConsole.Proofs.Graph.DrawnLinks

namespace MeshConsole

open MeshConsole.Graph

/-- A part of a circle. -/
structure Arc where
  x : Float
  y : Float
  radius : Float
  start : Float
  stop : Float

/-- What a canvas shows of an arc. -/
inductive Mark where
  | filled (arc : Arc)
  | stroked (arc : Arc)

/-- The arcs that calls fill and stroke, in order. The path holds the arcs since it was begun. -/
def marksFrom (path : List Arc) : List CanvasCall → List Mark
  | [] => []
  | .beginPath :: rest => marksFrom [] rest
  | .arc x y radius start stop :: rest => marksFrom (path ++ [⟨x, y, radius, start, stop⟩]) rest
  | .fill :: rest => path.map .filled ++ marksFrom path rest
  | .stroke :: rest => path.map .stroked ++ marksFrom path rest
  | _ :: rest => marksFrom path rest

/-- The arc of a filled mark. -/
def Mark.disc? : Mark → Option Arc
  | .filled arc => some arc
  | .stroked _ => none

/-- The arc of a stroked mark. -/
def Mark.ring? : Mark → Option Arc
  | .filled _ => none
  | .stroked arc => some arc

/-- The arcs that calls fill. -/
def discsOf (calls : List CanvasCall) : List Arc := (marksFrom [] calls).filterMap Mark.disc?

/-- The arcs that calls stroke. -/
def ringsOf (calls : List CanvasCall) : List Arc := (marksFrom [] calls).filterMap Mark.ring?

/-- The whole circle around a body. -/
def Body.circle (body : Body) (radius : Float) : Arc :=
  ⟨body.position.1, body.position.2, radius, 0.0, 2.0 * pi⟩

namespace Diagram

/-- A node is lit when its intensity is above the threshold. -/
def isLit (diagram : Diagram) (place : Nat) : Bool :=
  inFront (diagram.highlight.intensities.at place)

/-- A lit node grows with its light. The others shrink with the light of the diagram. -/
def discFactor (diagram : Diagram) (place : Nat) : Float :=
  if diagram.isLit place then 1.0 + 0.25 * smoothStep (diagram.highlight.intensities.at place)
  else 1.0 - 0.15 * smoothStep diagram.highlight.strongest

/-- The circle around a node, for a radius that depends on its look. -/
def circleAt? (diagram : Diagram) (place : Nat) (radius : NodeLook → Float) : Option Arc :=
  match diagram.looks[place]?, diagram.simulation.bodies[place]? with
  | some look, some body => some (body.circle (radius look))
  | _, _ => none

/-- The disc of a node. -/
def discAt? (diagram : Diagram) (sizes : Sizes) (place : Nat) : Option Arc :=
  diagram.circleAt? place fun look => sizes.nodeRadius * diagram.discFactor place * look.size

/-- The ring around the disc of a node, while the ring has light. -/
def ringAt? (diagram : Diagram) (sizes : Sizes) (place : Nat) : Option Arc :=
  if 0.01 < smoothStep (diagram.highlight.rings.at place) then
    diagram.circleAt? place fun look =>
      sizes.nodeRadius * look.size * diagram.discFactor place + sizes.ringOffset
  else none

/-- Nodes that are not lit come before lit ones, and within both groups the first node comes
first. -/
def DrawnBefore (diagram : Diagram) (first second : Nat) : Prop :=
  diagram.isLit first = false ∧ diagram.isLit second = true ∨
    diagram.isLit first = diagram.isLit second ∧ first < second

/-- Calls draw every node of a diagram once. -/
structure DrawsNodes (diagram : Diagram) (sizes : Sizes) (order : List Nat)
    (calls : List CanvasCall) : Prop where
  /-- The order holds every node once. -/
  once : order.Perm (List.range diagram.looks.size)
  ordered : order.Pairwise diagram.DrawnBefore
  /-- What is filled are the discs of the nodes. -/
  discs : (discsOf calls).map some = order.map (diagram.discAt? sizes)
  /-- What is stroked are the rings of lit nodes. -/
  rings : ringsOf calls = (order.filter diagram.isLit).filterMap (diagram.ringAt? sizes)

/-- What a frame does on a canvas with some faults. -/
structure FrameLaws (diagram : Diagram) (sizes : Sizes) (faults : CanvasFaults)
    (background frame : Played) : Prop where
  /-- Where no call can fail, the frame does not fail. -/
  unharmed : (∀ name count, faults name count = false) → frame.failed = false
  /-- A frame without a failure draws every node once. -/
  nodes : frame.failed = false → ∃ order, diagram.DrawsNodes sizes order frame.calls
  /-- A frame whose background fails has failed, and saves and restores nothing. -/
  refused : background.failed = true →
    frame.failed = true ∧ countNamed "save" frame.calls = 0 ∧
      countNamed "restore" frame.calls = 0
  /-- Otherwise the canvas is saved once and restored once, at the very end. -/
  restored : background.failed = false →
    countNamed "save" frame.calls = 1 ∧ countNamed "restore" frame.calls = 1 ∧
      frame.calls.getLast? = some .restore

end Diagram

section Playing

variable {faults : CanvasFaults} {made : List CanvasCall} {drawing : List DrawStep}

/-- A drawing without a failure makes all its calls. -/
theorem calls_play (succeeded : (play faults made drawing).failed = false) :
    (play faults made drawing).calls = drawing.map DrawStep.call := by
  induction drawing generalizing made with
  | nil => rfl
  | cons step rest ih =>
      unfold play at succeeded ⊢
      split at succeeded
      · cases succeeded
      case isFalse fine =>
        rw [if_neg fine]
        exact congrArg (step.call :: ·) (ih succeeded)

/-- Where no call can fail, no drawing fails. -/
theorem failed_play_of_unharmed (unharmed : ∀ name count, faults name count = false) :
    (play faults made drawing).failed = false := by
  induction drawing generalizing made with
  | nil => rfl
  | cons step rest ih =>
      rw [play, unharmed, Bool.and_false, if_neg Bool.false_ne_true]
      exact ih

/-- A drawing makes no other calls than those of its steps. -/
theorem mem_calls_play {call : CanvasCall} (member : call ∈ (play faults made drawing).calls) :
    ∃ step ∈ drawing, call ∈ step.call :: step.afterFault := by
  induction drawing generalizing made with
  | nil => cases member
  | cons step rest ih =>
      unfold play at member
      split at member
      · exact ⟨step, List.mem_cons_self, member⟩
      · rcases List.mem_cons.mp member with rfl | later
        · exact ⟨step, List.mem_cons_self, List.mem_cons_self⟩
        · obtain ⟨other, there, found⟩ := ih later
          exact ⟨other, List.mem_cons_of_mem _ there, found⟩

end Playing

section Saving

/-- A call that neither saves nor restores. -/
def CanvasCall.isPlain : CanvasCall → Bool
  | .save | .restore => false
  | _ => true

/-- No step of a drawing saves or restores the canvas, not even after a failure. -/
def Plain (drawing : List DrawStep) : Prop :=
  ∀ step ∈ drawing, ∀ call ∈ step.call :: step.afterFault, call.isPlain = true

variable {first second : List DrawStep}

/-- Plain drawings stay plain one after the other. -/
theorem Plain.append (plain : Plain first) (other : Plain second) : Plain (first ++ second) :=
  fun step member => (List.mem_append.mp member).elim (plain step) (other step)

/-- Plain drawings of all items are plain together. -/
theorem Plain.flatMap {α : Type} {draw : α → List DrawStep} (plain : ∀ item, Plain (draw item))
    (items : List α) : Plain (items.flatMap draw) := by
  intro step member
  obtain ⟨item, -, drawn⟩ := List.mem_flatMap.mp member
  exact plain item step drawn

/-- A drawing is plain if a look at all its calls says so. -/
theorem plain_of_all
    (all : first.all (fun step => (step.call :: step.afterFault).all CanvasCall.isPlain) = true) :
    Plain first :=
  fun step member => List.all_eq_true.mp (List.all_eq_true.mp all step member)

/-- The calls of a kind are counted part by part. -/
theorem countNamed_append (name : String) (calls others : List CanvasCall) :
    countNamed name (calls ++ others) = countNamed name calls + countNamed name others := by
  simp [countNamed]

/-- A plain drawing counts no saves and no restores. -/
theorem Plain.countNamed_play (plain : Plain first) (faults : CanvasFaults)
    (made : List CanvasCall) :
    countNamed "save" (play faults made first).calls = 0 ∧
      countNamed "restore" (play faults made first).calls = 0 := by
  have other : ∀ call ∈ (play faults made first).calls,
      call.name ≠ "save" ∧ call.name ≠ "restore" := by
    intro call member
    obtain ⟨step, there, found⟩ := mem_calls_play member
    have isPlain := plain step there call found
    cases call <;> simp [CanvasCall.name, CanvasCall.isPlain] at isPlain ⊢
  simp only [countNamed, List.length_eq_zero_iff, List.filter_eq_nil_iff, beq_iff_eq]
  exact ⟨fun call member => (other call member).1, fun call member => (other call member).2⟩

variable (diagram : Diagram) (sizes : Sizes) (theme : Theme)

/-- The background is plain. -/
theorem plain_drawBackground : Plain (diagram.drawBackground theme) := by
  unfold Diagram.drawBackground
  dsimp only
  split <;> exact plain_of_all rfl

/-- A link is plain. -/
theorem plain_drawLink (link : Nat × Nat) : Plain (diagram.drawLink sizes theme link) := by
  unfold Diagram.drawLink
  split
  · dsimp only
    split
    · exact plain_of_all rfl
    · split <;> exact plain_of_all rfl
  · exact plain_of_all rfl

/-- A node is plain. -/
theorem plain_drawNode (look : NodeLook) (body : Body) (alpha radiusFactor : Float) :
    Plain (drawNode sizes theme look body alpha radiusFactor) := by
  unfold drawNode
  dsimp only
  split <;> split <;> exact plain_of_all rfl

/-- A dimmed node is plain. -/
theorem plain_drawBehind (place : Nat) : Plain (diagram.drawBehind sizes theme place) := by
  unfold Diagram.drawBehind
  split
  · exact plain_drawNode sizes theme _ _ _ _
  · exact plain_of_all rfl

/-- A lit node is plain, with its ring and without. -/
theorem plain_drawLit (place : Nat) : Plain (diagram.drawLit sizes theme place) := by
  unfold Diagram.drawLit
  split
  · refine (plain_drawNode sizes theme _ _ _ _).append ?_
    split <;> exact plain_of_all rfl
  · exact plain_of_all rfl

/-- The label of a link is plain, also when its text fails. -/
theorem plain_drawLinkLabel (textWidth : TextWidth) (link : Nat × Nat) :
    Plain (diagram.drawLinkLabel sizes theme textWidth link) := by
  unfold Diagram.drawLinkLabel
  dsimp only
  split
  · exact plain_of_all rfl
  · split <;> exact plain_of_all rfl

/-- Everything inside the view is plain. -/
theorem plain_drawWorld (textWidth : TextWidth) :
    Plain (diagram.drawWorld sizes theme textWidth) := by
  have links := Plain.flatMap (plain_drawLink diagram sizes theme) diagram.simulation.links
  have nodes : Plain (diagram.drawNodes sizes theme) :=
    (Plain.flatMap (plain_drawBehind diagram sizes theme) _).append
      (Plain.flatMap (plain_drawLit diagram sizes theme) _)
  have labels := Plain.flatMap (plain_drawLinkLabel diagram sizes theme textWidth)
    diagram.simulation.links
  exact (((((plain_of_all rfl).append links).append (plain_of_all rfl)).append nodes).append
    (plain_of_all rfl)).append labels

end Saving

section Showing

/-- Wherever a drawing stands, whatever the path before it is, the canvas shows some marks for
it. -/
def ShowsMarks (drawing : List DrawStep) (marks : List Mark) : Prop :=
  ∀ path rest, ∃ after,
    marksFrom path (drawing.map DrawStep.call ++ rest) = marks ++ marksFrom after rest

variable {first second : List DrawStep} {marks more : List Mark}

/-- Drawings one after the other show their marks in this order. -/
theorem ShowsMarks.append (shows : ShowsMarks first marks) (others : ShowsMarks second more) :
    ShowsMarks (first ++ second) (marks ++ more) := by
  intro path rest
  obtain ⟨between, shown⟩ := shows path (second.map DrawStep.call ++ rest)
  obtain ⟨after, othersShown⟩ := others between rest
  exact ⟨after, by rw [List.map_append, List.append_assoc, shown, othersShown, List.append_assoc]⟩

/-- The drawings of all items show the marks of all items. -/
theorem ShowsMarks.flatMap {α : Type} {draw : α → List DrawStep} {show' : α → List Mark}
    {items : List α} (shows : ∀ item ∈ items, ShowsMarks (draw item) (show' item)) :
    ShowsMarks (items.flatMap draw) (items.flatMap show') := by
  induction items with
  | nil => exact fun path rest => ⟨path, rfl⟩
  | cons item items ih =>
      rw [List.flatMap_cons, List.flatMap_cons]
      exact (shows item List.mem_cons_self).append
        (ih fun other member => shows other (List.mem_cons_of_mem _ member))

/-- Drawings without marks have none together. -/
theorem ShowsMarks.flatMap_nil {α : Type} {draw : α → List DrawStep}
    (shows : ∀ item, ShowsMarks (draw item) []) (items : List α) :
    ShowsMarks (items.flatMap draw) [] := by
  have all : ShowsMarks (items.flatMap draw) (items.flatMap fun _ => []) :=
    ShowsMarks.flatMap fun item _ => shows item
  rwa [List.flatMap_eq_nil_iff.mpr fun _ _ => rfl] at all

variable (diagram : Diagram) (sizes : Sizes) (theme : Theme)

/-- A link fills and strokes no arc. -/
theorem shows_drawLink (link : Nat × Nat) : ShowsMarks (diagram.drawLink sizes theme link) [] := by
  unfold Diagram.drawLink
  split
  · dsimp only
    split
    · exact fun path rest => ⟨path, rfl⟩
    · split <;> exact fun path rest => ⟨_, rfl⟩
  · exact fun path rest => ⟨path, rfl⟩

/-- A node fills one disc. -/
theorem shows_drawNode (look : NodeLook) (body : Body) (alpha radiusFactor : Float) :
    ShowsMarks (drawNode sizes theme look body alpha radiusFactor)
      [.filled (body.circle (sizes.nodeRadius * radiusFactor * look.size))] := by
  unfold drawNode
  dsimp only
  split <;> split <;> exact fun path rest => ⟨_, rfl⟩

/-- A ring strokes one circle. -/
theorem shows_drawRing (look : NodeLook) (body : Body) (radiusFactor light : Float) :
    ShowsMarks (drawRing sizes theme look body radiusFactor light)
      [.stroked (body.circle (sizes.nodeRadius * look.size * radiusFactor + sizes.ringOffset))] :=
  fun _ _ => ⟨_, rfl⟩

/-- A dimmed node shows its disc. -/
theorem shows_drawBehind {place : Nat} (dimmed : diagram.isLit place = false) :
    ShowsMarks (diagram.drawBehind sizes theme place)
      ((diagram.discAt? sizes place).toList.map .filled) := by
  unfold Diagram.drawBehind Diagram.discAt? Diagram.circleAt? Diagram.discFactor
  simp only [dimmed, Bool.false_eq_true, if_false]
  generalize diagram.looks[place]? = look?
  generalize diagram.simulation.bodies[place]? = body?
  cases look? with
  | none => exact fun path rest => ⟨path, rfl⟩
  | some look =>
      cases body? with
      | none => exact fun path rest => ⟨path, rfl⟩
      | some body => exact shows_drawNode sizes theme look body _ _

/-- A lit node shows its disc and then its ring, if the ring has light. -/
theorem shows_drawLit {place : Nat} (lit : diagram.isLit place = true) :
    ShowsMarks (diagram.drawLit sizes theme place)
      ((diagram.discAt? sizes place).toList.map .filled ++
        (diagram.ringAt? sizes place).toList.map .stroked) := by
  unfold Diagram.drawLit Diagram.discAt? Diagram.ringAt? Diagram.circleAt? Diagram.discFactor
  simp only [lit, if_true]
  generalize diagram.looks[place]? = look?
  generalize diagram.simulation.bodies[place]? = body?
  cases look? with
  | none =>
      simp only [ite_self]
      exact fun path rest => ⟨path, rfl⟩
  | some look =>
      cases body? with
      | none =>
          simp only [ite_self]
          exact fun path rest => ⟨path, rfl⟩
      | some body =>
          refine (shows_drawNode sizes theme look body _ _).append ?_
          split
          · exact shows_drawRing sizes theme look body _ _
          · exact fun path rest => ⟨path, rfl⟩

/-- The label of a link fills and strokes no arc. -/
theorem shows_drawLinkLabel (textWidth : TextWidth) (link : Nat × Nat) :
    ShowsMarks (diagram.drawLinkLabel sizes theme textWidth link) [] := by
  unfold Diagram.drawLinkLabel
  dsimp only
  split
  · exact fun path rest => ⟨path, rfl⟩
  · split <;> exact fun path rest => ⟨path, rfl⟩

/-- The background fills and strokes no arc. -/
theorem shows_drawBackground : ShowsMarks (diagram.drawBackground theme) [] := by
  unfold Diagram.drawBackground
  dsimp only
  split <;> exact fun path rest => ⟨path, rfl⟩

end Showing

namespace Diagram

variable (diagram : Diagram) (sizes : Sizes) (theme : Theme) (textWidth : TextWidth)

/-- The nodes in the order in which they are drawn. -/
def drawingOrder : List Nat := diagram.passes.1 ++ diagram.passes.2

/-- The passes hold the nodes that are not lit and the lit ones. -/
theorem passes_eq :
    diagram.passes = ((List.range diagram.looks.size).filter (! diagram.isLit ·),
      (List.range diagram.looks.size).filter diagram.isLit) := by
  simp only [passes, List.partition_eq_filter_filter, Function.comp_def, Bool.not_not]
  rfl

/-- The nodes of the first pass are not lit. -/
theorem isLit_of_mem_behind {place : Nat} (member : place ∈ diagram.passes.1) :
    diagram.isLit place = false := by
  rw [passes_eq] at member
  simpa using (List.mem_filter.mp member).2

/-- The nodes of the second pass are lit. -/
theorem isLit_of_mem_front {place : Nat} (member : place ∈ diagram.passes.2) :
    diagram.isLit place = true := by
  rw [passes_eq] at member
  exact (List.mem_filter.mp member).2

/-- The marks of all nodes. -/
def nodeMarks : List Mark :=
  diagram.passes.1.flatMap (fun place => (diagram.discAt? sizes place).toList.map .filled) ++
    diagram.passes.2.flatMap fun place => (diagram.discAt? sizes place).toList.map .filled ++
      (diagram.ringAt? sizes place).toList.map .stroked

/-- Both passes together show the marks of all nodes. -/
theorem shows_drawNodes :
    ShowsMarks (diagram.drawNodes sizes theme) (diagram.nodeMarks sizes) :=
  (ShowsMarks.flatMap fun _ member =>
    shows_drawBehind diagram sizes theme (diagram.isLit_of_mem_behind member)).append
  (ShowsMarks.flatMap fun _ member =>
    shows_drawLit diagram sizes theme (diagram.isLit_of_mem_front member))

/-- Everything inside the view shows the marks of all nodes and no others. -/
theorem shows_drawWorld :
    ShowsMarks (diagram.drawWorld sizes theme textWidth) (diagram.nodeMarks sizes) := by
  let view := diagram.gesture.view
  have placed : ShowsMarks (steps [.translate view.x view.y, .scale view.k view.k]) [] :=
    fun path rest => ⟨path, rfl⟩
  have links := ShowsMarks.flatMap_nil (shows_drawLink diagram sizes theme)
    diagram.simulation.links
  have undashed : ShowsMarks (steps [.setLineDash []]) [] := fun path rest => ⟨path, rfl⟩
  have nodes := diagram.shows_drawNodes sizes theme
  have lettered : ShowsMarks (steps [.font sizes.labelFont]) [] := fun path rest => ⟨path, rfl⟩
  have labels := ShowsMarks.flatMap_nil (shows_drawLinkLabel diagram sizes theme textWidth)
    diagram.simulation.links
  have world := ((((placed.append links).append undashed).append nodes).append lettered).append
    labels
  simp only [List.nil_append, List.append_nil] at world
  exact world

variable (faults : CanvasFaults)

/-- A frame whose background succeeds draws everything inside the view between a save and a
restore. -/
theorem exists_world
    (begun : (play faults [] (diagram.drawBackground theme)).failed = false) :
    ∃ made, diagram.frame sizes theme textWidth faults =
      ⟨(play faults [] (diagram.drawBackground theme)).calls ++
          .save :: (play faults made (diagram.drawWorld sizes theme textWidth)).calls ++ [.restore],
        (play faults made (diagram.drawWorld sizes theme textWidth)).failed⟩ :=
  ⟨_, by rw [frame]; exact if_neg (by simp [begun])⟩

/-- A frame whose background fails ends there. -/
theorem frame_of_refused
    (refused : (play faults [] (diagram.drawBackground theme)).failed = true) :
    diagram.frame sizes theme textWidth faults = play faults [] (diagram.drawBackground theme) :=
  if_pos refused

/-- A frame without a failure shows the marks of all nodes and no others. -/
theorem marks_frame (succeeded : (diagram.frame sizes theme textWidth faults).failed = false) :
    marksFrom [] (diagram.frame sizes theme textWidth faults).calls = diagram.nodeMarks sizes := by
  have begun : (play faults [] (diagram.drawBackground theme)).failed = false := by
    refine Bool.eq_false_iff.mpr fun refused => ?_
    rw [frame_of_refused _ _ _ _ _ refused, refused] at succeeded
    cases succeeded
  obtain ⟨made, framed⟩ := diagram.exists_world sizes theme textWidth faults begun
  rw [framed] at succeeded ⊢
  simp only [calls_play begun, calls_play succeeded]
  have saved : ShowsMarks [⟨.save, []⟩] [] := fun path rest => ⟨path, rfl⟩
  obtain ⟨after, shown⟩ := ((shows_drawBackground diagram theme).append saved).append
    (diagram.shows_drawWorld sizes theme textWidth) [] [.restore]
  simpa [marksFrom] using shown

variable {diagram sizes theme textWidth faults}

/-- A node with a body has a disc. -/
theorem isSome_discAt? (bodies : diagram.simulation.bodies.size = diagram.looks.size) {place : Nat}
    (there : place < diagram.looks.size) : (diagram.discAt? sizes place).isSome = true := by
  simp [discAt?, circleAt?, there, bodies ▸ there]

/-- Every node is drawn once. -/
theorem perm_drawingOrder : diagram.drawingOrder.Perm (List.range diagram.looks.size) := by
  rw [drawingOrder, passes_eq]
  exact List.perm_append_comm.trans (List.filter_append_perm _ _)

/-- The first pass comes first, and both passes go through the nodes in their order. -/
theorem pairwise_drawingOrder : diagram.drawingOrder.Pairwise diagram.DrawnBefore := by
  have increasing {pass : List Nat} (sub : pass.Sublist (List.range diagram.looks.size)) :
      pass.Pairwise (· < ·) := List.pairwise_lt_range.sublist sub
  have behind {place : Nat} : place ∈ diagram.passes.1 → _ := diagram.isLit_of_mem_behind
  have front {place : Nat} : place ∈ diagram.passes.2 → _ := diagram.isLit_of_mem_front
  refine List.pairwise_append.mpr ⟨?behind, ?front, ?across⟩
  case behind =>
    refine (increasing ?_).imp_of_mem fun first second less =>
      .inr ⟨(behind first).trans (behind second).symm, less⟩
    rw [passes_eq]
    exact List.filter_sublist
  case front =>
    refine (increasing ?_).imp_of_mem fun first second less =>
      .inr ⟨(front first).trans (front second).symm, less⟩
    rw [passes_eq]
    exact List.filter_sublist
  case across => exact fun first member second other => .inl ⟨behind member, front other⟩

/-- The discs among the marks of the nodes are those of the nodes in their order. -/
theorem discs_nodeMarks :
    (diagram.nodeMarks sizes).filterMap Mark.disc? =
      diagram.drawingOrder.filterMap (diagram.discAt? sizes) := by
  have discs (arc? : Option Arc) : (arc?.toList.map Mark.filled).filterMap Mark.disc? =
      arc?.toList := by cases arc? <;> rfl
  have noDiscs (arc? : Option Arc) : (arc?.toList.map Mark.stroked).filterMap Mark.disc? = [] := by
    cases arc? <;> rfl
  rw [List.filterMap_eq_flatMap_toList (diagram.discAt? sizes)]
  simp only [nodeMarks, drawingOrder, List.filterMap_append, List.filterMap_flatMap, discs, noDiscs,
    List.append_nil, List.flatMap_append]

/-- The rings among the marks of the nodes are those of the second pass. -/
theorem rings_nodeMarks :
    (diagram.nodeMarks sizes).filterMap Mark.ring? =
      diagram.passes.2.filterMap (diagram.ringAt? sizes) := by
  have rings (arc? : Option Arc) : (arc?.toList.map Mark.stroked).filterMap Mark.ring? =
      arc?.toList := by cases arc? <;> rfl
  have noRings (arc? : Option Arc) : (arc?.toList.map Mark.filled).filterMap Mark.ring? = [] := by
    cases arc? <;> rfl
  have none : diagram.passes.1.flatMap (fun _ => ([] : List Arc)) = [] :=
    List.flatMap_eq_nil_iff.mpr fun _ _ => rfl
  rw [List.filterMap_eq_flatMap_toList (diagram.ringAt? sizes)]
  simp only [nodeMarks, List.filterMap_append, List.filterMap_flatMap, rings, noRings, none,
    List.nil_append]

/-- The lit nodes of the drawing order are those of the second pass. -/
theorem filter_drawingOrder :
    diagram.drawingOrder.filter diagram.isLit = diagram.passes.2 := by
  rw [drawingOrder, List.filter_append, List.filter_eq_self.mpr fun _ => isLit_of_mem_front _,
    List.filter_eq_nil_iff.mpr fun _ member => by simp [isLit_of_mem_behind _ member],
    List.nil_append]

/-- A frame without a failure draws every node once. -/
theorem drawsNodes_frame (bodies : diagram.simulation.bodies.size = diagram.looks.size)
    (succeeded : (diagram.frame sizes theme textWidth faults).failed = false) :
    diagram.DrawsNodes sizes diagram.drawingOrder
      (diagram.frame sizes theme textWidth faults).calls where
  once := perm_drawingOrder
  ordered := pairwise_drawingOrder
  discs := by
    rw [discsOf, diagram.marks_frame sizes theme textWidth faults succeeded, discs_nodeMarks,
      List.map_filterMap, List.filterMap_eq_map_iff_forall_eq_some]
    intro place member
    have there := List.mem_range.mp (perm_drawingOrder.mem_iff.mp member)
    obtain ⟨disc, same⟩ := Option.isSome_iff_exists.mp (isSome_discAt? bodies there)
    rw [same, Option.map_some]
  rings := by
    rw [ringsOf, diagram.marks_frame sizes theme textWidth faults succeeded, rings_nodeMarks,
      filter_drawingOrder]

/-- Between its save and its restore a frame saves and restores nothing. -/
theorem countNamed_frame
    (begun : (play faults [] (diagram.drawBackground theme)).failed = false) :
    countNamed "save" (diagram.frame sizes theme textWidth faults).calls = 1 ∧
      countNamed "restore" (diagram.frame sizes theme textWidth faults).calls = 1 ∧
        (diagram.frame sizes theme textWidth faults).calls.getLast? = some .restore := by
  obtain ⟨made, framed⟩ := diagram.exists_world sizes theme textWidth faults begun
  have background := (plain_drawBackground diagram theme).countNamed_play faults []
  have world := (plain_drawWorld diagram sizes theme textWidth).countNamed_play faults made
  rw [framed, ← List.singleton_append (x := CanvasCall.save)]
  simp only [countNamed_append, background, world, List.getLast?_concat]
  exact ⟨rfl, rfl, trivial⟩

end Diagram

/-- A frame without a failure fills one disc for every node, the dimmed nodes first and each group
in its order, and strokes rings around lit nodes only. A frame whose background fails saves and
restores nothing. Every other one saves once and restores once, at its end, whatever fails. -/
theorem frame_drawsNodes_restores (diagram : Diagram) (sizes : Sizes) (theme : Theme)
    (textWidth : TextWidth) (faults : CanvasFaults)
    (bodies : diagram.simulation.bodies.size = diagram.looks.size) :
    diagram.FrameLaws sizes faults (play faults [] (diagram.drawBackground theme))
      (diagram.frame sizes theme textWidth faults) where
  unharmed unharmed := by
    obtain ⟨made, framed⟩ := diagram.exists_world sizes theme textWidth faults
      (failed_play_of_unharmed unharmed)
    exact framed ▸ failed_play_of_unharmed unharmed
  nodes succeeded := ⟨_, Diagram.drawsNodes_frame bodies succeeded⟩
  refused refused := by
    rw [Diagram.frame_of_refused _ _ _ _ _ refused]
    exact ⟨refused, (plain_drawBackground diagram theme).countNamed_play faults []⟩
  restored begun := Diagram.countNamed_frame begun

/-- Two nodes, one of them hovered, are two discs, and the canvas is restored. -/
theorem frame_drawsNodes_restores_twoNodes :
    let diagram := twoWayDiagram.run [.hovered (some 0)]
    let sizes : Sizes :=
      { k := 1.0, nodeRadius := 5.0, hitRadius := 12.0, labelSize := 10.0
        labelFont := "10px sans-serif", lineWidth := 1.5, arrowSize := 5.0, arrowAlpha := 1.0
        ringWidth := 1.5, ringOffset := 2.0 }
    let frame := diagram.frame sizes {} (fun _ => 12.0) noFaults
    diagram.simulation.bodies.size = diagram.looks.size ∧
      (discsOf frame.calls).length = 2 ∧ frame.calls.getLast? = some .restore := by
  intro diagram sizes frame
  have bodies : diagram.simulation.bodies.size = diagram.looks.size := by decide
  have laws := frame_drawsNodes_restores diagram sizes {} (fun _ => 12.0) noFaults bodies
  obtain ⟨order, draws⟩ := laws.nodes (laws.unharmed fun _ _ => rfl)
  have discs := congrArg List.length draws.discs
  rw [List.length_map, List.length_map, draws.once.length_eq, List.length_range] at discs
  exact ⟨bodies, discs, (laws.restored (failed_play_of_unharmed fun _ _ => rfl)).2.2⟩

end MeshConsole
