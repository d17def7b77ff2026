/-
This file follows a canvas through changes of its picture, its mounting, frames, resizes and the
pointer. What a change of the picture sets off may run at any later time. The main statement is
that the canvas shows the current picture as soon as nothing of this is due.
-/

import MeshConsole.Graph.Host
import MeshConsole.Proofs.Graph.CanvasInteraction
import MeshConsole.Proofs.Graph.DiagramRun

namespace MeshConsole

/-- A canvas with the two effects that it may have to run. -/
structure CanvasCourse where
  host : CanvasHost
  /-- The canvas has to try to mount itself. -/
  mountDue : Bool := true
  /-- The canvas has to take up its picture. -/
  rebuildDue : Bool := true

/-- Something that happens to a canvas. -/
inductive CanvasHappening where
  /-- Another picture is to be shown. -/
  | pictured (picture : Picture)
  /-- The element becomes available. -/
  | appeared
  /-- The canvas tries to mount itself. -/
  | mounting (screen : Screen)
  /-- The canvas takes up its picture. -/
  | rebuilding
  | framed (behavior : CanvasBehavior)
  | windowResized (screen : Screen)
  | pointed (screen : Screen) (event : PointerEvent)

/-- The diagram with another view. -/
def Diagram.withView (diagram : Diagram) (view : View Float) : Diagram :=
  { diagram with gesture := { diagram.gesture with view } }

/-- A diagram has the nodes and links of a picture, and a body for every node. -/
structure Diagram.Portrays (diagram : Diagram) (picture : Picture) : Prop where
  /-- The nodes and links do not depend on the size of the canvas. -/
  same : ∀ width height, (Diagram.ofPicture picture width height).SamePicture diagram
  bodies : diagram.simulation.bodies.size = picture.nodes.length

/-- A step leaves the picture of a canvas alone, and only events change its diagram. -/
structure CanvasHost.Moves (host later : CanvasHost) : Prop where
  picture : later.picture = host.picture
  diagram : ∃ change : Diagram → Diagram,
    (∀ diagram, ∃ events, change diagram = diagram.run events) ∧
      later.diagram = host.diagram.map change

namespace CanvasCourse

/-- A new canvas has both effects still to run. -/
def start (props : CanvasProps) (picture : Picture) : CanvasCourse :=
  { host := { props, picture } }

/-- The course after one more happening. An effect that is not due does not run. -/
def step (course : CanvasCourse) : CanvasHappening → CanvasCourse
  | .pictured picture =>
    { course with host := { course.host with picture }, rebuildDue := true }
  | .appeared =>
    { course with
      host := { course.host with props := { course.host.props with appears := true } }
      mountDue := true }
  | .mounting screen =>
    if course.mountDue then
      { course with host := (course.host.mount screen).1, mountDue := false }
    else course
  | .rebuilding =>
    if course.rebuildDue then
      { course with host := course.host.rebuild.1, rebuildDue := false }
    else course
  | .framed behavior => { course with host := (course.host.runFrame behavior).host }
  | .windowResized screen => { course with host := course.host.windowResized screen }
  | .pointed screen event => { course with host := course.host.pointer screen event }

/-- The course after several happenings. -/
def run (course : CanvasCourse) (happenings : List CanvasHappening) : CanvasCourse :=
  happenings.foldl step course

/-- No effect is due. -/
structure Settled (course : CanvasCourse) : Prop where
  mount : course.mountDue = false
  rebuild : course.rebuildDue = false

/-- The diagram is that of the picture, or the canvas has still to take up the picture. -/
def UpToDate (course : CanvasCourse) : Prop :=
  ∀ diagram, course.host.diagram = some diagram →
    course.rebuildDue = true ∨ diagram.Portrays course.host.picture

end CanvasCourse

section Portraits

variable {diagram : Diagram} {picture : Picture}

/-- Events keep the number of bodies. -/
theorem Diagram.size_bodies_run (diagram : Diagram) (events : List DiagramEvent) :
    (diagram.run events).simulation.bodies.size = diagram.simulation.bodies.size := by
  refine List.foldlRecOn events after (motive := fun current : Diagram =>
    current.simulation.bodies.size = diagram.simulation.bodies.size) rfl ?_
  intro current same event _
  refine Eq.trans ?_ same
  cases event with
  | moved sizes x y =>
      simp only [after, move]
      split
      · exact Array.size_modify
      · rfl
  | ticked dt => exact Array.size_mapIdx.trans (current.simulation.size_step dt)
  | hovered | pressed | released | left | zoomed | resized => rfl

/-- Events keep the nodes and links. -/
theorem Diagram.Portrays.run (portrays : diagram.Portrays picture) (events : List DiagramEvent) :
    (diagram.run events).Portrays picture where
  same width height := by
    have before := portrays.same width height
    have later := diagram.samePicture_run events
    exact ⟨later.looks.trans before.looks, later.strands.trans before.strands,
      later.values.trans before.values, later.links.trans before.links⟩
  bodies := (diagram.size_bodies_run events).trans portrays.bodies

/-- The diagram of a picture has its nodes and links, whatever the view is. -/
theorem Diagram.portrays_ofPicture (picture : Picture) (width height : Float) (view : View Float) :
    ((ofPicture picture width height).withView view).Portrays picture where
  same _ _ := ⟨rfl, rfl, rfl, rfl⟩
  bodies := by simp [withView, ofPicture, Simulation.bodies_foldl_link]

/-- A picture that takes the place of another one keeps the view and the size and nothing else. -/
theorem Diagram.replace_eq (diagram : Diagram) (picture : Picture) :
    diagram.replace picture =
      (ofPicture picture diagram.width diagram.height).withView diagram.gesture.view := rfl

/-- An action that needs sizes happens with some sizes, or not at all. -/
theorem Diagram.withSizes_cases (act : Diagram → Sizes → Float → Float → Diagram)
    (diagram : Diagram) (x y : Float) :
    withSizes act diagram x y = diagram ∨
      ∃ sizes, withSizes act diagram x y = act diagram sizes x y := by
  unfold withSizes
  split
  · exact .inr ⟨_, rfl⟩
  · exact .inl rfl

end Portraits

namespace CanvasHost

variable {first second third : CanvasHost}

/-- A step may leave the diagram alone. -/
theorem Moves.of_same {host later : CanvasHost} (picture : later.picture = host.picture)
    (diagram : later.diagram = host.diagram) : host.Moves later :=
  ⟨picture, id, fun _ => ⟨[], rfl⟩, by rw [diagram, Option.map_id, id]⟩

/-- One step after another changes the diagram by the events of both. -/
theorem Moves.trans (before : first.Moves second) (after : second.Moves third) :
    first.Moves third := by
  obtain ⟨change, early, changed⟩ := before.diagram
  obtain ⟨next, late, last⟩ := after.diagram
  refine ⟨after.picture.trans before.picture, next ∘ change, fun diagram => ?_, ?_⟩
  · obtain ⟨events, same⟩ := early diagram
    obtain ⟨more, other⟩ := late (change diagram)
    refine ⟨events ++ more, ?_⟩
    rw [Function.comp_apply, other, same]
    exact List.foldl_append.symm
  · rw [last, changed, Option.map_map]

/-- A canvas whose diagram changes by at most one event takes a step. -/
theorem Moves.of_event {host later : CanvasHost} (change : Diagram → Diagram)
    (picture : later.picture = host.picture) (changed : later.diagram = host.diagram.map change)
    (event : ∀ diagram, change diagram = diagram ∨ ∃ event, change diagram = diagram.after event) :
    host.Moves later := by
  refine ⟨picture, change, fun diagram => ?_, changed⟩
  obtain same | ⟨event, same⟩ := event diagram
  · exact ⟨[], same⟩
  · exact ⟨[event], same⟩

/-- A frame lets time pass, unless the canvas has gone. -/
theorem moves_frame (host : CanvasHost) (behavior : CanvasBehavior) :
    host.Moves (host.frame behavior).host := by
  cases alive : host.alive with
  | false => exact .of_same (by simp [frame, alive]) (by simp [frame, alive])
  | true =>
      refine .of_event (Diagram.tick · frameTime) ?_ ?_ fun _ =>
        .inr ⟨.ticked frameTime, rfl⟩
      all_goals cases shown : host.diagram <;> simp [frame, alive, shown]

/-- Frames let time pass. -/
theorem moves_runFrame (host : CanvasHost) (behavior : CanvasBehavior) :
    host.Moves (host.runFrame behavior).host := by
  unfold runFrame
  generalize host.framesDue = count
  induction count generalizing host with
  | zero => exact .of_same rfl rfl
  | succ count ih => exact (host.moves_frame behavior).trans (ih _)

/-- A window of another size gives its size to the diagram. -/
theorem moves_windowResized (host : CanvasHost) (screen : Screen) :
    host.Moves (host.windowResized screen) := by
  unfold windowResized
  split
  · exact .of_same rfl rfl
  · split
    · exact .of_same rfl rfl
    · exact .of_event _ rfl rfl fun _ => .inr ⟨.resized _ _, rfl⟩

/-- An event of the pointer is an event of the diagram, unless the diagram cannot be sized. -/
theorem moves_pointer (host : CanvasHost) (screen : Screen) (event : PointerEvent) :
    host.Moves (host.pointer screen event) := by
  cases event with
  | down x y =>
      exact .of_event _ rfl rfl fun diagram =>
        (diagram.withSizes_cases Diagram.press _ _).imp_right fun ⟨sizes, same⟩ =>
          ⟨.pressed sizes _ _, same⟩
  | move x y =>
      exact .of_event _ rfl rfl fun diagram =>
        (diagram.withSizes_cases Diagram.move _ _).imp_right fun ⟨sizes, same⟩ =>
          ⟨.moved sizes _ _, same⟩
  | up => exact .of_event _ rfl rfl fun _ => .inr ⟨.released, rfl⟩
  | leave => exact .of_event _ rfl rfl fun _ => .inr ⟨.left, rfl⟩
  | wheel x y closer => exact .of_event _ rfl rfl fun _ => .inr ⟨.zoomed _ _ closer, rfl⟩
  | other => exact .of_same rfl rfl

/-- A canvas that tries to mount itself takes the diagram of its picture or stays as it is. -/
theorem mount_cases (host : CanvasHost) (screen : Screen) :
    host.Moves (host.mount screen).1 ∨
      (host.mount screen).1.picture = host.picture ∧
        ∃ width height, (host.mount screen).1.diagram =
          some (Diagram.ofPicture host.picture width height) := by
  unfold mount
  split
  · exact .inl (.of_same rfl rfl)
  · dsimp only
    split
    · exact .inl (.of_same rfl rfl)
    · exact .inr ⟨rfl, _, _, rfl⟩

/-- Where there is something to draw on, a new canvas takes the diagram of its picture. -/
theorem mount_diagram {host : CanvasHost} {screen : Screen} (unmounted : host.mounted = false)
    (appears : host.props.appears = true) (window : screen.hasWindow = true)
    (drawing : screen.context = .drawing) :
    (host.mount screen).1.diagram =
      some (Diagram.ofPicture host.picture (host.props.startSize screen).1
        (host.props.startSize screen).2) := by
  have ready : ¬ (host.mounted = true ∨ ¬ host.props.appears = true ∨
      ¬ screen.hasWindow = true) := by
    simp [unmounted, appears, window]
  unfold mount
  rw [if_neg ready]
  simp only [drawing]

/-- A canvas that takes up its picture replaces its diagram, if it has one. -/
theorem rebuild_eq (host : CanvasHost) :
    host.rebuild.1 = { host with diagram := host.diagram.map (·.replace host.picture) } := by
  obtain ⟨props, picture, diagram⟩ := host
  cases diagram <;> rfl

end CanvasHost

namespace CanvasCourse

variable {course : CanvasCourse}

/-- A step that moves the diagram of the canvas keeps it up to date. -/
theorem UpToDate.moves (upToDate : course.UpToDate) {later : CanvasHost}
    (moves : course.host.Moves later) (mountDue : Bool) :
    UpToDate { course with host := later, mountDue } := by
  intro diagram there
  obtain ⟨change, events, changed⟩ := moves.diagram
  obtain ⟨before, shown, rfl⟩ := Option.map_eq_some_iff.mp (changed ▸ there)
  obtain ⟨events, same⟩ := events before
  refine (upToDate before shown).imp_right fun portrays => ?_
  rw [same, moves.picture]
  exact portrays.run events

/-- Mounting keeps the diagram up to date, since it takes the current picture. -/
theorem UpToDate.mount (upToDate : course.UpToDate) (screen : Screen) :
    UpToDate { course with host := (course.host.mount screen).1, mountDue := false } := by
  obtain moves | ⟨picture, width, height, built⟩ := course.host.mount_cases screen
  · exact upToDate.moves moves false
  · intro diagram there
    obtain rfl := Option.some.inj (built.symm.trans there)
    rw [picture]
    exact .inr (Diagram.portrays_ofPicture _ width height (middleView width height))

/-- A canvas that takes up its picture is up to date. -/
theorem upToDate_rebuild (course : CanvasCourse) :
    UpToDate { course with host := course.host.rebuild.1, rebuildDue := false } := by
  rw [CanvasHost.rebuild_eq]
  intro diagram there
  obtain ⟨old, -, rfl⟩ := Option.map_eq_some_iff.mp there
  rw [Diagram.replace_eq]
  exact .inr (Diagram.portrays_ofPicture _ _ _ _)

/-- Every happening keeps the diagram up to date. -/
theorem UpToDate.step (upToDate : course.UpToDate) (happening : CanvasHappening) :
    (course.step happening).UpToDate := by
  cases happening with
  | pictured picture => exact fun _ _ => .inl rfl
  | appeared => exact upToDate
  | mounting screen =>
      simp only [CanvasCourse.step]
      split
      · exact upToDate.mount screen
      · exact upToDate
  | rebuilding =>
      simp only [CanvasCourse.step]
      split
      · exact course.upToDate_rebuild
      · exact upToDate
  | framed behavior => exact upToDate.moves (course.host.moves_runFrame behavior) _
  | windowResized screen => exact upToDate.moves (course.host.moves_windowResized screen) _
  | pointed screen event => exact upToDate.moves (course.host.moves_pointer screen event) _

/-- Every course of a canvas keeps its diagram up to date. -/
theorem upToDate_run (props : CanvasProps) (picture : Picture)
    (happenings : List CanvasHappening) : ((start props picture).run happenings).UpToDate := by
  have begins : (start props picture).UpToDate := fun diagram there =>
    absurd there.symm (Option.some_ne_none diagram)
  exact List.foldlRecOn happenings CanvasCourse.step (motive := UpToDate) begins
    fun _ upToDate happening _ => upToDate.step happening

/-- The console creates a canvas by letting both effects run at once. -/
theorem host_created (props : CanvasProps) (picture : Picture) (screen : Screen) :
    ((start props picture).run [.mounting screen, .rebuilding]).host =
      (CanvasHost.create props picture screen).1 := rfl

/-- A diagram stays until the canvas goes. -/
theorem isSome_diagram_step (there : course.host.diagram.isSome = true)
    (happening : CanvasHappening) : (course.step happening).host.diagram.isSome = true := by
  have moved {later : CanvasHost} (moves : course.host.Moves later) :
      later.diagram.isSome = true := by
    obtain ⟨change, -, changed⟩ := moves.diagram
    rw [changed, Option.isSome_map, there]
  cases happening with
  | pictured | appeared => exact there
  | mounting screen =>
      simp only [CanvasCourse.step]
      split
      · obtain moves | ⟨-, _, _, built⟩ := course.host.mount_cases screen
        · exact moved moves
        · exact built ▸ rfl
      · exact there
  | rebuilding =>
      simp only [CanvasCourse.step, CanvasHost.rebuild_eq]
      split
      · exact Option.isSome_map.trans there
      · exact there
  | framed behavior => exact moved (course.host.moves_runFrame behavior)
  | windowResized screen => exact moved (course.host.moves_windowResized screen)
  | pointed screen event => exact moved (course.host.moves_pointer screen event)

end CanvasCourse

/-- What holds at every point of a course of a canvas. -/
structure ShowsCurrent (course : CanvasCourse) : Prop where
  /-- When no effect is due, the diagram has the nodes and links of the current picture. -/
  current : course.Settled → ∀ diagram, course.host.diagram = some diagram →
    diagram.Portrays course.host.picture
  /-- Where there is something to draw on, mounting gives the diagram of the current picture. -/
  mounted : ∀ screen : Screen, course.mountDue = true → course.host.mounted = false →
    course.host.props.appears = true → screen.hasWindow = true → screen.context = .drawing →
      (course.step (.mounting screen)).host.diagram =
        some (Diagram.ofPicture course.host.picture (course.host.props.startSize screen).1
          (course.host.props.startSize screen).2)
  /-- From then on there is a diagram. -/
  stays : course.host.diagram.isSome = true → ∀ happenings,
    (course.run happenings).host.diagram.isSome = true
  /-- The diagram of another picture is new but for the view, and has the same size. -/
  rebuilt : course.rebuildDue = true → ∀ old, course.host.diagram = some old →
    (course.step .rebuilding).host =
      { course.host with
        diagram := some ((Diagram.ofPicture course.host.picture old.width old.height).withView
          old.gesture.view) }
  /-- The console shows a picture by letting the effect run at once. -/
  shown : course.host.alive = true → ∀ picture,
    (course.run [.pictured picture, .rebuilding]).host = (course.host.show picture).1

/-- Whatever happens to a canvas, in whatever order, it shows the current picture as soon as no
effect is due, and another picture leaves nothing of the old diagram but its view and its size. -/
theorem canvas_showsCurrent (props : CanvasProps) (picture : Picture)
    (happenings : List CanvasHappening) :
    ShowsCurrent ((CanvasCourse.start props picture).run happenings) := by
  have upToDate := CanvasCourse.upToDate_run props picture happenings
  generalize (CanvasCourse.start props picture).run happenings = course at upToDate
  constructor
  case current =>
    intro settled diagram there
    exact (upToDate diagram there).resolve_left (Bool.eq_false_iff.mp settled.rebuild)
  case mounted =>
    intro screen due unmounted appears window drawing
    simp only [CanvasCourse.step, due, if_true]
    exact CanvasHost.mount_diagram unmounted appears window drawing
  case stays =>
    exact fun there happenings => List.foldlRecOn happenings CanvasCourse.step
      (motive := fun later => later.host.diagram.isSome = true) there
      fun _ there happening _ => CanvasCourse.isSome_diagram_step there happening
  case rebuilt =>
    intro due old there
    simp only [CanvasCourse.step, due, if_true, CanvasHost.rebuild_eq, there, Option.map_some,
      Diagram.replace_eq]
  case shown =>
    intro alive picture
    simp only [CanvasCourse.run, List.foldl, CanvasCourse.step, if_true, CanvasHost.show, alive]

end MeshConsole
