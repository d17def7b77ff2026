/-
This file follows the animation of a canvas from its creation until after its end. The main
statement is that at most one frame is requested at a time, that the frames end with the canvas,
and that the log warns once for every run of failing frames.
-/

import Mathlib.Data.List.SplitBy
import Mathlib.Tactic.SplitIfs
import MeshConsole.Proofs.Graph.CurrentPicture

namespace MeshConsole

/-- The number of unbroken runs of failures among outcomes. -/
def failureRuns (failed : List Bool) : Nat :=
  (failed.splitBy (· == ·)).countP fun run => run.contains true

/-- What a frame draws, if the canvas is still there and has a diagram. -/
def CanvasHost.drawn? (host : CanvasHost) (behavior : CanvasBehavior) : Option Played :=
  if host.alive then host.diagram.map fun diagram => (diagram.tick frameTime).drawWith behavior
  else none

/-- This test recognises the warning about a frame that failed. -/
def LogLine.isFrameWarning (line : LogLine) : Bool :=
  line.level == .warn && "meshmesh-admin: graph render failed: ".toList.isPrefixOf line.text.toList

/-- A canvas with what it has logged and drawn so far. -/
structure CanvasLife where
  host : CanvasHost
  log : List LogLine := []
  /-- Whether each frame that was drawn failed, in order. -/
  failed : List Bool := []

/-- Something that happens to a canvas, its end included. -/
inductive CanvasLifeEvent where
  | happened (happening : CanvasHappening)
  | unmounted

/-- Two canvases agree in what steers the animation. -/
structure CanvasHost.SameLoop (host later : CanvasHost) : Prop where
  mounted : later.mounted = host.mounted
  alive : later.alive = host.alive
  framesDue : later.framesDue = host.framesDue
  drewWell : later.drewWell = host.drewWell
  shown : later.diagram.isSome = host.diagram.isSome

/-- The mounting of a canvas comes to an end, with a diagram and a requested frame or with nothing
to draw on. -/
structure CanvasHost.Mounts (host : CanvasHost) (change : CanvasHost × List LogLine) : Prop where
  unmounted : host.mounted = false
  mounted : change.1.mounted = true
  alive : change.1.alive = host.alive
  drewWell : change.1.drewWell = host.drewWell
  requests : change.1.diagram.isSome = true ∧ change.1.framesDue = host.framesDue + 1 ∨
    change.1.diagram = host.diagram ∧ change.1.framesDue = host.framesDue
  quiet : change.2.countP LogLine.isFrameWarning = 0

namespace CanvasLife

/-- The life after a change of the canvas that logs some lines. -/
def changed (life : CanvasLife) (change : CanvasHost × List LogLine) : CanvasLife :=
  { life with host := change.1, log := life.log ++ change.2 }

/-- The life after one more event. The effects of the canvas may run at any time and any number of
times. The browser runs one frame at a time, and only a frame that is requested. -/
def step (life : CanvasLife) : CanvasLifeEvent → CanvasLife
  | .happened (.pictured picture) => life.changed ({ life.host with picture }, [])
  | .happened .appeared =>
    life.changed ({ life.host with props := { life.host.props with appears := true } }, [])
  | .happened (.mounting screen) => life.changed (life.host.mount screen)
  | .happened .rebuilding => life.changed life.host.rebuild
  | .happened (.framed behavior) =>
    if life.host.framesDue = 0 then life
    else
      let run := life.host.frame behavior
      { host := run.host
        log := life.log ++ run.lines
        failed := life.failed ++ ((life.host.drawn? behavior).map Played.failed).toList }
  | .happened (.windowResized screen) => life.changed (life.host.windowResized screen, [])
  | .happened (.pointed screen event) => life.changed (life.host.pointer screen event, [])
  | .unmounted => life.changed (life.host.unmount, [])

/-- The life after several events. -/
def run (life : CanvasLife) (events : List CanvasLifeEvent) : CanvasLife :=
  events.foldl step life

/-- A new canvas. -/
def start (props : CanvasProps) (picture : Picture) : CanvasLife := { host := { props, picture } }

/-- The number of warnings about frames. -/
def warnings (life : CanvasLife) : Nat := life.log.countP LogLine.isFrameWarning

/-- What holds of the animation at every point of the life of a canvas. -/
structure Sound (life : CanvasLife) : Prop where
  /-- Before the mounting has come to an end there is nothing to draw. -/
  unmounted : life.host.mounted = false → life.host.diagram = none ∧ life.host.framesDue = 0
  /-- While the canvas is there, one frame is requested exactly if there is a diagram. -/
  looping : life.host.alive = true →
    life.host.framesDue = if life.host.diagram.isSome then 1 else 0
  single : life.host.framesDue ≤ 1
  /-- The canvas remembers whether the last frame failed. -/
  drewWell : life.host.drewWell = false ↔ life.failed.getLast? = some true
  warned : life.warnings = failureRuns life.failed

/-- The animation of a canvas is one loop that ends with the canvas. -/
structure OneLoop (life : CanvasLife) (events : List CanvasLifeEvent) : Prop where
  outstanding : life.host.framesDue ≤ 1
  /-- As long as there is something to draw on, the loop goes on. -/
  looping : .unmounted ∉ events →
    life.host.framesDue = if life.host.diagram.isSome then 1 else 0
  /-- After the end a frame moves nothing, draws nothing and requests nothing. -/
  ended : .unmounted ∈ events → ∀ behavior, life.host.frame behavior =
    ⟨{ life.host with framesDue := 0 }, [],
      [.make .debug "graph canvas unmounted, stopping animation"]⟩
  /-- After the end a window of another size changes nothing. -/
  unresized : .unmounted ∈ events → ∀ screen, life.host.windowResized screen = life.host
  /-- Every unbroken run of failing frames is warned about once. -/
  warned : life.warnings = failureRuns life.failed
  /-- When the console lets all requested frames run, one of them runs or none. -/
  console : ∀ behavior, (life.host.runFrame behavior).host =
    (life.step (.happened (.framed behavior))).host

end CanvasLife

section Runs

variable {failed : List Bool} {last : Bool}

/-- One more outcome of the same kind makes the last run longer. -/
theorem exists_splitBy_concat (same : failed.getLast? = some last) :
    ∃ runs run, run.getLast? = some last ∧ failed.splitBy (· == ·) = runs ++ [run] ∧
      (failed ++ [last]).splitBy (· == ·) = runs ++ [run ++ [last]] := by
  have nonempty : failed.splitBy (· == ·) ≠ [] := by
    rw [ne_eq, List.splitBy_eq_nil]
    rintro rfl
    cases same
  obtain ⟨runs, run, split⟩ := (List.eq_nil_or_concat _).resolve_left nonempty
  rw [List.concat_eq_append] at split
  obtain ⟨whole, filled, equal, apart⟩ := List.splitBy_eq_iff.mp split
  have filledRun : run ≠ [] := by
    rintro rfl
    exact filled (by simp)
  have ends : run.getLast? = some last := by
    rw [← same, whole, List.flatten_concat, List.getLast?_append_of_ne_nil _ filledRun]
  refine ⟨runs, run, ends, split, List.splitBy_eq_iff.mpr ⟨?whole, ?filled, ?equal, ?apart⟩⟩
  case whole => simp [whole]
  case filled =>
    intro member
    rcases List.mem_append.mp member with early | late
    · exact filled (List.mem_append_left _ early)
    · simp at late
  case equal =>
    intro group member
    rcases List.mem_append.mp member with early | late
    · exact equal group (List.mem_append_left _ early)
    · obtain rfl := List.mem_singleton.mp late
      refine List.isChain_append.mpr ⟨equal run (by simp), by simp, ?_⟩
      intro x isLast y isHead
      simp_all
  case apart =>
    obtain ⟨early, -, seam⟩ := List.isChain_append.mp apart
    refine List.isChain_append.mpr ⟨early, List.isChain_singleton _, fun group isLast other => ?_⟩
    rw [List.head?_cons, Option.mem_some_iff]
    rintro rfl
    obtain ⟨filledGroup, _, differ⟩ := seam group isLast run (by simp)
    exact ⟨filledGroup, by simp, by rwa [List.head_append_of_ne_nil filledRun]⟩

/-- One more outcome starts a run of failures if it is a failure and the one before it is not. -/
theorem failureRuns_concat (failed : List Bool) (last : Bool) :
    failureRuns (failed ++ [last]) =
      failureRuns failed + if last = true ∧ failed.getLast? ≠ some true then 1 else 0 := by
  by_cases same : failed.getLast? = some last
  · obtain ⟨runs, run, ends, before, after⟩ := exists_splitBy_concat same
    have member : last ∈ run := List.mem_of_getLast? ends
    have kept : (run ++ [last]).contains true = run.contains true := by
      cases last <;> simp [member]
    have noStart : ¬ (last = true ∧ failed.getLast? ≠ some true) := by
      rintro ⟨rfl, different⟩
      exact different same
    simp only [failureRuns, before, after, List.countP_append, List.countP_singleton, kept,
      if_neg noStart, Nat.add_zero]
  · have differ : ∀ x ∈ failed.getLast?, (x == last) = false := by
      intro x isLast
      rw [beq_eq_false_iff_ne]
      rintro rfl
      exact same isLast
    have alone : [last].splitBy (· == ·) = [[last]] := rfl
    rw [failureRuns, List.splitBy_append_cons [] differ, alone, List.countP_append, failureRuns,
      List.countP_singleton]
    cases last with
    | false => simp
    | true => simp [same]

end Runs

namespace CanvasHost

variable (host : CanvasHost) (behavior : CanvasBehavior)

/-- A frame of a canvas that has gone does nothing but give up its request. -/
theorem frame_of_gone (gone : host.alive = false) :
    host.frame behavior =
      ⟨{ host with framesDue := host.framesDue - 1 }, [],
        [.make .debug "graph canvas unmounted, stopping animation"]⟩ := by
  simp [frame, gone]

/-- A frame of a canvas with a diagram moves the diagram, draws it and requests the next frame. -/
theorem frame_of_shown {diagram : Diagram} (alive : host.alive = true)
    (shown : host.diagram = some diagram) :
    ∃ played, host.drawn? behavior = some played ∧
      host.frame behavior =
        ⟨{ host with
            framesDue := host.framesDue - 1 + 1
            diagram := some (diagram.tick frameTime)
            drewWell := !played.failed },
          played.calls,
          if played.failed ∧ host.drewWell then
            [.make .warn ("graph render failed: " ++ behavior.thrown)] else []⟩ := by
  refine ⟨(diagram.tick frameTime).drawWith behavior, ?_, ?_⟩
  · simp [drawn?, alive, shown]
  · simp [frame, alive, shown]

/-- A canvas that takes up its picture keeps its animation. -/
theorem sameLoop_rebuild : host.SameLoop host.rebuild.1 := by
  rw [rebuild_eq]
  exact ⟨rfl, rfl, rfl, rfl, Option.isSome_map⟩

/-- A canvas that takes up its picture warns about no frame. -/
theorem quiet_rebuild : host.rebuild.2.countP LogLine.isFrameWarning = 0 := by
  unfold rebuild
  split <;> rfl

/-- A window of another size keeps the animation. -/
theorem sameLoop_windowResized (screen : Screen) : host.SameLoop (host.windowResized screen) := by
  unfold windowResized
  split_ifs
  · exact ⟨rfl, rfl, rfl, rfl, rfl⟩
  · split
    · exact ⟨rfl, rfl, rfl, rfl, rfl⟩
    · exact ⟨rfl, rfl, rfl, rfl, Option.isSome_map⟩

/-- The pointer keeps the animation. -/
theorem sameLoop_pointer (screen : Screen) (event : PointerEvent) :
    host.SameLoop (host.pointer screen event) := by
  cases event with
  | other => exact ⟨rfl, rfl, rfl, rfl, rfl⟩
  | down | move | up | leave | wheel => exact ⟨rfl, rfl, rfl, rfl, Option.isSome_map⟩

/-- A canvas that tries to mount itself stays as it is, or its mounting comes to an end. -/
theorem mount_ends (screen : Screen) :
    host.mount screen = (host, []) ∨ host.Mounts (host.mount screen) := by
  unfold mount
  split
  case isTrue => exact .inl rfl
  case isFalse ready =>
    have unmounted : host.mounted = false := by
      simpa using (not_or.mp ready).1
    dsimp only
    split
    · have quiet : [LogLine.make .warn "canvas has no 2d context"].countP
          LogLine.isFrameWarning = 0 := by decide
      exact .inr ⟨unmounted, rfl, rfl, rfl, .inr ⟨rfl, rfl⟩, quiet⟩
    · exact .inr ⟨unmounted, rfl, rfl, rfl, .inl ⟨rfl, rfl⟩, rfl⟩

end CanvasHost

/-- A line about a failing frame is a warning about a frame. -/
theorem isFrameWarning_make (thrown : String) :
    (LogLine.make .warn ("graph render failed: " ++ thrown)).isFrameWarning = true := by
  have whole : "meshmesh-admin: graph render failed: ".toList =
      "meshmesh-admin: ".toList ++ "graph render failed: ".toList := by decide
  rw [LogLine.isFrameWarning, LogLine.make, whole, Bool.and_eq_true, List.isPrefixOf_iff_prefix,
    String.toList_append, String.toList_append, ← List.append_assoc]
  exact ⟨rfl, List.prefix_append _ _⟩

namespace CanvasLife

variable {life : CanvasLife}

/-- A change that keeps the animation and logs nothing about frames is sound. -/
theorem Sound.changed (sound : life.Sound) {change : CanvasHost × List LogLine}
    (same : life.host.SameLoop change.1)
    (quiet : change.2.countP LogLine.isFrameWarning = 0) : (life.changed change).Sound where
  unmounted unmounted := by
    obtain ⟨empty, idle⟩ := sound.unmounted (same.mounted ▸ unmounted)
    refine ⟨Option.isNone_iff_eq_none.mp ?_, same.framesDue.trans idle⟩
    rw [← Option.not_isSome, CanvasLife.changed, same.shown, empty]
    rfl
  looping alive := by
    simp only [CanvasLife.changed, same.framesDue, same.shown]
    exact sound.looping (same.alive ▸ alive)
  single := same.framesDue.trans_le sound.single
  drewWell := by
    simp only [CanvasLife.changed, same.drewWell]
    exact sound.drewWell
  warned := by
    rw [← show life.warnings = failureRuns (life.changed change).failed from sound.warned]
    simp [warnings, CanvasLife.changed, quiet]

/-- A mounting that comes to an end is sound. -/
theorem Sound.mounts (sound : life.Sound) {change : CanvasHost × List LogLine}
    (mounts : life.host.Mounts change) : (life.changed change).Sound := by
  obtain ⟨empty, idle⟩ := sound.unmounted mounts.unmounted
  constructor
  case unmounted => exact fun unmounted => absurd (unmounted.symm.trans mounts.mounted) nofun
  case looping =>
    intro _
    obtain ⟨shown, requested⟩ | ⟨same, unrequested⟩ := mounts.requests
    · rw [CanvasLife.changed, requested, idle, shown]
      rfl
    · rw [CanvasLife.changed, unrequested, idle, same, empty]
      rfl
  case single =>
    obtain ⟨-, requested⟩ | ⟨-, unrequested⟩ := mounts.requests
    · rw [CanvasLife.changed, requested, idle]
    · exact unrequested.trans_le sound.single
  case drewWell =>
    simp only [CanvasLife.changed, mounts.drewWell]
    exact sound.drewWell
  case warned =>
    rw [← show life.warnings = failureRuns (life.changed change).failed from sound.warned]
    simp [warnings, CanvasLife.changed, mounts.quiet]

/-- The end of the canvas is sound. -/
theorem Sound.unmount (sound : life.Sound) : (life.step .unmounted).Sound where
  unmounted := sound.unmounted
  looping := nofun
  single := sound.single
  drewWell := sound.drewWell
  warned := by
    simp only [step, CanvasLife.changed, warnings, List.append_nil]
    exact sound.warned

/-- A frame of a canvas that has gone is sound. -/
theorem Sound.framed_of_gone (sound : life.Sound) (behavior : CanvasBehavior)
    (due : life.host.framesDue ≠ 0) (gone : life.host.alive = false) :
    (life.step (.happened (.framed behavior))).Sound := by
  have undrawn : life.host.drawn? behavior = none := by simp [CanvasHost.drawn?, gone]
  simp only [step, if_neg due, CanvasHost.frame_of_gone _ _ gone, undrawn, Option.map_none,
    Option.toList_none, List.append_nil]
  constructor
  case unmounted =>
    intro unmounted
    obtain ⟨empty, idle⟩ := sound.unmounted unmounted
    exact absurd idle due
  case looping => exact fun alive => absurd (gone.symm.trans alive) nofun
  case single => exact (Nat.sub_le _ _).trans sound.single
  case drewWell => exact sound.drewWell
  case warned =>
    have quiet : [LogLine.make .debug "graph canvas unmounted, stopping animation"].countP
        LogLine.isFrameWarning = 0 := by decide
    rw [warnings, List.countP_append, quiet, Nat.add_zero]
    exact sound.warned

/-- A frame of a canvas with a diagram is sound. -/
theorem Sound.framed_of_shown (sound : life.Sound) (behavior : CanvasBehavior)
    (due : life.host.framesDue ≠ 0) (alive : life.host.alive = true) {diagram : Diagram}
    (shown : life.host.diagram = some diagram) :
    (life.step (.happened (.framed behavior))).Sound := by
  obtain ⟨played, drawn, framed⟩ := life.host.frame_of_shown behavior alive shown
  have one : life.host.framesDue = 1 := by
    rw [sound.looping alive, shown]
    rfl
  simp only [step, if_neg due, framed, drawn, Option.map_some, Option.toList_some]
  constructor
  case unmounted => exact fun unmounted => absurd (sound.unmounted unmounted).2 due
  case looping => exact fun _ => by simp [one]
  case single => simp [one]
  case drewWell => simp
  case warned =>
    -- The canvas warns exactly when a new run of failures starts.
    have starts : (played.failed = true ∧ life.host.drewWell = true) ↔
        (played.failed = true ∧ life.failed.getLast? ≠ some true) := by
      rw [ne_eq, ← sound.drewWell, Bool.not_eq_false]
    rw [failureRuns_concat, ← sound.warned, warnings, List.countP_append]
    simp only [starts]
    split
    · rw [List.countP_singleton, isFrameWarning_make, if_pos rfl]
      rfl
    · rfl

/-- Every event is sound. -/
theorem Sound.step (sound : life.Sound) (event : CanvasLifeEvent) : (life.step event).Sound := by
  cases event with
  | unmounted => exact sound.unmount
  | happened happening =>
      cases happening with
      | pictured | appeared => exact sound.changed ⟨rfl, rfl, rfl, rfl, rfl⟩ rfl
      | mounting screen =>
          obtain same | mounts := life.host.mount_ends screen
          · simp only [CanvasLife.step, same]
            exact sound.changed ⟨rfl, rfl, rfl, rfl, rfl⟩ rfl
          · exact sound.mounts mounts
      | rebuilding => exact sound.changed life.host.sameLoop_rebuild life.host.quiet_rebuild
      | framed behavior =>
          by_cases due : life.host.framesDue = 0
          · simp only [CanvasLife.step, if_pos due]
            exact sound
          · cases alive : life.host.alive with
            | false => exact sound.framed_of_gone behavior due alive
            | true =>
                cases shown : life.host.diagram with
                | none => exact absurd ((sound.looping alive).trans (by simp [shown])) due
                | some diagram => exact sound.framed_of_shown behavior due alive shown
      | windowResized screen => exact sound.changed (life.host.sameLoop_windowResized screen) rfl
      | pointed screen event => exact sound.changed (life.host.sameLoop_pointer screen event) rfl

/-- Every life of a canvas is sound. -/
theorem sound_run (props : CanvasProps) (picture : Picture) (events : List CanvasLifeEvent) :
    ((start props picture).run events).Sound := by
  have begins : (start props picture).Sound :=
    ⟨fun _ => ⟨rfl, rfl⟩, fun _ => rfl, Nat.zero_le 1, ⟨nofun, nofun⟩, rfl⟩
  exact List.foldlRecOn events CanvasLife.step (motive := Sound) begins
    fun _ sound event _ => sound.step event

/-- A frame does not end the canvas. -/
theorem alive_frame (host : CanvasHost) (behavior : CanvasBehavior) :
    (host.frame behavior).host.alive = host.alive := by
  unfold CanvasHost.frame
  split
  · rfl
  · dsimp only
    split <;> rfl

/-- Only its end ends the canvas. -/
theorem alive_step (event : CanvasLifeEvent) :
    (life.step event).host.alive = false ↔ life.host.alive = false ∨ event = .unmounted := by
  have kept {later : CanvasHost} (same : life.host.SameLoop later) :
      later.alive = false ↔ life.host.alive = false := by rw [same.alive]
  cases event with
  | unmounted => exact ⟨fun _ => .inr rfl, fun _ => rfl⟩
  | happened happening =>
      rw [or_iff_left CanvasLifeEvent.noConfusion]
      cases happening with
      | pictured | appeared => exact Iff.rfl
      | mounting screen =>
          obtain same | mounts := life.host.mount_ends screen
          · simp only [CanvasLife.step, same, CanvasLife.changed]
          · simp only [CanvasLife.step, CanvasLife.changed, mounts.alive]
      | rebuilding => exact kept life.host.sameLoop_rebuild
      | framed behavior =>
          simp only [CanvasLife.step]
          split
          · exact Iff.rfl
          · rw [alive_frame]
      | windowResized screen => exact kept (life.host.sameLoop_windowResized screen)
      | pointed screen event => exact kept (life.host.sameLoop_pointer screen event)

/-- A canvas has gone once it has ended. -/
theorem alive_run (life : CanvasLife) (events : List CanvasLifeEvent) :
    (life.run events).host.alive = false ↔ life.host.alive = false ∨ .unmounted ∈ events := by
  induction events generalizing life with
  | nil => simp [run]
  | cons event rest ih =>
      rw [run, List.foldl_cons, ← run, ih, alive_step, List.mem_cons, or_assoc,
        eq_comm (a := event)]

/-- When the console lets all requested frames run, one of them runs or none. -/
theorem Sound.runFrame (sound : life.Sound) (behavior : CanvasBehavior) :
    (life.host.runFrame behavior).host =
      (life.step (.happened (.framed behavior))).host := by
  obtain none | one : life.host.framesDue = 0 ∨ life.host.framesDue = 1 := by
    have := sound.single
    omega
  · simp only [CanvasHost.runFrame, CanvasLife.step, none, if_true, CanvasHost.framesOf]
  · simp only [CanvasHost.runFrame, CanvasLife.step, one, CanvasHost.framesOf]
    rfl

end CanvasLife

/-- Whatever happens to a canvas, in whatever order, at most one frame is requested at a time. The
frame that follows the end of the canvas is the last one and does nothing, and a window of another
size changes nothing any more. The log warns once for every unbroken run of failing frames. -/
theorem animation_oneLoop (props : CanvasProps) (picture : Picture)
    (events : List CanvasLifeEvent) :
    ((CanvasLife.start props picture).run events).OneLoop events := by
  have sound := CanvasLife.sound_run props picture events
  have gone : ((CanvasLife.start props picture).run events).host.alive = false ↔
      .unmounted ∈ events := by
    rw [CanvasLife.alive_run, or_iff_right]
    exact nofun
  generalize (CanvasLife.start props picture).run events = life at sound gone
  constructor
  case outstanding => exact sound.single
  case looping => exact fun there => sound.looping (Bool.not_eq_false _ ▸ mt gone.mp there)
  case ended =>
    intro ended behavior
    have last : life.host.framesDue - 1 = 0 := Nat.sub_eq_zero_of_le sound.single
    rw [CanvasHost.frame_of_gone _ _ (gone.mpr ended), last]
  case unresized =>
    intro ended screen
    have gone := gone.mpr ended
    exact if_pos (.inr (by simp [gone]))
  case warned => exact sound.warned
  case console => exact sound.runFrame

end MeshConsole
