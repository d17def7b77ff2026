/-
This file follows the notices on the screen as they are raised, clicked and timed out, in any
order. The main statement is that the screen shows exactly the notices that were neither clicked
nor timed out.
-/

import Mathlib.Data.List.InsertIdx
import Mathlib.Data.List.Nodup
import MeshConsole.Page.Shell
import MeshConsole.Proofs.Markup.Clicks

namespace MeshConsole

/-- The notices on the screen with what has happened to them so far. -/
structure NoticeCourse where
  board : NoticeBoard := {}
  /-- Every notice so far, in order, with the identifier that it was given. -/
  raised : List Notice := []
  /-- The identifiers of the notices that were clicked. -/
  clicked : List Nat := []
  /-- The identifiers of the notices whose own timers have fired. -/
  fired : List Nat := []

/-- Something that happens to the notices. -/
inductive NoticeHappening where
  | raised (level : NoticeLevel) (text : String)
  /-- The notice at an index of the screen is clicked. -/
  | clicked (index : Nat)
  /-- One of the timers that have not fired yet fires, whether or not it is due. -/
  | fired (index : Nat)
  /-- Time passes, but no timer fires. -/
  | passed (milliseconds : Nat)

/-- The level and text of a notice that is raised. -/
def NoticeHappening.told? : NoticeHappening → Option (NoticeLevel × String)
  | .raised level text => some (level, text)
  | _ => none

namespace NoticeCourse

/-- The notices whose timers have not fired yet. -/
def armed (course : NoticeCourse) : List Notice :=
  course.raised.filter fun notice => notice.id ∉ course.fired

/-- The notices that were neither clicked nor timed out. -/
def remaining (course : NoticeCourse) : List Notice :=
  course.raised.filter fun notice => notice.id ∉ course.clicked ∧ notice.id ∉ course.fired

/-- The course after one more happening. The timers that have not fired yet belong to the armed
notices, in the order in which these were raised. -/
def step (course : NoticeCourse) : NoticeHappening → NoticeCourse
  | .raised level text =>
    { course with
      board := course.board.raise level text
      raised := course.raised ++ [⟨(course.board.queue.push level text).2, level, text⟩] }
  | .clicked index =>
    match course.board.queue.notices[index]? with
    | none => course
    | some notice =>
      { course with
        board := course.board.dismiss notice.id
        clicked := course.clicked ++ [notice.id] }
  | .fired index =>
    match course.board.timers[index]? with
    | none => course
    | some timer =>
      { course with
        board := course.board.expire timer
        fired := course.fired ++ (course.armed[index]?.map Notice.id).toList }
  | .passed milliseconds =>
    { course with board := { course.board with now := course.board.now + milliseconds } }

/-- The course after several happenings. -/
def run (course : NoticeCourse) (happenings : List NoticeHappening) : NoticeCourse :=
  happenings.foldl step course

end NoticeCourse

/-- What holds at every point of a course of the notices. -/
structure NoticesKept (happenings : List NoticeHappening) (course : NoticeCourse) : Prop where
  /-- The screen shows the notices that were neither clicked nor timed out, in order. -/
  shown : course.board.queue.notices =
    course.raised.filter fun notice => notice.id ∉ course.clicked ∧ notice.id ∉ course.fired
  /-- Every notice keeps the level and the text that it was raised with. -/
  told : (course.raised.map fun notice => (notice.level, notice.text)) =
    happenings.filterMap NoticeHappening.told?
  /-- Later notices have larger identifiers. -/
  increasing : (course.raised.map Notice.id).Pairwise (· < ·)
  /-- The next notice gets an identifier that no notice has had. -/
  fresh : ∀ level text, ∀ notice ∈ course.raised,
    notice.id < (course.board.queue.push level text).2
  /-- The timers that have not fired yet are those of the armed notices. -/
  timers : course.board.timers.map NoticeTimer.notice = course.armed.map Notice.id
  /-- A timer fires at most once. -/
  once : course.fired.Nodup
  /-- A click takes the clicked notice away and no other one. -/
  clicked : ∀ index, (course.step (.clicked index)).board.queue.notices =
    course.board.queue.notices.eraseIdx index
  /-- A timer takes its own notice away and no other one. -/
  expired : ∀ index notice, course.armed[index]? = some notice →
    (course.step (.fired index)).board.queue.notices =
      course.board.queue.notices.filter fun other => other ≠ notice
  /-- A timer that fires after the click on its notice takes nothing away. -/
  late : ∀ index notice, course.armed[index]? = some notice → notice.id ∈ course.clicked →
    (course.step (.fired index)).board.queue = course.board.queue
  /-- When time passes, the timers that are due fire one after the other. -/
  waited : ∀ milliseconds, ∃ indices : List Nat,
    (course.run (.passed milliseconds :: indices.map .fired)).board = course.board.wait milliseconds
  /-- The screen offers a click on every shown notice, which takes the notice away. -/
  offered : ∀ (page : Markup Nat), (Shell.view page id course.board.queue.notices).clicks =
    page.clicks ++ course.board.queue.notices.map Notice.id

section Lists

variable {α β : Type} [DecidableEq β] {f : α → β} {items : List α}

/-- Where all images are different, one item is left out by leaving out its image. -/
theorem filter_ne_eq_eraseIdx (distinct : (items.map f).Nodup) {index : Nat} {item : α}
    (there : items[index]? = some item) :
    (items.filter fun other => f other ≠ f item) = items.eraseIdx index := by
  induction items generalizing index with
  | nil => rfl
  | cons first rest ih =>
      obtain ⟨fresh, distinct⟩ := List.nodup_cons.mp distinct
      have different : ∀ other ∈ rest, f other ≠ f first :=
        fun other member same => fresh (same ▸ List.mem_map_of_mem member)
      cases index with
      | zero =>
          obtain rfl : first = item := Option.some.inj there
          rw [List.filter_cons_of_neg (by simp), List.eraseIdx_cons_zero, List.filter_eq_self]
          simpa using different
      | succ index =>
          have member : item ∈ rest := List.mem_of_getElem? there
          rw [List.filter_cons_of_pos (by simpa using (different item member).symm),
            ih distinct there, List.eraseIdx_cons_succ]

end Lists

namespace NoticeCourse

variable {course : NoticeCourse}

/-- What every course of the notices keeps. -/
structure Sound (course : NoticeCourse) : Prop where
  /-- The notices are numbered from one. -/
  numbered : course.raised.map Notice.id = List.range' 1 course.raised.length
  newest : course.board.queue.newest = course.raised.length
  shown : course.board.queue.notices = course.remaining
  timers : course.board.timers.map NoticeTimer.notice = course.armed.map Notice.id
  once : course.fired.Nodup
  /-- Only notices that were raised have been clicked or timed out. -/
  known : ∀ id ∈ course.clicked ++ course.fired, id ≤ course.raised.length

/-- No two notices have the same identifier. -/
theorem Sound.distinct (sound : course.Sound) : (course.raised.map Notice.id).Nodup :=
  sound.numbered ▸ List.nodup_range'

/-- Identifiers reach up to the number of notices. -/
theorem Sound.id_le (sound : course.Sound) {notice : Notice} (member : notice ∈ course.raised) :
    notice.id ≤ course.raised.length := by
  have there : notice.id ∈ course.raised.map Notice.id := List.mem_map_of_mem member
  rw [sound.numbered, List.mem_range'_1] at there
  omega

/-- The armed notices have different identifiers. -/
theorem Sound.distinct_armed (sound : course.Sound) : (course.armed.map Notice.id).Nodup :=
  sound.distinct.sublist (List.filter_sublist.map _)

/-- The shown notices have different identifiers. -/
theorem Sound.distinct_shown (sound : course.Sound) :
    (course.board.queue.notices.map Notice.id).Nodup :=
  sound.shown ▸ sound.distinct.sublist (List.filter_sublist.map _)

/-- The timer at an index belongs to the armed notice at this index. -/
theorem Sound.armed_of_timer (sound : course.Sound) {index : Nat} {timer : NoticeTimer}
    (there : course.board.timers[index]? = some timer) :
    ∃ notice, course.armed[index]? = some notice ∧ notice.id = timer.notice := by
  have same := congrArg (·[index]?) sound.timers
  simp only [List.getElem?_map, there, Option.map_some] at same
  exact Option.map_eq_some_iff.mp same.symm

/-- The timer of an armed notice has its index. -/
theorem Sound.timer_of_armed (sound : course.Sound) {index : Nat} {notice : Notice}
    (there : course.armed[index]? = some notice) :
    ∃ timer, course.board.timers[index]? = some timer ∧ timer.notice = notice.id := by
  have same := congrArg (·[index]?) sound.timers
  simp only [List.getElem?_map, there, Option.map_some] at same
  exact Option.map_eq_some_iff.mp same

/-- A timer that fires leaves all other timers behind. -/
theorem Sound.timers_expire (sound : course.Sound) {index : Nat} {timer : NoticeTimer}
    (there : course.board.timers[index]? = some timer) :
    course.board.timers.erase timer = course.board.timers.eraseIdx index := by
  have distinct : course.board.timers.Nodup :=
    List.Nodup.of_map _ (sound.timers ▸ sound.distinct_armed)
  obtain ⟨within, rfl⟩ := List.getElem?_eq_some_iff.mp there
  exact distinct.erase_getElem index within

/-- A new notice gets the next identifier and a timer of its own. -/
theorem Sound.raise (sound : course.Sound) (level : NoticeLevel) (text : String) :
    (course.step (.raised level text)).Sound := by
  have newest := sound.newest
  have unknown : ∀ id ∈ course.clicked ++ course.fired, id ≠ course.raised.length + 1 := by
    intro id member
    have := sound.known id member
    omega
  have notClicked : course.raised.length + 1 ∉ course.clicked :=
    fun member => unknown _ (List.mem_append_left _ member) rfl
  have notFired : course.raised.length + 1 ∉ course.fired :=
    fun member => unknown _ (List.mem_append_right _ member) rfl
  constructor
  case numbered =>
    simp [step, NoticeQueue.push, newest, sound.numbered, List.range'_1_concat, Nat.add_comm]
  case newest => simp [step, NoticeBoard.raise, NoticeQueue.push, newest]
  case shown =>
    simp [step, NoticeBoard.raise, NoticeQueue.push, newest, sound.shown, remaining, notClicked,
      notFired]
  case timers =>
    simp [step, NoticeBoard.raise, NoticeQueue.push, newest, sound.timers, armed, notFired]
  case once => exact sound.once
  case known =>
    intro id member
    have := sound.known id member
    simp only [step, List.length_append, List.length_singleton]
    omega

/-- A click takes a notice away and leaves its timer behind. -/
theorem Sound.click (sound : course.Sound) (index : Nat) :
    (course.step (.clicked index)).Sound := by
  cases there : course.board.queue.notices[index]? with
  | none => simpa only [step, there] using sound
  | some notice =>
      have member : notice ∈ course.remaining := sound.shown ▸ List.mem_of_getElem? there
      have raised : notice ∈ course.raised := (List.mem_filter.mp member).1
      simp only [step, there]
      constructor
      case numbered => exact sound.numbered
      case newest => exact sound.newest
      case shown =>
        simp only [NoticeBoard.dismiss, NoticeQueue.dismiss, sound.shown, remaining,
          List.filter_filter]
        refine List.filter_congr fun other _ => ?_
        grind
      case timers => exact sound.timers
      case once => exact sound.once
      case known =>
        intro id known
        have := sound.id_le raised
        have := sound.known id
        grind

/-- A timer that fires takes its own notice away, if that is still there. -/
theorem Sound.fire (sound : course.Sound) (index : Nat) : (course.step (.fired index)).Sound := by
  cases there : course.board.timers[index]? with
  | none => simpa only [step, there] using sound
  | some timer =>
      obtain ⟨notice, own, same⟩ := sound.armed_of_timer there
      have member : notice ∈ course.armed := List.mem_of_getElem? own
      obtain ⟨raised, unfired⟩ := List.mem_filter.mp member
      have others : (course.armed.filter fun other => other.id ≠ notice.id) =
          course.armed.eraseIdx index := filter_ne_eq_eraseIdx sound.distinct_armed own
      simp only [step, there, own, Option.map_some, Option.toList_some]
      constructor
      case numbered => exact sound.numbered
      case newest => exact sound.newest
      case shown =>
        simp only [NoticeBoard.expire, NoticeQueue.dismiss, sound.shown, remaining,
          List.filter_filter, ← same]
        refine List.filter_congr fun other _ => ?_
        grind
      case timers =>
        have left : armed { course with
            board := course.board.expire timer, fired := course.fired ++ [notice.id] } =
              course.armed.eraseIdx index := by
          rw [← others]
          simp only [armed, List.filter_filter]
          refine List.filter_congr fun other _ => ?_
          grind
        rw [left, NoticeBoard.expire, sound.timers_expire there, ← List.eraseIdx_map, sound.timers,
          List.eraseIdx_map]
      case once =>
        have fresh : notice.id ∉ course.fired := by simpa using unfired
        exact List.nodup_append_comm.mp (List.nodup_cons.mpr ⟨fresh, sound.once⟩)
      case known =>
        intro id known
        have := sound.id_le raised
        have := sound.known id
        grind

/-- Every happening keeps the invariant. -/
theorem Sound.step (sound : course.Sound) (happening : NoticeHappening) :
    (course.step happening).Sound := by
  cases happening with
  | raised level text => exact sound.raise level text
  | clicked index => exact sound.click index
  | fired index => exact sound.fire index
  | passed milliseconds =>
      exact ⟨sound.numbered, sound.newest, sound.shown, sound.timers, sound.once, sound.known⟩

/-- Every course keeps the invariant. -/
theorem Sound.run (sound : course.Sound) (happenings : List NoticeHappening) :
    (course.run happenings).Sound := by
  induction happenings generalizing course with
  | nil => exact sound
  | cons happening rest ih => exact ih (sound.step happening)

/-- At the start there is no notice. -/
theorem sound_start : ({} : NoticeCourse).Sound := by
  constructor <;> simp [remaining, armed]

/-- Only raising adds a notice. -/
theorem raised_step (course : NoticeCourse) (happening : NoticeHappening) :
    ((course.step happening).raised.map fun notice => (notice.level, notice.text)) =
      (course.raised.map fun notice => (notice.level, notice.text)) ++ happening.told?.toList := by
  cases happening with
  | raised level text => simp [NoticeCourse.step, NoticeHappening.told?]
  | clicked index | fired index =>
      simp only [NoticeCourse.step, NoticeHappening.told?]
      split <;> simp
  | passed milliseconds => simp [NoticeCourse.step, NoticeHappening.told?]

/-- The notices are those that were raised. -/
theorem raised_run (course : NoticeCourse) (happenings : List NoticeHappening) :
    ((course.run happenings).raised.map fun notice => (notice.level, notice.text)) =
      (course.raised.map fun notice => (notice.level, notice.text)) ++
        happenings.filterMap NoticeHappening.told? := by
  induction happenings generalizing course with
  | nil => simp [NoticeCourse.run]
  | cons happening rest ih =>
      rw [NoticeCourse.run, List.foldl_cons, ← NoticeCourse.run, ih, raised_step, List.append_assoc,
        List.filterMap_cons]
      cases happening.told? <;> rfl

/-- Timers that have not fired yet can fire in any order. -/
theorem exists_run_expire (course : NoticeCourse) {due : List NoticeTimer} (distinct : due.Nodup)
    (waiting : due ⊆ course.board.timers) :
    ∃ indices : List Nat, (course.run (indices.map .fired)).board =
      due.foldl NoticeBoard.expire course.board := by
  induction due generalizing course with
  | nil => exact ⟨[], rfl⟩
  | cons timer rest ih =>
      obtain ⟨fresh, distinct⟩ := List.nodup_cons.mp distinct
      obtain ⟨first, later⟩ := List.cons_subset.mp waiting
      obtain ⟨index, there⟩ := List.mem_iff_getElem?.mp first
      have fired : (course.step (.fired index)).board = course.board.expire timer := by
        simp only [NoticeCourse.step, there]
      have left : rest ⊆ (course.step (.fired index)).board.timers := by
        rw [fired]
        intro other member
        have different : other ≠ timer := fun same => fresh (same ▸ member)
        exact (List.mem_erase_of_ne different).mpr (later member)
      obtain ⟨indices, same⟩ := ih _ distinct left
      rw [fired] at same
      exact ⟨index :: indices, same⟩

/-- When time passes, the timers that are due fire one after the other. -/
theorem Sound.wait (sound : course.Sound) (milliseconds : Nat) :
    ∃ indices : List Nat, (course.run (.passed milliseconds :: indices.map .fired)).board =
      course.board.wait milliseconds := by
  have distinct : course.board.timers.Nodup :=
    List.Nodup.of_map _ (sound.timers ▸ sound.distinct_armed)
  exact exists_run_expire (course.step (.passed milliseconds)) (distinct.filter _)
    List.filter_sublist.subset

/-- A click takes the clicked notice away and no other one. -/
theorem Sound.notices_click (sound : course.Sound) (index : Nat) :
    (course.step (.clicked index)).board.queue.notices =
      course.board.queue.notices.eraseIdx index := by
  cases there : course.board.queue.notices[index]? with
  | none =>
      simp only [NoticeCourse.step, there]
      exact (List.eraseIdx_of_length_le (List.getElem?_eq_none_iff.mp there)).symm
  | some notice =>
      simp only [NoticeCourse.step, there]
      exact filter_ne_eq_eraseIdx sound.distinct_shown there

/-- A timer takes its own notice away and no other one. -/
theorem Sound.notices_fire (sound : course.Sound) {index : Nat} {notice : Notice}
    (own : course.armed[index]? = some notice) :
    (course.step (.fired index)).board.queue.notices =
      course.board.queue.notices.filter fun other => other ≠ notice := by
  obtain ⟨timer, there, same⟩ := sound.timer_of_armed own
  have raised : notice ∈ course.raised := (List.mem_filter.mp (List.mem_of_getElem? own)).1
  simp only [NoticeCourse.step, there, NoticeBoard.expire, NoticeQueue.dismiss, same]
  refine List.filter_congr fun other member => ?_
  have shown : other ∈ course.raised := (List.mem_filter.mp (sound.shown ▸ member)).1
  have one : other.id = notice.id ↔ other = notice :=
    ⟨fun equal => List.inj_on_of_nodup_map sound.distinct shown raised equal, congrArg _⟩
  simp only [ne_eq, one]

/-- A timer that fires after the click on its notice takes nothing away. -/
theorem Sound.queue_fire (sound : course.Sound) {index : Nat} {notice : Notice}
    (own : course.armed[index]? = some notice) (clicked : notice.id ∈ course.clicked) :
    (course.step (.fired index)).board.queue = course.board.queue := by
  obtain ⟨timer, there, same⟩ := sound.timer_of_armed own
  have gone : ∀ other ∈ course.board.queue.notices, other.id ≠ notice.id := by
    intro other member equal
    have unclicked := (List.mem_filter.mp (sound.shown ▸ member)).2
    simp only [decide_eq_true_eq] at unclicked
    exact unclicked.1 (equal ▸ clicked)
  have kept : (course.board.queue.notices.filter fun other => other.id ≠ notice.id) =
      course.board.queue.notices := List.filter_eq_self.mpr fun other member => by
    simpa using gone other member
  simp only [NoticeCourse.step, there, NoticeBoard.expire, NoticeQueue.dismiss, same, kept]

end NoticeCourse

/-- The screen offers the clicks of its page and one on every notice. -/
theorem Shell.clicks_view {event : Type} (page : Markup event) (dismiss : Nat → event)
    (notices : List Notice) :
    (Shell.view page dismiss notices).clicks =
      page.clicks ++ notices.map fun notice => dismiss notice.id := by
  have boxes : (notices.map (noticeView dismiss)).flatMap Markup.clicks =
      notices.map fun notice => dismiss notice.id := by
    rw [List.flatMap_map, List.map_eq_flatMap]
    simp [noticeView, Traits.click?]
  -- The entries of the menu are references, which raise nothing.
  simp [Shell.view, Markup.styled, Markup.labelled, Markup.plain, Markup.reference, Traits.click?,
    List.flatMap_map, boxes]

/-- The screen shows exactly the notices that were neither clicked nor timed out, each as it was
raised, for any notices, any clicks and any firing of their timers in any order. -/
theorem notices_kept (happenings : List NoticeHappening) :
    NoticesKept happenings (({} : NoticeCourse).run happenings) := by
  have sound := NoticeCourse.sound_start.run happenings
  have told := NoticeCourse.raised_run {} happenings
  generalize ({} : NoticeCourse).run happenings = course at sound told ⊢
  constructor
  case shown => exact sound.shown
  case told => exact told
  case increasing => exact sound.numbered ▸ List.pairwise_lt_range'
  case fresh =>
    intro level text notice member
    have := sound.id_le member
    simp only [NoticeQueue.push, sound.newest]
    omega
  case timers => exact sound.timers
  case once => exact sound.once
  case clicked => exact sound.notices_click
  case expired => exact fun index notice => sound.notices_fire
  case late =>
    intro index notice own clicked
    exact sound.queue_fire own clicked
  case waited => exact sound.wait
  case offered => exact fun page => Shell.clicks_view page id _

/-- The timer of a clicked notice fires first and leaves the other notice alone. -/
example : (({} : NoticeCourse).run
    [.raised .info "Node rebooted", .raised .error "Node not found", .clicked 0,
      .fired 0]).board.queue.notices = [⟨2, .error, "Node not found"⟩] := rfl

end MeshConsole
