/-
This file follows the loading of a page's data through changes of the key and results of requests,
in any order. The main statement is that only the newest request writes what is shown.
-/

import Mathlib.Data.List.Perm.Basic
import MeshConsole.Page.Load

namespace MeshConsole

/-- A request of a loader. -/
structure LoadRequest where
  /-- The place of the request among all requests of its loader. -/
  place : Nat
  /-- The number that the request keeps for its result. -/
  number : Nat

/-- A loader with what has happened to it so far. -/
structure LoaderCourse (κ α : Type) where
  loader : Loader α := {}
  /-- The current key. -/
  key : κ
  /-- The keys of all requests, in the order of the requests. -/
  asked : List κ := []
  /-- The requests without a result. -/
  waiting : List LoadRequest := []
  /-- The results with the places of their requests, the latest first. -/
  results : List (Nat × Except RequestFailure α) := []

/-- Something that happens to a loader. -/
inductive LoaderHappening (κ α : Type) where
  | rekeyed (key : κ)
  /-- The waiting request with an index has its result. -/
  | completed (index : Nat) (result : Except RequestFailure α)

namespace LoaderCourse

variable {κ α : Type}

/-- The loader asks for the data of a key. -/
def ask (course : LoaderCourse κ α) (key : κ) : LoaderCourse κ α :=
  let (issued, number) := course.loader.issue
  { course with
    loader := issued
    key
    asked := course.asked ++ [key]
    waiting := course.waiting ++ [⟨course.asked.length, number⟩] }

/-- A loader asks for the data of its first key at once. -/
def start (key : κ) : LoaderCourse κ α := ask { key } key

/-- The course after one more happening. -/
def step (course : LoaderCourse κ α) : LoaderHappening κ α → LoaderCourse κ α
  | .rekeyed key => course.ask key
  | .completed index result =>
    match course.waiting[index]? with
    | none => course
    | some request =>
      { course with
        loader := course.loader.complete request.number result
        waiting := course.waiting.eraseIdx index
        results := (request.place, result) :: course.results }

/-- The course after several happenings. -/
def run (course : LoaderCourse κ α) (happenings : List (LoaderHappening κ α)) :
    LoaderCourse κ α :=
  happenings.foldl step course

/-- The place belongs to the newest request. -/
def Newest (course : LoaderCourse κ α) (place : Nat) : Prop := place + 1 = course.asked.length

instance (course : LoaderCourse κ α) (place : Nat) : Decidable (course.Newest place) :=
  inferInstanceAs (Decidable (_ = _))

/-- The requests of a course are numbered in the order of their issue. -/
structure Numbered (course : LoaderCourse κ α) : Prop where
  /-- The loader knows the number of the newest request. -/
  newest : course.loader.newest = course.asked.length
  /-- A request keeps the number that was the newest when it was issued. -/
  numbers : ∀ request ∈ course.waiting, request.number = request.place + 1
  /-- Every request waits or has one result. -/
  places : (course.waiting.map LoadRequest.place ++ course.results.map Prod.fst).Perm
    (List.range course.asked.length)

/-- What every course of a loader keeps. -/
structure Sound (course : LoaderCourse κ α) : Prop extends Numbered course where
  /-- The newest request is for the current key. -/
  current : course.asked.getLast? = some course.key
  /-- The result of the newest request is shown. -/
  shown : ∀ place result, (place, result) ∈ course.results → course.Newest place →
    course.loader.load = .ofResult result

/-- The result of a request belongs to a request that was issued. -/
theorem Numbered.place_lt {course : LoaderCourse κ α} (numbered : course.Numbered) {place : Nat}
    {result : Except RequestFailure α} (completed : (place, result) ∈ course.results) :
    place < course.asked.length := by
  have member : place ∈ course.results.map Prod.fst :=
    List.mem_map.mpr ⟨(place, result), completed, rfl⟩
  exact List.mem_range.mp (numbered.places.mem_iff.mp (List.mem_append_right _ member))

/-- A waiting request has no result. -/
theorem Numbered.place_ne {course : LoaderCourse κ α} (numbered : course.Numbered)
    {request : LoadRequest} (waits : request ∈ course.waiting) {place : Nat}
    {result : Except RequestFailure α} (completed : (place, result) ∈ course.results) :
    request.place ≠ place := by
  have distinct := numbered.places.nodup_iff.mpr List.nodup_range
  exact (List.nodup_append.mp distinct).2.2 _ (List.mem_map_of_mem waits) _
    (List.mem_map.mpr ⟨(place, result), completed, rfl⟩)

/-- A result is shown exactly if its request is the newest. -/
theorem Numbered.complete_load {course : LoaderCourse κ α} (numbered : course.Numbered)
    {request : LoadRequest} (waits : request ∈ course.waiting)
    (result : Except RequestFailure α) :
    (course.loader.complete request.number result).load =
      if course.Newest request.place then .ofResult result else course.loader.load := by
  have same : course.loader.newest = request.number ↔ course.Newest request.place := by
    rw [numbered.newest, numbered.numbers request waits, eq_comm]
    rfl
  unfold Loader.complete
  simp only [same]
  split <;> rfl

/-- A result never changes the number of the newest request. -/
theorem complete_newest (loader : Loader α) (number : Nat) (result : Except RequestFailure α) :
    (loader.complete number result).newest = loader.newest := by
  unfold Loader.complete
  split <;> rfl

/-- A new request is the newest one, for the current key. -/
theorem Numbered.ask {course : LoaderCourse κ α} (numbered : course.Numbered) (key : κ) :
    (course.ask key).Sound where
  newest := by simp [LoaderCourse.ask, Loader.issue, numbered.newest]
  numbers := by
    intro request waits
    rcases List.mem_append.mp waits with waits | waits
    · exact numbered.numbers request waits
    · obtain rfl := List.mem_singleton.mp waits
      exact congrArg (· + 1) numbered.newest
  places := by
    simp only [LoaderCourse.ask, List.map_append, List.map_cons, List.map_nil, List.length_append,
      List.length_singleton, List.range_succ, List.append_assoc]
    exact List.perm_append_comm_assoc _ _ _ |>.trans
      ((numbered.places.append_left [course.asked.length]).trans List.perm_append_comm)
  current := by simp [LoaderCourse.ask]
  shown := by
    intro place result completed newest
    have earlier := numbered.place_lt completed
    have length : (course.ask key).asked.length = course.asked.length + 1 := by
      simp [LoaderCourse.ask]
    rw [Newest, length] at newest
    omega

/-- A result of a waiting request is the one result of this request. -/
theorem Sound.complete {course : LoaderCourse κ α} (sound : course.Sound) {index : Nat}
    {request : LoadRequest} (waits : course.waiting[index]? = some request)
    (result : Except RequestFailure α) : (course.step (.completed index result)).Sound := by
  have member := List.mem_of_getElem? waits
  simp only [step, waits]
  refine ⟨⟨?_, ?_, ?_⟩, sound.current, ?_⟩
  · exact (complete_newest _ _ _).trans sound.newest
  · exact fun other waits => sound.numbers other (List.mem_of_mem_eraseIdx waits)
  · -- The request moves from the waiting ones to those with a result.
    obtain ⟨within, rfl⟩ := List.getElem?_eq_some_iff.mp waits
    have taken := (List.getElem_cons_eraseIdx_perm within).map LoadRequest.place
    exact List.perm_middle.trans ((taken.append_right _).trans sound.places)
  · intro place answer completed (newest : course.Newest place)
    rw [sound.complete_load member]
    rcases List.mem_cons.mp completed with same | completed
    · obtain ⟨rfl, rfl⟩ := Prod.mk.inj same
      exact if_pos newest
    · have other : ¬ course.Newest request.place := by
        have different := sound.place_ne member completed
        unfold Newest at newest ⊢
        omega
      rw [if_neg other]
      exact sound.shown place answer completed newest

/-- Every happening keeps the invariant. -/
theorem Sound.step {course : LoaderCourse κ α} (sound : course.Sound)
    (happening : LoaderHappening κ α) : (course.step happening).Sound := by
  cases happening with
  | rekeyed key => exact sound.toNumbered.ask key
  | completed index result =>
      cases waits : course.waiting[index]? with
      | none => simpa only [LoaderCourse.step, waits] using sound
      | some request => exact sound.complete waits result

/-- Every course keeps the invariant. -/
theorem Sound.run {course : LoaderCourse κ α} (sound : course.Sound)
    (happenings : List (LoaderHappening κ α)) : (course.run happenings).Sound := by
  induction happenings generalizing course with
  | nil => exact sound
  | cons happening rest ih => exact ih (sound.step happening)

/-- A new loader asks for its first key. -/
theorem start_sound (key : κ) : (start key : LoaderCourse κ α).Sound :=
  Numbered.ask ⟨rfl, by simp, by simp⟩ key

/-- Results alone issue no request and take no result away. -/
theorem run_completed (course : LoaderCourse κ α)
    (later : List (Nat × Except RequestFailure α)) :
    (course.run (later.map fun answer => .completed answer.1 answer.2)).asked = course.asked ∧
      course.results ⊆
        (course.run (later.map fun answer => .completed answer.1 answer.2)).results := by
  induction later generalizing course with
  | nil => exact ⟨rfl, List.Subset.refl _⟩
  | cons answer rest ih =>
      obtain ⟨asked, results⟩ := ih (course.step (.completed answer.1 answer.2))
      have kept : (course.step (.completed answer.1 answer.2)).asked = course.asked ∧
          course.results ⊆ (course.step (.completed answer.1 answer.2)).results := by
        simp only [step]
        split
        · exact ⟨rfl, List.Subset.refl _⟩
        · exact ⟨rfl, List.subset_cons_self _ _⟩
      exact ⟨asked.trans kept.1, List.Subset.trans kept.2 results⟩

/-- Once the newest request has its result, further results change nothing. -/
theorem Sound.settled {course : LoaderCourse κ α} (sound : course.Sound) {place : Nat}
    {result : Except RequestFailure α} (completed : (place, result) ∈ course.results)
    (newest : course.Newest place) (later : List (Nat × Except RequestFailure α)) :
    (course.run (later.map fun answer => .completed answer.1 answer.2)).loader.load =
      course.loader.load := by
  obtain ⟨asked, results⟩ := course.run_completed later
  rw [sound.shown place result completed newest]
  refine (sound.run _).shown place result (results completed) ?_
  rwa [Newest, asked]

/-- With nothing under way the newest request has its result. -/
theorem Sound.completed_of_rest {course : LoaderCourse κ α} (sound : course.Sound)
    (rest : course.waiting = []) :
    ∃ place result, course.Newest place ∧ (place, result) ∈ course.results := by
  obtain ⟨earlier, all⟩ := List.getLast?_eq_some_iff.mp sound.current
  have count : course.asked.length = earlier.length + 1 := by simp [all]
  have issued : earlier.length ∈ List.range course.asked.length := by simp [count]
  have places := sound.places
  rw [rest, List.map_nil, List.nil_append] at places
  obtain ⟨⟨place, result⟩, completed, same⟩ := List.mem_map.mp (places.mem_iff.mpr issued)
  have newest : course.Newest place := by rw [Newest, count, ← same]
  exact ⟨place, result, newest, completed⟩

end LoaderCourse

/-- What holds at every point of a course of a loader. -/
structure NewestWrites {κ α : Type} (course : LoaderCourse κ α) : Prop where
  /-- A result is written exactly if its request is the newest at this point. -/
  written : ∀ index request result, course.waiting[index]? = some request →
    (course.step (.completed index result)).loader.load =
      if course.Newest request.place then .ofResult result else course.loader.load
  /-- A new request writes nothing. -/
  asked : ∀ key, (course.step (.rekeyed key)).loader.load = course.loader.load
  /-- Once the newest request has its result, no further results change what is shown. -/
  settled : ∀ place result, course.Newest place → (place, result) ∈ course.results →
    ∀ later : List (Nat × Except RequestFailure α),
      (course.run (later.map fun answer => .completed answer.1 answer.2)).loader.load =
        course.loader.load
  /-- With nothing under way, the result of the newest request is shown, and that request was for
  the current key. -/
  rest : course.waiting = [] → ∃ place result, course.Newest place ∧
    (place, result) ∈ course.results ∧ course.loader.load = .ofResult result ∧
      course.asked[place]? = some course.key

/-- Only the newest request of a loader writes what is shown, for any changes of the key and any
results in any order. -/
theorem loader_newestWrites {κ α : Type} (first : κ) (happenings : List (LoaderHappening κ α)) :
    NewestWrites ((LoaderCourse.start first).run happenings) := by
  have sound := (LoaderCourse.start_sound (α := α) first).run happenings
  constructor
  case written =>
    intro index request result waits
    simp only [LoaderCourse.step, waits]
    exact sound.complete_load (List.mem_of_getElem? waits) result
  case asked => exact fun _ => rfl
  case settled => exact fun _ _ newest completed => sound.settled completed newest
  case rest =>
    intro rest
    obtain ⟨place, result, newest, completed⟩ := sound.completed_of_rest rest
    refine ⟨place, result, newest, completed, sound.shown place result completed newest, ?_⟩
    rw [← sound.current, List.getLast?_eq_getElem?]
    exact congrArg (_[·]?) (Nat.eq_sub_of_add_eq newest)

/-- An old result that comes after the newest one is dropped. -/
example : ((LoaderCourse.start false).run
    [.rekeyed true, .completed 1 (.ok "new"), .completed 0 (.ok "old")]).loader.load =
      .ready "new" := rfl

end MeshConsole
