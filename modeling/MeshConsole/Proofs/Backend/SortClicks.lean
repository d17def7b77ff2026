/-
This file follows the sort of a table through clicks on its headers. The main statement is that the
clicks at the end that are all on one column decide the order, and that the mark of this column
shows the order of the query.
-/

import Mathlib.Algebra.Group.Nat.Even
import Mathlib.Data.List.DropRight
import MeshConsole.Proofs.Backend.QueryRoundTrip

namespace MeshConsole

open Json Text

/-- The other direction. -/
def SortOrder.opposite : SortOrder → SortOrder
  | .ascending => .descending
  | .descending => .ascending

/-- The sort after clicks on the headers of columns, in their order. -/
def SortKey.clicked (sort : SortKey) (columns : List String) : SortKey :=
  columns.foldl SortKey.toggled sort

/-- The longest run of clicks on a column that ends with the last click. -/
def finalRun (column : String) (clicks : List String) : List String :=
  clicks.rtakeWhile (· = column)

/-- The order that a final run turns round with each of its clicks. It is downwards, unless there
are no other clicks and the column was sorted upwards before them. -/
def SortKey.orderBeforeRun (start : SortKey) (clicks : List String) (column : String) : SortOrder :=
  if finalRun column clicks = clicks ∧ start = ⟨column, .ascending⟩ then .ascending
  else .descending

section Orders

variable (order : SortOrder) (sort start : SortKey) (earlier : List String) (click column : String)

/-- Two turns lead back. -/
theorem SortOrder.opposite_involutive : Function.Involutive SortOrder.opposite := by
  intro order
  cases order <;> rfl

/-- An odd number of turns changes the order, and an even number does not. -/
theorem SortOrder.iterate_opposite (count : Nat) :
    SortOrder.opposite^[count] order = if Odd count then order.opposite else order := by
  split
  case isTrue odd => rw [opposite_involutive.iterate_odd odd]
  case isFalse even =>
    rw [opposite_involutive.iterate_even (Nat.not_odd_iff_even.mp even), id_eq]

/-- A click sorts its column. -/
theorem SortKey.field_toggled : (sort.toggled column).field = column := by
  unfold toggled
  split <;> rfl

/-- A click on the sorted column turns the order round. -/
theorem SortKey.order_toggled_self :
    (sort.toggled sort.field).order = sort.order.opposite := by
  obtain ⟨field, order⟩ := sort
  cases order <;> simp [toggled, SortOrder.opposite]

/-- A click on another column sorts upwards. -/
theorem SortKey.order_toggled_other (other : sort.field ≠ column) :
    (sort.toggled column).order = .ascending := by
  simp [toggled, other]

/-- The last of several clicks is a click on the sort that the others lead to. -/
theorem SortKey.clicked_concat :
    start.clicked (earlier ++ [column]) = (start.clicked earlier).toggled column :=
  List.foldl_concat ..

/-- The column of the last click is the sorted one. -/
theorem SortKey.field_clicked : (start.clicked (earlier ++ [column])).field = column := by
  rw [clicked_concat, field_toggled]

/-- A click on the column of a final run prolongs the run. -/
theorem finalRun_concat :
    finalRun column (earlier ++ [column]) = finalRun column earlier ++ [column] :=
  List.rtakeWhile_concat_pos _ _ _ (decide_eq_true rfl)

/-- A click on another column ends a run. -/
theorem finalRun_concat_other (other : click ≠ column) :
    finalRun column (earlier ++ [click]) = [] :=
  List.rtakeWhile_concat_neg _ _ _ (by simpa using other)

/-- A run turns round the same order when it is prolonged. -/
theorem SortKey.orderBeforeRun_concat :
    start.orderBeforeRun (earlier ++ [column]) column = start.orderBeforeRun earlier column := by
  simp only [orderBeforeRun, finalRun_concat, List.append_left_inj]

/-- A first click turns the order before its run round. -/
theorem SortKey.order_toggled :
    (start.toggled column).order = (start.orderBeforeRun [] column).opposite := by
  obtain ⟨field, order⟩ := start
  by_cases sorted : field = column
  · cases order <;>
      simp [toggled, orderBeforeRun, finalRun, SortOrder.opposite, sorted]
  · simp [toggled, orderBeforeRun, finalRun, SortOrder.opposite, sorted]

/-- The order after clicks is turned round once by each click of the final run. -/
theorem SortKey.order_clicked :
    (start.clicked (earlier ++ [column])).order =
      SortOrder.opposite^[(finalRun column (earlier ++ [column])).length]
        (start.orderBeforeRun (earlier ++ [column]) column) := by
  rw [orderBeforeRun_concat, finalRun_concat, List.length_append, List.length_singleton,
    Function.iterate_succ_apply', clicked_concat]
  induction earlier using List.reverseRecOn with
  | nil => exact start.order_toggled column
  | append_singleton before click ih =>
      have sorted := start.field_clicked before click
      by_cases same : click = column
      · subst same
        -- The run goes on, so that the order turns round once more.
        have turned := (start.clicked (before ++ [click])).order_toggled_self
        rw [sorted] at turned
        rw [turned, clicked_concat, ih, orderBeforeRun_concat, finalRun_concat, List.length_append,
          List.length_singleton, Function.iterate_succ_apply']
      · -- The run starts here, and whatever was before leaves the column unsorted.
        have unsorted : (start.clicked (before ++ [click])).field ≠ column := by rwa [sorted]
        have other : ¬ ([] = before ++ [click] ∧ start = ⟨column, .ascending⟩) := by simp
        rw [order_toggled_other _ _ unsorted, orderBeforeRun, finalRun_concat_other _ _ _ same,
          if_neg other]
        rfl

end Orders

section Marks

variable (sort : SortKey) (column : String) (range : Option (Nat × Nat))

/-- The sorted column has a mark, and no other has one. -/
theorem SortKey.marker_ne_empty_iff : sort.marker column ≠ "" ↔ column = sort.field := by
  unfold marker
  split
  case isTrue sorted =>
    simp only [sorted, iff_true]
    split <;> decide
  case isFalse unsorted => simpa [eq_comm] using unsorted

/-- Of different columns only the sorted one has a mark. -/
theorem SortKey.filter_marker {columns : List String} (distinct : columns.Nodup) :
    columns.filter (fun other => sort.marker other ≠ "") =
      if sort.field ∈ columns then [sort.field] else [] := by
  simp only [marker_ne_empty_iff]
  rw [List.filter_eq, distinct.count]
  split <;> rfl

/-- A direction is an arrow in the header and a word in the query. -/
structure Direction (sort : SortKey) (text arrow word : String) : Prop where
  shown : sort.marker sort.field = arrow
  sent : read? text = some (.array [.text (some sort.field), .text (some word)])

/-- The query has one sort, and it has the direction that the sorted column shows. -/
def SortKey.IsSent (sort : SortKey) (query : String) : Prop :=
  ∃ text others, decodePairs? query = some (("sort", text) :: others) ∧
    (∀ pair ∈ others, pair.1 ≠ "sort") ∧
      (Direction sort text " \u25b2" "ASC" ∨ Direction sort text " \u25bc" "DESC")

/-- Every request sends the direction that its sorted column shows. -/
theorem SortKey.isSent_query : sort.IsSent (ListRequest.query ⟨sort, range⟩) := by
  have decoded := ListRequest.decode_query ⟨sort, range⟩
  rw [ListRequest.pairs, List.cons_append, List.map_cons, String.ofList_toList] at decoded
  refine ⟨_, _, decoded, ?_, ?_⟩
  · cases range <;> simp
  · have read := sort.read
    obtain ⟨field, order⟩ := sort
    cases order with
    | ascending => exact .inl ⟨by simp [marker], read⟩
    | descending => exact .inr ⟨by simp [marker], read⟩

end Marks

/-- A sort that follows the clicks on headers, the last of which is on a column. -/
structure FollowsClicks (start : SortKey) (clicks : List String) (column : String)
    (sort : SortKey) : Prop where
  /-- The column of the last click is sorted. -/
  field : sort.field = column
  /-- A final run of an odd number of clicks on the column sorts it upwards. -/
  order : ¬ (finalRun column clicks = clicks ∧ start = ⟨column, .ascending⟩) →
    sort.order = if Odd (finalRun column clicks).length then .ascending else .descending
  /-- The order is the other one if all clicks are on a column that was already sorted upwards. -/
  carriedOn : finalRun column clicks = clicks → start = ⟨column, .ascending⟩ →
    sort.order = if Odd clicks.length then .descending else .ascending
  /-- Of different columns only the last clicked one has a mark. -/
  marked : ∀ columns : List String, columns.Nodup →
    columns.filter (fun other => sort.marker other ≠ "") =
      if column ∈ columns then [column] else []
  /-- The mark shows the direction that is sent. -/
  sent : ∀ range, sort.IsSent (ListRequest.query ⟨sort, range⟩)

/-- After every click the sort follows the final run of clicks on one column. -/
theorem sort_followsClicks (start : SortKey) (earlier : List String) (column : String) :
    FollowsClicks start (earlier ++ [column]) column (start.clicked (earlier ++ [column])) := by
  have sorted := start.field_clicked earlier column
  have turned := start.order_clicked earlier column
  rw [SortOrder.iterate_opposite] at turned
  constructor
  case field => exact sorted
  case order =>
    intro other
    rw [turned, SortKey.orderBeforeRun, if_neg other]
    rfl
  case carriedOn =>
    intro whole upwards
    have before : start.orderBeforeRun (earlier ++ [column]) column = .ascending :=
      if_pos ⟨whole, upwards⟩
    rw [turned, before, whole]
    rfl
  case marked =>
    intro columns distinct
    rw [SortKey.filter_marker _ distinct, sorted]
  case sent => exact fun range => SortKey.isSent_query _ range

/-- Three clicks on a column after one on another sort it upwards. -/
example : SortKey.clicked ⟨"id", .ascending⟩ ["tag", "id", "id", "id"] = ⟨"id", .ascending⟩ := by
  decide

end MeshConsole
