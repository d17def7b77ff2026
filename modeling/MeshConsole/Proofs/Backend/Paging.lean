/-
This file relates the ranges of pages to the number of pages. The main statement says that the pages
of a list lie end to end and hold every record once.
-/

import Mathlib.Logic.ExistsUnique
import MeshConsole.Backend.ListRequest

namespace MeshConsole

/-- The request asks for the record at an index. Without a range it asks for all records. -/
def ListRequest.Wants (request : ListRequest) (index : Nat) : Prop :=
  ∀ first last, request.range = some (first, last) → first ≤ index ∧ index ≤ last

/-- The pages of a list of records lie end to end and hold every record once. -/
structure PagesTile (request : ListRequest) (total size : Nat) : Prop where
  /-- Every record stands on exactly one page. -/
  once : ∀ index < total, ∃! page, (1 ≤ page ∧ page ≤ pageCount total size) ∧
    (request.page page size).Wants index
  /-- A page spans as many records as a page holds, and the next page begins behind it. No number
  on the way is larger than that of all records up to the end of the page. -/
  adjacent : ∀ page, 1 ≤ page → ∃ first last, (request.page page size).range = some (first, last) ∧
    last + 1 = first + size ∧ first + size = page * size ∧
      ∃ beyond, (request.page (page + 1) size).range = some (last + 1, beyond)
  /-- The first page begins with the first record. -/
  first : ∃ last, (request.page 1 size).range = some (0, last)
  /-- No page begins behind the last record. -/
  begins : ∀ page, 1 ≤ page → page ≤ pageCount total size →
    ∃ first last, (request.page page size).range = some (first, last) ∧ first < total
  /-- Page zero is the first page. -/
  zero : ∀ size, request.page 0 size = request.page 1 size

section Ranges

variable {request : ListRequest} {page total size index : Nat}

/-- The range of a page, counted from zero. -/
theorem ListRequest.range_page (request : ListRequest) (page size : Nat) :
    (request.page (page + 1) size).range = some (page * size, page * size + size - 1) := by
  simp [ListRequest.page]

/-- A record stands on the page that its index leads to when it is divided by the page size. -/
theorem ListRequest.wants_page_iff (positive : 1 ≤ size) :
    (request.page (page + 1) size).Wants index ↔ index / size = page := by
  have within : (request.page (page + 1) size).Wants index ↔
      page * size ≤ index ∧ index ≤ page * size + size - 1 := by
    unfold Wants
    simp [range_page]
  rw [within, Nat.div_eq_iff positive]

/-- A page is among those that hold all records exactly if it begins before the last record. -/
theorem lt_pageCount_iff (records : 1 ≤ total) (positive : 1 ≤ size) :
    page < pageCount total size ↔ page * size < total := by
  have filled : page < (total + size - 1) / size ↔ page * size < total := by
    rw [← Nat.succ_le_iff, Nat.le_div_iff_mul_le positive, Nat.succ_mul]
    omega
  have positiveCount : 1 ≤ (total + size - 1) / size := by
    rw [Nat.le_div_iff_mul_le positive]
    omega
  rw [pageCount, Nat.max_eq_left positive, Nat.max_eq_left positiveCount, filled]

end Ranges

/-- The pages of any list that is not empty lie end to end and hold every record once. -/
theorem pages_tile (request : ListRequest) {total size : Nat} (records : 1 ≤ total)
    (positive : 1 ≤ size) : PagesTile request total size := by
  constructor
  case once =>
    intro index inside
    have counted : index / size < pageCount total size :=
      (lt_pageCount_iff records positive).mpr
        (Nat.lt_of_le_of_lt (Nat.div_mul_le_self index size) inside)
    refine ⟨index / size + 1, ⟨⟨Nat.le_add_left 1 _, counted⟩, ?_⟩, ?_⟩
    · exact (ListRequest.wants_page_iff positive).mpr rfl
    · rintro page ⟨⟨one, -⟩, wanted⟩
      obtain ⟨page, rfl⟩ := Nat.exists_eq_add_of_le' one
      rw [(ListRequest.wants_page_iff positive).mp wanted]
  case adjacent =>
    intro page one
    obtain ⟨page, rfl⟩ := Nat.exists_eq_add_of_le' one
    have next : page * size + size - 1 + 1 = (page + 1) * size := by
      rw [Nat.succ_mul]
      omega
    refine ⟨_, _, request.range_page page size, by omega, (Nat.succ_mul page size).symm, ?_⟩
    exact ⟨_, next ▸ request.range_page (page + 1) size⟩
  case first =>
    exact ⟨_, by simpa using request.range_page 0 size⟩
  case begins =>
    intro page one within
    obtain ⟨page, rfl⟩ := Nat.exists_eq_add_of_le' one
    exact ⟨_, _, request.range_page page size, (lt_pageCount_iff records positive).mp within⟩
  case zero => exact fun _ => rfl

/-- Fifty-one records fill two pages of twenty-five and begin a third one. -/
theorem pages_tile_third : (1 ≤ 51 ∧ 1 ≤ 25) ∧ PagesTile (.sortedBy "tag") 51 25 :=
  ⟨by decide, pages_tile _ (by decide) (by decide)⟩

end MeshConsole
