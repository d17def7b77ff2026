/-
This file shows that the query of a list request decodes to the request, that different requests
have different queries, and which characters a query holds.
-/

import MeshConsole.Backend.ListRequest
import MeshConsole.Proofs.Json.Printed
import MeshConsole.Proofs.Text.FormDecoding

namespace MeshConsole

open Json Text

/-- The bounds of a range are machine words. -/
def ListRequest.Bounded (request : ListRequest) : Prop :=
  ∀ bounds ∈ request.range, bounds.1 < UInt64.size ∧ bounds.2 < UInt64.size

/-- A sort is written as its field and `ASC` or `DESC`. -/
def SortKey.written (sort : SortKey) : Written :=
  .array [.text (some sort.field),
    .text (some (if sort.order = .ascending then "ASC" else "DESC"))]

/-- A range is written as its first and its last record. -/
def writtenRange (bounds : Nat × Nat) : Written :=
  .array [.number (some (.integer bounds.1)), .number (some (.integer bounds.2))]

/-- The query decodes to the sort, then the range if the request has one, then a filter that lets
everything pass, and to nothing else. -/
def Carries (query : String) (request : ListRequest) : Prop :=
  ∃ sort, read? sort = some request.sort.written ∧
    match request.range with
    | none => decodePairs? query = some [("sort", sort), ("filter", "{}")]
    | some bounds => ∃ range, read? range = some (writtenRange bounds) ∧
        decodePairs? query = some [("sort", sort), ("range", range), ("filter", "{}")]

section Values

/-- The printed sort reads as the sort. -/
theorem SortKey.read (sort : SortKey) :
    read? (String.ofList (printArray [quote sort.field.toList, quote sort.order.name.toList])) =
      some sort.written := by
  have reads := readsAs_array (.cons (readsAs_quote sort.field.toList)
    (.cons (readsAs_quote sort.order.name.toList) .nil))
  have name : sort.order.name = if sort.order = .ascending then "ASC" else "DESC" := by
    cases sort.order <;> rfl
  rw [reads.read?, String.ofList_toList, String.ofList_toList, name, SortKey.written]

/-- A range of machine words reads as the range. -/
theorem read_range {bounds : Nat × Nat}
    (bounded : bounds.1 < UInt64.size ∧ bounds.2 < UInt64.size) :
    read? (String.ofList (printArray [decimal bounds.1, decimal bounds.2])) =
      some (writtenRange bounds) :=
  (readsAs_array (.cons (readsAs_decimal bounded.1)
    (.cons (readsAs_decimal bounded.2) .nil))).read?

/-- Different sorts are written differently. -/
theorem SortKey.written_injective : Function.Injective SortKey.written := by
  rintro ⟨field, order⟩ ⟨field', order'⟩ same
  simp only [SortKey.written, Written.array.injEq, List.cons.injEq, Written.text.injEq,
    Option.some.injEq, and_true] at same
  obtain ⟨rfl, directions⟩ := same
  cases order <;> cases order'
  case ascending.ascending => rfl
  case ascending.descending => simp at directions
  case descending.ascending => simp at directions
  case descending.descending => rfl

/-- Different ranges are printed differently, whatever their size. -/
theorem printedRange_injective {first last first' last' : Nat}
    (same : printArray [decimal first, decimal last] = printArray [decimal first', decimal last']) :
    first = first' ∧ last = last' := by
  simp only [printArray, commaSeparated, List.cons_append, List.append_assoc, List.cons.injEq,
    true_and] at same
  obtain ⟨sameFirst, behind⟩ :=
    decimal_append_inj (by simp [EndsValue]) (by simp [EndsValue]) same
  obtain ⟨sameLast, -⟩ := decimal_append_inj (by simp [EndsValue]) (by simp [EndsValue])
    (List.cons.inj behind).2
  exact ⟨sameFirst, sameLast⟩

end Values

section Requests

/-- The query of a request decodes to its pairs. -/
theorem ListRequest.decode_query (request : ListRequest) :
    decodePairs? request.query =
      some (request.pairs.map fun pair => (String.ofList pair.1, String.ofList pair.2)) :=
  decodePairs?_encodePairs request.pairs

/-- The query of a request with bounded ranges carries the request. -/
theorem ListRequest.carries_query {request : ListRequest} (bounded : request.Bounded) :
    Carries request.query request := by
  refine ⟨_, request.sort.read, ?_⟩
  have decoded := request.decode_query
  rw [ListRequest.pairs] at decoded
  cases range : request.range with
  | none =>
      rw [range] at decoded
      simpa using decoded
  | some bounds =>
      rw [range] at decoded
      exact ⟨_, read_range (bounded bounds range), by simpa using decoded⟩

/-- Different requests have different pairs. -/
theorem ListRequest.pairs_injective : Function.Injective ListRequest.pairs := by
  rintro ⟨sort, range⟩ ⟨sort', range'⟩ same
  rw [pairs, pairs, List.cons_append, List.cons_append, List.cons.injEq] at same
  obtain ⟨sorts, ranges⟩ := same
  have sameSort : sort = sort' := by
    have read := sort.read
    rw [(Prod.mk.inj sorts).2, sort'.read, Option.some.injEq] at read
    exact SortKey.written_injective read.symm
  have sameRange : range = range' := by
    cases range <;> cases range'
    case none.none => rfl
    case none.some => simp at ranges
    case some.none => simp at ranges
    case some.some bounds bounds' =>
      simp only [List.cons_append, List.cons.injEq, Prod.mk.injEq, true_and, and_true] at ranges
      obtain ⟨first, last⟩ := printedRange_injective ranges
      exact congrArg some (Prod.ext first last)
  rw [sameSort, sameRange]

/-- Different requests have different queries. -/
theorem ListRequest.query_injective : Function.Injective ListRequest.query := by
  intro request request' same
  exact pairs_injective (encodePairs_injective (String.ofList_injective same))

end Requests

/-- The query of every request decodes to exactly the request, different requests have different
queries, and a query holds only the characters of form data. -/
theorem listRequest_query_roundTrip :
    (∀ request : ListRequest, request.Bounded → Carries request.query request) ∧
      Function.Injective ListRequest.query ∧
        ∀ request : ListRequest, ∀ c ∈ request.query.toList,
          c.isAlphanum = true ∨ c ∈ "*-._+%=&".toList := by
  refine ⟨fun _ bounded => ListRequest.carries_query bounded, ListRequest.query_injective, ?_⟩
  intro request c member
  rw [ListRequest.query, String.toList_ofList] at member
  rcases encodePairs_characters request.pairs c member with (letter | other) | rfl | rfl
  · exact .inl letter
  · exact .inr (List.mem_append_left "=&".toList other)
  · exact .inr (by decide)
  · exact .inr (by decide)

/-- A field of quotes, separators and a letter of two bytes comes back from the query. -/
theorem query_fieldOfSeparators :
    ListRequest.Bounded ⟨⟨"a\"b&c=d+e%é", .descending⟩, some (25, 49)⟩ ∧
      Carries (ListRequest.query ⟨⟨"a\"b&c=d+e%é", .descending⟩, some (25, 49)⟩)
        ⟨⟨"a\"b&c=d+e%é", .descending⟩, some (25, 49)⟩ := by
  have bounded : ListRequest.Bounded ⟨⟨"a\"b&c=d+e%é", .descending⟩, some (25, 49)⟩ := by
    rintro bounds ⟨⟩
    decide
  exact ⟨bounded, listRequest_query_roundTrip.1 _ bounded⟩

end MeshConsole
