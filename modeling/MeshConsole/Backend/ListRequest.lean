/-
This file holds the parameters of list requests and the totals that come back.
-/

import MeshConsole.Json.Printer
import MeshConsole.Text.FormEncoding
import MeshConsole.Text.Blank
import MeshConsole.Text.Split

namespace MeshConsole

open Json

/-- The direction of a sort. -/
inductive SortOrder where
  | ascending
  | descending
deriving DecidableEq, Repr, Inhabited

/-- The name of a direction in a query. -/
def SortOrder.name : SortOrder → String
  | .ascending => "ASC"
  | .descending => "DESC"

/-- The field and the direction of a sort. -/
structure SortKey where
  field : String := "id"
  order : SortOrder := .ascending
deriving DecidableEq, Repr, Inhabited

/-- A click on another column sorts it upwards. A click on the sorted column turns it round. -/
def SortKey.toggled (sort : SortKey) (field : String) : SortKey :=
  if sort.field = field ∧ sort.order = .ascending then ⟨field, .descending⟩
  else ⟨field, .ascending⟩

/-- The mark in the header of a column: an arrow on the sorted one. -/
def SortKey.marker (sort : SortKey) (field : String) : String :=
  if sort.field = field then
    match sort.order with
    | .ascending => " \u25b2"
    | .descending => " \u25bc"
  else ""

/-- The parameters of a list request. -/
structure ListRequest where
  sort : SortKey := {}
  /-- The first and the last record. Without a range the request asks for all. -/
  range : Option (Nat × Nat) := none
deriving DecidableEq, Repr, Inhabited

/-- All records, upwards by a field. -/
def ListRequest.sortedBy (field : String) : ListRequest :=
  { sort := ⟨field, .ascending⟩ }

/-- One page of records. Pages count from one, and page zero is the first page. -/
def ListRequest.page (request : ListRequest) (page pageSize : Nat) : ListRequest :=
  let start := (max page 1 - 1) * pageSize
  { request with range := some (start, start + pageSize - 1) }

/-- The name and value of every parameter. The values are JSON texts. -/
def ListRequest.pairs (request : ListRequest) : List (List Char × List Char) :=
  ("sort".toList,
    printArray [quote request.sort.field.toList, quote request.sort.order.name.toList]) ::
  (match request.range with
    | some (first, last) => [("range".toList, printArray [Text.decimal first, Text.decimal last])]
    | none => []) ++
  [("filter".toList, "{}".toList)]

/-- The query of a list request, without the question mark. -/
def ListRequest.query (request : ListRequest) : String :=
  String.ofList (Text.encodePairs request.pairs)

/-- One page of a list reply. -/
structure RecordPage (α : Type) where
  records : List α
  /-- The number of records in the backend. -/
  total : Nat

/-- The total of a `Content-Range` header stands behind its last slash. -/
def contentRangeTotal? (header : String) : Option Nat :=
  (Text.afterLast? '/' header.toList).bind fun total =>
    Text.readNatural? 10 UInt64.size (Text.trim total)

/-- The number of pages that hold all records, at least one. -/
def pageCount (total pageSize : Nat) : Nat :=
  let size := max pageSize 1
  max ((total + size - 1) / size) 1

end MeshConsole
