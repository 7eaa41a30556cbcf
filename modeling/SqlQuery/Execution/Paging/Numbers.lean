import SqlQuery.Execution.Paging
import SqlQuery.Query.Edit

/-!
Pages that are asked for by numbers of any kind.

The limit is read before the offset is worked out, and both before the query is run. Only when the
rows are there does a page size have to be an integer, for it says how many of them are shown.
-/

namespace SqlQuery

open Argument

/-- Which page is wanted. Both numbers are at least one. -/
structure PageNumbers where
  page : Argument
  perPage : Argument

namespace PageNumbers

/-- A number for a page or its size, unless it is below one. -/
def atLeastOne? (a : Argument) : Result (Option Argument) := do
  return if ← a.isBelow (ofInt 1) then none else some a

/-- The number of rows before the page. -/
def offset (n : PageNumbers) : Result Argument := do
  (← n.page.minus (ofInt 1)).multiply n.perPage

/-- One row more than the page shows. -/
def oneMore (perPage : Argument) : Result Argument :=
  perPage.plus (ofInt 1)

/-- How many rows a page shows. -/
def size (perPage : Argument) : Result Int :=
  match perPage.numeral? with
  | some (.int n) => .ok n
  | _ => .error (.foreign .type
      "slice indices must be integers or None or have an __index__ method")

end PageNumbers

/-- A number of rows. -/
def Query.limitedTo (q : Query) (count : Argument) : Result Query :=
  Edit.assign "limit" count q

/-- A number of rows from a number of rows on. -/
def Query.rowsOf (q : Query) (offset : Result Argument) (count : Argument) : Result Query := do
  let q ← q.limitedTo count
  Edit.assign "offset" (← offset) q

namespace Engine

open Effect Run PageNumbers

variable {σ : Type}

/-- A page with the number of all rows. -/
def paginateOf (e : Engine σ) (q : Query) (n : PageNumbers) : Run σ Page := do
  let total ← e.aggregate q.counting .count ("*" : String)
  let data := (← e.get (← ofResult (q.rowsOf n.offset n.perPage))).rows
  let bounds ← ofResult
    (PageBounds.countedOf n.page n.perPage (.value total) (ofInt data.length))
  return { data, bounds }

/-- A page without the number of all rows. -/
def simplePaginateOf (e : Engine σ) (q : Query) (n : PageNumbers) : Run σ Page := do
  let count ← ofResult (oneMore n.perPage)
  let rows := (← e.get (← ofResult (q.rowsOf n.offset count))).rows
  let hasMore ← ofResult ((ofInt rows.length).isAbove n.perPage)
  let data := rows.take (← ofResult (size n.perPage)).toNat
  let bounds ← ofResult (PageBounds.uncountedOf n.page n.perPage (ofInt data.length) hasMore)
  return { data, bounds }

/-- The rows after a cursor. -/
def cursorPaginateOf (e : Engine σ) (q : Query) (perPage : Argument) (cursor : Value)
    (column : ColumnName) : Run σ CursorPage := do
  let count ← ofResult (oneMore perPage)
  let _ ← ofResult (OrderKey.ascending column.text)
  let limit := (← ofResult (q.limitedTo count)).limit.getD 0
  let rows := (← e.get (← ofResult (q.afterCursor column cursor limit))).rows
  let hasMore ← ofResult ((ofInt rows.length).isAbove perPage)
  let perPage ← ofResult (size perPage)
  let data := rows.take perPage.toNat
  let nextCursor ← ofResult (cursorAfter data.getLast? column hasMore)
  return { data, nextCursor, hasMore, perPage }

end Engine

end SqlQuery
