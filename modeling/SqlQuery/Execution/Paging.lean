import SqlQuery.Execution.Read
import SqlQuery.Page.Numbers

/-!
Pages of a query's rows.

A counted page asks for the number of all rows first. A simple page asks for one row more than it
shows, to know whether a page follows; so does a page after a cursor.
-/

namespace SqlQuery

/-- The bounds of a page of a result whose rows were counted by an aggregate. -/
def PageBounds.ofTotal (page perPage : Int) (total : Value) (count : Nat) : Result PageBounds :=
  countedOf (.ofInt page) (.ofInt perPage) (.value total) (.ofInt count)

/-- Which page is wanted. Both numbers are at least one. -/
structure PageRequest where
  page : Nat
  perPage : Nat
  deriving Repr

namespace PageRequest

/-- A number of rows for a page: what is below one stands for the default. -/
def sizeOf (perPage : Option Int) (default : Int) : Nat :=
  match perPage with
  | some n => if n < 1 then default.toNat else n.toNat
  | none => default.toNat

/-- The page that is asked for. A page below one is the first. -/
def make (page : Int) (perPage : Option Int) (default : Int) : PageRequest where
  page := if page < 1 then 1 else page.toNat
  perPage := sizeOf perPage default

/-- The number of rows before the page. -/
def offset (r : PageRequest) : Nat :=
  (r.page - 1) * r.perPage

end PageRequest

namespace Engine

open Effect Run

variable {σ : Type}

/-- A page with the number of all rows. -/
def paginate (e : Engine σ) (q : Query) (r : PageRequest) : Run σ Page := do
  let total ← e.aggregate q.counting .count ("*" : String)
  let data := (← e.get (q.rows r.offset r.perPage)).rows
  return { data, bounds := ← ofResult (PageBounds.ofTotal r.page r.perPage total data.length) }

/-- A page without the number of all rows. -/
def simplePaginate (e : Engine σ) (q : Query) (r : PageRequest) : Run σ Page := do
  let rows := (← e.get (q.rows r.offset (r.perPage + 1))).rows
  let data := rows.take r.perPage
  let bounds ← ofResult
    (PageBounds.uncounted r.page r.perPage data.length (decide (r.perPage < rows.length)))
  return { data, bounds }

/-- The cursor for the page after one that ends with `last`. A page that is followed by another
must have one. -/
def cursorAfter (last : Option Row) (column : ColumnName) (hasMore : Bool) : Result Value :=
  match last with
  | none => .ok .null
  | some row =>
    if hasMore then cursorValue row column else do return row.get (← column.key)

/-- The rows after a cursor. -/
def cursorPaginate (e : Engine σ) (q : Query) (perPage : Nat) (cursor : Value)
    (column : ColumnName) : Run σ CursorPage := do
  let rows := (← e.get (← ofResult (q.afterCursor column cursor (perPage + 1)))).rows
  let hasMore := decide (perPage < rows.length)
  let data := rows.take perPage
  let nextCursor ← ofResult (cursorAfter data.getLast? column hasMore)
  return { data, nextCursor, hasMore, perPage }

end Engine

end SqlQuery
