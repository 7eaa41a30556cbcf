import SqlQuery.Clause.Parts
import SqlQuery.Result.Column
import SqlQuery.Statement.Select

/-!
Queries made from other queries: with a bound on the rows, for one column, for a page, or for the
rows after a cursor. What a derived query does not say is as in the query it comes from.
-/

namespace SqlQuery

def Filter.comparing (column : String) (c : Comparison) (v : Value) : Result Filter :=
  FilterParts.check
    { kind := .basic, column := some column, operator := some (.compare c), value := v }

def SelectItem.named (column : String) : Result SelectItem :=
  KeyParts.selectItem { column := some column }

def OrderKey.ascending (column : String) : Result OrderKey :=
  KeyParts.orderKey { column := some column }

namespace Query

/-- The first row only. -/
def firstOnly (q : Query) : Query :=
  { q with limit := some 1 }

def selecting (q : Query) (item : SelectItem) : Query :=
  { q with selects := [item], selectValues := [] }

/-- One column in place of the select list. -/
def column (q : Query) (column : String) : Result Query := do
  return q.selecting (← SelectItem.named column)

/-- A constant for every row, in no order. -/
def presence (q : Query) : Query :=
  { q.selecting (.raw "1 AS present" none) with orders := [] }

def withKey (q : Query) (key : String) (v : Value) : Result Query := do
  return q.addFilter (← Filter.comparing key .eq v)

def matching (q : Query) (attributes : Row) : Result Query :=
  attributes.foldlM (fun q (column, v) => q.withKey column v) q

/-! ## Aggregates -/

/-- All rows, whatever page of them is asked for. -/
def unbounded (q : Query) : Query :=
  { q with limit := none, offset := none, orders := [] }

/-- Whether the rows of a query can be counted only after they are made. -/
def isCompound (q : Query) : Bool :=
  !q.groups.isEmpty || q.distinct || !q.unions.isEmpty

/-- The statement of an aggregate over the rows of a query. A compound query becomes a table of its
own. -/
def aggregateStatement (d : Dialect) (q : Query) (fn : Aggregate) (column : ColumnName) :
    Result Statement := do
  let q := { q.unbounded with lock := none }
  if q.isCompound then
    let inner ← Statement.select d q
    let outer ← if column.shown == "*" then .ok "*" else column.key
    return { inner with
      sql := "SELECT " ++ fn.text ++ "(" ++ outer ++ ") AS aggregate FROM (" ++ inner.sql
        ++ ") AS aggregate_table" }
  else
    Statement.select d
      (q.selecting (.raw (fn.text ++ "(" ++ column.shown ++ ") AS aggregate") none))

/-! ## Pages -/

/-- The query whose rows are counted for a page. Its select list is dropped unless it decides which
rows there are. -/
def counting (q : Query) : Query :=
  let q := q.unbounded
  if q.groups.isEmpty && !q.distinct then { q with selects := [], selectValues := [] } else q

def rows (q : Query) (offset count : Nat) : Query :=
  { q with limit := some count, offset := some offset }

/-- The filters with no OR among them: those joined by OR are put in parentheses. -/
def isolated (filters : List Filter) : List Filter :=
  if filters.any (·.connective == .or) then [Filter.of (.group filters)] else filters

/-- A number of rows whose column is greater than a cursor, in the order of the column. Null is
the cursor before the first row. -/
def afterCursor (q : Query) (column : ColumnName) (cursor : Value) (count : Nat) :
    Result Query := do
  let order ← OrderKey.ascending column.text
  let q := { q with orders := [order], limit := some count, offset := none }
  match cursor with
  | .null => return q
  | v => return { q with filters := isolated q.filters ++ [← Filter.comparing column.text .gt v] }

end Query

end SqlQuery
