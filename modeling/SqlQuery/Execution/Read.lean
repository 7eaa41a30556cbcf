import SqlQuery.Collection
import SqlQuery.Execution.Engine
import SqlQuery.Query.Derived
import SqlQuery.Result.Aggregate

/-!
Reading the rows of a query: all of them, the first, one column, or an aggregate.
-/

namespace SqlQuery.Engine

open Effect Run

variable {σ : Type}

def get (e : Engine σ) (q : Query) : Run σ Collection := do
  return ⟨← e.fetchCached (← ofResult (Statement.select e.dialect q))⟩

def first (e : Engine σ) (q : Query) : Run σ (Option Row) := do
  return (← e.get q.firstOnly).first

/-- A row that must be there. -/
def found (table : Option String) (key : Value) (row : Option Row) : Result Row :=
  match row with
  | some row => .ok row
  | none => .error (.notFound table key)

/-- The first row of a query, which must have one. -/
def firstOrFail (e : Engine σ) (q : Query) : Run σ Row := do
  ofResult (found q.table .null (← e.first q))

/-- The row with a key, which must be there. -/
def find (e : Engine σ) (q : Query) (v : Value) (key : String) : Run σ Row := do
  ofResult (found q.table v (← e.first (← ofResult (q.withKey key v))))

def pluck (e : Engine σ) (q : Query) (column : String) : Run σ (List Value) := do
  return (← e.get (← ofResult (q.column column))).pluck (resultName column)

/-- One column of the first row, null if there is none. -/
def value (e : Engine σ) (q : Query) (column : ColumnName) : Run σ Value := do
  match ← e.first (← ofResult (q.column column.text)) with
  | some row => return row.get (← ofResult column.key)
  | none => return .null

def exists? (e : Engine σ) (q : Query) : Run σ Bool := do
  return (← e.first q.presence).isSome

def aggregate (e : Engine σ) (q : Query) (fn : Aggregate) (column : ColumnName) :
    Run σ Value := do
  let s ← ofResult (q.aggregateStatement e.dialect fn column)
  let rows ← e.fetch s (Text.lower fn.text)
  let raw := match rows with
    | row :: _ => row.get "aggregate"
    | [] => .null
  ofResult (normalizeAggregate fn.text raw)

/-- The aggregate function of a name in any case, which is shown if nothing has that name. -/
def aggregateNamed (name shown : String) : Result Aggregate :=
  match Aggregate.ofText? (Text.upper name) with
  | some fn => .ok fn
  | none => reject (.unknownAggregate shown)

end SqlQuery.Engine
