import SqlQuery.Execution.Read
import SqlQuery.Statement.Write
import SqlQuery.Value.Negation

/-!
Changing the rows of a query's table.

Statements that change rows go straight to the executor. What the cache holds stays as it is.
-/

namespace SqlQuery.Engine

open Effect Run

variable {σ : Type}

/-- Runs a statement that was made without fault. -/
def perform (e : Engine σ) (s : Result Statement) (action : String) : Run σ ExecResult := do
  e.run (← ofResult s) action

/-- Runs a statement that was made without fault and answers how many rows changed, as the executor
reports it. -/
def change (e : Engine σ) (s : Result Statement) (action : String) : Run σ Value := do
  return (← e.perform s action).rowsAffected

/-! ## Inserting rows -/

def insert (e : Engine σ) (q : Query) (values : Row) : Run σ ExecResult :=
  e.perform (Statement.insert e.dialect q.table values) "insert"

/-- Runs an INSERT and answers the key of its row: what `read` finds in the row that the statement
returns where the dialect has that, else the key that the executor reports. -/
def insertReturning (e : Engine σ) (s : Result Statement) (read : Row → Result Value) :
    Run σ Value := do
  let s ← ofResult s
  if e.dialect.supportsReturning then
    match ← e.fetchOne s "insert" with
    | some row => ofResult (read row)
    | none => return .null
  else return (← e.run s "insert").lastInsertId

def insertGetId (e : Engine σ) (q : Query) (values : Row) (key : String) : Run σ Value :=
  e.insertReturning (Statement.insert e.dialect q.table values key) fun row => .ok (row.get key)

def insertBatch (e : Engine σ) (q : Query) (rows : List Row) : Run σ ExecResult :=
  e.perform (Statement.insertBatch e.dialect q.table rows) "insert batch"

def upsert (e : Engine σ) (q : Query) (rows : List Row) (target : List String)
    (overwrite : Option (List String)) (action : ConflictAction) : Run σ ExecResult :=
  e.perform (Statement.upsert e.dialect q.table rows target overwrite action) "upsert"

def insertOrIgnore (e : Engine σ) (q : Query) (rows : List Row) : Run σ ExecResult :=
  e.perform (Statement.insertOrIgnore e.dialect q.table rows) "insert or ignore"

def replace (e : Engine σ) (q : Query) (rows : List Row) : Run σ ExecResult :=
  e.perform (Statement.replace e.dialect q.table rows) "replace"

/-! ## Changing and deleting rows -/

def update (e : Engine σ) (q : Query) (values : Row) : Run σ Value :=
  e.change (Statement.update e.dialect q values) "update"

def delete (e : Engine σ) (q : Query) : Run σ Value :=
  e.change (Statement.delete e.dialect q) "delete"

def increment (e : Engine σ) (q : Query) (column : String) (amount : Value) (extra : Row) :
    Run σ Value :=
  e.change (Statement.increment e.dialect q column amount extra) "increment"

/-- Adds the opposite of an amount to a column. -/
def decrement (e : Engine σ) (q : Query) (column : String) (amount : Value) (extra : Row) :
    Run σ Value := do
  let amount ← ofResult amount.negate
  e.change (Statement.increment e.dialect q column amount extra) "decrement"

def jsonUpdate (e : Engine σ) (q : Query) (column path : String) (v : Value) : Run σ Value :=
  e.change (Statement.jsonUpdate e.dialect q column path v) "json update"

def jsonRemove (e : Engine σ) (q : Query) (column path : String) : Run σ Value :=
  e.change (Statement.jsonRemove e.dialect q column path) "json remove"

/-! ## Changing rows that are there, or else inserting one -/

/-- Sets the values on the rows with the attributes, if there is one, and otherwise inserts a row with
attributes and values. Answers whether it inserted. -/
def updateOrInsert (e : Engine σ) (q : Query) (attributes values : Row) : Run σ Bool := do
  let matched ← ofResult (q.matching attributes)
  match ← e.first matched with
  | some _ =>
    if !values.isEmpty then
      let _ ← e.update matched values
    return false
  | none =>
    let _ ← e.insert q (attributes.update values)
    return true

/-- Sets the values on the rows with the attributes, if there is one, and otherwise inserts a row with
attributes and values. Answers the row: the first that was found, as it is now, or the inserted. -/
def updateOrCreate (e : Engine σ) (q : Query) (attributes values : Row) : Run σ Row := do
  let matched ← ofResult (q.matching attributes)
  match ← e.first matched with
  | some row =>
    if !values.isEmpty then
      let _ ← e.update matched values
    return row.update values
  | none =>
    let created := attributes.update values
    let _ ← e.insert q created
    return created

end SqlQuery.Engine
