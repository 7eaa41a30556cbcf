import SqlQuery.Execution.Executor

/-!
What adapters need of a database driver.

A driver works on a state of its own, `δ`, and every call of it may fail. Executing a statement
gives its rows as calls that fetch them, so a row costs nothing until it is wanted.
-/

namespace SqlQuery

/-- A statement that a driver executed. -/
structure Executed (δ : Type) where
  /-- The columns of its rows; none if it has no rows. -/
  columns : List String := []
  /-- The calls that fetch the rows, in order. -/
  fetches : List (Effect δ (List Value)) := []
  /-- The call that finds no further row. -/
  fetchEnd : Effect δ Unit := return
  rowCount : Value := .int (-1)
  lastRowId : Value := .null

namespace Executed

open Effect

variable {δ : Type}

/-- A row by its columns. Values and columns that have no counterpart are left out. -/
def rowOf (x : Executed δ) (values : List Value) : Row :=
  Row.ofEntries (x.columns.zip values)

/-- Fetches rows to the end or to the first that cannot be fetched. -/
def readAll (x : Executed δ) : List (Effect δ (List Value)) → Effect δ Reading
  | [] => do
    match ← attempt x.fetchEnd with
    | .ok () => return { rows := [] }
    | .error e => return { rows := [], failure := some e }
  | fetch :: rest => do
    match ← attempt fetch with
    | .ok values =>
      let reading ← readAll x rest
      return { reading with rows := x.rowOf values :: reading.rows }
    | .error e => return { rows := [], failure := some e }

/-- Fetches rows, no more than `count` of them. -/
def readSome (x : Executed δ) : Nat → List (Effect δ (List Value)) → Effect δ (List Row)
  | 0, _ => return []
  | _ + 1, [] => do
    x.fetchEnd
    return []
  | count + 1, fetch :: rest => do
    let row := x.rowOf (← fetch)
    return row :: (← readSome x count rest)

def readFirst (x : Executed δ) : Effect δ (Option Row) := do
  match x.fetches with
  | [] =>
    x.fetchEnd
    return none
  | fetch :: _ => return some (x.rowOf (← fetch))

/-- The summary of a statement that was executed for its effect. -/
def result (x : Executed δ) : ExecResult where
  rowsAffected := x.rowCount
  lastInsertId := x.lastRowId

end Executed

/-- The rows of a reading, if there is no failure after them. -/
def Reading.toEffect {σ : Type} (r : Reading) : Effect σ (List Row) := do
  match r.failure with
  | some e => throw e
  | none => return r.rows

end SqlQuery
