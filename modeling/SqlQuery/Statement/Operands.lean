import SqlQuery.Argument.Operand
import SqlQuery.Statement.Write

/-!
Statements that change rows, from operands of any type.

Rows are gone through twice, first for their columns and then for their values, so an operand that
can be gone through once has no values left for the second time. A row that is no mapping fails
when it is asked for a value, after its parts were taken for columns.
-/

namespace SqlQuery

open Argument

/-- The columns of rows, each once, in the order in which they first occur. -/
def Argument.columnsOf (rows : List Argument) : Result (List String) :=
  rows.foldlM (fun columns row => do
    return (← row.parts).foldl (fun columns c =>
      if columns.contains c.shown then columns else columns ++ [c.shown]) columns) []

/-- The values of a row, which is asked for each of the columns. -/
def Argument.valuesOf (columns : List String) (row : Argument) : Result (List Value) :=
  match columns, row with
  | [], _ => .ok []
  | columns, .mapping entries => .ok (columns.map (Row.get (toEntries entries)))
  | columns, .value (.mapping entries) => .ok (columns.map (Row.get entries))
  | _, row => .error (row.lacks "get")

namespace Insertion

/-- Rows that can be gone through once. Those up to the first that is not empty go for finding out
whether there is one, and the others for their columns. -/
def ofStream (action : String) (rows : List Argument) : Result Insertion :=
  match rows.dropWhile (!·.isTruthy) with
  | [] => reject (.emptyValues action)
  | _ :: rest => do return { columns := ← columnsOf rest, rows := .ok [] }

/-- Rows of any type. One of them at least must not be empty. -/
def ofItems (action : String) (rows : List Argument) : Result Insertion :=
  if rows.any (·.isTruthy) then do
    let columns ← columnsOf rows
    return { columns, rows := rows.mapM (valuesOf columns) }
  else reject (.emptyValues action)

/-- An operand as the rows to insert. -/
def ofArgument (action : String) (a : Argument) : Result Insertion :=
  match a with
  | .stream rows => ofStream action rows
  | a => if a.isTruthy then do ofItems action (← a.parts) else reject (.emptyValues action)

end Insertion

namespace Argument

/-- What is left of an operand after it has been gone through. -/
def spent : Argument → Argument
  | stream _ => stream []
  | a => a

/-- The name that an operand gives, if any. -/
def name? (a : Argument) : Option String :=
  if a.isTruthy then some a.shown else none

/-- The parts of an operand, unless it is null. -/
def partsOrNull : Argument → Result (Option (List Argument))
  | value .null => .ok none
  | a => some <$> a.parts

end Argument

/-- What an upsert does on a conflict. The columns of a target that is listed must be texts. -/
def ConflictRule.ofArguments (d : Dialect) (target overwrite : Argument) (action : ConflictAction)
    (columns : List String) : Result ConflictRule := do
  let target ← target.parts
  let overwrite ← overwrite.partsOrNull
  let target ← if d.listsTarget then textsFrom 0 target else .ok (target.map Argument.shown)
  return { columns, target, overwrite := overwrite.map (·.map Argument.shown), action }

namespace Statement

/-- What an upsert does on a conflict: it overwrites unless it is told not to by the word itself. -/
def actionOf : Argument → ConflictAction
  | .word (.conflict action) => action
  | _ => .doUpdate

def insertFrom (d : Dialect) (table : Option String) (row : Argument)
    (returning : Option String := none) : Result Statement :=
  if row.isTruthy then insertOf d table (Insertion.ofItems "insert" [row]) returning
  else reject (.emptyValues "insert")

def insertBatchFrom (d : Dialect) (table : Option String) (rows : Argument)
    (returning : Option String := none) : Result Statement :=
  insertOf d table (Insertion.ofArgument "insert" rows) returning

/-- Inserts rows, or overwrites columns of those that are there already. -/
def upsertFrom (d : Dialect) (table : Option String) (rows target overwrite : Argument)
    (action : ConflictAction) : Result Statement :=
  upsertOf d table ((Insertion.ofArgument "upsert" rows).map Insertion.columns)
    (ConflictRule.ofArguments d target overwrite action) (Insertion.ofArgument "upsert" rows.spent)

/-- Inserts rows and passes over those that are there already. -/
def insertOrIgnoreFrom (d : Dialect) (table : Option String) (rows : Argument) :
    Result Statement :=
  insertOrIgnoreOf d table (Insertion.ofArgument "insert" rows)

/-- Inserts rows in place of those that are there already. -/
def replaceFrom (d : Dialect) (table : Option String) (rows : Argument) : Result Statement :=
  replaceOf d table (Insertion.ofArgument "replace" rows)

end Statement

end SqlQuery
