import SqlQuery.Clause.Make
import SqlQuery.Script.Form
import SqlQuery.Statement.Operands

/-!
Functions by name that make a statement in a dialect.
-/

namespace SqlQuery.Statement

open Argument

/-- A query of a statement, which is asked for its table first. -/
def queryOf : Argument → Result Query
  | .query q => .ok q
  | a => .error (a.lacks "table")

/-- The values of an UPDATE, of which there must be one. -/
def valuesToSet (a : Argument) : Result Row := do
  let values ← a.rowOrLacks
  if values.isEmpty then reject (.emptyValues "update")
  return values

def rowsForm (d : Dialect) (make : Dialect → Option String → Argument → Result Statement) :
    Form Statement :=
  .of ["table", "rows"] fun a => make d (a 0).name? (a 1)

def forms (d : Dialect) : List (String × Form Statement) :=
  [("compile_select", .of ["state"] fun a => do select d (← queryOf (a 0))),
   ("compile_insert", .of ["table", "values", "returning"] fun a =>
     insertFrom d (a 0).name? (a 1) (a 2).name?),
   ("compile_insert_batch", .of ["table", "rows", "returning"] fun a =>
     insertBatchFrom d (a 0).name? (a 1) (a 2).name?),
   ("compile_upsert",
     ⟨paramsOf ["table", "rows"] ++ [⟨"conflict_target", some (.tuple [])⟩]
        ++ paramsOf ["update_columns"] ++ [⟨"action", some (.word (.conflict .doUpdate))⟩],
      fun a => upsertFrom d (a 0).name? (a 1) (a 2) (a 3) (actionOf (a 4))⟩),
   ("compile_insert_or_ignore", rowsForm d insertOrIgnoreFrom),
   ("compile_replace", rowsForm d replaceFrom),
   ("compile_update", .of ["state", "values"] fun a => do
     let values ← valuesToSet (a 1)
     update d (← queryOf (a 0)) values),
   ("compile_increment", .of ["state", "column", "amount", "extra"] fun a => do
     let extra ← (a 3).rowOrLacks
     increment d (← queryOf (a 0)) (a 1).shown (a 2).toValue extra),
   ("compile_json_update", .of ["state", "column", "path", "value"] fun a => do
     jsonUpdateAt d (← queryOf (a 0)) (a 1).shown (pathText (a 2)) (a 3).toValue),
   ("compile_json_remove", .of ["state", "column", "path"] fun a => do
     jsonRemoveAt d (← queryOf (a 0)) (a 1).shown (pathText (a 2))),
   ("compile_delete", .of ["state"] fun a => do delete d (← queryOf (a 0)))]

end SqlQuery.Statement
