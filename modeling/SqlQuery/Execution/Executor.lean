import SqlQuery.Effect

/-!
Executors: what runs statements.

An executor works on a state of its own, `σ`, of which nothing is known here: a database, a
connection, a script.
-/

namespace SqlQuery

/-- What an executor reports of a statement that answers no rows. -/
structure ExecResult where
  /-- The number of rows that changed, minus one if it is not known. It is passed on as it is
  reported. -/
  rowsAffected : Value
  /-- The key that was generated for the last row. -/
  lastInsertId : Value := .null
  deriving Repr

/-- The rows of a statement, one after the other, and why there are no more of them if reading
breaks off. -/
structure Reading where
  rows : List Row
  failure : Option Error := none
  deriving Repr

/-- The three ways to run a statement. -/
structure Statements (σ : Type) where
  query : String → List Value → Effect σ Reading
  queryOne : String → List Value → Effect σ (Option Row)
  execute : String → List Value → Effect σ ExecResult

/-- An open transaction. -/
structure Transaction (σ : Type) where
  statements : Statements σ
  commit : Effect σ Unit
  rollback : Effect σ Unit

/-- What an executor does when it is asked for a transaction. -/
inductive Opening (σ : Type) where
  /-- It is an open transaction itself. -/
  | isOpen
  /-- It knows no transactions. The name is that of its type. -/
  | unsupported (executor : String)
  | opens (start : Effect σ (Transaction σ))

/-- What runs statements. -/
structure Executor (σ : Type) where
  statements : Statements σ
  opening : Opening σ

/-- Runs a block inside a transaction. The transaction is committed if the block comes to its end,
and rolled back if the block fails; a failure to do either takes the place of the block's result. -/
def Opening.transaction {σ : Type} {m : Type → Type} [Monad m] [MonadExceptOf Error m]
    {α : Type} (opening : Opening σ) (lift : {β : Type} → Effect σ β → m β)
    (block : Transaction σ → m α) : m α := do
  match opening with
  | .isOpen => throw (Error.transaction .nested)
  | .unsupported executor => throw (Error.transaction (.unsupported executor))
  | .opens start =>
    let tx ← lift start
    let result ← tryCatch (block tx) fun e => do
      lift tx.rollback
      throw e
    lift tx.commit
    return result

end SqlQuery
