import SqlQuery.Adapter.Driver

/-!
An executor over a pool of connections.

A read borrows a connection for as long as it takes. A write runs in a block of its own, which is
committed if the write succeeds and rolled back if it fails. A transaction keeps one connection,
which is given back however the transaction ends.
-/

namespace SqlQuery

/-- The driver of a pool. `blockBegin`, `blockCommit` and `blockRollback` frame a write outside
transactions. -/
structure PoolDriver (δ : Type) where
  connect : Effect δ Unit
  close : Effect δ Unit
  execute : String → List Value → Effect δ (Executed δ)
  begin : Effect δ Unit
  commit : Effect δ Unit
  rollback : Effect δ Unit
  blockBegin : Effect δ Unit
  blockCommit : Effect δ Unit
  blockRollback : Effect δ Unit

namespace Pool

open Effect

variable {δ : Type}

def connected (d : PoolDriver δ) : Statements δ where
  query sql bindings := do
    let x ← d.execute sql bindings
    return { rows := ← (← x.readAll x.fetches).toEffect }
  queryOne sql bindings := do
    (← d.execute sql bindings).readFirst
  execute sql bindings := do
    return (← d.execute sql bindings).result

def borrowing (d : PoolDriver δ) (x : Effect δ α) : Effect δ α := do
  d.connect
  x.andThen d.close

/-- An action in a block of its own. -/
def inBlock (d : PoolDriver δ) (x : Effect δ α) : Effect δ α := do
  d.blockBegin
  match ← attempt x with
  | .ok result =>
    d.blockCommit
    return result
  | .error e =>
    d.blockRollback
    throw e

def statements (d : PoolDriver δ) : Statements δ where
  query sql bindings := borrowing d ((connected d).query sql bindings)
  queryOne sql bindings := borrowing d ((connected d).queryOne sql bindings)
  execute sql bindings := inBlock d ((connected d).execute sql bindings)

def executor (d : PoolDriver δ) : Executor δ where
  statements := statements d
  opening := .opens do
    d.connect
    d.begin
    return {
      statements := connected d
      commit := d.commit.andThen d.close
      rollback := d.rollback.andThen d.close }

end Pool

end SqlQuery
