import SqlQuery.Adapter.Driver

/-!
An executor over one connection.

Every statement has a cursor of its own, which is closed however the statement ends. Outside a
transaction each write is committed, if the connection is to do so. There is one transaction at a
time: while it is open no other can begin, and it can be finished once.
-/

namespace SqlQuery

/-- The driver of a connection. -/
structure CursorDriver (δ : Type) where
  openCursor : Effect δ Unit
  closeCursor : Effect δ Unit
  execute : String → List Value → Effect δ (Executed δ)
  commit : Effect δ Unit
  rollback : Effect δ Unit

/-- A connection: its driver's state, whether a transaction is open, and for every transaction that
was begun whether it is finished. -/
structure Connection (δ : Type) where
  driver : δ
  inTransaction : Bool := false
  finished : List Bool := []

namespace Connection

open Effect

variable {δ α : Type}

def call (x : Effect δ α) : Effect (Connection δ) α :=
  x.onPart Connection.driver fun driver c => { c with driver }

/-- Executes a statement with a cursor, which is closed if that fails. -/
def openStatement (d : CursorDriver δ) (sql : String) (bindings : List Value) :
    Effect δ (Executed δ) := do
  d.openCursor
  match ← attempt (d.execute sql bindings) with
  | .ok x => return x
  | .error e =>
    d.closeCursor
    throw e

/-- Executes a statement, does something with it, and closes its cursor. -/
def withStatement (d : CursorDriver δ) (sql : String) (bindings : List Value)
    (use : Executed δ → Effect δ α) : Effect (Connection δ) α :=
  call do
    let x ← openStatement d sql bindings
    (use x).andThen d.closeCursor

def query (d : CursorDriver δ) (sql : String) (bindings : List Value) :
    Effect (Connection δ) Reading :=
  withStatement d sql bindings fun x => x.readAll x.fetches

/-- The first rows of a statement. If none is wanted, its cursor is not even closed. -/
def queryFirst (d : CursorDriver δ) (count : Nat) (sql : String) (bindings : List Value) :
    Effect (Connection δ) (List Row) :=
  if count = 0 then
    call do
      let _ ← openStatement d sql bindings
      return []
  else withStatement d sql bindings fun x => x.readSome count x.fetches

def queryOne (d : CursorDriver δ) (sql : String) (bindings : List Value) :
    Effect (Connection δ) (Option Row) :=
  withStatement d sql bindings Executed.readFirst

/-- Executes a statement for its effect, and commits it if that is wanted and no transaction is
open. -/
def execute (d : CursorDriver δ) (autocommit : Bool) (sql : String) (bindings : List Value) :
    Effect (Connection δ) ExecResult := do
  let result ← withStatement d sql bindings fun x => return x.result
  if autocommit && !(← get).inTransaction then call d.commit
  return result

def statements (d : CursorDriver δ) (autocommit : Bool) : Statements (Connection δ) where
  query := query d
  queryOne := queryOne d
  execute := execute d autocommit

/-- Finishes the transaction of a number with a call of the driver. It is finished even if the call
fails. -/
def finish (i : Nat) (ending : Effect δ Unit) : Effect (Connection δ) Unit := do
  if ((← get).finished[i]?).getD true then throw (.transaction .alreadyFinished)
  modify fun c => { c with finished := c.finished.set i true }
  (call ending).andThen (modify fun c => { c with inTransaction := false })

def begin (d : CursorDriver δ) (autocommit : Bool) :
    Effect (Connection δ) (Transaction (Connection δ)) := do
  let c ← get
  if c.inTransaction then throw (.transaction .alreadyOpen)
  set { c with inTransaction := true, finished := c.finished ++ [false] }
  return {
    statements := statements d autocommit
    commit := finish c.finished.length d.commit
    rollback := finish c.finished.length d.rollback }

def executor (d : CursorDriver δ) (autocommit : Bool) : Executor (Connection δ) where
  statements := statements d autocommit
  opening := .opens (begin d autocommit)

end Connection

end SqlQuery
