import SqlQuery.Execution.Executor
import SqlQuery.Layer.Cache
import SqlQuery.Layer.Limiter
import SqlQuery.Layer.QueryLog
import SqlQuery.Result.Column
import SqlQuery.Statement

/-!
The engine hands statements to an executor and takes their rows.

Around every execution there may be layers: a cache that answers a read before the executor is
asked, a limit on how many statements run at once, and a log. They belong to the `World`, beside
the executor's own state, and every engine that works in that world shares them. A layer that is
absent is passed over.

A read is all or nothing: if any row cannot be read, none is answered. A slot is given back however
the execution ends. Failures of the executor are wrapped and logged; errors of the library's own
pass through as they are.
-/

namespace SqlQuery

open Number

/-- What engines work in: the executor's state and the layers around it. -/
structure World (σ : Type) where
  outside : σ
  cache : Option (Cache Quantity) := none
  limiter : Option Limiter := none
  log : Option QueryLog := none
  /-- The statement that was last run or answered from the cache. -/
  observed : Option Statement := none

/-- A computation in a world. -/
abbrev Run (σ α : Type) := Effect (World σ) α

namespace Run

open Effect

variable {σ α : Type}

/-- An action of the executor. -/
def outside (x : Effect σ α) : Run σ α :=
  x.onPart World.outside fun outside w => { w with outside }

/-- Notes a statement as the one that was last handed on. -/
def observe (s : Statement) : Run σ Unit :=
  modify fun w => { w with observed := some s }

/-- Adds an execution to the log. Durations are not measured. -/
def record (s : Statement) (error : Option Error) : Run σ Unit :=
  modify fun w => { w with
    log := w.log.map fun log => log.recordExecution s.sql s.bindings (.zero false) error }

/-- Takes an execution slot. -/
def takeSlot (wait : Wait) : Run σ Unit := do
  let w ← get
  match w.limiter with
  | none => return
  | some limiter => set { w with limiter := some (← ofResult (limiter.acquire wait)) }

/-- Gives an execution slot back. -/
def giveSlot : Run σ Unit := do
  let w ← get
  match w.limiter with
  | none => return
  | some limiter =>
    let (limiter, outcome) := limiter.release
    set { w with limiter := some limiter }
    ofResult outcome

/-- Holds an execution slot for as long as the body runs. -/
def withSlot (wait : Wait) (body : Run σ α) : Run σ α := do
  takeSlot wait
  body.andThen giveSlot

end Run

/-- The rows of a reading as they are answered, all or none. -/
def Reading.materialize (r : Reading) : Result (List Row) :=
  match r.failure with
  | none => .ok (r.rows.map Row.normalize)
  | some cause => .error (.rowRead r.rows.length cause)

/-- What runs the statements of a query: a dialect and an executor, with options for each call. -/
structure Engine (σ : Type) where
  dialect : Dialect
  statements : Statements σ
  /-- Whether reads are answered from the cache of the world. -/
  caching : Bool := true
  /-- How to wait for an execution slot. -/
  wait : Wait := {}
  /-- The time, as far as the cache is concerned. -/
  clock : σ → Quantity := fun _ => .int 0

namespace Engine

open Effect Run

variable {σ α : Type}

/-- The failure of a statement as it is reported. -/
def failureOf (s : Statement) (action : String) (e : Error) : Error :=
  if e.isOwn then e else .execution action s.sql s.bindings e

/-- Whether the failure of a statement is logged. -/
def isLogged (e : Error) : Bool :=
  e.isRowFailure || !e.isOwn

/-- Runs a statement in a slot and logs it. -/
def timed (e : Engine σ) (s : Statement) (action : String) (call : Effect σ α) : Run σ α := do
  observe s
  withSlot e.wait do
    match ← attempt (outside call) with
    | .ok x =>
      record s none
      return x
    | .error err =>
      if isLogged err then record s (some err)
      throw (failureOf s action err)

/-- The rows of a statement. -/
def fetch (e : Engine σ) (s : Statement) (action : String) : Run σ (List Row) :=
  e.timed s action do
    match (← e.statements.query s.sql s.bindings).materialize with
    | .ok rows => return rows
    | .error err => throw err

/-- The first row of a statement. -/
def fetchOne (e : Engine σ) (s : Statement) (action : String) : Run σ (Option Row) :=
  e.timed s action do
    return (← e.statements.queryOne s.sql s.bindings).map Row.normalize

/-- Runs a statement that answers no rows. -/
def run (e : Engine σ) (s : Statement) (action : String) : Run σ ExecResult :=
  e.timed s action (e.statements.execute s.sql s.bindings)

/-! ## Reads through the cache -/

/-- The rows that the cache holds for a statement. -/
def lookup (e : Engine σ) (s : Statement) : Run σ (Option (List Row)) := do
  let w ← get
  match e.caching, w.cache with
  | true, some cache =>
    let (rows, cache) := cache.get (e.clock w.outside) s.sql s.bindings
    set { w with cache := some cache }
    return rows
  | _, _ => return none

/-- Keeps the rows of a statement in the cache. -/
def store (e : Engine σ) (s : Statement) (rows : List Row) : Run σ Unit :=
  modify fun w =>
    if e.caching then
      { w with cache := w.cache.map fun c => c.set (e.clock w.outside) s.sql s.bindings rows }
    else w

/-- The rows of a statement, from the cache if they are fresh there. -/
def fetchCached (e : Engine σ) (s : Statement) : Run σ (List Row) := do
  match ← e.lookup s with
  | some rows =>
    observe s
    return rows
  | none =>
    let rows ← e.fetch s "select"
    e.store s rows
    return rows

end Engine

end SqlQuery
