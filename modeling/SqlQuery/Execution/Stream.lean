import SqlQuery.Execution.Engine

/-!
Streams: the rows of one execution, one at a time.

A stream runs nothing until its first row is asked for. From then on it holds an execution slot,
which it gives back when there are no more rows, when it fails, or when it is closed. Streams are
not logged.
-/

namespace SqlQuery

/-- How far a stream has come. -/
inductive Stream where
  | waiting (s : Statement)
  /-- A slot is held. `index` rows were read before. -/
  | reading (index : Nat) (rest : Reading)
  | finished
  deriving Repr

namespace Stream

open Effect Run

variable {σ : Type}

/-- Runs the statement of a stream. The slot is kept unless that fails. -/
def start (e : Engine σ) (s : Statement) : Run σ Reading := do
  observe s
  takeSlot e.wait
  match ← attempt (outside (e.statements.query s.sql s.bindings)) with
  | .ok rows => return rows
  | .error err =>
    giveSlot
    throw (Engine.failureOf s "cursor" err)

/-- The next row of a reading under way, and what is left of it. -/
def read (index : Nat) (rest : Reading) : Run σ (Option Row × Stream) :=
  match rest.rows, rest.failure with
  | row :: rows, failure => return (some row.normalize, reading (index + 1) ⟨rows, failure⟩)
  | [], none => do
    giveSlot
    return (none, finished)
  | [], some cause => do
    giveSlot
    throw (.rowRead index cause)

/-- The next row and what is left of the stream. -/
def pull (e : Engine σ) : Stream → Run σ (Option Row × Stream)
  | waiting s => do read 0 (← start e s)
  | reading index rest => read index rest
  | finished => return (none, finished)

/-- Ends a stream before its last row. -/
def close : Stream → Run σ Unit
  | reading .. => giveSlot
  | waiting _ | finished => return

end Stream

end SqlQuery
