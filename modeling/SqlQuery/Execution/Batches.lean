import SqlQuery.Execution.Read

/-!
All rows of a query in batches of limited size.

Batches either count the rows before them or take up after the last row of a column. They end with
one that is not full, and nothing is asked for after that. The place of a batch is worked out when
it is asked for, not before.
-/

namespace SqlQuery

/-- Where the next batch begins. -/
inductive BatchPlace where
  /-- After a number of rows. -/
  | offset (rows : Nat)
  /-- After the row with a value of a column; null is before the first row. -/
  | after (column : ColumnName) (last : Value)

namespace BatchPlace

/-- The query of a batch. Rows are counted in the order of the query, or by `id` if it has none. -/
def batch (place : BatchPlace) (q : Query) (size : Nat) : Result Query :=
  match place with
  | offset rows => do
    let orders ← if q.orders.isEmpty then (OrderKey.ascending "id").map ([·]) else .ok q.orders
    return { q with orders }.rows rows size
  | after column last => q.afterCursor column last size

/-- The place after a batch. -/
def next (place : BatchPlace) (size : Nat) (batch : List Row) : Result BatchPlace :=
  match place with
  | offset rows => .ok (offset (rows + size))
  | after column last =>
    match batch.getLast? with
    | some row => do return after column (← cursorValue row column)
    | none => .ok (after column last)

end BatchPlace

/-- Batches still to come. -/
structure Batches where
  query : Query
  size : Int
  place : BatchPlace
  /-- The batch before, if there was one. -/
  previous : Option (List Row) := none
  finished : Bool := false

namespace Batches

open Effect Run

variable {σ : Type}

/-- A batch that is not full is the last. -/
def isLast (b : Batches) (batch : List Row) : Bool :=
  decide ((batch.length : Int) < b.size)

/-- The batches without the one before the place. -/
def advance (b : Batches) : Result Batches :=
  match b.previous with
  | none => .ok b
  | some batch => do
    return { b with place := ← b.place.next b.size.toNat batch, previous := none }

/-- The next batch, which has a row at least, and what comes after it. -/
def pull (e : Engine σ) (b : Batches) : Run σ (Option (List Row) × Batches) := do
  let ended := { b with finished := true }
  if b.finished then return (none, b)
  if b.size ≤ 0 then throw (.malformed (.chunkSize (.int b.size)))
  if (b.previous.map b.isLast).getD false then return (none, ended)
  let b ← ofResult b.advance
  let batch := (← e.get (← ofResult (b.place.batch b.query b.size.toNat))).rows
  if batch.isEmpty then return (none, ended)
  return (some batch, { b with previous := some batch })

/-- Hands batch after batch to `visit` until it answers no. Tells whether it never did. `fuel`
bounds the number of batches. -/
def drive (e : Engine σ) (visit : List Row → Run σ Bool) : Nat → Batches → Run σ Bool
  | 0, _ => throw (.foreign .runtime "there is no end to the batches")
  | fuel + 1, b => do
    match ← b.pull e with
    | (none, _) => return true
    | (some batch, b) => if ← visit batch then drive e visit fuel b else return false

/-- Visits rows until one is answered no. Tells whether none was. -/
def visitRows (visit : Row → Run σ Bool) : List Row → Run σ Bool
  | [] => return true
  | row :: rows => do if ← visit row then visitRows visit rows else return false

/-- Batches whose rows are handed out one by one. -/
structure Rows where
  batches : Batches
  ready : List Row := []

/-- The next row and what comes after it. -/
def Rows.pull (e : Engine σ) (r : Rows) : Run σ (Option Row × Rows) := do
  match r.ready with
  | row :: ready => return (some row, { r with ready })
  | [] =>
    match ← r.batches.pull e with
    | (some (row :: ready), batches) => return (some row, { batches, ready })
    | (_, batches) => return (none, { batches })

end Batches

end SqlQuery
