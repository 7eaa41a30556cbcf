import SqlQuery.Adapter.Connection
import SqlQuery.Adapter.Pool

/-!
Drivers that answer from a script and note every call.
-/

namespace SqlQuery

/-- What a driver answers when it executes a statement. -/
inductive DriverResponse where
  | fail (e : Error)
  /-- Columns and rows, some of which fail when they are fetched, and what the statement did. -/
  | executed (columns : List String) (rows : List (Result (List Value))) 
      (rowCount lastRowId : Value)

/-- A call of a driver, with the statement if it is given one. -/
structure DriverCall where
  name : String
  statement : Option (String × List Value) := none
  deriving Repr

/-- What is left of the script, and the calls since the last report. -/
structure DriverScript where
  responses : List DriverResponse := []
  calls : List DriverCall := []
  /-- The failure of the next statement, which does not even reach the driver. -/
  refusal : Option Error := none

/-- Which calls fail whenever they are made. -/
structure DriverFaults where
  commit : Option Error := none
  rollback : Option Error := none
  deriving Repr

namespace DriverScript

def note (call : DriverCall) : Effect DriverScript Unit :=
  modify fun s => { s with calls := s.calls ++ [call] }

/-- Notes a call and fails if it is to fail. -/
def noted (name : String) (fault : Option Error) : Effect DriverScript Unit := do
  note { name }
  match fault with
  | some e => throw e
  | none => return

/-- The call `name` without a fault. -/
def plain (name : String) : Effect DriverScript Unit :=
  noted name none

/-- Executes a statement as the script says. Rows are fetched under the notes of `fetch`. -/
def execute (fetch : Effect DriverScript Unit) (sql : String) (bindings : List Value) :
    Effect DriverScript (Executed DriverScript) := do
  if let some e := (← get).refusal then
    modify fun s => { s with refusal := none }
    throw e
  note { name := "execute", statement := some (sql, bindings) }
  let s ← get
  match s.responses with
  | [] => return { fetchEnd := fetch }
  | r :: rest =>
    set { s with responses := rest }
    match r with
    | .fail e => throw e
    | .executed columns rows rowCount lastRowId =>
      let fetches := rows.map fun row => do
        fetch
        Effect.ofResult row
      return { columns, fetches, fetchEnd := fetch, rowCount, lastRowId }

def cursorDriver (faults : DriverFaults) : CursorDriver DriverScript where
  openCursor := plain "cursor"
  closeCursor := plain "close"
  execute := execute (plain "fetch")
  commit := noted "commit" faults.commit
  rollback := noted "rollback" faults.rollback

def poolDriver (faults : DriverFaults) : PoolDriver DriverScript where
  connect := plain "connect"
  close := plain "close"
  execute := execute (return)
  begin := plain "begin"
  commit := noted "commit" faults.commit
  rollback := noted "rollback" faults.rollback
  blockBegin := plain "engine.begin"
  blockCommit := noted "engine.commit" faults.commit
  blockRollback := noted "engine.rollback" faults.rollback

end DriverScript

end SqlQuery
