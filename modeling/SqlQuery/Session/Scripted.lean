import SqlQuery.Argument.Operand
import SqlQuery.Execution.Executor

/-!
An executor that answers from a script and notes every call, and visitors that do the same.
-/

namespace SqlQuery

/-- What the executor is to do when it is called. -/
inductive Response where
  /-- The rows of a read, or the result of a write: two values. -/
  | items (items : List Value)
  /-- Rows, and a failure after the last of them. -/
  | broken (items : List Value) (e : Error)
  | fail (e : Error)
  | default
  deriving Repr

/-- A call of the executor. A call of `begin`, `commit` or `rollback` has no statement. -/
structure ExecutorCall where
  name : String
  statement : Option (String × List Value) := none
  deriving Repr

/-- What is left of the script, and what happened since the last report. -/
structure Script where
  responses : List Response := []
  /-- The answers that are left for the visitor in use. -/
  replies : List Reply := []
  /-- The failure of every visit, if there is no visitor to answer. -/
  refusal : Option Error := none
  calls : List ExecutorCall := []
  seen : List Value := []
  deriving Repr

namespace Script

def note (call : ExecutorCall) : Effect Script Unit :=
  modify fun s => { s with calls := s.calls ++ [call] }

def respond : Effect Script Response := do
  let s ← get
  match s.responses with
  | [] => return .default
  | r :: rest =>
    set { s with responses := rest }
    return r

/-- Visits by answering with the next reply, null when there is none. -/
def visit (v : Value) : Effect Script Value := do
  if let some e := (← get).refusal then throw e
  modify fun s => { s with seen := s.seen ++ [v] }
  let s ← get
  match s.replies with
  | [] => return .null
  | reply :: rest =>
    set { s with replies := rest }
    match reply with
    | .answer v => return v
    | .fail e => throw e

end Script

/-- Items as rows; reading breaks off at the first that is neither a mapping nor pairs. -/
def Reading.ofItems (failure : Option Error) : List Value → Reading
  | [] => { rows := [], failure }
  | v :: rest =>
    match (Argument.value v).toRow with
    | .ok row =>
      let reading := ofItems failure rest
      { reading with rows := row :: reading.rows }
    | .error e => { rows := [], failure := some e }

/-- The first of some items as a row, none if it is null. -/
def Row.ofFirst (failure : Option Error) : List Value → Result (Option Row)
  | [] => match failure with
    | none => .ok none
    | some e => .error e
  | .null :: _ => .ok none
  | v :: _ => match (Argument.value v).toRow with
    | .ok row => .ok (some row)
    | .error e => .error (.rowRead 0 e)

def ExecResult.ofItems : List Value → ExecResult
  | changed :: rest => { rowsAffected := changed, lastInsertId := rest.head?.getD .null }
  | [] => { rowsAffected := .int 0 }

/-- The kinds of scripted executors. -/
inductive ScriptedKind where
  | transactional
  /-- It knows no transactions. -/
  | plain
  /-- It is an open transaction itself. -/
  | openTransaction
  deriving DecidableEq, Repr

/-- How a scripted executor answers where its script says nothing. -/
structure ScriptedExecutor where
  kind : ScriptedKind := .transactional
  rows : List Value := []
  result : List Value := [.int 1, .null]
  beginFailure : Option Error := none
  commitFailure : Option Error := none
  rollbackFailure : Option Error := none
  deriving Repr

namespace ScriptedExecutor

open Script

/-- The statements of the executor, whose calls are noted under names that begin with `mark`. -/
def statementsMarked (x : ScriptedExecutor) (mark : String) : Statements Script where
  query sql bindings := do
    note { name := mark ++ "query", statement := some (sql, bindings) }
    match ← respond with
    | .items items => return .ofItems none items
    | .broken items e => return .ofItems (some e) items
    | .fail e => throw e
    | .default => return .ofItems none x.rows
  queryOne sql bindings := do
    note { name := mark ++ "query_one", statement := some (sql, bindings) }
    match ← respond with
    | .items items => Effect.ofResult (Row.ofFirst none items)
    | .broken items e => Effect.ofResult (Row.ofFirst (some e) items)
    | .fail e => throw e
    | .default => Effect.ofResult (Row.ofFirst none x.rows)
  execute sql bindings := do
    note { name := mark ++ "execute", statement := some (sql, bindings) }
    match ← respond with
    | .items items | .broken items _ => return .ofItems items
    | .fail e => throw e
    | .default => return .ofItems x.result

def inTransaction : String := "tx."

/-- Notes a call without a statement and fails if it is to fail. -/
def noted (name : String) (failure : Option Error) : Effect Script Unit := do
  note { name }
  match failure with
  | some e => throw e
  | none => return

def transaction (x : ScriptedExecutor) : Transaction Script where
  statements := x.statementsMarked inTransaction
  commit := noted "commit" x.commitFailure
  rollback := noted "rollback" x.rollbackFailure

/-- The executor itself. -/
def executor (x : ScriptedExecutor) : Executor Script where
  statements := x.statementsMarked
    (if x.kind = .openTransaction then inTransaction else "")
  opening := match x.kind with
    | .plain => .unsupported "PlainExecutor"
    | .openTransaction => .isOpen
    | .transactional => .opens do
      noted "begin" x.beginFailure
      return x.transaction

end ScriptedExecutor

end SqlQuery
