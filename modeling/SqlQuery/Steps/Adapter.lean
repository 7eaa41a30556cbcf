import SqlQuery.Adapter.Scripted
import SqlQuery.Steps.Basic

/-!
Executors over drivers, step by step.
-/

namespace SqlQuery

/-- What a step is carried out on: an executor, or a transaction that was begun on it. -/
structure Site (σ : Type) where
  statements : Statements σ
  opening : Opening σ
  /-- How to finish it, if it is a transaction. -/
  commit : Option (Effect σ Unit) := none
  rollback : Option (Effect σ Unit) := none

namespace Site

variable {σ : Type}

def ofExecutor (x : Executor σ) : Site σ where
  statements := x.statements
  opening := x.opening

def ofTransaction (t : Transaction σ) : Site σ where
  statements := t.statements
  opening := .isOpen
  commit := some t.commit
  rollback := some t.rollback

end Site

/-- An executor under test, the transactions that were begun on it, and its state. -/
structure Bench (σ : Type) where
  executor : Executor σ
  /-- How to read no more than the first rows of a statement. -/
  queryFirst : Nat → String → List Value → Effect σ (List Row)
  /-- The calls of the driver since the last report, and the state without them. -/
  takeCalls : σ → List DriverCall × σ
  /-- Makes the next statement fail where it would be executed. -/
  refuse : Error → σ → σ
  transactions : List (String × Transaction σ) := []
  state : σ

namespace Bench

open Effect

variable {σ α : Type}

/-- An action on the state of the executor. -/
def act (x : Effect σ α) : Effect (Bench σ) α :=
  x.onPart Bench.state fun state b => { b with state }

/-- A call that something does not have. -/
def lacks (name : String) : Effect σ α :=
  throw (.foreign .missingAttribute ("object has no attribute '" ++ name ++ "'"))

def finish (name : String) (ending : Option (Effect σ Unit)) : Effect σ Shown :=
  match ending with
  | some x => do
    x
    return .of .null
  | none => lacks name

/-- The rows of a statement, all or no more than a number of them. -/
def query (b : Bench σ) (site : Site σ) (sql : String) (bindings : List Value)
    (count : Option Nat) : Effect σ Shown := do
  match count with
  | some n => return .of (.rows (← b.queryFirst n sql bindings))
  | none => return .of (.rows (← (← site.statements.query sql bindings).toEffect))

/-- A write in a transaction of its own, with a failure after it. What the write answered is shown
even if the transaction then fails. -/
def scope (site : Site σ) (sql : String) (bindings : List Value) (failure : Option Error) :
    Effect σ Shown :=
  ExceptT.mk do
    let block : Transaction σ → Effect (σ × Shown) Unit := fun tx => do
      let result ← lift (tx.statements.execute sql bindings)
      modify fun (s, _) => (s, .of (.executed result))
      match failure with
      | some e => throw e
      | none => return
    let (result, s, shown) := (site.opening.transaction lift block).run.run (← get, {})
    set s
    return .ok (match result with
      | .ok () => shown
      | .error e => { shown with failure := some e })
where
  lift {β : Type} (x : Effect σ β) : Effect (σ × Shown) β :=
    x.onPart Prod.fst fun s (_, shown) => (s, shown)

/-- The values of a statement. With unfit ones it fails where it would be executed. -/
def valuesOf (b : Bench σ) (call : Call Term) : Effect σ (List Value) := do
  match call.valuesAt 1 with
  | .ok values => return values
  | .error e =>
    modify (b.refuse e)
    return []

def onSite (b : Bench σ) (site : Site σ) (name : String) (call : Call Term) :
    Effect σ Shown := do
  let sql := call.textAt 0
  match name with
  | "query" => query b site sql (← b.valuesOf call) (call.countAt? 2)
  | "query_one" =>
    return .of (.row (← site.statements.queryOne sql (← b.valuesOf call)))
  | "execute" =>
    return .of (.executed (← site.statements.execute sql (← b.valuesOf call)))
  | "scope" => scope site sql (← b.valuesOf call) (call.errorAt? 2)
  | "commit" => finish name site.commit
  | "rollback" => finish name site.rollback
  | name => lacks name

def begin (name : String) : Effect (Bench σ) Shown := do
  match (← get).executor.opening with
  | .opens start =>
    let tx ← act start
    modify fun b => { b with transactions := (name, tx) :: b.transactions }
    return .of .null
  | _ => lacks "begin"

def carryOut (name : String) (call : Call Term) : Effect (Bench σ) Shown := do
  let b ← get
  match name with
  | "begin" => begin (call.textAt 0)
  | "tx" =>
    match b.transactions.lookup (call.textAt 0) with
    | some tx => act (onSite b (.ofTransaction tx) (call.textAt 1) (call.drop 2))
    | none => throw (.foreign .key (call.textAt 0))
  | name => act (onSite b (.ofExecutor b.executor) name call)

/-- Every step shows the calls of the driver. -/
def step : Stepper (Bench σ) := fun name call => do
  let shown := match ← (carryOut name call).run with
    | .ok shown => shown
    | .error e => .failed e
  let b ← get
  let (calls, state) := b.takeCalls b.state
  set { b with state }
  return shown.also "events" (.list callValue calls)
where
  callValue (c : DriverCall) : Value :=
    .list (.text c.name :: match c.statement with
      | some (sql, bindings) => [.text sql, .list bindings]
      | none => [])

end Bench

namespace DriverScript

/-- The calls since the last report, and the script without them. -/
def takeCalls (s : DriverScript) : List DriverCall × DriverScript :=
  (s.calls, { s with calls := [] })

/-- The script with a failure in store for the next statement. -/
def refuse (e : Error) (s : DriverScript) : DriverScript :=
  { s with refusal := some e }

end DriverScript

namespace Bench

/-- A scripted connection under test. -/
def ofConnection (faults : DriverFaults) (autocommit : Bool) (responses : List DriverResponse) :
    Bench (Connection DriverScript) :=
  let d := DriverScript.cursorDriver faults
  { executor := Connection.executor d autocommit
    queryFirst := Connection.queryFirst d
    takeCalls := fun c =>
      let (calls, driver) := c.driver.takeCalls
      (calls, { c with driver })
    refuse := fun e c => { c with driver := c.driver.refuse e }
    state := { driver := { responses } } }

def ofPool (faults : DriverFaults) (responses : List DriverResponse) : Bench DriverScript :=
  let x := Pool.executor (DriverScript.poolDriver faults)
  { executor := x
    queryFirst := fun n sql bindings => do
      return (← (← x.statements.query sql bindings).toEffect).take n
    takeCalls := DriverScript.takeCalls
    refuse := DriverScript.refuse
    state := { responses } }

end Bench

end SqlQuery
