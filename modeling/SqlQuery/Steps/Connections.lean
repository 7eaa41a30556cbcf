import SqlQuery.Collection
import SqlQuery.Connections
import SqlQuery.Dialect.Registry
import SqlQuery.Steps.Basic

/-!
Named connections step by step. What is connected is shown by an identifier of its own, under which
it is made once.
-/

namespace SqlQuery

/-- Connections, and the identifiers of all that were made. -/
structure Switchboard where
  connections : Connections String := {}
  made : List String := []

namespace Switchboard

def defaultDialect : String := "mysql"

/-- Makes what an identifier stands for, unless it is there already. -/
def make (id dialect : String) : StateM Switchboard (Result Unit) := do
  let s ← get
  if s.made.contains id then return .ok ()
  match Registry.initial.find (if dialect.isEmpty then defaultDialect else dialect) with
  | .error e => return .error e
  | .ok _ =>
    set { s with made := id :: s.made }
    return .ok ()

def shown (id : String) : StateM Switchboard Shown := do
  let names := (← get).connections.names
  return (Shown.of (.text id)).also "names" (.list .text names)

/-- An identifier with all names, or a failure. -/
def showResult (r : Result String) : StateM Switchboard Shown := do
  match r with
  | .ok id => shown id
  | .error e => return .failed e

def add (name id dialect : String) (asDefault : Bool) : StateM Switchboard Shown := do
  match ← make id dialect with
  | .error e => return .failed e
  | .ok () =>
    let s ← get
    match s.connections.add name id asDefault with
    | .error e => return .failed e
    | .ok connections =>
      set { s with connections }
      shown id

/-- The name that a value stands for, none for null. Other values are names that nothing has, if
they can be keys. -/
def nameOf (v : Value) : Result (Option String) :=
  match v with
  | .null => .ok none
  | .text name => .ok (some name)
  | v => do
    let key ← Collection.asKey v
    .error (.configuration (.unknownName key))

/-- What is connected under a name, or the default. -/
def find (s : Switchboard) (name : Value) : Result String := do
  s.connections.get (← nameOf name)

/-- Removes what is connected under a name. The default is found without a name, but has to be
removed by its own. -/
def remove (name : Value) : StateM Switchboard Shown := do
  let s ← get
  let removed : Result (String × Connections String) := do
    match ← nameOf name with
    | some name => s.connections.remove name
    | none =>
      let _ ← s.connections.get none
      .error (.missingKey .null)
  match removed with
  | .error e => return .failed e
  | .ok (id, connections) =>
    set { s with connections }
    shown id

/-- Whether a value is a name that is taken. A value that cannot be a key is an error. -/
def contains (s : Switchboard) (v : Value) : Result Bool :=
  match v.unhashable?, v with
  | some type, _ => .error (.foreign .type ("unhashable type: '" ++ type ++ "'"))
  | none, .text name => .ok (s.connections.contains name)
  | none, _ => .ok false

def step : Stepper Switchboard := fun name call => do
  let s ← get
  match name with
  | "add" =>
    add (call.textAt 0) (call.textAt 1) (call.textAt 2)
      (((call.operand? 3 "default").map fun t => t.data.isTruthy).getD false)
  | "get" => showResult (s.find (call.dataAt 0))
  | "remove" => remove (call.dataAt 0)
  | "default" => return .ofResult .text (s.connections.get none)
  | "contains" => return .ofResult .bool (s.contains (call.dataAt 0))
  | "len" => return .of (.int s.connections.entries.length)
  | "names" => return .of (.list .text s.connections.names)
  | "close_all" => return .of .null
  | name => return .unknownStep name

end Switchboard

end SqlQuery
