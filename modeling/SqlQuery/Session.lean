import SqlQuery.Layer.Waiting
import SqlQuery.Script.Methods
import SqlQuery.Script.Operations
import SqlQuery.Session.Scripted
import SqlQuery.Workspace

/-!
Sessions: builders and a database under commands that come one after the other.

A session holds a workspace of builders, database handles, and the world in which their statements
run. A command that fails leaves what it did before it failed, and the session goes on. The handle
of a transaction shares the world with the handle that it was begun on and works on the transaction
even after its end.
-/

namespace SqlQuery

/-- A database handle. -/
structure Handle where
  dialect : Dialect
  settings : Settings
  inTransaction : Bool := false

/-- Rows that are handed out one by one, with the builder that they were asked of and its options at
that time. -/
structure OpenRows where
  source : RowSource
  builder : BuilderId
  options : Builder

/-- The state of a session. -/
structure Session where
  workspace : Workspace := {}
  world : World Script
  executor : ScriptedExecutor := {}
  handles : List Handle := []
  /-- The handle in use. -/
  database : Option Nat := none
  /-- The dialect of builders without a handle. -/
  dialect : Option Value := none
  settings : Settings := {}
  current : Option BuilderId := none
  rows : List (String × OpenRows) := []
  /-- Whether the statement of a builder is shown whenever it is changed. -/
  trace : Bool := true

abbrev Play (α : Type) := Effect Session α

namespace Session

open Effect

variable {α : Type}

/-! ## Working on the parts of a session -/

def work (x : Work α) : Play α :=
  x.onPart Session.workspace fun workspace s => { s with workspace }

def execute (x : Run Script α) : Play α :=
  x.onPart Session.world fun world s => { s with world }

def current? : Play BuilderId := do
  match (← get).current with
  | some id => return id
  | none => throw (Workspace.missing "builder")

def use (id : BuilderId) : Play Unit :=
  modify fun s => { s with current := some id }

/-- A handle by its number. -/
def handleAt (i : Nat) : Play Handle := do
  match (← get).handles[i]? with
  | some h => return h
  | none => throw (Workspace.missing "handle")

/-- The number of the handle in use. -/
def database? : Play Nat := do
  match (← get).database with
  | some i => return i
  | none => throw (Workspace.missing "database")

/-! ## Engines -/

def engineOf (s : Session) (h : Handle) (wait : Wait) : Engine Script where
  dialect := h.dialect
  statements :=
    if h.inTransaction then s.executor.transaction.statements else s.executor.executor.statements
  caching := !h.inTransaction
  wait := wait

/-- How a builder waits for an execution slot. -/
def waitOf (s : Session) (b : Builder) : Wait :=
  .of b.timeout b.cancelEvent s.workspace.eventIsSet

def builderEngine (b : Builder) : Play (Engine Script) := do
  match b.handle with
  | none => throw (.configuration .detached)
  | some i => return engineOf (← get) (← handleAt i) (waitOf (← get) b)

def databaseEngine : Play (Engine Script) := do
  return engineOf (← get) (← handleAt (← database?)) {}

/-- Does something with an engine and notes for a builder the last statement that was run, if it
wants to know. -/
def observed (id : BuilderId) (options : Builder) (x : Play α) : Play α := do
  modify fun s => { s with world := { s.world with observed := none } }
  let result ← attempt x
  if options.debug then
    match (← get).world.observed with
    | some statement => work do
      Workspace.setBuilder id { ← Workspace.builder id with lastDebug := some statement }
    | none => pure ()
  ofResult result

/-! ## Running queries -/

def runOperation (id : BuilderId) (options : Builder) (e : Engine Script) (q : Query)
    (op : Operation) : Play Answer :=
  observed id options (execute (op.run e options.settings Script.visit q))

/-- A copy of the query of a builder, with its scopes applied. -/
def snapshot (id : BuilderId) : Play Query :=
  work do
    Workspace.settle id
    Workspace.copyOf id

/-- The options of a builder that has a handle, once its scopes are applied. -/
def settled (id : BuilderId) : Play Builder := do
  let _ ← builderEngine (← work (Workspace.builder id))
  work (Workspace.settle id)
  work (Workspace.builder id)

/-- Runs an operation on the query of a builder. The query is taken up before the operands of the
operation are looked at. The cancel event of the builder plays no part beside the caller. -/
def operate (id : BuilderId) (approach : Approach) (op : Result Operation) : Play Answer := do
  match approach with
  | .beside =>
    let q ← snapshot id
    let options := { ← settled id with cancelEvent := .null }
    runOperation id options (← builderEngine options) q (← ofResult op)
  | approach =>
    let options ← settled id
    let q ← match approach with
      | .onSnapshot => snapshot id
      | .onCopy => work (Workspace.copyOf id)
      | _ => work (Workspace.queryOf id)
    runOperation id options (← builderEngine options) q (← ofResult op)

/-- The rows of a builder's query to be handed out one by one. -/
def supply (id : BuilderId) (form : Result Supply) : Play OpenRows := do
  let options ← settled id
  let q ← snapshot id
  let form ← ofResult form
  let source ← ofResult (RowSource.make options.dialect options.settings q form)
  return { source, builder := id, options }

/-! ## Rows by name -/

/-- A bound on the number of rows that are handed out at once. -/
def maxRows : Nat := Nat.pow 2 64

def rowsNamed (name : String) : Play OpenRows := do
  match (← get).rows.lookup name with
  | some r => return r
  | none => throw (Workspace.missing name)

/-- Puts rows under a name, in place of those that are there. -/
def putRows (name : String) (r : OpenRows) : Play Unit :=
  modify fun s => { s with rows := (name, r) :: s.rows.filter (·.1 != name) }

/-- Hands out up to `count` rows. -/
def pull (name : String) (count : Option Nat) : Play (List Row × Ending) := do
  let r ← rowsNamed name
  let e ← builderEngine r.options
  let (rows, source, ending) ←
    observed r.builder r.options (execute (liftM (r.source.take e maxRows count)))
  putRows name { r with source }
  return (rows, ending)

/-- Ends rows early. -/
def close (name : String) : Play Unit := do
  let r ← rowsNamed name
  putRows name { r with source := .finished }
  execute r.source.close

/-- Opens rows under a name; rows that had the name are closed, whether or not that fails. -/
def openRows (name : String) (id : BuilderId) (form : Result Supply) : Play Unit := do
  let r ← supply id form
  let old := (← get).rows.lookup name
  putRows name r
  match old with
  | some old => execute do let _ ← attempt old.source.close
  | none => return

/-! ## Transactions -/

/-- Runs a block with a handle on a transaction that is begun on the handle in use. Afterwards the
handle and the builder in use are those from before. -/
def inTransaction {m : Type → Type} [Monad m] [MonadExceptOf Error m]
    (lift : {β : Type} → Play β → m β) (block : m α) : m α := do
  let outer ← lift (get : Play Session)
  let i ← lift database?
  let h ← lift (handleAt i)
  let opening := if h.inTransaction then .isOpen else outer.executor.executor.opening
  let body := fun (_ : Transaction Script) => do
    lift (modify fun s => { s with
      handles := s.handles ++ [{ h with inTransaction := true }]
      database := some s.handles.length })
    let result ← tryCatch block fun e => do
      restore outer
      throw e
    restore outer
    return result
  opening.transaction (fun x => lift (execute (Run.outside x))) body
where
  restore (outer : Session) : m Unit :=
    lift (modify fun s => { s with database := outer.database, current := outer.current })

end Session

end SqlQuery
