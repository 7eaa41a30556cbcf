import SqlQuery.Session

/-!
The commands of a session and what they report.

Every command is followed by a report: what it answered, or how it failed, the calls of the
executor, and what visitors were handed.
-/

namespace SqlQuery

/-- A command of a session. -/
inductive Command where
  | build (s : Step)
  | operate (form : Form Operation) (approach : Approach) (call : Call Term)
  /-- A new builder. With a dialect, or with a builder whose query it is to share, it has no
  handle, and neither has it if it is to be `detached`. -/
  | new (name : String) (table dialect : Option Value) (shared : Option String) (detached : Bool)
  | use (name : String)
  | clone (name : String)
  | sql
  /-- The values of the statement. -/
  | values
  | query
  | dialect
  | lastDebug
  | openRows (name : String) (form : Form Supply) (call : Call Term)
  | pull (name : String) (count : Option Nat)
  | close (name : String)
  | queue (responses : List Response)
  | rawQuery (sql : String) (values : List Term)
  | rawExecute (sql : String) (values : List Term)
  | aggregate (call : Call Term)
  | log
  | logStats
  | cacheStats
  | clearCache
  | takeSlot
  | giveSlot
  | inFlight
  | layers
  /-- Commands in a transaction, and a failure after the last of them. -/
  | transaction (commands : List Command) (failure : Option Error)

mutual

/-- What a command answered. -/
inductive Outcome where
  /-- The builder in use has this statement, or cannot be written as one. -/
  | built (statement : Result Statement)
  | done
  | answered (a : Answer)
  | pulled (rows : List Row) (ending : Ending)
  | block (reports : List Report) (failure : Option Error)
  | failed (e : Error)

/-- A command's outcome, and what happened since the last report. -/
inductive Report where
  | mk (outcome : Outcome) (calls : List ExecutorCall) (seen : List Value)

end

/-- The failure of a command. -/
def Outcome.failure? : Outcome → Option Error
  | .failed e => some e
  | .pulled _ (.broken e) => some e
  | .block _ failure => failure
  | _ => none

def Report.failure? : Report → Option Error
  | .mk outcome _ _ => outcome.failure?

namespace Session

open Effect

/-! ## Evaluating operands -/

def evaluate (t : Term) : Play Argument :=
  work (Workspace.evaluate t)

def evaluateCall (c : Call Term) : Play (Call Argument) := do
  return { positional := ← c.positional.mapM evaluate
           named := ← c.named.mapM fun (name, t) => return (name, ← evaluate t) }

/-- Makes ready the visitor of an operation, if it has one: its replies, or the failure of a visit
if the operand is no visitor. -/
def prepareVisitor (visitor : Option Argument) : Play Unit :=
  let (replies, refusal) := match visitor with
    | some (.callback replies) => (replies, none)
    | none | some (.routine _) => ([], none)
    | some a => ([], some (Workspace.notCallable a))
  modify fun s => { s with
    world := { s.world with outside := { s.world.outside with replies, refusal } } }

/-! ## Builders -/

/-- The statement of a copy of the builder in use, if statements are to be shown. -/
def shown : Play Outcome := do
  let s ← get
  if !s.trace then return .done
  let id ← current?
  return .built (← attempt (work do Workspace.toSql (← Workspace.clone id)))

/-- Names a builder and puts it in use. -/
def adopt (name : String) (id : BuilderId) : Play Outcome := do
  work (Workspace.rename name id)
  use id
  shown

/-- A new builder on the handle in use. -/
def attached (table : Option Value) : Play BuilderId := do
  let i ← database?
  let h ← handleAt i
  work do
    let query ← Workspace.addQuery {}
    let id ← Workspace.addBuilder
      { query, dialect := h.dialect, settings := h.settings, handle := some i,
        debug := h.settings.debug }
    Workspace.setTable id table
    return id

/-- A new builder without a handle. -/
def unattached (table dialect : Option Value) (shared : Option String) : Play BuilderId := do
  let s ← get
  work do
    let other ← match shared with
      | some name => some <$> Workspace.lookup name
      | none => pure none
    let id ← Workspace.detached none (dialect.or s.dialect) s.settings
    match other with
    | none => pure ()
    | some other =>
      let b ← Workspace.builder id
      Workspace.setBuilder id { b with query := (← Workspace.builder other).query }
    Workspace.setTable id table
    return id

/-- A new builder. -/
def create (table dialect : Option Value) (shared : Option String) (detached : Bool) :
    Play BuilderId := do
  if detached || (← get).database.isNone then unattached table dialect shared
  else attached table

/-! ## The database -/

/-- A statement written by hand. -/
def rawStatement (sql : String) (values : List Term) : Play Statement := do
  let bindings := (← values.mapM evaluate).map Argument.toValue
  return { sql, bindings, dialect := (← handleAt (← database?)).dialect.name }

def rawQuery (sql : String) (values : List Term) : Play (List Row) := do
  let s ← rawStatement sql values
  execute ((← databaseEngine).fetch s "raw query")

def rawExecute (sql : String) (values : List Term) : Play ExecResult := do
  let s ← rawStatement sql values
  execute ((← databaseEngine).run s "raw statement")

/-- An aggregate over the query of the builder in use, without its pending scopes. -/
def aggregate (function : Argument) (column : Option Argument) : Play Value := do
  let e ← databaseEngine
  let q ← work (Workspace.queryOf (← current?))
  let name ← ofResult function.functionName
  let fn ← ofResult (Engine.aggregateNamed name function.shown)
  let q ← ofResult q.copy
  execute (e.aggregate q fn ((column.map Argument.columnName).getD ("*" : String)))

/-- The entries of the log: statement, values and failure of each. -/
def logEntries (log : QueryLog) : Answer :=
  .list (fun e => .list [e.sql, .list e.bindings, (e.error.map Value.text).getD .null])
    log.entries

/-- How many executions the log holds, how many of them were slow, and how many failed. -/
def logCounts (log : QueryLog) : Result Answer := do
  let s ← log.stats
  return .list (fun (n : Nat) => .int n) [s.total, s.slow, s.failed]

/-- An answer about the log, null if there is none. -/
def aboutLog (f : QueryLog → Result Answer) : Play Outcome := do
  match (← get).world.log with
  | some log => return .answered (← ofResult (f log))
  | none => return .answered .null

/-- The number of slots in use, null if there is no limit. -/
def slotsInUse : Play Outcome := do
  return .answered (((← get).world.limiter.map fun l => .int l.inFlight).getD .null)

/-- The dialect of the handle in use, the dialect of its settings, and its layers: whether it has a
cache, how many statements may run at once, whether it has a log, and whether it works outside
transactions. -/
def layers : Play Value := do
  let h ← handleAt (← database?)
  let w := (← get).world
  return .list
    [.text h.dialect.name, .text h.settings.dialect,
     .bool (w.cache.isSome && !h.inTransaction),
     (h.settings.maxConcurrency.map Value.int).getD .null, .bool w.log.isSome,
     .bool (!h.inTransaction)]

/-- The cache of the handle in use. -/
def cache? : Play (Option (Cache Quantity)) := do
  let h ← handleAt (← database?)
  let w := (← get).world
  return if h.inTransaction then none else w.cache

/-! ## Commands -/

/-- Takes what happened since the last report. -/
def takeNotes : StateM Session (List ExecutorCall × List Value) := do
  let s ← get
  let script := s.world.outside
  set { s with world := { s.world with outside := { script with calls := [], seen := [] } } }
  return (script.calls, script.seen)

/-- The report on a command. -/
def report (x : Play Outcome) : StateM Session Report := do
  let outcome ← match ← x.run with
    | .ok outcome => pure outcome
    | .error e => pure (.failed e)
  let (calls, seen) ← takeNotes
  return .mk outcome calls seen

/-- A session and the reports of the block that it is in. -/
abbrev Block (α : Type) := Effect (Session × List Report) α

/-- A computation in a session, seen from a block. -/
def inBlock {α : Type} (x : Play α) : Block α :=
  x.onPart Prod.fst fun s (_, reports) => (s, reports)

/-- Adds the report on a command to its block. A failure ends the block. -/
def follow (x : Play Outcome) : Block Unit := do
  let r ← inBlock (liftM (report x))
  modify fun (s, reports) => (s, reports ++ [r])
  match r.failure? with
  | some e => throw e
  | none => return

/-- Runs a block in a transaction. -/
def runBlock (block : Block Unit) : Play Outcome :=
  ExceptT.mk do
    let (result, s, reports) := (inTransaction inBlock block).run.run (← get, [])
    set s
    return .ok (.block reports (match result with
      | .ok () => none
      | .error e => some e))

mutual

/-- Carries out a command. -/
def play : Command → Play Outcome
  | .build s => do
    work (Workspace.run (← current?) s)
    shown
  | .operate form approach call => do
    let call ← evaluateCall call
    prepareVisitor (Operation.visitorOf form call)
    return .answered (← operate (← current?) approach (form.call call))
  | .new name table dialect shared detached => do
    adopt name (← create table dialect shared detached)
  | .use name => do
    use (← work (Workspace.lookup name))
    shown
  | .clone name => do
    let id ← current?
    adopt name (← work (Workspace.clone id))
  | .sql => do
    let id ← current?
    return .answered (.statement (← work (Workspace.toSql id)))
  | .values => do
    let id ← current?
    return .answered (.value (.list (← work (Workspace.toSql id)).bindings))
  | .query => do return .answered (.query (← work (Workspace.queryOf (← current?))))
  | .dialect => do
    let b ← work (Workspace.builder (← current?))
    return .answered (.value (.text b.dialect.name))
  | .lastDebug => do
    match (← work (Workspace.builder (← current?))).lastDebug with
    | some s => return .answered (.statement s)
    | none => return .answered .null
  | .openRows name form call => do
    let call ← evaluateCall call
    openRows name (← current?) (form.call call)
    return .answered .null
  | .pull name count => do
    let (rows, ending) ← pull name count
    return .pulled rows ending
  | .close name => do
    close name
    return .answered .null
  | .queue responses => do
    modify fun s =>
      let script := s.world.outside
      { s with world := { s.world with
          outside := { script with responses := script.responses ++ responses } } }
    return .answered .null
  | .rawQuery sql values => do return .answered (.rows (← rawQuery sql values))
  | .rawExecute sql values => do return .answered (.executed (← rawExecute sql values))
  | .aggregate call => do
    let call ← evaluateCall call
    return .answered (.value
      (← aggregate ((call.positional[0]?).getD .null) call.positional[1]?))
  | .log => aboutLog fun log => .ok (logEntries log)
  | .logStats => aboutLog logCounts
  | .cacheStats => do
    match ← cache? with
    | some c => return .answered (.ofCache c)
    | none => return .answered .null
  | .clearCache => do
    if (← cache?).isSome then
      modify fun s => { s with world := { s.world with cache := s.world.cache.map Cache.clear } }
    return .answered .null
  | .takeSlot => do
    execute (Run.takeSlot {})
    slotsInUse
  | .giveSlot => do
    execute Run.giveSlot
    slotsInUse
  | .inFlight => slotsInUse
  | .layers => do return .answered (.value (← layers))
  | .transaction commands failure => runBlock (playAll failure commands)

/-- Carries out the commands of a block. -/
def playAll (failure : Option Error) : List Command → Block Unit
  | [] =>
    match failure with
    | some e => throw e
    | none => return
  | c :: cs => do
    follow (play c)
    playAll failure cs

end

/-- Carries out commands one after the other and reports on each. -/
def playEach : List Command → StateM Session (List Report)
  | [] => return []
  | c :: cs => do
    let r ← report (play c)
    return r :: (← playEach cs)

/-! ## Starting a session -/

/-- What a session is started with. -/
structure Setup where
  dialect : Option Value := none
  settings : Settings := {}
  executor : Option ScriptedExecutor := none
  responses : List Response := []
  table : Option Value := none
  registry : Registry := .initial
  now : Option Moment := none
  trace : Bool := true

/-- The layers that settings ask for, around a script. -/
def worldOf (settings : Settings) (script : Script) : Result (World Script) := do
  let limiter ← match settings.maxConcurrency with
    | some n => some <$> Limiter.make n
    | none => pure none
  let log ← if settings.queryLogEnabled then
      some <$> QueryLog.make settings.queryLogSize (.double settings.slowQueryThreshold)
    else pure none
  let cache := if settings.cacheEnabled then some { ttl := .double settings.cacheTtl } else none
  return { outside := script, cache, limiter, log }

/-- A session with a database handle if there is an executor, and with a builder named `q` if there
is a table. -/
def start (o : Setup) : Result Session := do
  let workspace : Workspace :=
    { registry := o.registry, now := o.now.getD ({} : Workspace).now }
  let session : Session :=
    { workspace, world := ← worldOf o.settings { responses := o.responses },
      dialect := o.dialect, settings := o.settings, trace := o.trace }
  let session ← match o.executor with
    | none => pure session
    | some executor => do
      let dialect ← o.registry.findNamed (o.settings.dialectOr o.dialect)
      pure { session with
        executor, handles := [{ dialect, settings := o.settings }], database := some 0 }
  match o.table with
  | none => return session
  | some table =>
    let (result, session) := (do
      let id ← create (some table) none none false
      work (Workspace.rename "q" id)
      use id : Play Unit).run.run session
    match result with
    | .ok () => return session
    | .error e => .error e

end Session

end SqlQuery
