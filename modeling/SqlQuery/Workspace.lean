import SqlQuery.Argument.Operand
import SqlQuery.Effect
import SqlQuery.Query.Copy
import SqlQuery.Query.Edit
import SqlQuery.Settings
import SqlQuery.Dialect.Registry
import SqlQuery.Statement.Select

/-!
A workspace of query builders, and how steps run in it.

A builder refers to a query, which several builders may share, and keeps the routines that are
still to be applied to it. A step evaluates its terms and then edits the query of its builder; a
routine that it was given runs on the same builder, or on a fresh one for groups and sub-queries.
Whatever a failed step did before it failed stays done.

Steps run other steps through their routines, and through the scopes of builders that they name.
`fuel` bounds that nesting. Each level runs a step of a routine that no outer level runs, so the
number of steps in the workspace and in the step itself, `fuelFor`, is enough.
-/

namespace SqlQuery

/-- A query, by its number. -/
abbrev QueryId := Nat

/-- A query under construction. -/
structure Builder where
  query : QueryId
  dialect : Dialect
  settings : Settings := {}
  /-- The database handle that runs its statements, by its number. -/
  handle : Option Nat := none
  /-- Scopes that are still to be applied, in order. -/
  pending : List Argument := []
  debug : Bool := false
  lastDebug : Option Statement := none
  /-- What tells that a wait for an execution slot is given up: the workspace's cancel event, null,
  or something unfit. -/
  cancelEvent : Argument := .null
  /-- How long to wait for an execution slot: seconds, null, or something unfit. -/
  timeout : Argument := .null

/-- Builders and queries by number, and names for some of the builders. -/
structure Workspace where
  queries : List Query := []
  builders : List Builder := []
  names : List (String × BuilderId) := []
  registry : Registry := .initial
  now : Moment := ⟨⟨1970, 1, 1⟩, ⟨0, 0, 0, 0⟩⟩
  eventIsSet : Bool := false

abbrev Work (α : Type) := Effect Workspace α

namespace Workspace

/-! ## Builders and queries by number -/

/-- A failure for a number that stands for nothing. -/
def missing (what : String) : Error :=
  .foreign .key what

def builder (id : BuilderId) : Work Builder := do
  match (← get).builders[id]? with
  | some b => return b
  | none => throw (missing "builder")

def setBuilder (id : BuilderId) (b : Builder) : Work Unit :=
  modify fun w => { w with builders := w.builders.set id b }

def queryOf (id : BuilderId) : Work Query := do
  let b ← builder id
  match (← get).queries[b.query]? with
  | some q => return q
  | none => throw (missing "query")

def setQueryOf (id : BuilderId) (q : Query) : Work Unit := do
  let b ← builder id
  modify fun w => { w with queries := w.queries.set b.query q }

def addQuery (q : Query) : Work QueryId := do
  let w ← get
  set { w with queries := w.queries ++ [q] }
  return w.queries.length

def addBuilder (b : Builder) : Work BuilderId := do
  let w ← get
  set { w with builders := w.builders ++ [b] }
  return w.builders.length

/-- A fresh builder beside another: it has an empty query and no scopes. -/
def spawn (id : BuilderId) : Work BuilderId := do
  let b ← builder id
  let query ← addQuery {}
  addBuilder { b with query, pending := [], debug := false, lastDebug := none }

def copyOf (id : BuilderId) : Work Query := do
  Effect.ofResult (← queryOf id).copy

/-- A copy of a builder with a copy of its query. -/
def clone (id : BuilderId) : Work BuilderId := do
  let b ← builder id
  let query ← addQuery (← copyOf id)
  addBuilder { b with query, lastDebug := none }

/-- Sets the table of a builder's query, unless it is left out. -/
def setTable (id : BuilderId) (table : Option Value) : Work Unit := do
  match table with
  | none | some .null => return
  | some v => setQueryOf id (← Effect.ofResult (Edit.setTable (.value v) (← queryOf id)))

/-- A new builder without a database handle. -/
def detached (table dialect : Option Value) (settings : Settings := {}) : Work BuilderId := do
  let dialect ← (← get).registry.findNamed (settings.dialectOr dialect)
  let query ← addQuery {}
  let id ← addBuilder { query, dialect, settings, debug := settings.debug }
  setTable id table
  return id

def lookup (name : String) : Work BuilderId := do
  match (← get).names.lookup name with
  | some id => return id
  | none => throw (missing name)

/-- Gives a builder a name, in place of the one that had it. -/
def rename (name : String) (id : BuilderId) : Work Unit :=
  modify fun w => { w with names := (name, id) :: w.names.filter (·.1 != name) }

/-! ## Terms -/

/-- A clause, a query or page bounds from named fields. -/
def describe (model : Model) (fields : Fields) : Result Argument :=
  match model with
  | .selectItem => do return .selectItem (← SelectItem.describe fields)
  | .filter => do return .filter (← Filter.describe fields)
  | .join => do return .join (← Join.describe fields)
  | .order => do return .order (← OrderKey.describe fields)
  | .group => do return .group (← GroupKey.describe fields)
  | .having => do return .having (← Having.describe fields)
  | .branch => do return .branch (← Branch.describe fields)
  | .query => do return .query (← Query.describe fields)
  | .bounds => do return .bounds (← PageBounds.describe fields)

abbrev RunStep := BuilderId → Step → Work Unit

def runRoutine (run : RunStep) (id : BuilderId) (steps : Routine) : Work Unit :=
  steps.forM (run id)

def make (run : RunStep) (table dialect : Option Value) (steps : Routine) : Work BuilderId := do
  let id ← detached table dialect
  runRoutine run id steps
  return id

mutual

def eval (run : RunStep) : Term → Work Argument
  | .value v => return .value v
  | .list items => return .list (← evalAll run items)
  | .tuple items => return .tuple (← evalAll run items)
  | .stream items => return .stream (← evalAll run items)
  | .mapping entries => return .mapping (← evalEntries run entries)
  | .word w => return .word w
  | .described model fields => do describe model (← evalEntries run fields)
  | .routine steps => return .routine steps
  | .made table dialect steps => return .builder (← make run table dialect steps)
  | .madeQuery table dialect steps => do
    return .query (← queryOf (← make run table dialect steps))
  | .named name => return .builder (← lookup name)
  | .namedQuery name => do return .query (← queryOf (← lookup name))
  | .event isSet => do
    modify fun w => { w with eventIsSet := isSet }
    return .event
  | .callback replies => return .callback replies

def evalAll (run : RunStep) : List Term → Work (List Argument)
  | [] => return []
  | t :: ts => return (← eval run t) :: (← evalAll run ts)

def evalEntries (run : RunStep) : List (String × Term) → Work (List (String × Argument))
  | [] => return []
  | (k, t) :: es => return (k, ← eval run t) :: (← evalEntries run es)

end

def evalArgs (run : RunStep) : List (Option Term) → Work (List (Option Argument))
  | [] => return []
  | none :: ts => return none :: (← evalArgs run ts)
  | some t :: ts => return some (← eval run t) :: (← evalArgs run ts)

/-! ## Scopes and sub-queries -/

/-- Something that is no routine and cannot be called. -/
def notCallable (a : Argument) : Error :=
  .foreign .type ("'" ++ a.qualifiedTypeName ++ "' object is not callable")

def call (run : RunStep) (id : BuilderId) : Argument → Work Unit
  | .routine steps => runRoutine run id steps
  | a => throw (notCallable a)

/-- Applies the pending scopes. They are no longer pending once the first of them runs. -/
def applyScopes (run : RunStep) (id : BuilderId) : Work Unit := do
  let b ← builder id
  setBuilder id { b with pending := [] }
  b.pending.forM (call run id)

/-- A copy of the query of a builder with its scopes applied. -/
def prepared (run : RunStep) (id : BuilderId) : Work Query := do
  applyScopes run id
  copyOf id

def subQuery (run : RunStep) (id : BuilderId) : Argument → Work Query
  | .builder b => prepared run b
  | .query q => Effect.ofResult q.copy
  | .routine steps => do
    let sub ← spawn id
    runRoutine run sub steps
    prepared run sub
  | a => throw (.malformed (.notASubquery a.typeName))

def standsForQuery : Argument → Bool
  | .builder _ | .query _ | .routine _ => true
  | _ => false

/-! ## Joins from routines -/

/-- A join under construction: its ON condition, once it has one, and its further filters. -/
structure JoinDraft where
  on : Option (Argument × Operator × Argument) := none
  filters : List Filter := []

/-- Whether a connective is AND, in any case. Bytes never are. -/
def isAnd (connective : Argument) : Result Bool :=
  if connective.isBytes then .ok false
  else do return Text.lower (← connective.textBy "lower" Argument.mixed) == "and"

def JoinDraft.step (draft : JoinDraft) (verb : Verb) (args : List (Option Argument)) :
    Result JoinDraft :=
  match verb, args with
  | .on, [some first, some operator, second, some connective] => do
    let (op, second) ← operatorAndValue operator second
    if draft.on.isNone then
      if ← isAnd connective then return { draft with on := some (first, op, second) }
    let f ← Filter.compareColumns first (.word (.operator op)) second connective
    return { draft with filters := draft.filters ++ [f] }
  | .filter, [some column, some operator, value, some connective] => do
    let (op, v) ← operatorAndValue operator value
    let f ← Filter.compare column (.word (.operator op)) v connective
    return { draft with filters := draft.filters ++ [f] }
  | _, _ => Verb.misfit "join"

def routineJoin (run : RunStep) (kind : JoinKind) (table : Argument) (steps : Routine) :
    Work Join := do
  let draft ← steps.foldlM (fun (draft : JoinDraft) s => do
    draft.step s.verb (← evalArgs run s.args)) {}
  match draft.on with
  | none => throw (.malformed (.clause (.joinWithoutOn table.toValue)))
  | some (first, op, second) =>
    Join.make (.word (.join kind)) table first (.word (.operator op)) second
      (.tuple (draft.filters.map .filter))

/-! ## Steps -/

def edit (id : BuilderId) (edits : List Edit) : Work Unit := do
  let (q, outcome) := Edit.applyAll edits (← queryOf id)
  setQueryOf id q
  outcome

/-- What a builder's steps need to know of it. -/
def surroundings (id : BuilderId) : Work Surroundings := do
  return { now := (← get).now, defaultPerPage := (← builder id).settings.defaultPerPage }

/-- Does what a verb says with arguments that are evaluated. -/
def perform (run : RunStep) (id : BuilderId) (verb : Verb) (args : List (Option Argument)) :
    Work Unit :=
  match verb, args with
  | .filter, [some (.routine steps), _, _, some connective] => do
    let sub ← spawn id
    runRoutine run sub steps
    let filters := (← queryOf sub).filters
    if filters.isEmpty then return
    edit id [Edit.addFilter (Filter.nested (.tuple (filters.map .filter)) connective)]
  | .filterIn, [some column, some source, connective, negated] => do
    let source ← if standsForQuery source then Argument.query <$> subQuery run id source
      else pure source
    edit id (← Verb.edits (← surroundings id) .filterIn
      [some column, some source, connective, negated])
  | .filterExists, [some source, connective, negated] => do
    let q ← subQuery run id source
    edit id (← Verb.edits (← surroundings id) .filterExists
      [some (.query q), connective, negated])
  | .union, [some source, all] => do
    let q ← subQuery run id source
    edit id (← Verb.edits (← surroundings id) .union [some (.query q), all])
  | .join, [some target, some (.routine steps), _, _, some kind] => do
    let kind ← parseJoinKind kind
    let join ← routineJoin run kind target steps
    edit id [Edit.addJoin (.ok join)]
  | .choose negated, [some condition, some fn, otherwise] =>
    if condition.isTruthy != negated then call run id fn
    else match otherwise with
      | none | some (.value .null) => return
      | some fn => call run id fn
  | .tap, [some fn] => call run id fn
  | .scope, fns => do
    let b ← builder id
    setBuilder id { b with pending := b.pending ++ fns.filterMap fun fn => fn }
  | .debug, [some enabled] => do
    let b ← builder id
    setBuilder id { b with debug := enabled.isTruthy }
  | .cancellable, [event, timeout] => do
    let b ← builder id
    setBuilder id { b with
      cancelEvent := event.getD .null
      timeout := timeout.getD .null }
  | verb, args => do edit id (← Verb.edits (← surroundings id) verb args)

def step : Nat → BuilderId → Step → Work Unit
  | 0, _, _ => throw (.foreign .runtime "steps are nested too deeply")
  | fuel + 1, id, s => do
    let args ← evalArgs (step fuel) s.args
    perform (step fuel) id s.verb args

/-- The number of steps that a scope runs. -/
def sizeOfScope : Argument → Nat
  | .routine steps => sizeOfSteps steps
  | _ => 0

def fuelFor (w : Workspace) (steps : Nat) : Nat :=
  (w.builders.flatMap Builder.pending).foldr (fun scope n => sizeOfScope scope + n) (steps + 1)

/-! ## Running steps from outside -/

def run (id : BuilderId) (s : Step) : Work Unit := do
  step (fuelFor (← get) s.size) id s

def evaluate (t : Term) : Work Argument := do
  eval (step (fuelFor (← get) t.size)) t

/-- Applies the pending scopes of a builder. -/
def settle (id : BuilderId) : Work Unit := do
  applyScopes (step (fuelFor (← get) 0)) id

/-- The statement of a builder, with its scopes applied. -/
def toSql (id : BuilderId) : Work Statement := do
  settle id
  let b ← builder id
  let s ← Statement.select b.dialect (← queryOf id)
  if b.debug then setBuilder id { b with lastDebug := some s }
  return s

end Workspace

end SqlQuery
