import SqlQuery.Workspace
import SqlQuery.Proofs.GrowingQueries
import SqlQuery.Proofs.Recording
import Mathlib.Algebra.Order.BigOperators.Group.List
import Mathlib.Algebra.Order.Group.Multiset

/-!
# Books on scopes

Steps run as they do in a workspace, and a book beside it says what becomes of the scopes: which
builder each was registered on, and whether it ran, from which workspace to which, or was lost
because it or one before it failed. The book also knows which builders were made for groups, each
time that the pending scopes of a builder were all applied, and each copy of a builder's query for a
clause.

Nothing looks at the book. That the steps here do what the steps of a workspace do, and what can be
read off the book, is `Booking.follows_step`.
-/

namespace SqlQuery

/-- What becomes of a scope. -/
inductive Fate where
  | registered
  /-- It was run to its end, from a workspace to another. -/
  | ran (before after : Workspace)
  /-- It was taken up and did not come to its end. -/
  | lost

structure ScopeEvent where
  builder : BuilderId
  scope : Argument
  fate : Fate

/-- The pending scopes of a builder were applied, from a workspace to another. -/
structure Settlement where
  builder : BuilderId
  before : Workspace
  after : Workspace

/-- The query of a builder as it was copied for a clause. -/
structure Copied where
  builder : BuilderId
  query : Query

structure ScopeBook where
  events : List ScopeEvent := []
  settlements : List Settlement := []
  copies : List Copied := []
  /-- The builders that were made for groups. -/
  groups : List BuilderId := []

namespace ScopeBook

def append (b b' : ScopeBook) : ScopeBook where
  events := b.events ++ b'.events
  settlements := b.settlements ++ b'.settlements
  copies := b.copies ++ b'.copies
  groups := b.groups ++ b'.groups

instance : Append ScopeBook := ⟨append⟩

/-- Scopes of a builder that met with one fate. -/
def entries (id : BuilderId) (fate : Fate) (scopes : List Argument) : ScopeBook where
  events := scopes.map fun scope => ⟨id, scope, fate⟩

end ScopeBook

/-- A workspace and a book on its scopes. -/
abbrev Booked := Recorded ScopeBook Workspace

abbrev Booking (α : Type) := Effect Booked α

namespace Booking

open Effect Recorded Workspace

def note (news : ScopeBook) : Booking Unit :=
  write fun book => book ++ news

/-! ## Terms -/

abbrev RunStep := BuilderId → Step → Booking Unit

def runRoutine (run : RunStep) (id : BuilderId) (steps : Routine) : Booking Unit :=
  steps.forM (run id)

def make (run : RunStep) (table dialect : Option Value) (steps : Routine) : Booking BuilderId := do
  let id ← act (detached table dialect)
  runRoutine run id steps
  return id

mutual

def eval (run : RunStep) : Term → Booking Argument
  | .value v => return .value v
  | .list items => return .list (← evalAll run items)
  | .tuple items => return .tuple (← evalAll run items)
  | .stream items => return .stream (← evalAll run items)
  | .mapping entries => return .mapping (← evalEntries run entries)
  | .word w => return .word w
  | .described model fields => do describe model (← evalEntries run fields)
  | .routine steps => return .routine steps
  | .made table dialect steps => return .builder (← make run table dialect steps)
  | .madeQuery table dialect steps => do
    return .query (← act (queryOf (← make run table dialect steps)))
  | .named name => return .builder (← act (lookup name))
  | .namedQuery name => do return .query (← act (queryOf (← act (lookup name))))
  | .event isSet => do
    act (modify fun w => { w with eventIsSet := isSet })
    return .event
  | .callback replies => return .callback replies

def evalAll (run : RunStep) : List Term → Booking (List Argument)
  | [] => return []
  | t :: ts => return (← eval run t) :: (← evalAll run ts)

def evalEntries (run : RunStep) : List (String × Term) → Booking (List (String × Argument))
  | [] => return []
  | (k, t) :: es => return (k, ← eval run t) :: (← evalEntries run es)

end

def evalArgs (run : RunStep) : List (Option Term) → Booking (List (Option Argument))
  | [] => return []
  | none :: ts => return none :: (← evalArgs run ts)
  | some t :: ts => return some (← eval run t) :: (← evalArgs run ts)

/-! ## Scopes and sub-queries -/

def call (run : RunStep) (id : BuilderId) : Argument → Booking Unit
  | .routine steps => runRoutine run id steps
  | a => throw (notCallable a)

/-- Runs scopes of a builder one after the other. With one that fails all after it are lost. -/
def drain (run : RunStep) (id : BuilderId) : List Argument → Booking Unit
  | [] => return
  | scope :: rest => do
    let before := (← get).state
    match ← attempt (call run id scope) with
    | .ok () =>
      note (.entries id (.ran before (← get).state) [scope])
      drain run id rest
    | .error e =>
      note (.entries id .lost (scope :: rest))
      throw e

def applyScopes (run : RunStep) (id : BuilderId) : Booking Unit := do
  let before := (← get).state
  let b ← act (builder id)
  act (setBuilder id { b with pending := [] })
  drain run id b.pending
  note { settlements := [⟨id, before, (← get).state⟩] }

def prepared (run : RunStep) (id : BuilderId) : Booking Query := do
  applyScopes run id
  let q ← act (copyOf id)
  note { copies := [⟨id, q⟩] }
  return q

def subQuery (run : RunStep) (id : BuilderId) : Argument → Booking Query
  | .builder b => prepared run b
  | .query q => ofResult q.copy
  | .routine steps => do
    let sub ← act (spawn id)
    runRoutine run sub steps
    prepared run sub
  | a => throw (.malformed (.notASubquery a.typeName))

/-! ## Steps -/

def spawnGroup (id : BuilderId) : Booking BuilderId := do
  let sub ← act (spawn id)
  note { groups := [sub] }
  return sub

def register (id : BuilderId) (scopes : List Argument) : Booking Unit := do
  act do
    let b ← builder id
    setBuilder id { b with pending := b.pending ++ scopes }
  note (.entries id .registered scopes)

def routineJoin (run : RunStep) (kind : JoinKind) (table : Argument) (steps : Routine) :
    Booking Join := do
  let draft ← steps.foldlM (fun (draft : JoinDraft) s => do
    draft.step s.verb (← evalArgs run s.args)) {}
  match draft.on with
  | none => throw (.malformed (.clause (.joinWithoutOn table.toValue)))
  | some (first, op, second) =>
    Join.make (.word (.join kind)) table first (.word (.operator op)) second
      (.tuple (draft.filters.map .filter))

def perform (run : RunStep) (id : BuilderId) (verb : Verb) (args : List (Option Argument)) :
    Booking Unit :=
  match verb, args with
  | .filter, [some (.routine steps), _, _, some connective] => do
    let sub ← spawnGroup id
    runRoutine run sub steps
    let filters := (← act (queryOf sub)).filters
    if filters.isEmpty then return
    act (edit id [Edit.addFilter (Filter.nested (.tuple (filters.map .filter)) connective)])
  | .filterIn, [some column, some source, connective, negated] => do
    let source ← if standsForQuery source then Argument.query <$> subQuery run id source
      else pure source
    act do edit id (← Verb.edits (← surroundings id) .filterIn
      [some column, some source, connective, negated])
  | .filterExists, [some source, connective, negated] => do
    let q ← subQuery run id source
    act do edit id (← Verb.edits (← surroundings id) .filterExists
      [some (.query q), connective, negated])
  | .union, [some source, all] => do
    let q ← subQuery run id source
    act do edit id (← Verb.edits (← surroundings id) .union [some (.query q), all])
  | .join, [some target, some (.routine steps), _, _, some kind] => do
    let kind ← parseJoinKind kind
    let join ← routineJoin run kind target steps
    act (edit id [Edit.addJoin (.ok join)])
  | .choose negated, [some condition, some fn, otherwise] =>
    if condition.isTruthy != negated then call run id fn
    else match otherwise with
      | none | some (.value .null) => return
      | some fn => call run id fn
  | .tap, [some fn] => call run id fn
  | .scope, fns => register id (fns.filterMap fun fn => fn)
  | .debug, [some enabled] => act do
    let b ← builder id
    setBuilder id { b with debug := enabled.isTruthy }
  | .cancellable, [event, timeout] => act do
    let b ← builder id
    setBuilder id { b with
      cancelEvent := event.getD .null
      timeout := timeout.getD .null }
  | verb, args => act do edit id (← Verb.edits (← surroundings id) verb args)

def step : Nat → BuilderId → Step → Booking Unit
  | 0, _, _ => throw (.foreign .runtime "steps are nested too deeply")
  | fuel + 1, id, s => do
    let args ← evalArgs (step fuel) s.args
    perform (step fuel) id s.verb args

end Booking

end SqlQuery
