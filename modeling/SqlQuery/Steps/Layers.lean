import SqlQuery.Layer.Cache
import SqlQuery.Layer.Waiting
import SqlQuery.Layer.QueryLog
import SqlQuery.Steps.Basic

/-!
The layers around execution, step by step: a cache with a clock that is set by hand, a limiter, and
a log.
-/

namespace SqlQuery

/-! ## Cache -/

structure ClockedCache where
  cache : Cache Quantity
  now : Quantity

namespace ClockedCache

/-- The time between two settings of the clock, or the time until an entry is stale. -/
def quantityOf (v : Value) : Quantity :=
  (Quantity.ofValue? v).getD (.int 0)

def markFirst : List Row → List Row
  | [] => []
  | row :: rest => Row.set row "mutated" (.bool true) :: rest

def change (f : Cache Quantity → Cache Quantity) : StateM ClockedCache Shown := do
  modify fun c => { c with cache := f c.cache }
  return .of .null

/-- Looks rows up and shows what `mark` makes of them. -/
def look (key : String) (mark : List Row → List Row) : StateM ClockedCache Shown := do
  let c ← get
  let (rows, cache) := c.cache.getKey c.now key
  set { c with cache }
  return .of ((rows.map fun rows => Answer.rows (mark rows)).getD .null)

/-- The steps on a statement's entry. -/
def onEntry (name : String) (call : Call Term) (key : String) : StateM ClockedCache Shown := do
  match name with
  | "get" => look key id
  | "get_mutate" => look key markFirst
  | "set" =>
    let now := (← get).now
    match call.rowsAt 2 with
    | .ok rows => change fun c => c.setKey now key rows
    | .error e => return .failed e
  | _ => change fun c => c.deleteKey key

def step : Stepper ClockedCache := fun name call => do
  match name with
  | "advance" =>
    modify fun c => { c with now := c.now + quantityOf (call.dataAt 0) }
    return .of .null
  | "clear" => change Cache.clear
  | "sweep" =>
    let c ← get
    let (removed, cache) := c.cache.sweep c.now
    set { c with cache }
    return .of (.int removed)
  | "stats" => return .of (.ofCache (← get).cache)
  | "get" | "get_mutate" | "set" | "delete" =>
    match call.valuesAt 1 with
    | .ok bindings => onEntry name call (digestOf (.list [call.dataAt 0, .list bindings]))
    | .error e => return .failed e
  | name => return .unknownStep name

end ClockedCache

/-! ## Limiter -/

/-- What can be asked of a limiter: a slot, or a block that holds a slot while it runs. -/
inductive SlotCall where
  | acquire (wait : Wait)
  | release
  | enter (wait : Wait)
  | leave

/-- A limiter and the number of blocks that were entered and not yet left. -/
structure HeldLimiter where
  limiter : Limiter
  held : Nat := 0

namespace HeldLimiter

/-- How a step waits for a slot. -/
def waitOf (call : Call Term) : Wait :=
  let timeout := ((call.operand? 0 "timeout").map fun t => Argument.value t.data).getD .null
  match call.operand? 1 "cancel_event" with
  | some (.event isSet) => .of timeout .event isSet
  | some t => .of timeout (.value t.data) false
  | none => .of timeout .null false

def take (wait : Wait) : StateM HeldLimiter (Result Unit) := do
  let l ← get
  match l.limiter.acquire wait with
  | .ok limiter =>
    set { l with limiter }
    return .ok ()
  | .error e => return .error e

def give : StateM HeldLimiter (Result Unit) := do
  let l ← get
  let (limiter, outcome) := l.limiter.release
  set { l with limiter }
  return outcome

def perform : SlotCall → StateM HeldLimiter (Result Unit)
  | .acquire wait => take wait
  | .release => give
  | .enter wait => do
    let outcome ← take wait
    if outcome.isOk then modify fun l => { l with held := l.held + 1 }
    return outcome
  | .leave => do
    if (← get).held = 0 then return .error (.foreign .index "pop from empty list")
    modify fun l => { l with held := l.held - 1 }
    give

/-- What a step asks for, by its name. -/
def callOf? (name : String) (call : Call Term) : Option SlotCall :=
  match name with
  | "acquire" => some (.acquire (waitOf call))
  | "release" => some .release
  | "enter" => some (.enter (waitOf call))
  | "exit" => some .leave
  | _ => none

/-- Does what a step says. -/
def act (name : String) (call : Call Term) : StateM HeldLimiter (Result Unit) :=
  match callOf? name call with
  | some c => perform c
  | none => return .error (.foreign .missingAttribute name)

/-- Every step shows how many slots are in use after it. -/
def step : Stepper HeldLimiter := fun name call => do
  let failure := match ← act name call with
    | .ok () => none
    | .error e => some e
  return { parts := [("in_flight", .int (← get).limiter.inFlight)], failure }

end HeldLimiter

/-! ## Log -/

namespace QueryLog

/-- An empty log by its capacity, which is null if there is none, and its threshold. -/
def ofOperands (capacity slowThreshold : Option Value) : Result QueryLog := do
  let slowThreshold := slowThreshold.getD ({} : QueryLog).slowThreshold
  match capacity with
  | none => return { slowThreshold }
  | some .null => return { capacity := none, slowThreshold }
  | some (.int n) => make n slowThreshold
  | some (.bool b) => make (if b then 1 else 0) slowThreshold
  | some _ => .error (.foreign .type "an integer is required")

def step : Stepper QueryLog := fun name call => do
  match name with
  | "record" =>
    match call.valuesAt 1 with
    | .error e => return .failed e
    | .ok bindings =>
      let e : LogEntry :=
        { sql := call.dataAt 0, bindings, duration := call.dataAt 2,
          error := (call.errorAt? 3).map Error.inspect }
      modify fun log => log.record e
      return .ofResult (fun _ => .value e.toValue) ((← get).isSlow e)
  | "entries" => return .of (.list LogEntry.toValue (← get).entries)
  | "slow_queries" => return .ofResult (.list LogEntry.toValue) (← get).slowQueries
  | "clear" =>
    modify QueryLog.clear
    return .of .null
  | "stats" => return .ofResult .logStats (← get).stats
  | name => return .unknownStep name

end QueryLog

end SqlQuery
