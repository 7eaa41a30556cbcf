import SqlQuery.Argument.Arithmetic

/-!
A log of the latest executions, of limited length.

Durations and the threshold of slow executions are numbers of any kind. What is recorded as a
duration is not looked at until durations are compared or added up, so only that can fail.
-/

namespace SqlQuery

/-- One execution. -/
structure LogEntry where
  sql : Value
  bindings : List Value
  /-- How long it took, in seconds. -/
  duration : Value
  /-- The failure, if it failed. -/
  error : Option String
  deriving Repr

/-- The latest executions, oldest first. -/
structure QueryLog where
  /-- How many executions are kept; without it all are. -/
  capacity : Option Nat := some 1000
  /-- From how many seconds on an execution is slow. -/
  slowThreshold : Value := .double (.ofInt 1)
  entries : List LogEntry := []
  deriving Repr

/-- Executions in numbers. -/
structure LogStats where
  total : Nat
  slow : Nat
  failed : Nat
  averageDuration : Value
  maxDuration : Value
  slowest : Option LogEntry
  deriving Repr

namespace QueryLog

/-- An empty log that keeps at most a number of executions. -/
def make (capacity : Int) (slowThreshold : Value) : Result QueryLog :=
  if capacity < 0 then .error (.foreign .value "maxlen must be non-negative")
  else .ok { capacity := some capacity.toNat, slowThreshold }

/-- Adds an execution and drops the oldest ones beyond the capacity. -/
def record (log : QueryLog) (e : LogEntry) : QueryLog :=
  let entries := log.entries ++ [e]
  { log with entries := match log.capacity with
      | some n => entries.drop (entries.length - n)
      | none => entries }

/-- Adds an execution by its parts. -/
def recordExecution (log : QueryLog) (sql : String) (bindings : List Value)
    (duration : Double) (error : Option Error) : QueryLog :=
  log.record { sql := .text sql, bindings, duration := .double duration,
               error := error.map Error.inspect }

/-- Whether an execution took as long as the threshold. -/
def isSlow (log : QueryLog) (e : LogEntry) : Result Bool :=
  (Argument.value e.duration).isAtLeast (.value log.slowThreshold)

def slowQueries (log : QueryLog) : Result (List LogEntry) :=
  log.entries.filterM log.isSlow

def clear (log : QueryLog) : QueryLog :=
  { log with entries := [] }

/-- The one of two executions that took longer, the first if both took as long. -/
def slower (best e : LogEntry) : Result LogEntry := do
  return if ← (Argument.value e.duration).isAbove (.value best.duration) then e else best

/-- The sum of the durations of executions. -/
def totalDuration (entries : List LogEntry) : Result Argument :=
  entries.foldlM (fun sum e => sum.plus (.value e.duration)) (.ofInt 0)

def stats (log : QueryLog) : Result LogStats :=
  match log.entries with
  | [] => .ok {
      total := 0, slow := 0, failed := 0, averageDuration := .double (.zero false),
      maxDuration := .double (.zero false), slowest := none }
  | e :: es => do
    let slowest ← es.foldlM slower e
    let slow := (← log.slowQueries).length
    let average ← (← totalDuration (e :: es)).dividedBy (.ofInt (es.length + 1))
    return {
      total := es.length + 1, slow
      failed := ((e :: es).filter (·.error.isSome)).length
      averageDuration := average.toValue
      maxDuration := slowest.duration, slowest := some slowest }

end QueryLog

end SqlQuery
