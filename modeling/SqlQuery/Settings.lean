import SqlQuery.Page.Reading

/-!
Settings of a database handle: its dialect, the sizes of pages and batches, and the optional layers
around execution. Every layer is off unless it is asked for.
-/

namespace SqlQuery

/-- The settings that all queries of one database share. -/
structure Settings where
  dialect : String := "mysql"
  debug : Bool := false
  cacheEnabled : Bool := false
  /-- How long a cached result is fresh, in seconds. -/
  cacheTtl : Double := .ofInt 300
  /-- The time between two evictions of stale results, in seconds. -/
  cacheSweepInterval : Double := .ofInt 60
  /-- How many statements may run at once. -/
  maxConcurrency : Option Int := none
  defaultPerPage : Int := 15
  defaultChunkSize : Int := 1000
  queryLogEnabled : Bool := false
  queryLogSize : Int := 1000
  /-- From how many seconds on a statement is slow. -/
  slowQueryThreshold : Double := .ofInt 1
  deriving Repr

namespace Settings

/-- The dialects that settings can name. -/
def dialects : List String := ["mysql", "postgres"]

def readDialect : Argument → Read String
  | .value (.text s) => if dialects.contains s then .ok s else .error (.literal dialects)
  | _ => .error (.literal dialects)

/-- Whether a double is positive. -/
def isPositive : Double → Bool
  | .nan => false
  | .infinite negative => !negative
  | .finite negative m _ => !negative && m != 0

/-- Whether a double is zero or positive. -/
def isNonNegative : Double → Bool
  | .nan => false
  | .infinite negative => !negative
  | .finite negative m _ => !negative || m == 0

def readPositive (a : Argument) : Read Double := do
  let d ← a.readDouble
  if isPositive d then .ok d else .error (.greaterThan 0)

def readNonNegative (a : Argument) : Read Double := do
  let d ← a.readDouble
  if isNonNegative d then .ok d else .error (.greaterThanEqual 0)

open Reader

def ofFields (fields : Fields) : Result (Checked Settings) :=
  let default : Settings := {}
  Reader.complete .ok do
    let dialect ← field fields "dialect" default.dialect readDialect
    let debug ← field fields "debug" false Argument.readBool
    let cacheEnabled ← field fields "cache_enabled" false Argument.readBool
    let cacheTtl ← field fields "cache_ttl" default.cacheTtl readPositive
    let cacheSweepInterval ←
      field fields "cache_sweep_interval" default.cacheSweepInterval readPositive
    let maxConcurrency ←
      field fields "max_concurrency" none (Argument.readOption (readAtLeast 1))
    let defaultPerPage ← field fields "default_per_page" default.defaultPerPage (readAtLeast 1)
    let defaultChunkSize ←
      field fields "default_chunk_size" default.defaultChunkSize (readAtLeast 1)
    let queryLogEnabled ← field fields "query_log_enabled" false Argument.readBool
    let queryLogSize ← field fields "query_log_size" default.queryLogSize (readAtLeast 1)
    let slowQueryThreshold ←
      field fields "slow_query_threshold" default.slowQueryThreshold readNonNegative
    closed fields ["dialect", "debug", "cache_enabled", "cache_ttl", "cache_sweep_interval",
      "max_concurrency", "default_per_page", "default_chunk_size", "query_log_enabled",
      "query_log_size", "slow_query_threshold"]
    return { dialect, debug, cacheEnabled, cacheTtl, cacheSweepInterval, maxConcurrency,
             defaultPerPage, defaultChunkSize, queryLogEnabled, queryLogSize,
             slowQueryThreshold }

def describe (fields : Fields) : Result Settings :=
  Checked.toResult (ofFields fields)

/-- The name of the dialect to use: the one that is asked for, or else that of the settings. -/
def dialectOr (s : Settings) (asked : Option Value) : Value :=
  (asked.filter Value.isTruthy).getD (.text s.dialect)

end Settings

/-! ## Settings step by step -/

/-- One step of putting settings together: fields and what they are set to. -/
abbrev SettingsStep := Fields

/-- Sets a field: in place if it is there, else at the end. -/
def setField : Fields → String → Argument → Fields
  | [], k, a => [(k, a)]
  | (k', a') :: rest, k, a =>
    if k' = k then (k', a) :: rest else (k', a') :: setField rest k a

/-- The settings that steps put together. The first option that does not fit is reported. -/
def Settings.build (dialect : Argument) (steps : List SettingsStep) : Result Settings := do
  let fields := steps.flatten.foldl (fun acc (k, a) => setField acc k a) [("dialect", dialect)]
  match ← ofFields fields with
  | .ok settings => return settings
  | .error [] => return {}
  | .error (fault :: _) =>
    .error (.configuration (.option fault.location fault.kind.message))

end SqlQuery
