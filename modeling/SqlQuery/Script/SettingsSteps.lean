import SqlQuery.Script.Form
import SqlQuery.Settings

/-!
The steps that put settings together, by name.
-/

namespace SqlQuery.SettingsStep

def seconds (name : String) (n : Int) : Param Argument :=
  optional name (.double (.ofInt n))

def on : Argument := .value (.bool true)

/-- All steps. What is left out takes its default. -/
def forms : List (String × Form SettingsStep) :=
  [("debug", ⟨[optional "enabled" (.bool true)], fun a => .ok [("debug", a 0)]⟩),
   ("cache", ⟨[seconds "ttl" 300, seconds "sweep_interval" 60], fun a =>
     .ok [("cache_enabled", on), ("cache_ttl", a 0), ("cache_sweep_interval", a 1)]⟩),
   ("max_concurrency", .of ["limit"] fun a => .ok [("max_concurrency", a 0)]),
   ("pagination", ⟨[optional "per_page" (.int 15), optional "chunk_size" (.int 1000)], fun a =>
     .ok [("default_per_page", a 0), ("default_chunk_size", a 1)]⟩),
   ("query_log", ⟨[optional "size" (.int 1000), seconds "slow_threshold" 1], fun a =>
     .ok [("query_log_enabled", on), ("query_log_size", a 0), ("slow_query_threshold", a 1)]⟩)]

end SqlQuery.SettingsStep
