import SqlQuery.Session.Command
import SqlQuery.Steps.Basic

/-!
Commands by name. The names of commands that are no methods of a builder begin with `@`.
-/

namespace SqlQuery

namespace Command

/-- The method of a builder by its name. -/
def ofMethod? (name : String) (c : Call Term) : Option Command :=
  match Operation.forms.lookup name with
  | some (approach, form) => some (.operate form approach c)
  | none => (Step.ofCall? name c).map .build

def ofCall? (name : String) (c : Call Term) : Option Command :=
  match name with
  | "@use" => some (.use (c.textAt 0))
  | "@clone" => some (.clone (c.textAt 0))
  | "@sql" => some .sql
  | "get_bindings" => some .values
  | "@state" => some .query
  | "@dialect" => some .dialect
  | "@debug_info" => some .lastDebug
  | "@iter" => (Supply.forms.lookup (c.textAt 1)).map fun form =>
    .openRows (c.textAt 0) form (c.drop 2)
  | "@next" => some (.pull (c.textAt 0) (c.countAt? 1))
  | "@close" => some (.close (c.textAt 0))
  | "@raw_query" => some (.rawQuery (c.textAt 0) (c.drop 1).positional)
  | "@raw_execute" => some (.rawExecute (c.textAt 0) (c.drop 1).positional)
  | "@aggregate" => some (.aggregate c)
  | "@log" => some .log
  | "@log_stats" => some .logStats
  | "@cache_stats" => some .cacheStats
  | "@cache_clear" => some .clearCache
  | "@limiter" => some (if c.textAt 0 == "acquire" then .takeSlot else .giveSlot)
  | "@in_flight" => some .inFlight
  | "@layers" => some .layers
  | name => ofMethod? name c

end Command

end SqlQuery
