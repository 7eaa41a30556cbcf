import SqlQuery.Dialect.MySql
import SqlQuery.Dialect.Postgres
import SqlQuery.Text.Case

/-!
The dialects that can be asked for by name. Names are compared in lower case, and a name that is
registered again stands for its new dialect.
-/

namespace SqlQuery

/-- Registered dialects under their names in lower case. -/
abbrev Registry := List (String × Dialect)

namespace Registry

/-- The dialects that are there from the start. -/
def initial : Registry :=
  [("mysql", .mysql), ("mariadb", .mysql), ("postgres", .postgres), ("postgresql", .postgres)]

def register (registry : Registry) (name : String) (dialect : Dialect) : Registry :=
  registry.filter (·.1 != Text.lower name) ++ [(Text.lower name, dialect)]

def names (registry : Registry) : List String :=
  (registry.map (·.1)).mergeSort fun a b => !(b < a)

def find (registry : Registry) (name : String) : Result Dialect :=
  match registry.lookup (Text.lower name) with
  | some d => .ok d
  | none => .error (.unknownDialect name registry.names)

/-- The dialect that a value names. Bytes name none, and other values have no name. -/
def findNamed (registry : Registry) (v : Value) : Result Dialect :=
  match v with
  | .text name => registry.find name
  | .bytes .fixed _ => .error (.unknownDialect v.plainText registry.names)
  | .bytes .growable _ =>
    .error (.foreign .type ("unhashable type: '" ++ v.qualifiedTypeName ++ "'"))
  | v => .error (.foreign .missingAttribute
      ("'" ++ v.qualifiedTypeName ++ "' object has no attribute 'lower'"))

end Registry

end SqlQuery
