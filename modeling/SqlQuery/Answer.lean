import SqlQuery.Clause
import SqlQuery.Collection
import SqlQuery.Execution.Executor
import SqlQuery.Layer.Cache
import SqlQuery.Layer.QueryLog
import SqlQuery.Page
import SqlQuery.Statement

/-!
Answers: what operations and steps give back.
-/

namespace SqlQuery

/-- What is given back. -/
inductive Answer where
  | value (v : Value)
  | executed (r : ExecResult)
  | page (p : Page)
  | cursorPage (p : CursorPage)
  | statement (s : Statement)
  | query (q : Query)
  /-- Values under keys of any type. -/
  | keyed (entries : List (Value × Value))
  /-- A cache in numbers: entries, hits, misses, and entries that were swept away. -/
  | cacheCounts (entries hits misses expired : Nat)
  | logStats (s : LogStats)

/-- A number of named answers, and the failure after them if there is one. -/
structure Shown where
  parts : List (String × Answer) := []
  failure : Option Error := none

def LogEntry.toValue (e : LogEntry) : Value :=
  .list [e.sql, .list e.bindings, e.duration, (e.error.map Value.text).getD .null]

namespace Answer

def null : Answer := .value .null

def bool (b : Bool) : Answer := .value (.bool b)

def int (n : Int) : Answer := .value (.int n)

def text (s : String) : Answer := .value (.text s)

def rows (rows : List Row) : Answer :=
  .value (.list (rows.map .mapping))

/-- A row, or null if there is none. -/
def row (row : Option Row) : Answer :=
  .value ((row.map Value.mapping).getD .null)

def list {α : Type} (f : α → Value) (xs : List α) : Answer :=
  .value (.list (xs.map f))

def ofCache {τ : Type} (c : Cache τ) : Answer :=
  .cacheCounts c.entries.length c.hits c.misses c.expired

end Answer

namespace Shown

def of (a : Answer) : Shown :=
  { parts := [("v", a)] }

def failed (e : Error) : Shown :=
  { failure := some e }

def ofResult {α : Type} (answer : α → Answer) (r : Result α) : Shown :=
  match r with
  | .ok x => of (answer x)
  | .error e => failed e

def also (s : Shown) (name : String) (a : Answer) : Shown :=
  { s with parts := s.parts ++ [(name, a)] }

end Shown

end SqlQuery
