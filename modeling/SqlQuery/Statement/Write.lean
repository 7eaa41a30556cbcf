import SqlQuery.Statement.Select

/-!
Statements that change rows.

The rows of one INSERT may have different columns: its column list is the union of theirs, in the
order in which they first occur, and a row binds null for a column that it lacks. UPDATE and DELETE
filter by the same WHERE section as a SELECT; the values that UPDATE sets come before the values of
its filters.
-/

namespace SqlQuery

open Fragment

/-- The columns of all rows, each once, in the order in which they first occur. -/
def unionColumns (rows : List Row) : List String :=
  rows.foldl (fun columns row => row.foldl (fun columns (c, _) =>
    if columns.contains c then columns else columns ++ [c]) columns) []

/-- The columns of an INSERT. There must be one at least. -/
def insertColumns (action : String) (rows : List Row) : Result (List String) :=
  if rows.all (·.isEmpty) then reject (.emptyValues action) else .ok (unionColumns rows)

def namedTable (action : String) : Option String → Result String
  | none | some "" => reject (.noTable action)
  | some t => .ok t

/-- What an INSERT puts into a table: columns, and for each row the values of these columns. The
columns are known before it is known whether every row has values. -/
structure Insertion where
  columns : List String
  rows : Result (List (List Value))

/-- Rows with the columns that they have together. -/
def Insertion.ofRows (action : String) (rows : List Row) : Result Insertion := do
  let columns ← insertColumns action rows
  return { columns, rows := .ok (rows.map fun row => columns.map row.get) }

def rowFragment (values : List Value) : Fragment :=
  text "(" ++ slots values ++ text ")"

/-- An INSERT that opens with `keyword`. -/
def insertFragment (keyword action : String) (table : Option String) (x : Result Insertion) :
    Result Fragment := do
  let x ← x
  let table ← namedTable action table
  let rows ← x.rows
  return text (keyword ++ " " ++ table ++ " (" ++ ", ".intercalate x.columns ++ ") VALUES ")
    ++ intercalate ", " (rows.map rowFragment)

def assignments (values : Row) : List Fragment :=
  values.map fun (c, v) => text (c ++ " = ") ++ slot v

def updateFragment (d : Dialect) (q : Query) (sets : List Fragment) : Result Fragment := do
  let table ← namedTable "update" q.table
  return text ("UPDATE " ++ table ++ " SET ") ++ intercalate ", " sets ++ (← q.whereFragment d)

namespace Statement

/-- Inserts what is given. A dialect that cannot answer with a generated key ignores
`returning`. -/
def insertOf (d : Dialect) (table : Option String) (x : Result Insertion)
    (returning : Option String := none) : Result Statement := do
  let f ← insertFragment "INSERT INTO" "insert" table x
  let key := match returning with
    | none | some "" => ""
    | some column => if d.supportsReturning then " RETURNING " ++ column else ""
  return ofFragment d (f ++ text key)

def insertBatch (d : Dialect) (table : Option String) (rows : List Row)
    (returning : Option String := none) : Result Statement :=
  insertOf d table (Insertion.ofRows "insert" rows) returning

def insert (d : Dialect) (table : Option String) (values : Row)
    (returning : Option String := none) : Result Statement :=
  if values.isEmpty then reject (.emptyValues "insert")
  else insertBatch d table [values] returning

/-- Inserts what is given, or does on a conflict what the rule says, which looks at the columns
first. -/
def upsertOf (d : Dialect) (table : Option String) (columns : Result (List String))
    (rule : List String → Result ConflictRule) (x : Result Insertion) : Result Statement := do
  let rule ← rule (← columns)
  let tail ← d.requireUpsert rule
  let f ← insertFragment "INSERT INTO" "upsert" table x
  return ofFragment d (f ++ text (" " ++ tail))

/-- Inserts rows, or overwrites columns of those that are there already. -/
def upsert (d : Dialect) (table : Option String) (rows : List Row) (target : List String)
    (overwrite : Option (List String)) (action : ConflictAction) : Result Statement :=
  upsertOf d table (insertColumns "upsert" rows)
    (fun columns => .ok { columns, target, overwrite, action }) (Insertion.ofRows "upsert" rows)

/-- Inserts what is given and passes over what is there already. -/
def insertOrIgnoreOf (d : Dialect) (table : Option String) (x : Result Insertion) :
    Result Statement := do
  let (keyword, tail) ← d.requireInsertOrIgnore
  let f ← insertFragment keyword "insert" table x
  return ofFragment d (if tail.isEmpty then f else f ++ text (" " ++ tail))

/-- Inserts rows and passes over those that are there already. -/
def insertOrIgnore (d : Dialect) (table : Option String) (rows : List Row) : Result Statement :=
  insertOrIgnoreOf d table (Insertion.ofRows "insert" rows)

/-- Inserts what is given in place of what is there already. -/
def replaceOf (d : Dialect) (table : Option String) (x : Result Insertion) :
    Result Statement := do
  let keyword ← d.requireReplace
  return ofFragment d (← insertFragment keyword "replace" table x)

/-- Inserts rows in place of those that are there already. -/
def replace (d : Dialect) (table : Option String) (rows : List Row) : Result Statement :=
  replaceOf d table (Insertion.ofRows "replace" rows)

/-- Sets columns of the rows that a query filters. -/
def update (d : Dialect) (q : Query) (values : Row) : Result Statement := do
  if values.isEmpty then reject (.emptyValues "update")
  return ofFragment d (← updateFragment d q (assignments values))

/-- Adds an amount to a column, and sets others. -/
def increment (d : Dialect) (q : Query) (column : String) (amount : Value) (extra : Row) :
    Result Statement := do
  let added := text (column ++ " = " ++ column ++ " + ") ++ slot amount
  return ofFragment d (← updateFragment d q (added :: assignments extra))

/-- Sets what stands at a path of a JSON column. The path is looked at after the value. -/
def jsonUpdateAt (d : Dialect) (q : Query) (column : String) (path : Result String) (v : Value) :
    Result Statement := do
  let v ← d.jsonSetValue v
  let write ← d.requireJsonSet
  let around := write column (← path)
  return ofFragment d (← updateFragment d q [text (column ++ " = ") ++ around.fragment v])

def jsonUpdate (d : Dialect) (q : Query) (column path : String) (v : Value) : Result Statement :=
  jsonUpdateAt d q column (.ok path) v

/-- Removes what stands at a path of a JSON column, if the dialect can. -/
def jsonRemoveAt (d : Dialect) (q : Query) (column : String) (path : Result String) :
    Result Statement := do
  let write ← d.requireJsonRemove
  let expression := write column (← path)
  return ofFragment d (← updateFragment d q [text (column ++ " = " ++ expression)])

def jsonRemove (d : Dialect) (q : Query) (column path : String) : Result Statement :=
  jsonRemoveAt d q column (.ok path)

def delete (d : Dialect) (q : Query) : Result Statement := do
  let table ← namedTable "delete" q.table
  return ofFragment d (text ("DELETE FROM " ++ table) ++ (← q.whereFragment d))

end Statement

end SqlQuery
