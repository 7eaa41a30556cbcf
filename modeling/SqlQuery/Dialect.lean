import SqlQuery.Error
import SqlQuery.Value.Json

/-!
Dialects: what differs between databases in the SQL of one description.

A dialect is a record. A feature that some databases lack is optional in it, and asking for a
feature that a dialect lacks is an error rather than SQL that the database would not understand.
Where a feature takes a bound value, the dialect gives the text before and after the value's
placeholder and never sees the value.
-/

namespace SqlQuery

/-- The text around a placeholder. -/
structure Around where
  before : String
  after : String
  deriving DecidableEq, Repr

def Around.fill (a : Around) (marker : String) : String :=
  a.before ++ marker ++ a.after

/-- What an upsert does on a conflict. -/
structure ConflictRule where
  /-- The columns that are inserted. -/
  columns : List String
  /-- The columns whose repetition is the conflict. -/
  target : List String
  /-- The columns to overwrite, if the caller named them. -/
  overwrite : Option (List String)
  action : ConflictAction
  deriving Repr

/-- A dialect of SQL. -/
structure Dialect where
  name : String
  /-- The placeholder of a value, given its position from one. -/
  placeholder : Nat → String
  /-- How comparisons of the LIKE family are written. -/
  like : Comparison → String := Comparison.text
  fullJoin : Option String := none
  jsonContains : Option (String → Around) := none
  jsonLength : Option (String → String) := none
  jsonPath : Option (String → String → String) := none
  jsonSet : Option (String → String → Around) := none
  /-- Whether the value of a JSON update is bound as JSON text. -/
  bindsJsonText : Bool := false
  jsonRemove : Option (String → String → String) := none
  fullText : Option (List String → Around) := none
  datePart : Option (String → DatePart → String) := none
  /-- Whether an upsert lists the columns of its conflict target. -/
  listsTarget : Bool := false
  /-- The clause that makes an INSERT an upsert. -/
  upsert : Option (ConflictRule → Result String) := none
  /-- The words before the table and after the rows of an insert that passes over conflicts. -/
  insertOrIgnore : Option (String × String) := none
  replaceKeyword : Option String := none
  /-- Whether an INSERT can answer with generated keys. -/
  supportsReturning : Bool := false

namespace Dialect

def require (d : Dialect) (name : String) (feature : Option α) : Result α :=
  match feature with
  | some f => .ok f
  | none => .error (.unsupported name d.name none)

/-- An operator in the LIKE family's spelling. -/
def likeText (d : Dialect) : Operator → String
  | .compare c => d.like c
  | op => op.text

/-- Whether a comparison belongs to the LIKE family. -/
def isLike : Comparison → Bool
  | .like | .notLike | .ilike | .notIlike => true
  | _ => false

def comparisonText (d : Dialect) (c : Comparison) : String :=
  if isLike c then d.like c else c.text

def operatorText (d : Dialect) : Operator → String
  | .compare c => d.comparisonText c
  | op => op.text

def joinKeyword (d : Dialect) : JoinKind → Result String
  | .full => d.require "FULL JOIN" d.fullJoin
  | kind => .ok (kind.text ++ " JOIN")

def requireJsonContains (d : Dialect) (column : String) : Result Around :=
  (d.require "JSON contains" d.jsonContains).map (· column)

def requireJsonLength (d : Dialect) (column : String) : Result String :=
  (d.require "JSON length" d.jsonLength).map (· column)

def requireJsonPath (d : Dialect) (column path : String) : Result String :=
  (d.require "JSON path" d.jsonPath).map (· column path)

def requireJsonSet (d : Dialect) : Result (String → String → Around) :=
  d.require "JSON update" d.jsonSet

def requireJsonRemove (d : Dialect) : Result (String → String → String) :=
  d.require "JSON remove" d.jsonRemove

def requireFullText (d : Dialect) (columns : List String) : Result Around :=
  (d.require "full-text search" d.fullText).map (· columns)

def requireDatePart (d : Dialect) (column : String) (part : DatePart) : Result String :=
  (d.require (part.text ++ " comparison") d.datePart).map (· column part)

def requireUpsert (d : Dialect) (rule : ConflictRule) : Result String :=
  (d.require "upsert" d.upsert).bind (· rule)

def requireInsertOrIgnore (d : Dialect) : Result (String × String) :=
  d.require "insert or ignore" d.insertOrIgnore

def requireReplace (d : Dialect) : Result String :=
  d.require "REPLACE" d.replaceKeyword

def jsonText (v : Value) : Result Value :=
  match v.toJson with
  | .ok s => .ok (.text s)
  | .error typeName =>
    .error (.foreign .type ("Object of type " ++ typeName ++ " is not JSON serializable"))

/-- The value to bind for a containment test: a text is taken as JSON already. -/
def jsonContainsValue : Value → Result Value
  | .text s => .ok (.text s)
  | v => jsonText v

def jsonSetValue (d : Dialect) (v : Value) : Result Value :=
  if d.bindsJsonText then jsonText v else .ok v

end Dialect

end SqlQuery
