/-!
The fixed words of SQL that a query description is made of.

Each kind of word has its text and, where words are read, the list of all of them in the order in
which messages list them.
-/

namespace SqlQuery

/-- Operators that compare a left side with one right side. -/
inductive Comparison where
  | eq
  | ne
  | neAlt
  | gt
  | gte
  | lt
  | lte
  | like
  | notLike
  | ilike
  | notIlike
  deriving DecidableEq, Repr

/-- All operators: the comparisons, and those that take another operand shape. -/
inductive Operator where
  | compare (c : Comparison)
  | isIn
  | notIn
  | between
  | notBetween
  | isNull
  | isNotNull
  | exists
  | notExists
  deriving DecidableEq, Repr

namespace Comparison

def text : Comparison → String
  | eq => "="
  | ne => "!="
  | neAlt => "<>"
  | gt => ">"
  | gte => ">="
  | lt => "<"
  | lte => "<="
  | like => "LIKE"
  | notLike => "NOT LIKE"
  | ilike => "ILIKE"
  | notIlike => "NOT ILIKE"

def all : List Comparison :=
  [eq, ne, neAlt, gt, gte, lt, lte, like, notLike, ilike, notIlike]

/-- The comparison that holds exactly where this one fails. -/
def complement : Comparison → Comparison
  | eq => ne
  | ne => eq
  | neAlt => eq
  | gt => lte
  | gte => lt
  | lt => gte
  | lte => gt
  | like => notLike
  | notLike => like
  | ilike => notIlike
  | notIlike => ilike

end Comparison

namespace Operator

def text : Operator → String
  | compare c => c.text
  | isIn => "IN"
  | notIn => "NOT IN"
  | between => "BETWEEN"
  | notBetween => "NOT BETWEEN"
  | isNull => "IS NULL"
  | isNotNull => "IS NOT NULL"
  | Operator.exists => "EXISTS"
  | notExists => "NOT EXISTS"

def all : List Operator :=
  Comparison.all.map compare ++
    [isIn, notIn, between, notBetween, isNull, isNotNull, Operator.exists, notExists]

def ofText? (s : String) : Option Operator :=
  all.find? (·.text == s)

def comparison? : Operator → Option Comparison
  | compare c => some c
  | _ => none

/-- The filters to use instead of an operator that is no comparison. -/
def hint : Operator → String
  | compare _ => ""
  | isIn | notIn => "; use where_in / where_not_in"
  | between | notBetween => "; use where_between / where_not_between"
  | isNull | isNotNull => "; use where_null / where_not_null"
  | Operator.exists | notExists => "; use where_exists / where_not_exists"

end Operator

/-- The word that joins a condition to the one before it. -/
inductive Connective where
  | and
  | or
  deriving DecidableEq, Repr

def Connective.text : Connective → String
  | .and => "AND"
  | .or => "OR"

def Connective.ofText? (s : String) : Option Connective :=
  [Connective.and, .or].find? (·.text == s)

inductive JoinKind where
  | inner
  | left
  | right
  | cross
  | full
  deriving DecidableEq, Repr

def JoinKind.text : JoinKind → String
  | .inner => "INNER"
  | .left => "LEFT"
  | .right => "RIGHT"
  | .cross => "CROSS"
  | .full => "FULL"

def JoinKind.ofText? (s : String) : Option JoinKind :=
  [JoinKind.inner, .left, .right, .cross, .full].find? (·.text == s)

/-- Sort directions. -/
inductive Direction where
  | asc
  | desc
  deriving DecidableEq, Repr

def Direction.text : Direction → String
  | .asc => "ASC"
  | .desc => "DESC"

def Direction.ofText? (s : String) : Option Direction :=
  [Direction.asc, .desc].find? (·.text == s)

/-- Row locks at the end of a SELECT. -/
inductive LockMode where
  | forUpdate
  | forShare
  | forUpdateNowait
  | forUpdateSkipLocked
  | forShareNowait
  | forShareSkipLocked
  deriving DecidableEq, Repr

namespace LockMode

def text : LockMode → String
  | forUpdate => "FOR UPDATE"
  | forShare => "FOR SHARE"
  | forUpdateNowait => "FOR UPDATE NOWAIT"
  | forUpdateSkipLocked => "FOR UPDATE SKIP LOCKED"
  | forShareNowait => "FOR SHARE NOWAIT"
  | forShareSkipLocked => "FOR SHARE SKIP LOCKED"

def all : List LockMode :=
  [forUpdate, forShare, forUpdateNowait, forUpdateSkipLocked, forShareNowait, forShareSkipLocked]

def ofText? (s : String) : Option LockMode :=
  all.find? (·.text == s)

end LockMode

/-- What an upsert does with a row that is already there. -/
inductive ConflictAction where
  | doNothing
  | doUpdate
  deriving DecidableEq, Repr

def ConflictAction.text : ConflictAction → String
  | .doNothing => "DO NOTHING"
  | .doUpdate => "DO UPDATE"

def ConflictAction.ofText? (s : String) : Option ConflictAction :=
  [ConflictAction.doNothing, .doUpdate].find? (·.text == s)

/-- The parts of a moment that a filter can compare. -/
inductive DatePart where
  | date
  | time
  | day
  | month
  | year
  deriving DecidableEq, Repr

def DatePart.text : DatePart → String
  | .date => "DATE"
  | .time => "TIME"
  | .day => "DAY"
  | .month => "MONTH"
  | .year => "YEAR"

def DatePart.ofText? (s : String) : Option DatePart :=
  [DatePart.date, .time, .day, .month, .year].find? (·.text == s)

/-- Aggregate functions. -/
inductive Aggregate where
  | count
  | sum
  | avg
  | min
  | max
  deriving DecidableEq, Repr

namespace Aggregate

def text : Aggregate → String
  | count => "COUNT"
  | sum => "SUM"
  | avg => "AVG"
  | min => "MIN"
  | max => "MAX"

def all : List Aggregate := [avg, count, max, min, sum]

def ofText? (s : String) : Option Aggregate :=
  all.find? (·.text == s)

end Aggregate

/-- The shapes of a filter. -/
inductive FilterKind where
  | basic
  | between
  | isIn
  | isNull
  | exists
  | nested
  | raw
  | columns
  | date
  | jsonContains
  | jsonLength
  | jsonPath
  | fullText
  | multiColumn
  deriving DecidableEq, Repr

namespace FilterKind

def text : FilterKind → String
  | basic => "basic"
  | between => "between"
  | isIn => "in"
  | isNull => "null"
  | FilterKind.exists => "exists"
  | nested => "nested"
  | raw => "raw"
  | columns => "column"
  | date => "date"
  | jsonContains => "json_contains"
  | jsonLength => "json_length"
  | jsonPath => "json_path"
  | fullText => "full_text"
  | multiColumn => "multi_column"

def all : List FilterKind :=
  [basic, between, isIn, isNull, FilterKind.exists, nested, raw, columns, date, jsonContains,
   jsonLength, jsonPath, fullText, multiColumn]

def ofText? (s : String) : Option FilterKind :=
  all.find? (·.text == s)

end FilterKind

/-- What a raw clause belongs to. -/
inductive RawSite where
  | select
  | order
  | group
  | having
  deriving DecidableEq, Repr

def RawSite.text : RawSite → String
  | .select => "select"
  | .order => "order"
  | .group => "group"
  | .having => "having"

end SqlQuery
