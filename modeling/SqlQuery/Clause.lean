import SqlQuery.Value
import SqlQuery.Vocabulary
import SqlQuery.RawText
import SqlQuery.Error

/-!
Query descriptions: the clauses of one SELECT statement, not yet written as SQL.

A clause is either structured or raw text with markers for its values, never both. The condition
of a filter is one of fifteen shapes, each with the operands that its SQL needs. What a filter was
given beyond that is kept as `unread`: no statement shows it, and a filter that is listed field by
field does.
-/

namespace SqlQuery

/-- An item of the select list. The values of raw items are kept by the query, not by the item,
because they are bound after all others. -/
inductive SelectItem where
  | column (name : String) (shownAs : Option String)
  | raw (text : String) (shownAs : Option String)
  deriving DecidableEq, Repr

/-- A key of GROUP BY. -/
inductive GroupKey where
  | column (name : String) (unread : List Value)
  | raw (text : String) (values : List Value)
  deriving Repr

/-- A key of ORDER BY. -/
inductive OrderKey where
  | column (name : String) (direction : Direction) (unread : List Value)
  | raw (text : String) (values : List Value) (unread : Direction)
  deriving Repr

/-- The condition of a HAVING clause. Its left side may be any expression. -/
inductive HavingCondition where
  | compare (left : String) (comparison : Comparison) (right : Value)
  | raw (text : String) (values : List Value)
  deriving Repr

/-- What a HAVING clause was given and does not show. -/
structure HavingUnread where
  operator : Option Operator := none
  value : Value := .null
  bindings : List Value := []
  deriving Repr

/-- One clause of HAVING. -/
structure Having where
  connective : Connective := .and
  condition : HavingCondition
  unread : HavingUnread := {}
  deriving Repr

mutual

/-- The condition of a filter. -/
inductive Condition where
  /-- The column compared with a value. -/
  | compare (column : String) (comparison : Comparison) (value : Value)
  /-- The column between two values. -/
  | between (column : String) (negated : Bool) (low high : Value)
  /-- The column among values. -/
  | inValues (column : String) (negated : Bool) (values : List Value)
  /-- The column among the rows of a query. -/
  | inQuery (column : String) (negated : Bool) (query : Query)
  /-- The column null. -/
  | isNull (column : String) (negated : Bool)
  /-- Any row in a query. -/
  | exists (negated : Bool) (query : Query)
  /-- Filters in parentheses. -/
  | group (filters : List Filter)
  /-- Raw text with the values of its markers. -/
  | raw (text : String) (values : List Value)
  /-- Two columns compared. -/
  | columns (first : String) (comparison : Comparison) (second : String)
  /-- A part of a date or time compared with a value. -/
  | datePart (column : String) (part : DatePart) (comparison : Comparison) (value : Value)
  /-- A JSON column that contains a value. -/
  | jsonContains (column : String) (value : Value)
  /-- The length of a JSON column compared with a value. -/
  | jsonLength (column : String) (comparison : Comparison) (value : Value)
  /-- What stands at a path of a JSON column, compared with a value. -/
  | jsonPath (column path : String) (comparison : Comparison) (value : Value)
  /-- Text columns searched for a value. -/
  | fullText (columns : List String) (value : Value)
  /-- Several columns compared with one value: all of them or any of them. -/
  | anyColumn (columns : List String) (comparison : Comparison) (value : Value)
      (matchAll negated : Bool)

/-- What a filter was given and does not show. -/
structure Unread where
  column : Option String := none
  columns : List String := []
  operator : Option Operator := none
  value : Value := .null
  values : List Value := []
  negated : Bool := false
  matchAll : Bool := false
  query : Option Query := none
  filters : List Filter := []
  second : Option String := none
  path : Option String := none
  datePart : Option DatePart := none
  bindings : List Value := []

/-- A filter: a condition and the word that joins it to the filter before. -/
structure Filter where
  connective : Connective := .and
  condition : Condition
  unread : Unread

/-- A join: its ON condition compares two columns, and further filters may follow. A cross join
shows nothing but its table. -/
structure Join where
  kind : JoinKind := .inner
  table : String
  first : Option String := none
  operator : Operator := .compare .eq
  second : Option String := none
  filters : List Filter := []

/-- A branch of a UNION. -/
structure Branch where
  query : Query
  all : Bool := false

/-- A query: the parts of one SELECT statement, each list in the order in which it is shown. -/
structure Query where
  table : Option String := none
  selects : List SelectItem := []
  distinct : Bool := false
  filters : List Filter := []
  joins : List Join := []
  groups : List GroupKey := []
  havings : List Having := []
  orders : List OrderKey := []
  unions : List Branch := []
  limit : Option Nat := none
  offset : Option Nat := none
  lock : Option LockMode := none
  selectValues : List Value := []

end

instance : Inhabited Query := ⟨{}⟩

/-- A filter that was given nothing but its condition. -/
def Filter.of (condition : Condition) (connective : Connective := .and) : Filter :=
  { connective, condition, unread := {} }

namespace Condition

/-- The shape of a condition. -/
def kind : Condition → FilterKind
  | compare .. => .basic
  | between .. => .between
  | inValues .. | inQuery .. => .isIn
  | isNull .. => .isNull
  | Condition.exists .. => .exists
  | group _ => .nested
  | raw .. => .raw
  | columns .. => .columns
  | datePart .. => .date
  | jsonContains .. => .jsonContains
  | jsonLength .. => .jsonLength
  | jsonPath .. => .jsonPath
  | fullText .. => .fullText
  | anyColumn .. => .multiColumn

end Condition

namespace SelectItem

/-- The number of markers in an item. -/
def markerCount : SelectItem → Nat
  | column .. => 0
  | raw text _ => RawText.markerCount text

end SelectItem

namespace Query

/-- The query with one more filter. -/
def addFilter (q : Query) (f : Filter) : Query :=
  { q with filters := q.filters ++ [f] }

end Query

end SqlQuery
