import SqlQuery.Error
import SqlQuery.Value.Equality

/-!
Collections: the rows of a result, in order.

Rows are indexed and grouped by the value of a column. Values that are equal are one key, whatever
their type, and the key is spelled as it first occurred; lists and mappings cannot be keys.
-/

namespace SqlQuery

/-- The rows of a result. -/
structure Collection where
  rows : List Row
  deriving Repr

/-- Things under keys, in the order in which the keys first occurred. -/
abbrev Keyed (α : Type) := List (Value × α)

namespace Collection

def count (c : Collection) : Nat :=
  c.rows.length

def isEmpty (c : Collection) : Bool :=
  c.rows.isEmpty

def first (c : Collection) : Option Row :=
  c.rows.head?

def last (c : Collection) : Option Row :=
  c.rows.getLast?

/-- The place of an index, counted from the end if it is negative. -/
def position? (c : Collection) (i : Int) : Option Nat :=
  let i := if i < 0 then i + c.rows.length else i
  if 0 ≤ i ∧ i < c.rows.length then some i.toNat else none

def getAt (c : Collection) (i : Int) : Result Row :=
  match (c.position? i).bind (c.rows[·]?) with
  | some row => .ok row
  | none => .error (.foreign .index "list index out of range")

def modifyAt (c : Collection) (i : Int) (f : Row → Row) : Result Collection := do
  let row ← c.getAt i
  match c.position? i with
  | some n => return ⟨c.rows.set n (f row)⟩
  | none => return c

/-- The values of a column, null where a row lacks it. -/
def pluck (c : Collection) (column : String) : List Value :=
  c.rows.map (·.get column)

def asKey (v : Value) : Result Value :=
  match v.unhashable? with
  | none => .ok v
  | some name => .error (.foreign .type ("unhashable type: '" ++ name ++ "'"))

/-- Changes what is under a key, or adds the key. -/
def alter (key : Value) (f : Option α → α) : Keyed α → Keyed α
  | [] => [(key, f none)]
  | (k, x) :: rest =>
    if k.same key then (k, f (some x)) :: rest else (k, x) :: alter key f rest

/-- The value that a row has under any key. Only texts are columns. -/
def lookUp (key : Value) (row : Row) : Result Value := do
  match ← asKey key with
  | .text column => return row.get column
  | _ => return .null

/-- What every row has under any key. -/
def pluckKey (c : Collection) (key : Value) : Result (List Value) :=
  c.rows.mapM (lookUp key)

/-- The rows by what they have under any key. Of several rows with one value the last stays. -/
def keyByKey (c : Collection) (key : Value) : Result (Keyed Row) :=
  c.rows.foldlM (fun acc row => do
    return alter (← asKey (← lookUp key row)) (fun _ => row) acc) []

/-- The rows grouped by what they have under any key. -/
def groupByKey (c : Collection) (key : Value) : Result (Keyed Collection) := do
  let groups ← c.rows.foldlM (fun acc row => do
    return alter (← asKey (← lookUp key row)) (fun rows => rows.getD [] ++ [row]) acc) []
  return groups.map fun (k, rows) => (k, ⟨rows⟩)

def keyBy (c : Collection) (column : String) : Result (Keyed Row) :=
  c.keyByKey (.text column)

def groupBy (c : Collection) (column : String) : Result (Keyed Collection) :=
  c.groupByKey (.text column)

def filter (p : Row → Bool) (c : Collection) : Collection :=
  ⟨c.rows.filter p⟩

def map (f : Row → Row) (c : Collection) : Collection :=
  ⟨c.rows.map f⟩

def toValue (c : Collection) : Value :=
  .list (c.rows.map .mapping)

/-- Whether two collections hold equal rows in the same order. -/
def same (c d : Collection) : Bool :=
  c.toValue.same d.toValue

/-- Whether a value is a list of the same rows. -/
def sameAsValue (c : Collection) (v : Value) : Bool :=
  match v with
  | .list items => c.toValue.same (.list items)
  | _ => false

/-- The form of a collection in messages. -/
def inspect (c : Collection) : String :=
  "Collection(" ++ c.toValue.inspect ++ ")"

end Collection

end SqlQuery
