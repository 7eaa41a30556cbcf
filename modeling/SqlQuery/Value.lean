import SqlQuery.Number.Decimal
import SqlQuery.Number.Shortest
import SqlQuery.Calendar
import SqlQuery.Text.Quoted

/-!
The values that queries bind and rows hold.

A value is data and nothing else: the clause types, builders and callbacks of the library are not
values. Lists and tuples differ only in how they are shown.
-/

namespace SqlQuery

/-- The three ways to hold bytes: fixed, growable, or a view of another buffer. -/
inductive BufferKind where
  | fixed
  | growable
  | view
  deriving DecidableEq, Repr

/-- A bound or fetched value. -/
inductive Value where
  | null
  | bool (b : Bool)
  | int (n : Int)
  | double (d : Double)
  | decimal (d : Decimal)
  | text (s : String)
  | bytes (kind : BufferKind) (data : List UInt8)
  | date (d : Date)
  | time (t : Time)
  | moment (m : Moment)
  | list (items : List Value)
  | tuple (items : List Value)
  | mapping (entries : List (String × Value))
  /-- Values that can be gone through once. -/
  | iterator (items : List Value)
  deriving Repr, Inhabited

/-- A row: columns and their values, in the order in which the columns came. No column occurs
twice. -/
abbrev Row := List (String × Value)

namespace Value

/-- The name of a value's type in messages. -/
def typeName : Value → String
  | null => "NoneType"
  | bool _ => "bool"
  | int _ => "int"
  | double _ => "float"
  | decimal _ => "Decimal"
  | text _ => "str"
  | bytes .fixed _ => "bytes"
  | bytes .growable _ => "bytearray"
  | bytes .view _ => "memoryview"
  | date _ => "date"
  | time _ => "time"
  | moment _ => "datetime"
  | list _ => "list"
  | tuple _ => "tuple"
  | mapping _ => "dict"
  | iterator _ => "generator"

/-- The name of a value's type where a message tells of an operation that the type does not have:
decimals and calendar types are named with the module they belong to. -/
def qualifiedTypeName : Value → String
  | decimal _ => "decimal.Decimal"
  | date _ => "datetime.date"
  | time _ => "datetime.time"
  | moment _ => "datetime.datetime"
  | v => v.typeName

/-- Whether a condition holds of a value: null, false, zeros and everything empty count as
false. -/
def isTruthy : Value → Bool
  | null => false
  | bool b => b
  | int n => n != 0
  | double (.finite _ m _) => m != 0
  | double _ => true
  | decimal (.finite _ c _) => c != 0
  | decimal _ => true
  | text s => !s.isEmpty
  | bytes _ data => !data.isEmpty
  | date _ | time _ | moment _ => true
  | list items | tuple items => !items.isEmpty
  | mapping entries => !entries.isEmpty
  | iterator _ => true

/-- The fields of a time that are shown: trailing zeros are left out, hour and minute stay. -/
def shownTime (t : Time) : List Nat :=
  if t.micro ≠ 0 then [t.hour, t.minute, t.second, t.micro]
  else if t.second ≠ 0 then [t.hour, t.minute, t.second]
  else [t.hour, t.minute]

def shownCall (name : String) (args : List Nat) : String :=
  name ++ "(" ++ ", ".intercalate (args.map toString) ++ ")"

def shownDate (d : Date) : List Nat := [d.year, d.month, d.day]

mutual

/-- The text of a value as part of a message: texts in quotes, other values so that their type can
be told. -/
def inspect : Value → String
  | null => "None"
  | bool true => "True"
  | bool false => "False"
  | int n => toString n
  | double d => d.format
  | decimal d => "Decimal(" ++ Text.quoted d.format ++ ")"
  | text s => Text.quoted s
  | bytes .fixed data => Text.quotedBytes data
  | bytes .growable data => "bytearray(" ++ Text.quotedBytes data ++ ")"
  | bytes .view _ => "<memory>"
  | date d => shownCall "datetime.date" (shownDate d)
  | time t => shownCall "datetime.time" (shownTime t)
  | moment m => shownCall "datetime.datetime" (shownDate m.date ++ shownTime m.time)
  | list items => "[" ++ ", ".intercalate (inspectAll items) ++ "]"
  | tuple [item] => "(" ++ item.inspect ++ ",)"
  | tuple items => "(" ++ ", ".intercalate (inspectAll items) ++ ")"
  | mapping entries => "\x7b" ++ ", ".intercalate (inspectEntries entries) ++ "\x7d"
  | iterator _ => "<generator>"

def inspectAll : List Value → List String
  | [] => []
  | v :: vs => v.inspect :: inspectAll vs

def inspectEntries : List (String × Value) → List String
  | [] => []
  | (k, v) :: rest => (Text.quoted k ++ ": " ++ v.inspect) :: inspectEntries rest

end

/-- The plain text of a value: a text is itself, and numbers, dates and times stand without
quotes. -/
def plainText : Value → String
  | text s => s
  | decimal d => d.format
  | date d => d.iso
  | time t => t.iso
  | moment m => m.iso " "
  | v => v.inspect

/-- The name of the first part of a value that cannot be a key: lists, mappings and growable
buffers change in place. -/
def unhashable? : Value → Option String
  | list _ => some "list"
  | mapping _ => some "dict"
  | bytes .growable _ => some "bytearray"
  | tuple items => unhashableIn? items
  | _ => none
where
  unhashableIn? : List Value → Option String
    | [] => none
    | v :: vs => match v.unhashable? with
      | some name => some name
      | none => unhashableIn? vs

end Value

namespace Row

def get? (row : Row) (column : String) : Option Value :=
  row.lookup column

/-- The value of a column, null if the row lacks it. -/
def get (row : Row) (column : String) : Value :=
  (row.lookup column).getD .null

/-- Sets a column: in place if the row has it, else at the end. -/
def set : Row → String → Value → Row
  | [], k, v => [(k, v)]
  | (k', v') :: rest, k, v =>
    if k' = k then (k', v) :: rest else (k', v') :: Row.set rest k v

/-- Sets the columns of another row, one after the other. -/
def update (row other : Row) : Row :=
  other.foldl (fun r (k, v) => Row.set r k v) row

/-- A row from entries in which a column may be repeated: it keeps its first place and its last
value. -/
def ofEntries (entries : List (String × Value)) : Row :=
  update [] entries

def columns (row : Row) : List String :=
  row.map (·.1)

@[simp]
theorem lookup_set_self (row : Row) (k : String) (v : Value) :
    (Row.set row k v).lookup k = some v := by
  induction row with
  | nil => simp [Row.set]
  | cons e rest ih =>
    obtain ⟨k', v'⟩ := e
    by_cases h : k' = k
    · simp [Row.set, h]
    · have : k ≠ k' := fun e => h e.symm
      simp [Row.set, h, List.lookup_cons, ih, beq_eq_false_iff_ne.2 this]

theorem lookup_set_of_ne (row : Row) {k j : String} (h : j ≠ k) (v : Value) :
    (Row.set row k v).lookup j = row.lookup j := by
  induction row with
  | nil => simp [Row.set, List.lookup_cons, beq_eq_false_iff_ne.2 h]
  | cons e rest ih =>
    obtain ⟨k', v'⟩ := e
    by_cases hk : k' = k
    · simp [Row.set, hk, List.lookup_cons, beq_eq_false_iff_ne.2 h]
    · simp [Row.set, hk, List.lookup_cons, ih]

end Row

end SqlQuery
