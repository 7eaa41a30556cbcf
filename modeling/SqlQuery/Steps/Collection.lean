import SqlQuery.Collection
import SqlQuery.Steps.Basic

/-!
Collections step by step.

Collections are kept by number, so that one that was saved under a name and the one in use can be
the same: a row that is changed in place is changed in both. Rows that a collection was made from,
and the list that it gives out, are copies.
-/

namespace SqlQuery

/-- Collections by number, names for some of them, the one in use, and the rows that the first was
made from. -/
structure Shelf where
  collections : List Collection
  names : List (String × Nat) := []
  current : Nat := 0
  source : Collection

namespace Shelf

def make (rows : List Row) : Shelf :=
  { collections := [⟨rows⟩], source := ⟨rows⟩ }

def at? (s : Shelf) (i : Nat) : Collection :=
  (s.collections[i]?).getD ⟨[]⟩

def inUse (s : Shelf) : Collection :=
  s.at? s.current

def adopt (c : Collection) : StateM Shelf Shown := do
  modify fun s =>
    { s with collections := s.collections ++ [c], current := s.collections.length }
  return .of (.rows c.rows)

def indexAt (call : Call Term) (i : Nat) : Result Int :=
  match call.dataAt i with
  | .int n => .ok n
  | .bool b => .ok (if b then 1 else 0)
  | v => .error (.foreign .type
      ("list indices must be integers or slices, not " ++ v.qualifiedTypeName))

/-- Changes a row that was reached in one of three ways. Only one of them reaches the collection
itself. -/
def mutate (how : String) (i : Result Int) (f : Row → Row) : StateM Shelf Shown := do
  let s ← get
  let reached := if how == "source" then s.source else s.inUse
  match i >>= fun i => reached.modifyAt i f with
  | .error e => return .failed e
  | .ok changed =>
    let s := match how with
      | "source" => { s with source := changed }
      | "getitem" => { s with collections := s.collections.set s.current changed }
      | _ => s
    set s
    return .of (.rows s.inUse.rows)

/-- The rows that are visited until a reply is false, and the failure of the last reply. -/
def visit : List Row → List Reply → List Row × Option Error
  | [], _ => ([], none)
  | row :: rows, [] =>
    let (seen, failure) := visit rows []
    (row :: seen, failure)
  | row :: _, .fail e :: _ => ([row], some e)
  | row :: _, .answer (.bool false) :: _ => ([row], none)
  | row :: rows, .answer _ :: replies =>
    let (seen, failure) := visit rows replies
    (row :: seen, failure)

def each (c : Collection) (call : Call Term) : Shown :=
  let replies := match call.positional with
    | [.callback replies] => replies
    | _ => []
  match visit c.rows replies with
  | (seen, none) => (Shown.of (.bool true)).also "seen" (.rows seen)
  | (_, some e) => .failed e

/-- Whether an operand names or is an equal collection. Collections in use share their values, so
not-a-number in one of them equals itself in another. -/
def isSame (s : Shelf) (v : Value) : Bool :=
  let other := match v with
    | .text name => (s.names.lookup name).map s.at?
    | _ => none
  match other with
  | some c => s.inUse.same c || s.inUse.inspect == c.inspect
  | none => s.inUse.sameAsValue v

def keyed {α : Type} (f : α → Value) (entries : Keyed α) : Answer :=
  .keyed (entries.map fun (k, x) => (k, f x))

/-- What is known of a collection, by name. -/
def look (s : Shelf) (name : String) (call : Call Term) : Shown :=
  let c := s.inUse
  let column := call.dataAt 0
  match name with
  | "to_list" => .of (.rows c.rows)
  | "getitem" => .ofResult (fun row => .row (some row)) (indexAt call 0 >>= c.getAt)
  | "len" | "count" => .of (.int c.count)
  | "bool" | "is_not_empty" => .of (.bool (!c.isEmpty))
  | "is_empty" => .of (.bool c.isEmpty)
  | "first" => .of (.row c.first)
  | "last" => .of (.row c.last)
  | "repr" => .of (.text c.inspect)
  | "eq" => .of (.bool (s.isSame (call.dataAt 0)))
  | "pluck" => .ofResult (fun values => .value (.list values)) (c.pluckKey column)
  | "key_by" => .ofResult (keyed .mapping) (c.keyByKey column)
  | "group_by" => .ofResult (keyed Collection.toValue) (c.groupByKey column)
  | "each" => each c call
  | name => .unknownStep name

def step : Stepper Shelf := fun name call => do
  let s ← get
  match name with
  | "save" =>
    let name := call.textAt 0
    set { s with names := (name, s.current) :: s.names }
    return .of .null
  | "use" =>
    match s.names.lookup (call.textAt 0) with
    | none => return .failed (.foreign .key (call.textAt 0))
    | some i =>
      set { s with current := i }
      return .of (.rows (s.at? i).rows)
  | "filter" =>
    let keep := match call.dataAt 0 with
      | .list [.text column, v] => fun (row : Row) => (row.get column).same v
      | _ => fun _ => false
    adopt (s.inUse.filter keep)
  | "map" => adopt (s.inUse.map fun row => Row.set row (call.textAt 0) (call.dataAt 1))
  | "mutate" =>
    mutate (call.textAt 0) (indexAt call 1) fun row => Row.set row (call.textAt 2) (call.dataAt 3)
  | name => return s.look name call

end Shelf

end SqlQuery
