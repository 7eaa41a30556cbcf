import SqlQuery.Clause.Make
import SqlQuery.Execution.Operation
import SqlQuery.Script.Form
import SqlQuery.Statement.Operands

/-!
The methods that run a query, by name.

Operands of the usual types become operations on rows, texts and integers. Operands of other types
are kept as they are where a statement can still be made of them, and fail where it cannot.
-/

namespace SqlQuery

open Argument

namespace Operation

/-! ## Reading rows -/

def selected (column : Argument) : Result String := do
  let _ ← SelectItem.ofColumn column null
  return column.asText

def ofAggregate (fn : Aggregate) : Form Operation :=
  ⟨paramsOf ["column"], fun a => .ok (aggregate fn (a 0).columnName)⟩

/-- Counts rows, or the values of a column. -/
def counting : Form Operation :=
  ⟨[optional "column" (.text "*")], fun a => .ok (aggregate .count (a 0).columnName)⟩

/-- All methods that answer with rows or values of rows, but for `get`. -/
def readingForms : List (String × Form Operation) :=
  [("first", .constant first), ("first_or_fail", .constant firstOrFail),
   ("find", ⟨paramsOf ["key_value"] ++ [optional "key" (.text "id")], fun a => do
     let _ ← Filter.compare (a 1) (.word (.operator (.compare .eq))) (a 0)
       (.word (.connective .and))
     return find (a 0).toValue (a 1).asText⟩),
   ("pluck", ⟨paramsOf ["column"], fun a => do
     let column ← selected (a 0)
     let _ ← (a 0).columnName.key
     return pluck column⟩),
   ("value", ⟨paramsOf ["column"], fun a => do
     let _ ← selected (a 0)
     return value (a 0).columnName⟩),
   ("exists", .constant Operation.exists), ("doesnt_exist", .constant isAbsent),
   ("count", counting), ("sum", ofAggregate .sum), ("avg", ofAggregate .avg),
   ("min", ofAggregate .min), ("max", ofAggregate .max)]

/-! ## Changing rows -/

/-- One row, or the rows of anything that can be gone through. -/
def rowsOrRow (a : Argument) : Result Argument :=
  match a.mapping? with
  | some _ => .ok (.list [a])
  | none => do return .list (← a.parts)

def ofRows (make : List Row → Operation)
    (makeOf : Dialect → Option String → Argument → Result Statement) (action : String) :
    Form Operation :=
  ⟨paramsOf ["rows"], fun a => do
    let rows ← rowsOrRow (a 0)
    return match rows.rows? with
      | some rows => make rows
      | none => change (fun d q => makeOf d q.table rows) action⟩

/-- What a row holds under a key. Only texts are keys of rows. -/
def keyIn (key : Argument) (row : Row) : Result Value :=
  match key.text? with
  | some s => .ok (row.get s)
  | none => do
    let _ ← Collection.asKey key.toValue
    return .null

def ofAmount (check : Argument → Result Unit) (make : String → Value → Row → Operation) :
    Form Operation :=
  ⟨paramsOf ["column"] ++ [optional "amount" (.int 1), optional "extra" .null], fun a => do
    check (a 1)
    return make (a 0).shown (a 1).toValue (← (a 2).rowOrLacks)⟩

def ofMatch (make : Row → Row → Operation) : Form Operation :=
  ⟨paramsOf ["attributes"] ++ [optional "values" .null], fun a => do
    let values ← if (a 1).isTruthy then (a 1).toRow else .ok []
    match (a 0).mapping? with
    | some attributes => return make attributes values
    | none => .error ((a 0).lacks "items")⟩

def upsertForm : Form Operation :=
  ⟨paramsOf ["rows"] ++ [⟨"conflict_target", some (.tuple [])⟩, optional "update_columns" .null,
     ⟨"action", some (.word (.conflict .doUpdate))⟩], fun a => do
    let rows ← rowsOrRow (a 0)
    let action ← parseConflict (a 3)
    let overwrite := if (a 2) matches .value .null then some none else (a 2).texts?.map some
    return match rows.rows?, (a 1).texts?, overwrite with
      | some rows, some target, some overwrite => upsert rows target overwrite action
      | _, _, _ =>
        change (fun d q => Statement.upsertFrom d q.table rows (a 1) (a 2) action) "upsert"⟩

def changingForms : List (String × Form Operation) :=
  [("insert", ⟨paramsOf ["values"], fun a => .ok <| match (a 0).row? with
     | some row => insert row
     | none => change (fun d q => Statement.insertFrom d q.table (a 0)) "insert"⟩),
   ("insert_get_id", ⟨paramsOf ["values"] ++ [optional "key" (.text "id")], fun a =>
     .ok <| match (a 0).row?, a 1 with
     | some row, .value (.text key) => insertGetId row key
     | _, key =>
       insertReturning (fun d q => Statement.insertFrom d q.table (a 0) key.name?) (keyIn key)⟩),
   ("insert_batch", ⟨paramsOf ["rows"], fun a => .ok <| match (a 0).rows? with
     | some rows => insertBatch rows
     | none => change (fun d q => Statement.insertBatchFrom d q.table (a 0)) "insert batch"⟩),
   ("update", ⟨paramsOf ["values"], fun a => do return update (← (a 0).rowOrLacks)⟩),
   ("delete", .constant delete),
   ("increment", ofAmount (fun _ => .ok ()) increment),
   ("decrement", ofAmount (fun amount => do let _ ← amount.negate) decrement),
   ("update_json", ⟨paramsOf ["column", "path", "value"], fun a =>
     .ok <| match pathText (a 1) with
     | .ok path => jsonUpdate (a 0).shown path (a 2).toValue
     | .error e => change (fun d q =>
         Statement.jsonUpdateAt d q (a 0).shown (.error e) (a 2).toValue) "json update"⟩),
   ("update_json_remove", ⟨paramsOf ["column", "path"], fun a =>
     .ok <| match pathText (a 1) with
     | .ok path => jsonRemove (a 0).shown path
     | .error e => change (fun d q =>
         Statement.jsonRemoveAt d q (a 0).shown (.error e)) "json remove"⟩),
   ("upsert", upsertForm),
   ("insert_or_ignore", ofRows insertOrIgnore Statement.insertOrIgnoreFrom "insert or ignore"),
   ("replace", ofRows replace Statement.replaceFrom "replace")]

/-- All methods that look for a row before they change it. -/
def matchingForms : List (String × Form Operation) :=
  [("update_or_insert", ofMatch updateOrInsert), ("update_or_create", ofMatch updateOrCreate)]

/-! ## Pages and batches -/

/-- A page with a size of its own or the default one. -/
def ofPage (make : Int → Option Int → Operation)
    (makeOf : Argument → Option Argument → Operation) : Form Operation :=
  ⟨[optional "page" (.int 1), optional "per_page" .null], fun a => do
    let page := (← PageNumbers.atLeastOne? (a 0)).getD (ofInt 1)
    let perPage ← pageSize? (a 1)
    return match page.int?, perPage, perPage.bind int? with
      | some page, none, _ => make page none
      | some page, some _, some n => make page (some n)
      | _, perPage, _ => makeOf page perPage⟩
where
  /-- A page size, unless it is null or below one. -/
  pageSize? (a : Argument) : Result (Option Argument) :=
    match a with
    | .value .null => .ok none
    | a => PageNumbers.atLeastOne? a

def byId : Param Argument := optional "column" (.text "id")

def cursorForm : Form Operation :=
  ⟨[optional "per_page" .null, optional "cursor" .null, byId], fun a => do
    let column := (a 2).columnName
    let cursor := (a 1).toValue
    let perPage ← ofPage.pageSize? (a 0)
    match perPage, perPage.bind int? with
    | some n, none => return cursorPaginateOf n cursor column
    | _, n =>
      let _ ← OrderKey.ofColumn (a 2) (.word (.direction .asc))
      return cursorPaginate n cursor column⟩

/-- The size of a batch as the limit of its query. -/
def asLimit (size : Argument) : Result Int := do
  return (← Edit.assign "limit" size {}).limit.getD 0

/-- The place before the first row, if rows can be ordered by the column. -/
def fromFirst (column : Argument) : Result BatchPlace := do
  let _ ← OrderKey.ofColumn column (.word (.direction .asc))
  return .after column.columnName .null

def fromStart : Result BatchPlace :=
  .ok (.offset 0)

/-- Batches of a size that must be positive. -/
def inChunks (size : Argument) (place : Result BatchPlace) : Result Operation := do
  if ← size.isAtMost (ofInt 0) then reject (.chunkSize size.toValue)
  let place ← place
  return chunk (← asLimit size) place

/-- The size and the place of batches; a size that is null or not positive is the default. -/
def sized (size : Argument) (place : Result BatchPlace) : Result (Option Int × BatchPlace) := do
  let isGiven ← match size with
    | .value .null => .ok false
    | size => size.isAbove (ofInt 0)
  let place ← place
  return (← if isGiven then some <$> asLimit size else .ok none, place)

def rowByRow (size : Argument) (place : Result BatchPlace) : Result Operation := do
  let (size, place) ← sized size place
  return each size place

/-- The parameter of whoever is handed rows or batches. -/
def visited : List (Param Argument) := paramsOf ["callback"]

/-- All methods that work on pages and batches. -/
def pagingForms : List (String × Form Operation) :=
  [("paginate", ofPage paginate paginateOf),
   ("simple_paginate", ofPage simplePaginate simplePaginateOf),
   ("cursor_paginate", cursorForm),
   ("chunk", ⟨paramsOf ["size"] ++ visited, fun a => inChunks (a 0) fromStart⟩),
   ("chunk_by_id", ⟨paramsOf ["size"] ++ visited ++ [byId], fun a =>
     inChunks (a 0) (fromFirst (a 2))⟩),
   ("each", ⟨visited ++ [optional "size" .null], fun a => rowByRow (a 1) fromStart⟩),
   ("each_by_id", ⟨visited ++ [optional "size" .null, byId], fun a =>
     rowByRow (a 1) (fromFirst (a 2))⟩)]

/-- The methods that run a copy of a query beside the caller. -/
def asynchronousForms : List (String × Form Operation) :=
  [("get_async", .constant get), ("first_async", .constant first), ("count_async", counting),
   ("paginate_async", ofPage paginate paginateOf)]

/-- All methods that run a query, with the way in which they take it up. -/
def forms : List (String × Approach × Form Operation) :=
  take .inPlace (("get", .constant get) :: changingForms)
    ++ take .onCopy (readingForms ++ matchingForms) ++ take .onSnapshot pagingForms
    ++ take .beside asynchronousForms
where
  take (approach : Approach) (forms : List (String × Form Operation)) :
      List (String × Approach × Form Operation) :=
    forms.map fun (name, form) => (name, approach, form)

/-- Who is handed rows or batches by a call, if the method has that parameter. -/
def visitorOf (form : Form Operation) (c : Call Argument) : Option Argument :=
  ((form.params.zip (c.bind form.params)).find? (·.1.name == "callback")).bind (·.2)

end Operation

namespace Supply

open Operation

/-- Rows of batches. What is wrong with the operands comes out with the first row. -/
def inBatches (size : Argument) (place : Result BatchPlace) : Supply :=
  match sized size place with
  | .ok (size, place) => batches size place
  | .error e => broken e

/-- The methods that hand out rows one by one. -/
def forms : List (String × Form Supply) :=
  [("cursor", .constant stream),
   ("lazy", ⟨[optional "size" .null], fun a => .ok (inBatches (a 0) fromStart)⟩),
   ("lazy_by_id", ⟨[optional "size" .null, byId], fun a =>
     .ok (inBatches (a 0) (fromFirst (a 1)))⟩)]

end Supply

end SqlQuery
