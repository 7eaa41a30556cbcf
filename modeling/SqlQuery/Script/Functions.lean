import SqlQuery.Argument.Operand
import SqlQuery.Clause.Make
import SqlQuery.JsonPath
import SqlQuery.Layer.Cache
import SqlQuery.Page.Numbers
import SqlQuery.Result.Aggregate
import SqlQuery.Script.Form
import SqlQuery.Text.Literal

/-!
Functions on plain data, by name.
-/

namespace SqlQuery

open Argument

/-- A value as it is answered: buffers become texts. What is not a plain value stays as it is. -/
def Argument.normalize : Argument → Argument
  | .value v => .value v.normalize
  | a => a

def cursorValueIn (row column : Argument) : Result Value := do
  let column := column.columnName
  let _ ← column.key
  match row.mapping? with
  | some entries => cursorValue entries column
  | none => .error (row.lacks "get")

/-- A lower-case letter among bytes in upper case. -/
def upperByte (b : UInt8) : UInt8 :=
  if 97 ≤ b && b ≤ 122 then b - 32 else b

/-- An aggregate result as a number. Bytes name no function. -/
def normalizeAggregateOf (function : Argument) (value : Value) : Result Value := do
  match function.isBytes, function.toValue with
  | true, .bytes kind data => aggregateOf "" (.bytes kind (data.map upperByte)) value
  | _, _ => normalizeAggregate (← function.functionName) value

def functions : List (String × Form Argument) :=
  [("split_placeholders", .of ["raw"] fun a => do return .ofTexts (← (a 0).rawSegments)),
   ("count_placeholders", .of ["raw"] fun a => do
     return .ofInt ((← (a 0).rawSegments).length - 1)),
   ("parse_operator", .of ["value"] fun a => do return .text (← parseOperator (a 0)).text),
   ("parse_boolean", .of ["value"] fun a => do return .text (← parseConnective (a 0)).text),
   ("parse_direction", .of ["value"] fun a => do return .text (← parseDirection (a 0)).text),
   ("as_values", .of ["value"] fun a => .ok (.list (a 0).spread)),
   ("json_path_segments", .of ["path"] fun a => do
     return .ofTexts (JsonPath.segments (← pathText (a 0)))),
   ("sql_string_literal", .of ["text"] fun a => do
     return .text (Text.sqlLiteral (← literalText (a 0)))),
   ("result_name", .of ["column"] fun a => do return .text (← (a 0).columnName.key)),
   ("normalize_value", .of ["value"] fun a => .ok (a 0).normalize),
   ("normalize_row", .of ["row"] fun a => do
     return .value (.mapping (Row.normalize (← (a 0).toRow)))),
   ("normalize_aggregate", .of ["function", "value"] fun a => do
     return .value (← normalizeAggregateOf (a 0) (a 1).toValue)),
   ("cache_key", .of ["sql", "bindings"] fun a => do
     return .text (digestOf (.list [(a 0).toValue, .list (← (a 1).asValues)]))),
   ("cursor_value", .of ["row", "column"] fun a => do
     return .value (← cursorValueIn (a 0) (a 1))),
   ("_bounds", .of ["page", "per_page", "count"] fun a => do
     let (first, last) ← PageBounds.rangeOf (a 0) (a 1) (a 2)
     return .list [first, last]),
   ("counted", .of ["page", "per_page", "total", "count"] fun a => do
     return .bounds (← PageBounds.countedOf (a 0) (a 1) (a 2) (a 3))),
   ("uncounted", .of ["page", "per_page", "count", "has_more"] fun a => do
     return .bounds (← PageBounds.uncountedOf (a 0) (a 1) (a 2) (a 3).isTruthy))]

end SqlQuery
