import SqlQuery.Clause.Parts
import SqlQuery.Reading

/-!
Clauses and queries from named fields.

Each field is read on its own and all faults are reported; then the parts must fit together. A
field that holds clauses takes finished clauses as well as mappings of their fields, to any depth,
so reading goes down a level for each mapping. `fuel` bounds that depth, and `Argument.depth` is
always enough.
-/

namespace SqlQuery

open Reader

/-- A word, or nothing for null. -/
def readOptionalWord (ofText? : String → Option α) : Argument → Read (Option α) :=
  Argument.readOption (Argument.readWord ofText?)

def readOptionalText : Argument → Read (Option String) :=
  Argument.readOption Argument.readText

def readForm (structured : String) : Argument → Read Bool :=
  Argument.readWord (Word.formOfText? structured)

def readAny (a : Argument) : Read Value :=
  .ok a.toValue

def bindingsField (fields : Fields) : Reader (List Value) :=
  nested fields "bindings" [] (readValues .tupleType)

/-! ## Clauses without parts of their own -/

def SelectItem.ofFields (fields : Fields) : Result (Checked SelectItem) :=
  Reader.complete KeyParts.selectItem do
    let isRaw ← field fields "kind" false (readForm "column")
    let column ← field fields "column" none readOptionalText
    let shownAs ← field fields "alias" none readOptionalText
    let raw ← field fields "raw" none readOptionalText
    closed fields ["kind", "column", "alias", "raw"]
    return { isRaw, column, shownAs, raw }

def OrderKey.ofFields (fields : Fields) : Result (Checked OrderKey) :=
  Reader.complete KeyParts.orderKey do
    let isRaw ← field fields "kind" false (readForm "column")
    let column ← field fields "column" none readOptionalText
    let direction ← field fields "direction" .asc (Argument.readWord Direction.ofText?)
    let raw ← field fields "raw" none readOptionalText
    let bindings ← bindingsField fields
    closed fields ["kind", "column", "direction", "raw", "bindings"]
    return { isRaw, column, direction, raw, bindings }

def GroupKey.ofFields (fields : Fields) : Result (Checked GroupKey) :=
  Reader.complete KeyParts.groupKey do
    let isRaw ← field fields "kind" false (readForm "column")
    let column ← field fields "column" none readOptionalText
    let raw ← field fields "raw" none readOptionalText
    let bindings ← bindingsField fields
    closed fields ["kind", "column", "raw", "bindings"]
    return { isRaw, column, raw, bindings }

def Having.ofFields (fields : Fields) : Result (Checked Having) :=
  Reader.complete KeyParts.having do
    let isRaw ← field fields "kind" false (readForm "basic")
    let connective ← field fields "boolean" .and (Argument.readWord Connective.ofText?)
    let column ← field fields "column" none readOptionalText
    let operator ← field fields "operator" none (readOptionalWord Operator.ofText?)
    let value ← field fields "value" .null readAny
    let raw ← field fields "raw" none readOptionalText
    let bindings ← bindingsField fields
    closed fields ["kind", "boolean", "column", "operator", "value", "raw", "bindings"]
    return { isRaw, connective, column, operator, value, raw, bindings }

/-- A finished clause, or one described by a mapping. -/
def readClause (finished? : Argument → Option α) (ofFields : Fields → Result (Checked α))
    (a : Argument) : Result (Checked α) :=
  match finished? a, a with
  | some x, _ => return .ok x
  | none, .mapping fields => ofFields fields
  | none, _ => return .error [⟨[], .modelType⟩]

def Argument.selectItem? : Argument → Option SelectItem
  | .selectItem x => some x
  | _ => none

def Argument.order? : Argument → Option OrderKey
  | .order x => some x
  | _ => none

def Argument.group? : Argument → Option GroupKey
  | .group x => some x
  | _ => none

def Argument.having? : Argument → Option Having
  | .having x => some x
  | _ => none

def clausesField (fields : Fields) (name : String) (read : Argument → Result (Checked α)) :
    Reader (List α) :=
  nested fields name [] (readItems .listType read)

/-- A row count: no truth value, and not negative. -/
def readCount : Argument → Read (Option Nat)
  | .value .null => .ok none
  | .value (.bool _) => .error .valueError
  | a => do
    let n ← a.readInt
    if n < 0 then .error (.greaterThanEqual 0) else .ok (some n.toNat)

/-! ## Clauses that hold other clauses -/

/-- A query that may be left out. -/
def readOptionalQuery (read : Argument → Result (Checked Query)) :
    Argument → Result (Checked (Option Query))
  | .value .null => return .ok none
  | a => do
    match ← read a with
    | .ok q => return .ok (some q)
    | .error faults => return .error faults

/-- The fields of a filter, given how to read the filters and queries in it. -/
def Filter.ofFields (readFilter : Argument → Result (Checked Filter))
    (readQuery : Argument → Result (Checked Query)) (fields : Fields) :
    Result (Checked Filter) :=
  Reader.complete FilterParts.check do
    let kind ← required fields "kind" .basic (Argument.readWord FilterKind.ofText?)
    let connective ← field fields "boolean" .and (Argument.readWord Connective.ofText?)
    let column ← field fields "column" none readOptionalText
    let columns ← nested fields "columns" [] (readItems .tupleType (readItem Argument.readText))
    let operator ← field fields "operator" none (readOptionalWord Operator.ofText?)
    let value ← field fields "value" .null readAny
    let values ← nested fields "values" [] (readValues .tupleType)
    let negated ← field fields "negated" false Argument.readBool
    let matchAll ← field fields "match_all" false Argument.readBool
    let query ← nested fields "query" none (readOptionalQuery readQuery)
    let filters ← nested fields "wheres" [] (readItems .tupleType readFilter)
    let second ← field fields "second" none readOptionalText
    let path ← field fields "path" none readOptionalText
    let datePart ← field fields "date_part" none (readOptionalWord DatePart.ofText?)
    let raw ← field fields "raw" none readOptionalText
    let bindings ← bindingsField fields
    closed fields ["kind", "boolean", "column", "columns", "operator", "value", "values",
      "negated", "match_all", "query", "wheres", "second", "path", "date_part", "raw", "bindings"]
    return { kind, connective, column, columns, operator, value, values, negated, matchAll,
             query, filters, second, path, datePart, raw, bindings }

/-- The fields of a join, given how to read the filters in it. -/
def Join.ofFields (readFilter : Argument → Result (Checked Filter)) (fields : Fields) :
    Result (Checked Join) :=
  Reader.complete Join.check do
    let kind ← field fields "kind" .inner (Argument.readWord JoinKind.ofText?)
    let table ← required fields "table" "" Argument.readText
    let first ← field fields "first" none readOptionalText
    let operator ← field fields "operator" (.compare .eq) (Argument.readWord Operator.ofText?)
    let second ← field fields "second" none readOptionalText
    let filters ← nested fields "wheres" [] (readItems .tupleType readFilter)
    closed fields ["kind", "table", "first", "operator", "second", "wheres"]
    return { kind, table, first, operator, second, filters }

/-- The fields of a branch, given how to read its query. -/
def Branch.ofFields (readQuery : Argument → Result (Checked Query)) (fields : Fields) :
    Result (Checked Branch) :=
  Reader.complete .ok do
    if (fields.lookup "query").isNone then fault ["query"] .missing ()
    let query ← nested fields "query" {} readQuery
    let all ← field fields "all" false Argument.readBool
    closed fields ["query", "all"]
    return { query, all }

/-- The fields of a query, given how to read the clauses in it. -/
def Query.ofFields (readFilter : Argument → Result (Checked Filter))
    (readJoin : Argument → Result (Checked Join))
    (readBranch : Argument → Result (Checked Branch)) (fields : Fields) :
    Result (Checked Query) :=
  Reader.complete .ok do
    let table ← field fields "table" none readOptionalText
    let selects ← clausesField fields "selects"
      (readClause Argument.selectItem? SelectItem.ofFields)
    let distinct ← field fields "distinct" false Argument.readBool
    let filters ← clausesField fields "wheres" readFilter
    let joins ← clausesField fields "joins" readJoin
    let groups ← clausesField fields "groups" (readClause Argument.group? GroupKey.ofFields)
    let havings ← clausesField fields "havings" (readClause Argument.having? Having.ofFields)
    let orders ← clausesField fields "orders" (readClause Argument.order? OrderKey.ofFields)
    let unions ← clausesField fields "unions" readBranch
    let limit ← field fields "limit" none readCount
    let offset ← field fields "offset" none readCount
    let lock ← field fields "lock" none (readOptionalWord LockMode.ofText?)
    let selectValues ← nested fields "select_bindings" [] (readValues .listType)
    closed fields ["table", "selects", "distinct", "wheres", "joins", "groups", "havings",
      "orders", "unions", "limit", "offset", "lock", "select_bindings"]
    return { table, selects, distinct, filters, joins, groups, havings, orders, unions, limit,
             offset, lock, selectValues }

mutual

def readFilter : Nat → Argument → Result (Checked Filter)
  | _, .filter x => return .ok x
  | fuel + 1, .mapping fields => Filter.ofFields (readFilter fuel) (readQuery fuel) fields
  | _, _ => return .error [⟨[], .modelType⟩]

def readQuery : Nat → Argument → Result (Checked Query)
  | _, .query q => return .ok q
  | fuel + 1, .mapping fields =>
    Query.ofFields (readFilter fuel) (readJoin fuel) (readBranch fuel) fields
  | _, _ => return .error [⟨[], .modelType⟩]

def readJoin : Nat → Argument → Result (Checked Join)
  | _, .join x => return .ok x
  | fuel + 1, .mapping fields => Join.ofFields (readFilter fuel) fields
  | _, _ => return .error [⟨[], .modelType⟩]

def readBranch : Nat → Argument → Result (Checked Branch)
  | _, .branch x => return .ok x
  | fuel + 1, .mapping fields => Branch.ofFields (readQuery fuel) fields
  | _, _ => return .error [⟨[], .modelType⟩]

end

/-! ## Whole descriptions -/

/-- How deep the fields of a description are nested. -/
def fieldsDepth (fields : Fields) : Nat :=
  (Argument.mapping fields).depth

def Filter.describe (fields : Fields) : Result Filter :=
  Checked.toResult (readFilter (fieldsDepth fields) (.mapping fields))

def Query.describe (fields : Fields) : Result Query :=
  Checked.toResult (readQuery (fieldsDepth fields) (.mapping fields))

def Join.describe (fields : Fields) : Result Join :=
  Checked.toResult (readJoin (fieldsDepth fields) (.mapping fields))

def Branch.describe (fields : Fields) : Result Branch :=
  Checked.toResult (readBranch (fieldsDepth fields) (.mapping fields))

def SelectItem.describe (fields : Fields) : Result SelectItem :=
  Checked.toResult (SelectItem.ofFields fields)

def OrderKey.describe (fields : Fields) : Result OrderKey :=
  Checked.toResult (OrderKey.ofFields fields)

def GroupKey.describe (fields : Fields) : Result GroupKey :=
  Checked.toResult (GroupKey.ofFields fields)

def Having.describe (fields : Fields) : Result Having :=
  Checked.toResult (Having.ofFields fields)

end SqlQuery
