import SqlQuery.Clause

/-!
Clauses from loose parts.

A clause can be described by naming its form and giving every part it may have, fitting or not.
`check` says which descriptions are clauses, and why the others are none; `parts` gives the
description of a clause back, so that `check` accepts exactly what `parts` produces.
-/

namespace SqlQuery

/-- A part that was given and is not empty. -/
def given (s : Option String) : Option String :=
  match s with
  | none | some "" => none
  | some s => some s

/-- One marker of something raw for each value. -/
def matchMarkers (raw : Value) (markers values : Nat) : Result Unit :=
  if markers = values then .ok () else reject (.bindingCount raw markers values)

/-- Raw text that was given, with one marker for each value. -/
def checkMarkers (raw : String) (values : List Value) : Result Unit :=
  matchMarkers (.text raw) (RawText.markerCount raw) values.length

/-! ## Filters -/

/-- Every part that a filter may be given. -/
structure FilterParts where
  kind : FilterKind
  connective : Connective := .and
  column : Option String := none
  columns : List String := []
  operator : Option Operator := none
  value : Value := .null
  values : List Value := []
  negated : Bool := false
  matchAll : Bool := false
  query : Option Query := none
  filters : List Filter := []
  second : Option String := none
  path : Option String := none
  datePart : Option DatePart := none
  raw : Option String := none
  bindings : List Value := []

namespace FilterParts

/-- The column of a filter that needs one. -/
def needColumn (p : FilterParts) : Result String :=
  match given p.column with
  | some c => .ok c
  | none => rejectClause (.filterNeedsColumn p.kind)

/-- The comparison of a filter that compares, or the fault of any other operator. -/
def needComparison (p : FilterParts) (fault : ClauseFault) : Result Comparison :=
  match p.operator >>= Operator.comparison? with
  | some c => .ok c
  | none => rejectClause fault

/-- The column and the comparison of a filter that compares a column. -/
def needComparedColumn (p : FilterParts) : Result (String × Comparison) := do
  let column ← p.needColumn
  let c ← p.needComparison (.filterOperator p.kind p.operator column)
  return (column, c)

/-- The condition that the parts describe. -/
def condition (p : FilterParts) : Result Condition :=
  match p.kind with
  | .raw =>
    match given p.raw with
    | none => rejectClause .filterNeedsRaw
    | some raw => do
      if p.column.isSome || !p.columns.isEmpty then rejectClause (.rawFilterWithColumn raw)
      checkMarkers raw p.bindings
      return .raw raw p.bindings
  | kind => do
    if p.raw.isSome then rejectClause (.filterWithRaw kind)
    match kind with
    | .basic =>
      let (column, c) ← p.needComparedColumn
      return .compare column c p.value
    | .date =>
      let (column, c) ← p.needComparedColumn
      match p.datePart with
      | some part => return .datePart column part c p.value
      | none => rejectClause .noDatePart
    | .jsonLength =>
      let (column, c) ← p.needComparedColumn
      return .jsonLength column c p.value
    | .jsonPath =>
      let (column, c) ← p.needComparedColumn
      match given p.path with
      | some path => return .jsonPath column path c p.value
      | none => rejectClause .noPath
    | .between =>
      let column ← p.needColumn
      match p.values with
      | [low, high] => return .between column p.negated low high
      | values => rejectClause (.betweenCount values.length column)
    | .isIn =>
      let column ← p.needColumn
      match p.query, p.values with
      | some query, _ => return .inQuery column p.negated query
      | none, [] => rejectClause (.noValues column)
      | none, values => return .inValues column p.negated values
    | .isNull => return .isNull (← p.needColumn) p.negated
    | .jsonContains => return .jsonContains (← p.needColumn) p.value
    | .exists =>
      match p.query with
      | some query => return .exists p.negated query
      | none => rejectClause .noSubquery
    | .nested =>
      if p.filters.isEmpty then rejectClause .emptyGroup
      return .group p.filters
    | .columns =>
      match given p.column, given p.second with
      | some first, some second =>
        let c ← p.needComparison (.columnOperator p.operator)
        return .columns first c second
      | _, _ => rejectClause .needsTwoColumns
    | .fullText =>
      if p.columns.isEmpty then rejectClause .noTextColumns
      return .fullText p.columns p.value
    | .multiColumn =>
      if p.columns.isEmpty then rejectClause .noColumns
      let c ← p.needComparison (.multiOperator p.operator)
      return .anyColumn p.columns c p.value p.matchAll p.negated
    | .raw => rejectClause .filterNeedsRaw

/-- All parts that a filter may leave unread. -/
def leftOver (p : FilterParts) : Unread :=
  { column := p.column, columns := p.columns, operator := p.operator, value := p.value,
    values := p.values, negated := p.negated, matchAll := p.matchAll, query := p.query,
    filters := p.filters, second := p.second, path := p.path, datePart := p.datePart,
    bindings := p.bindings }

/-- The parts that the condition leaves unread. -/
def unread (p : FilterParts) : Condition → Unread
  | .compare .. => { p.leftOver with column := none, operator := none, value := .null }
  | .between .. => { p.leftOver with column := none, values := [], negated := false }
  | .inValues .. => { p.leftOver with column := none, values := [], negated := false }
  | .inQuery .. => { p.leftOver with column := none, query := none, negated := false }
  | .isNull .. => { p.leftOver with column := none, negated := false }
  | .exists .. => { p.leftOver with query := none, negated := false }
  | .group _ => { p.leftOver with filters := [] }
  | .raw .. => { p.leftOver with bindings := [] }
  | .columns .. => { p.leftOver with column := none, operator := none, second := none }
  | .datePart .. =>
    { p.leftOver with column := none, operator := none, value := .null, datePart := none }
  | .jsonContains .. => { p.leftOver with column := none, value := .null }
  | .jsonLength .. => { p.leftOver with column := none, operator := none, value := .null }
  | .jsonPath .. =>
    { p.leftOver with column := none, operator := none, value := .null, path := none }
  | .fullText .. => { p.leftOver with columns := [], value := .null }
  | .anyColumn .. =>
    { p.leftOver with
      columns := [], operator := none, value := .null, matchAll := false, negated := false }

/-- The filter that the parts describe. -/
def check (p : FilterParts) : Result Filter := do
  let condition ← p.condition
  return { connective := p.connective, condition, unread := p.unread condition }

end FilterParts

/-- What a filter was given besides its condition. -/
def Unread.parts (u : Unread) (kind : FilterKind) (connective : Connective) : FilterParts where
  kind := kind
  connective := connective
  column := u.column
  columns := u.columns
  operator := u.operator
  value := u.value
  values := u.values
  negated := u.negated
  matchAll := u.matchAll
  query := u.query
  filters := u.filters
  second := u.second
  path := u.path
  datePart := u.datePart
  bindings := u.bindings

/-- The parts of a filter. -/
def Filter.parts (f : Filter) : FilterParts :=
  let rest := f.unread.parts f.condition.kind f.connective
  match f.condition with
  | .compare column c value =>
    { rest with column := some column, operator := some (.compare c), value }
  | .between column negated low high =>
    { rest with column := some column, negated, values := [low, high] }
  | .inValues column negated values => { rest with column := some column, negated, values }
  | .inQuery column negated query =>
    { rest with column := some column, negated, query := some query }
  | .isNull column negated => { rest with column := some column, negated }
  | .exists negated query => { rest with negated, query := some query }
  | .group filters => { rest with filters }
  | .raw raw bindings => { rest with raw := some raw, bindings }
  | .columns first c second =>
    { rest with column := some first, operator := some (.compare c), second := some second }
  | .datePart column part c value =>
    { rest with
      column := some column, datePart := some part, operator := some (.compare c), value }
  | .jsonContains column value => { rest with column := some column, value }
  | .jsonLength column c value =>
    { rest with column := some column, operator := some (.compare c), value }
  | .jsonPath column path c value =>
    { rest with column := some column, path := some path, operator := some (.compare c), value }
  | .fullText columns value => { rest with columns, value }
  | .anyColumn columns c value matchAll negated =>
    { rest with columns, operator := some (.compare c), value, matchAll, negated }

/-! ## Joins -/

/-- The join, if its ON condition has two sides. A cross join needs none. -/
def Join.check (j : Join) : Result Join :=
  if j.kind ≠ .cross && ((given j.first).isNone || (given j.second).isNone) then
    rejectClause (.joinNeedsCondition j.kind j.table)
  else .ok j

/-! ## The other clauses -/

/-- Every part that a select item, group key, order key or HAVING clause may be given. -/
structure KeyParts where
  isRaw : Bool := false
  column : Option String := none
  shownAs : Option String := none
  direction : Direction := .asc
  connective : Connective := .and
  operator : Option Operator := none
  value : Value := .null
  raw : Option String := none
  bindings : List Value := []

namespace KeyParts

/-- The raw text of a raw clause, which must have no column. -/
def needRaw (p : KeyParts) (site : RawSite) : Result String :=
  match given p.raw, p.column with
  | some raw, none => .ok raw
  | _, _ => rejectClause (.rawOnly site)

/-- The column of a structured clause, which must have no raw text. -/
def needColumn (p : KeyParts) (fault : ClauseFault) : Result String :=
  match given p.column, p.raw with
  | some column, none => .ok column
  | _, _ => rejectClause fault

def selectItem (p : KeyParts) : Result SelectItem :=
  if p.isRaw then do return .raw (← p.needRaw .select) p.shownAs
  else do return .column (← p.needColumn .selectNeedsColumn) p.shownAs

def groupKey (p : KeyParts) : Result GroupKey :=
  if p.isRaw then do
    let raw ← p.needRaw .group
    checkMarkers raw p.bindings
    return .raw raw p.bindings
  else do return .column (← p.needColumn (.needsColumn .group)) p.bindings

def orderKey (p : KeyParts) : Result OrderKey :=
  if p.isRaw then do
    let raw ← p.needRaw .order
    checkMarkers raw p.bindings
    return .raw raw p.bindings p.direction
  else do return .column (← p.needColumn (.needsColumn .order)) p.direction p.bindings

def having (p : KeyParts) : Result Having :=
  if p.isRaw then do
    let raw ← p.needRaw .having
    checkMarkers raw p.bindings
    return {
      connective := p.connective
      condition := .raw raw p.bindings
      unread := { operator := p.operator, value := p.value } }
  else do
    let column ← p.needColumn (.needsColumn .having)
    match p.operator >>= Operator.comparison? with
    | some c => return {
        connective := p.connective
        condition := .compare column c p.value
        unread := { bindings := p.bindings } }
    | none => rejectClause (.havingOperator p.operator)

end KeyParts

def SelectItem.parts : SelectItem → KeyParts
  | column name shownAs => { column := some name, shownAs }
  | raw text shownAs => { isRaw := true, raw := some text, shownAs }

def GroupKey.parts : GroupKey → KeyParts
  | column name bindings => { column := some name, bindings }
  | raw text bindings => { isRaw := true, raw := some text, bindings }

def OrderKey.parts : OrderKey → KeyParts
  | column name direction bindings => { column := some name, direction, bindings }
  | raw text bindings direction => { isRaw := true, raw := some text, bindings, direction }

def Having.parts (h : Having) : KeyParts :=
  match h.condition with
  | .compare left c right =>
    { column := some left, operator := some (.compare c), value := right,
      connective := h.connective, bindings := h.unread.bindings }
  | .raw text bindings =>
    { isRaw := true, raw := some text, bindings, connective := h.connective,
      operator := h.unread.operator, value := h.unread.value }

end SqlQuery
