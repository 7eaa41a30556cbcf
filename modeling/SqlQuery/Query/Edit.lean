import SqlQuery.Argument.Arithmetic
import SqlQuery.Argument.Operand
import SqlQuery.Clause.Make

/-!
Edits of a query: what one step of a script does to the query it works on.

An edit either succeeds or leaves the query as it was. A step may be several edits, one for each
column it adds, say; they are made in order up to the first that fails, and those before it stay.
The edits here need nothing but their operands: sub-queries have been made already, and groups and
joins that come from routines are added by `Edit.addFilter` and `Edit.addJoin`.
-/

namespace SqlQuery

abbrev Edit := Query → Result Query

namespace Edit

/-- Makes edits in order up to the first that fails. -/
def applyAll : List Edit → Query → Query × Result Unit
  | [], q => (q, .ok ())
  | e :: es, q => match e q with
    | .ok q => applyAll es q
    | .error err => (q, .error err)

/-! ## Adding clauses -/

def addFilter (f : Result Filter) : Edit := fun q => do
  return { q with filters := q.filters ++ [← f] }

def addJoin (j : Result Join) : Edit := fun q => do
  return { q with joins := q.joins ++ [← j] }

def addGroup (g : Result GroupKey) : Edit := fun q => do
  return { q with groups := q.groups ++ [← g] }

def addHaving (h : Result Having) : Edit := fun q => do
  return { q with havings := q.havings ++ [← h] }

def addOrder (o : Result OrderKey) : Edit := fun q => do
  return { q with orders := q.orders ++ [← o] }

def addBranch (b : Result Branch) : Edit := fun q => do
  return { q with unions := q.unions ++ [← b] }

def addSelect (s : Result SelectItem) : Edit := fun q => do
  return { q with selects := q.selects ++ [← s] }

/-- A raw select item and the values of its markers. The markers are counted before the item is
read, in whatever stands for its text. -/
def addRawSelect (raw : Argument) (values : List Argument) : Edit := fun q => do
  let segments ← raw.rawSegments
  matchMarkers raw.toValue (segments.length - 1) values.length
  let item ← SelectItem.ofRaw raw
  return { q with
    selects := q.selects ++ [item]
    selectValues := q.selectValues ++ Argument.toValues values }

/-! ## Setting parts -/

/-- Reads a single part of a query under the name of its field. -/
def readPart (name : String) (a : Argument) : Result Query :=
  Query.describe [(name, a)]

def setTable (a : Argument) : Edit := fun q => do
  return { q with table := (← readPart "table" a).table }

def setDistinct (a : Argument) : Edit := fun q => do
  return { q with distinct := (← readPart "distinct" a).distinct }

/-- A row count, or a rejection that names what was given. -/
def countOr (name : String) (a : Argument) : Result (Option Nat) :=
  match readCount a with
  | .ok n => .ok n
  | .error _ => rejectClause (.notACount name a.toValue)

def setLimit (a : Argument) : Edit := fun q => do
  return { q with limit := ← countOr "limit" a }

def setOffset (a : Argument) : Edit := fun q => do
  return { q with offset := ← countOr "offset" a }

def setLock (a : Argument) : Edit := fun q => do
  return { q with lock := some (← parseLock a) }

/-- Sets one part of a query by the name of its field. -/
def assign (name : String) (a : Argument) : Edit := fun q =>
  match name with
  | "table" => do return { q with table := (← readPart name a).table }
  | "selects" => do return { q with selects := (← readPart name a).selects }
  | "distinct" => do return { q with distinct := (← readPart name a).distinct }
  | "wheres" => do return { q with filters := (← readPart name a).filters }
  | "joins" => do return { q with joins := (← readPart name a).joins }
  | "groups" => do return { q with groups := (← readPart name a).groups }
  | "havings" => do return { q with havings := (← readPart name a).havings }
  | "orders" => do return { q with orders := (← readPart name a).orders }
  | "unions" => do return { q with unions := (← readPart name a).unions }
  | "limit" => do return { q with limit := (← readPart name a).limit }
  | "offset" => do return { q with offset := (← readPart name a).offset }
  | "lock" => do return { q with lock := (← readPart name a).lock }
  | "select_bindings" => do return { q with selectValues := (← readPart name a).selectValues }
  | _ => .error (.invalid [⟨[name], .noSuchAttribute⟩])

/-! ## Pages -/

/-- The number of rows before a page that is counted from one. -/
def rowsBefore (page perPage : Argument) : Result Argument := do
  (← page.minus (.ofInt 1)).multiply perPage

/-- The limit and the offset of a page. A page below one is the first, and a page size that is zero
or left out is the default. -/
def forPage (defaultPerPage : Int) (page perPage : Argument) : Result (List Edit) := do
  let perPage := if perPage.isTruthy then perPage else .ofInt defaultPerPage
  let page := if ← (Argument.ofInt 1).isAbove page then .ofInt 1 else page
  return [setLimit perPage, fun q => do setOffset (← rowsBefore page perPage) q]

end Edit

/-- Sets one part of something described. Queries can be changed; clauses are what they were made
as. -/
def Argument.assign (target : Argument) (name : String) (a : Argument) : Result Argument :=
  match target with
  | .query q => do return .query (← Edit.assign name a q)
  | _ => .error (.invalid [⟨[name], .frozenInstance⟩])

/-! ## The edits of a step -/

/-- What the steps of one builder share. -/
structure Surroundings where
  now : Moment := ⟨⟨1970, 1, 1⟩, ⟨0, 0, 0, 0⟩⟩
  defaultPerPage : Int := 15

namespace Verb

open Edit

/-- The text or truth value that stands for a choice the verb has made. -/
def flag (b : Bool) : Argument := .value (.bool b)

def joinedBy (c : Connective) : Argument := .word (.connective c)

def comparing (c : Comparison) : Argument := .word (.operator (.compare c))

/-- The filter of a comparison whose value may stand in the operator's place. -/
def compareFilter (column operator : Argument) (value : Option Argument)
    (connective : Argument) : Result Filter := do
  let (op, v) ← operatorAndValue operator value
  Filter.compareOrNull column op v connective

def complementFilter (column operator : Argument) (value : Option Argument)
    (connective : Argument) : Result Filter := do
  let (op, v) ← operatorAndValue operator value
  match op with
  | .compare c => Filter.compareOrNull column (.compare c.complement) v connective
  | op => reject (.notInvertible op)

def withOperator (operator : Argument) (value : Option Argument)
    (make : Argument → Argument → Result α) : Result α := do
  let (op, v) ← operatorAndValue operator value
  make (.word (.operator op)) v

/-- What stands for a column that was left out: no text. -/
def absent : Argument := .list []

def given (args : List (Option Argument)) : List Argument :=
  args.filterMap id

/-- A join whose ON condition compares two columns; with one of them left out, the operator is
equality. -/
def columnJoin (table first : Argument) (operator second : Option Argument) (kind : Argument) :
    Result Join := do
  let kind ← parseJoinKind kind
  let (operator, second) := match second with
    | some second => (operator.getD .null, second)
    | none => (comparing .eq, operator.getD absent)
  Join.make (.word (.join kind)) table first operator second (.tuple [])

/-- The arguments do not fit the verb. -/
def misfit (verb : String) : Result α :=
  .error (.foreign .type (verb ++ "() got unexpected arguments"))

/-- The edits of a step that needs neither a builder nor a routine. -/
def edits (around : Surroundings) (verb : Verb) (args : List (Option Argument)) :
    Result (List Edit) :=
  match verb, args with
  | .table, [some name] => .ok [setTable name]
  | .select, columns =>
    .ok ((given columns).map fun c => addSelect (SelectItem.ofColumn c .null))
  | .selectAs, [some column, some shownAs] => .ok [addSelect (SelectItem.ofColumn column shownAs)]
  | .selectRaw, some raw :: values => .ok [addRawSelect raw (given values)]
  | .distinct, [some enabled] => .ok [setDistinct enabled]
  | .filter, [some (.mapping entries), _, _, some connective] =>
    .ok (entries.map fun (k, v) =>
      addFilter (compareFilter (.text k) (comparing .eq) (some v) connective))
  | .filter, [some column, none, _, _] => rejectClause (.missingValue column.toValue)
  | .filter, [some column, some operator, value, some connective] =>
    .ok [addFilter (compareFilter column operator value connective)]
  | .filterNot, [some column, some operator, value, some connective] =>
    .ok [addFilter (complementFilter column operator value connective)]
  | .filterRaw c, some raw :: values =>
    .ok [addFilter (Filter.raw raw (.tuple (given values)) (joinedBy c))]
  | .filterColumns, [some first, some operator, second, some connective] =>
    .ok [addFilter (withOperator operator second fun op second =>
      Filter.compareColumns first op second connective)]
  | .filterBetween, [some column, some values, some connective, some negated] =>
    .ok [addFilter (Filter.between column values connective negated)]
  | .filterIn, [some column, some values, some connective, some negated] =>
    .ok [addFilter (Filter.among column values connective negated)]
  | .filterNull, [some column, some connective, some negated] =>
    .ok [addFilter (Filter.null column connective negated)]
  | .filterExists, [some query, some connective, some negated] =>
    .ok [addFilter (Filter.existing query connective negated)]
  | .filterDatePart part c, [some column, some operator, value] =>
    .ok [addFilter (withOperator operator value fun op v =>
      Filter.compareDatePart column (.word (.datePart part)) op v (joinedBy c))]
  | .filterNow c, [some column] =>
    .ok [addFilter (compareFilter column (comparing c) (some (.value (.moment around.now)))
      (joinedBy .and))]
  | .filterToday c, [some column] =>
    .ok [addFilter (Filter.compareDatePart column (.word (.datePart .date)) (comparing c)
      (.text around.now.date.iso) (joinedBy .and))]
  | .filterJsonContains, [some column, some value, some connective] =>
    .ok [addFilter (Filter.jsonContains column value connective)]
  | .filterJsonLength, [some column, some operator, value, some connective] =>
    .ok [addFilter (withOperator operator value fun op v =>
      Filter.jsonLength column op v connective)]
  | .filterJsonPath, [some column, some path, some operator, value, some connective] =>
    .ok [addFilter (withOperator operator value fun op v =>
      Filter.jsonPath column path op v connective)]
  | .filterFullText, [some columns, some value, some connective] =>
    .ok [addFilter (Filter.fullText columns value connective)]
  | .filterAny matchAll negated c, [some columns, some operator, value] =>
    .ok [addFilter (withOperator operator value fun op v =>
      Filter.anyColumn columns op v (flag matchAll) (flag negated) (joinedBy c))]
  | .join, [some target, some first, operator, second, some kind] =>
    .ok [addJoin (columnJoin target first operator second kind)]
  | .crossJoin, [some target] =>
    .ok [addJoin (Join.make (.word (.join .cross)) target .null (comparing .eq) .null (.tuple []))]
  | .groupBy, columns => .ok ((given columns).map fun c => addGroup (GroupKey.ofColumn c))
  | .groupByRaw, some raw :: values =>
    .ok [addGroup (GroupKey.ofRaw raw (.tuple (given values)))]
  | .having, [some column, some operator, value, some connective] =>
    .ok [addHaving (withOperator operator value fun op v =>
      Having.compare column op v connective)]
  | .havingRaw c, some raw :: values =>
    .ok [addHaving (Having.ofRaw raw (.tuple (given values)) (joinedBy c))]
  | .orderBy, [some column, some direction] => .ok [addOrder (OrderKey.ofColumn column direction)]
  | .orderByRaw, some raw :: values =>
    .ok [addOrder (OrderKey.ofRaw raw (.tuple (given values)))]
  | .limit, [some n] => .ok [setLimit n]
  | .offset, [some n] => .ok [setOffset n]
  | .forPage, [some page, some perPage] => Edit.forPage around.defaultPerPage page perPage
  | .union, [some query, some all] => .ok [addBranch (Branch.make query all)]
  | .lock, [some mode] => .ok [setLock mode]
  | _, _ => misfit "step"

end Verb

end SqlQuery
