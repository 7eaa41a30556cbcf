import SqlQuery.Clause.Reading
import SqlQuery.Text.Blank
import SqlQuery.Text.Case

/-!
Clauses from loosely given operands: words in any case, single values where a list is wanted.

The operands are brought into the form that the fields of the clause take, and the fields are then
read as any others, so what these functions make has passed every check of its clause.
-/

namespace SqlQuery

open SqlQuery.Text

/-! ## Words in any case -/

/-- An operator in any case and with any blanks between its words. -/
def parseOperator : Argument → Result Operator
  | .word (.operator op) => .ok op
  | a => match Operator.ofText? (upper (squeeze a.shown)) with
    | some op => .ok op
    | none => reject (.unknownOperator a.shown a.toValue)

def parseConnective : Argument → Result Connective
  | .word (.connective c) => .ok c
  | a => match Connective.ofText? (upper a.shown) with
    | some c => .ok c
    | none => reject (.unknownConnective a.shown)

def parseDirection : Argument → Result Direction
  | .word (.direction d) => .ok d
  | a => match Direction.ofText? (upper a.shown) with
    | some d => .ok d
    | none => reject (.unknownDirection a.shown)

/-- A lock mode in any case and with any blanks between its words. -/
def parseLock : Argument → Result LockMode
  | .word (.lock m) => .ok m
  | a => match LockMode.ofText? (upper (squeeze a.shown)) with
    | some m => .ok m
    | none => reject (.unknownLock a.shown)

/-- A word of a vocabulary by its text, which is named as it was looked up if it is unknown. -/
def wordOfText (vocabulary : String) (ofText? : String → Option α) (s : String) : Result α :=
  match ofText? s with
  | some x => .ok x
  | none =>
    .error (.foreign .value (Text.quoted s ++ " is not a valid " ++ vocabulary))

def parseDatePart : Argument → Result DatePart
  | .word (.datePart p) => .ok p
  | a => wordOfText "DatePart" DatePart.ofText? (upper a.shown)

def parseJoinKind : Argument → Result JoinKind
  | .word (.join k) => .ok k
  | a => wordOfText "JoinType" JoinKind.ofText? (upper a.shown)

/-- What an upsert does on a conflict, by its exact text. -/
def parseConflict : Argument → Result ConflictAction
  | .word (.conflict a) => .ok a
  | a => match ConflictAction.ofText? a.shown with
    | some x => .ok x
    | none =>
      .error (.foreign .value (a.toValue.inspect ++ " is not a valid ConflictAction"))

/-! ## Operators with a value -/

/-- An operator and a value. If the value is left out, what stands in the operator's place is the
value, and the operator is equality. -/
def operatorAndValue (operator : Argument) (value : Option Argument) :
    Result (Operator × Argument) :=
  match value with
  | none => .ok (.compare .eq, operator)
  | some v => do return (← parseOperator operator, v)

/-! ## Filters -/

namespace Filter

def described (kind : FilterKind) (connective : Connective) (fields : Fields) : Result Filter :=
  describe (("kind", .word (.filter kind)) :: ("boolean", .word (.connective connective)) :: fields)

def compare (column operator value connective : Argument) : Result Filter := do
  let op ← parseOperator operator
  let c ← parseConnective connective
  described .basic c [("column", column), ("operator", .word (.operator op)), ("value", value)]

def between (column values connective negated : Argument) : Result Filter := do
  let c ← parseConnective connective
  described .between c [("column", column), ("values", .tuple values.spread), ("negated", negated)]

/-- A column among values, or among the rows of a query. -/
def among (column values connective negated : Argument) : Result Filter := do
  let c ← parseConnective connective
  let source := match values with
    | .query q => ("query", .query q)
    | values => ("values", .tuple values.spread)
  described .isIn c [("column", column), source, ("negated", negated)]

def null (column connective negated : Argument) : Result Filter := do
  let c ← parseConnective connective
  described .isNull c [("column", column), ("negated", negated)]

def existing (query connective negated : Argument) : Result Filter := do
  let c ← parseConnective connective
  described .exists c [("query", query), ("negated", negated)]

def nested (filters connective : Argument) : Result Filter := do
  let filters ← filters.parts
  let c ← parseConnective connective
  described .nested c [("wheres", .tuple filters)]

def raw (text bindings connective : Argument) : Result Filter := do
  let bindings ← bindings.parts
  let c ← parseConnective connective
  described .raw c [("raw", text), ("bindings", .tuple bindings)]

def compareColumns (first operator second connective : Argument) : Result Filter := do
  let op ← parseOperator operator
  let c ← parseConnective connective
  described .columns c
    [("column", first), ("operator", .word (.operator op)), ("second", second)]

def compareDatePart (column part operator value connective : Argument) : Result Filter := do
  let part ← parseDatePart part
  let op ← parseOperator operator
  let c ← parseConnective connective
  described .date c [("column", column), ("date_part", .word (.datePart part)),
    ("operator", .word (.operator op)), ("value", value)]

def jsonContains (column value connective : Argument) : Result Filter := do
  let c ← parseConnective connective
  described .jsonContains c [("column", column), ("value", value)]

def jsonLength (column operator value connective : Argument) : Result Filter := do
  let op ← parseOperator operator
  let c ← parseConnective connective
  described .jsonLength c
    [("column", column), ("operator", .word (.operator op)), ("value", value)]

def jsonPath (column path operator value connective : Argument) : Result Filter := do
  let op ← parseOperator operator
  let c ← parseConnective connective
  described .jsonPath c [("column", column), ("path", path),
    ("operator", .word (.operator op)), ("value", value)]

def fullText (columns value connective : Argument) : Result Filter := do
  let c ← parseConnective connective
  described .fullText c [("columns", .tuple columns.spread), ("value", value)]

def anyColumn (columns operator value matchAll negated connective : Argument) :
    Result Filter := do
  let op ← parseOperator operator
  let c ← parseConnective connective
  described .multiColumn c [("columns", .tuple columns.spread),
    ("operator", .word (.operator op)), ("value", value), ("match_all", matchAll),
    ("negated", negated)]

/-- A comparison, or a test for null where a column is compared with null for equality or its
opposite. -/
def compareOrNull (column : Argument) (op : Operator) (value connective : Argument) :
    Result Filter :=
  match value, op with
  | .value .null, .compare .eq => null column connective (.value (.bool false))
  | .value .null, .compare .ne | .value .null, .compare .neAlt =>
    null column connective (.value (.bool true))
  | value, op => compare column (.word (.operator op)) value connective

end Filter

/-! ## Other clauses -/

namespace SelectItem

def ofColumn (column shownAs : Argument) : Result SelectItem :=
  describe [("kind", .word (.select false)), ("column", column), ("alias", shownAs)]

def ofRaw (text : Argument) : Result SelectItem :=
  describe [("kind", .word (.select true)), ("raw", text)]

end SelectItem

namespace Join

def make (kind table first operator second filters : Argument) : Result Join := do
  let kind ← parseJoinKind kind
  let op ← parseOperator operator
  let filters ← filters.parts
  describe [("kind", .word (.join kind)), ("table", table), ("first", first),
    ("operator", .word (.operator op)), ("second", second), ("wheres", .tuple filters)]

end Join

namespace OrderKey

def ofColumn (column direction : Argument) : Result OrderKey := do
  let d ← parseDirection direction
  describe [("column", column), ("direction", .word (.direction d))]

def ofRaw (text bindings : Argument) : Result OrderKey := do
  let bindings ← bindings.parts
  describe [("kind", .word (.order true)), ("raw", text), ("bindings", .tuple bindings)]

end OrderKey

namespace GroupKey

def ofColumn (column : Argument) : Result GroupKey :=
  describe [("column", column)]

def ofRaw (text bindings : Argument) : Result GroupKey := do
  let bindings ← bindings.parts
  describe [("kind", .word (.group true)), ("raw", text), ("bindings", .tuple bindings)]

end GroupKey

namespace Having

def compare (column operator value connective : Argument) : Result Having := do
  let op ← parseOperator operator
  let c ← parseConnective connective
  describe [("column", column), ("operator", .word (.operator op)), ("value", value),
    ("boolean", .word (.connective c))]

def ofRaw (text bindings connective : Argument) : Result Having := do
  let bindings ← bindings.parts
  let c ← parseConnective connective
  describe [("kind", .word (.having true)), ("raw", text), ("bindings", .tuple bindings),
    ("boolean", .word (.connective c))]

end Having

namespace Branch

def make (query all : Argument) : Result Branch :=
  describe [("query", query), ("all", all)]

end Branch

end SqlQuery
