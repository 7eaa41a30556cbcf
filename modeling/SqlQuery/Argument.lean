import SqlQuery.Clause
import SqlQuery.Page

/-!
Scripts and their arguments.

A script says how a query is built: a list of steps, each a verb with its arguments. What a step
is given is a `Term`, an expression that may name another builder, describe a clause by its fields
or hold a script of its own. When the step runs, its terms are evaluated to `Argument`s: data,
clauses, queries, references to builders, and routines that wait for a builder to work on.
-/

namespace SqlQuery

/-! ## Words -/

/-- A word from one of the fixed vocabularies, as opposed to a text that may name one. -/
inductive Word where
  | operator (op : Operator)
  | connective (c : Connective)
  | join (k : JoinKind)
  | direction (d : Direction)
  | lock (m : LockMode)
  | conflict (a : ConflictAction)
  | datePart (p : DatePart)
  | filter (k : FilterKind)
  | select (raw : Bool)
  | order (raw : Bool)
  | group (raw : Bool)
  | having (raw : Bool)
  deriving DecidableEq, Repr

namespace Word

/-- The text of a clause's form. -/
def formText (structured : String) (raw : Bool) : String :=
  if raw then "raw" else structured

def text : Word → String
  | operator op => op.text
  | connective c => c.text
  | join k => k.text
  | direction d => d.text
  | lock m => m.text
  | conflict a => a.text
  | datePart p => p.text
  | filter k => k.text
  | select raw | order raw | group raw => formText "column" raw
  | having raw => formText "basic" raw

/-- The vocabulary of a word. -/
def vocabulary : Word → String
  | operator _ => "Operator"
  | connective _ => "Boolean"
  | join _ => "JoinType"
  | direction _ => "Direction"
  | lock _ => "LockMode"
  | conflict _ => "ConflictAction"
  | datePart _ => "DatePart"
  | filter _ => "WhereKind"
  | select _ => "SelectKind"
  | order _ => "OrderKind"
  | group _ => "GroupKind"
  | having _ => "HavingKind"

/-- The name of a comparison that is written with signs. -/
def signName? : Comparison → Option String
  | .eq => some "EQ"
  | .ne => some "NE"
  | .neAlt => some "NE_ALT"
  | .gt => some "GT"
  | .gte => some "GTE"
  | .lt => some "LT"
  | .lte => some "LTE"
  | _ => none

/-- The name of a word in its vocabulary. -/
def name (w : Word) : String :=
  let sign := match w with
    | operator (.compare c) => signName? c
    | _ => none
  sign.getD (String.ofList (w.text.toList.map fun c => if c == ' ' then '_' else c.toUpper))

/-- A word in messages. -/
def shown (w : Word) : String :=
  w.vocabulary ++ "." ++ w.name

end Word

namespace Word

/-- The form of a clause by its text. -/
def formOfText? (structured text : String) : Option Bool :=
  if text == structured then some false else if text == "raw" then some true else none

/-- The word of a vocabulary that has a text. -/
def ofText? (vocabulary text : String) : Option Word :=
  match vocabulary with
  | "Operator" => (Operator.ofText? text).map operator
  | "Boolean" => (Connective.ofText? text).map connective
  | "JoinType" => (JoinKind.ofText? text).map join
  | "Direction" => (Direction.ofText? text).map direction
  | "LockMode" => (LockMode.ofText? text).map lock
  | "ConflictAction" => (ConflictAction.ofText? text).map conflict
  | "DatePart" => (DatePart.ofText? text).map datePart
  | "WhereKind" => (FilterKind.ofText? text).map filter
  | "SelectKind" => (formOfText? "column" text).map select
  | "OrderKind" => (formOfText? "column" text).map order
  | "GroupKind" => (formOfText? "column" text).map group
  | "HavingKind" => (formOfText? "basic" text).map having
  | _ => none

end Word

/-! ## Scripts -/

/-- What a step does. Where a verb has variants that its arguments do not choose, it carries
them. -/
inductive Verb where
  | table
  | select
  | selectAs
  | selectRaw
  | distinct
  | filter
  | filterNot
  | filterRaw (c : Connective)
  | filterColumns
  | filterBetween
  | filterIn
  | filterNull
  | filterExists
  | filterDatePart (part : DatePart) (c : Connective)
  | filterNow (c : Comparison)
  | filterToday (c : Comparison)
  | filterJsonContains
  | filterJsonLength
  | filterJsonPath
  | filterFullText
  | filterAny (matchAll negated : Bool) (c : Connective)
  | join
  | crossJoin
  | on
  | groupBy
  | groupByRaw
  | having
  | havingRaw (c : Connective)
  | orderBy
  | orderByRaw
  | limit
  | offset
  | forPage
  | union
  | lock
  | choose (negated : Bool)
  | tap
  | scope
  | debug
  | cancellable
  deriving DecidableEq, Repr

/-- What can be described by its fields. -/
inductive Model where
  | selectItem
  | filter
  | join
  | order
  | group
  | having
  | branch
  | query
  | bounds
  deriving DecidableEq, Repr

namespace Model

def name : Model → String
  | selectItem => "SelectItem"
  | filter => "WhereClause"
  | join => "JoinClause"
  | order => "OrderClause"
  | group => "GroupClause"
  | having => "HavingClause"
  | branch => "UnionClause"
  | query => "QueryState"
  | bounds => "PaginationMeta"

def all : List Model :=
  [selectItem, filter, join, order, group, having, branch, query, bounds]

def ofName? (s : String) : Option Model :=
  all.find? (·.name == s)

end Model

/-- What a callback does when it is called. -/
inductive Reply where
  | answer (v : Value)
  | fail (e : Error)
  deriving Repr

mutual

/-- An expression that a step is given. -/
inductive Term where
  | value (v : Value)
  | list (items : List Term)
  | tuple (items : List Term)
  /-- Values that can be gone through once. -/
  | stream (items : List Term)
  | mapping (entries : List (String × Term))
  | word (w : Word)
  /-- A clause or a query described by its fields. -/
  | described (model : Model) (fields : List (String × Term))
  /-- A script that is run on a builder when the step calls for it. -/
  | routine (steps : List Step)
  /-- A builder made on the spot. -/
  | made (table dialect : Option Value) (steps : List Step)
  /-- The query of a builder made on the spot. -/
  | madeQuery (table dialect : Option Value) (steps : List Step)
  /-- A builder of the session. -/
  | named (name : String)
  /-- The query of a builder of the session. -/
  | namedQuery (name : String)
  /-- The session's cancel event, set or cleared. -/
  | event (isSet : Bool)
  | callback (replies : List Reply)

/-- One step of a script. An argument that may be left out is `none` where it is. -/
inductive Step where
  | mk (verb : Verb) (args : List (Option Term))

end

abbrev Routine := List Step

namespace Step

def verb : Step → Verb
  | mk verb _ => verb

def args : Step → List (Option Term)
  | mk _ args => args

end Step

mutual

/-- The number of steps in a term. -/
def Term.size : Term → Nat
  | .list items | .tuple items | .stream items => sizeOfTerms items
  | .mapping entries | .described _ entries => sizeOfEntries entries
  | .routine steps | .made _ _ steps | .madeQuery _ _ steps => sizeOfSteps steps + 1
  | _ => 0

def sizeOfTerms : List Term → Nat
  | [] => 0
  | t :: ts => t.size + sizeOfTerms ts

def sizeOfEntries : List (String × Term) → Nat
  | [] => 0
  | (_, t) :: es => t.size + sizeOfEntries es

def sizeOfSteps : List Step → Nat
  | [] => 0
  | s :: ss => s.size + sizeOfSteps ss

/-- The number of steps in a step, itself included. -/
def Step.size : Step → Nat
  | .mk _ args => sizeOfArgs args + 1

def sizeOfArgs : List (Option Term) → Nat
  | [] => 0
  | none :: ts => sizeOfArgs ts
  | some t :: ts => t.size + sizeOfArgs ts

end

mutual

/-- The value of a term that is plain data, null for any other. -/
def Term.data : Term → Value
  | .value v => v
  | .list items | .stream items => .list (dataOfTerms items)
  | .tuple items => .tuple (dataOfTerms items)
  | .mapping entries => .mapping (dataOfEntries entries)
  | .word w => .text w.text
  | _ => .null

def dataOfTerms : List Term → List Value
  | [] => []
  | t :: ts => t.data :: dataOfTerms ts

def dataOfEntries : List (String × Term) → List (String × Value)
  | [] => []
  | (k, t) :: es => (k, t.data) :: dataOfEntries es

end

/-! ## Arguments -/

/-- A builder of a session, by its number. -/
abbrev BuilderId := Nat

/-- What a step gets. -/
inductive Argument where
  /-- Plain data that is neither a sequence nor a mapping. -/
  | value (v : Value)
  | list (items : List Argument)
  | tuple (items : List Argument)
  | stream (items : List Argument)
  | mapping (entries : List (String × Argument))
  | word (w : Word)
  | selectItem (x : SelectItem)
  | filter (x : Filter)
  | join (x : Join)
  | order (x : OrderKey)
  | group (x : GroupKey)
  | having (x : Having)
  | branch (x : Branch)
  | query (q : Query)
  | bounds (b : PageBounds)
  | routine (steps : Routine)
  | builder (id : BuilderId)
  | event
  | callback (replies : List Reply)
  deriving Inhabited

/-- The fields that something is described by. -/
abbrev Fields := List (String × Argument)

namespace Argument

abbrev null : Argument := .value .null

abbrev text (s : String) : Argument := .value (.text s)

mutual

/-- The value that is bound for an argument. A word is bound as its text. -/
def toValue : Argument → Value
  | value v => v
  | list items => .list (toValues items)
  | tuple items => .tuple (toValues items)
  | stream items => .iterator (toValues items)
  | mapping entries => .mapping (toEntries entries)
  | word w => .text w.text
  | _ => .null

def toValues : List Argument → List Value
  | [] => []
  | a :: as => a.toValue :: toValues as

def toEntries : List (String × Argument) → List (String × Value)
  | [] => []
  | (k, a) :: es => (k, a.toValue) :: toEntries es

end

mutual

/-- How deep sequences and mappings are nested. -/
def depth : Argument → Nat
  | list items | tuple items | stream items => depthOfItems items + 1
  | mapping entries => depthOfEntries entries + 1
  | _ => 0

def depthOfItems : List Argument → Nat
  | [] => 0
  | a :: as => max a.depth (depthOfItems as)

def depthOfEntries : List (String × Argument) → Nat
  | [] => 0
  | (_, a) :: es => max a.depth (depthOfEntries es)

end

/-- The plain text of an argument. -/
def shown : Argument → String
  | word w => w.shown
  | a => a.toValue.plainText

/-- The name of an argument's type in messages. -/
def typeName : Argument → String
  | value v => v.typeName
  | list _ => "list"
  | tuple _ => "tuple"
  | stream _ => "generator"
  | mapping _ => "dict"
  | word w => w.vocabulary
  | selectItem _ => Model.selectItem.name
  | filter _ => Model.filter.name
  | join _ => Model.join.name
  | order _ => Model.order.name
  | group _ => Model.group.name
  | having _ => Model.having.name
  | branch _ => Model.branch.name
  | query _ => Model.query.name
  | bounds _ => Model.bounds.name
  | routine _ | callback _ => "function"
  | builder _ => "QueryBuilder"
  | event => "Event"

/-- The name of an argument's type where a message tells of an operation that the type does not
have. -/
def qualifiedTypeName : Argument → String
  | value v => v.qualifiedTypeName
  | a => a.typeName

/-- Whether a condition holds of an argument. -/
def isTruthy : Argument → Bool
  | value v => v.isTruthy
  | list items | tuple items => !items.isEmpty
  | mapping entries => !entries.isEmpty
  | word w => !w.text.isEmpty
  | _ => true

/-- The bytes of a buffer as integers. -/
def ofBytes (data : List UInt8) : List Argument :=
  data.map fun b => .value (.int b.toNat)

/-- The parts of an argument where a list of values is wanted. Texts and buffers count as one
value, all but the buffers that are views of another. -/
def spread : Argument → List Argument
  | list items | tuple items | stream items => items
  | mapping entries => entries.map fun (k, _) => text k
  | value (.list items) | value (.tuple items) | value (.iterator items) => items.map value
  | value (.mapping entries) => entries.map fun (k, _) => text k
  | value (.bytes .view data) => ofBytes data
  | a => [a]

/-- The parts of an argument that can be gone through, texts and buffers included. -/
def parts : Argument → Result (List Argument)
  | value (.text s) => .ok (s.toList.map fun c => text c.toString)
  | word w => .ok (w.text.toList.map fun c => text c.toString)
  | value (.bytes _ data) => .ok (ofBytes data)
  | value (.list items) | value (.tuple items) | value (.iterator items) =>
    .ok (items.map value)
  | list items | tuple items | stream items => .ok items
  | mapping entries => .ok (entries.map fun (k, _) => text k)
  | value (.mapping entries) => .ok (entries.map fun (k, _) => text k)
  | a => .error (.foreign .type ("'" ++ a.qualifiedTypeName ++ "' object is not iterable"))

end Argument

end SqlQuery
