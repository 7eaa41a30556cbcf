import SqlQuery.Proofs.Templates
import SqlQuery.Statement.Select

/-!
# What a query shows, binds and numbers

Three readings of a query, none of which goes through the compiler.

* `template` is the text in the order in which it is shown, with a slot wherever a clause mentions
  a value.
* `operands` are the values in the order in which they are bound: joins, filters, groups, having,
  branches and orders, and last the values of the select list.
* `numbers` are the numbers of the placeholders in the order in which they are shown. The select
  list of a statement stands first and has the highest numbers of the statement; the other sections
  follow with the lower ones, and a statement inside them is numbered in its place in the same way.

A feature that a dialect lacks has the empty template: a statement that asks for it is not made.
-/

namespace SqlQuery

open Piece

/-! ## Templates -/

section Template

variable (d : Dialect)

/-- Raw text with a slot at each marker. -/
def rawTemplate (raw : String) (values : List Value) : Template :=
  match RawText.split raw with
  | [] => []
  | first :: rest =>
    text first :: (values.zip rest).flatMap fun (v, s) => [slot (.plain v), text s]

/-- A left side compared with an operand. -/
def comparedTemplate (left : String) (c : Comparison) (v : Value) : Template :=
  [text (left ++ " " ++ d.comparisonText c ++ " "), slot (.plain v)]

/-- Values separated by commas. -/
def listTemplate (values : List Value) : Template :=
  [text ", "].intercalate (values.map fun v => [slot (.plain v)])

/-- An operand with the text around it. -/
def Around.template (a : Around) (o : Operand) : Template :=
  [text a.before, slot o, text a.after]

/-- The word before a filter that is not the first. -/
def Connective.template (c : Connective) : Template :=
  [Piece.text (" " ++ c.text ++ " ")]

/-- The items of a select list. Raw items take as many of the values as they have markers. -/
def selectTemplates : List SelectItem → List Value → List Template
  | [], _ => []
  | .column name shownAs :: rest, values =>
    [text (match shownAs with
      | none | some "" => name
      | some a => name ++ " AS " ++ a)] :: selectTemplates rest values
  | .raw raw _ :: rest, values =>
    rawTemplate raw (values.take (RawText.markerCount raw))
      :: selectTemplates rest (values.drop (RawText.markerCount raw))

def headTemplate (distinct : Bool) (selects : List SelectItem) (values : List Value) : Template :=
  let keyword := if distinct then "SELECT DISTINCT" else "SELECT"
  if selects.isEmpty then [text (keyword ++ " *")]
  else text (keyword ++ " ") :: [text ", "].intercalate (selectTemplates selects values)

def GroupKey.template : GroupKey → Template
  | column name _ => [text name]
  | raw s values => rawTemplate s values

def OrderKey.template : OrderKey → Template
  | column name direction _ => [text (name ++ " " ++ direction.text)]
  | raw s values _ => rawTemplate s values

def HavingCondition.template : HavingCondition → Template
  | compare left c right => comparedTemplate d left c right
  | raw s values => rawTemplate s values

/-- The clauses of HAVING that follow the first. -/
def laterHavingTemplate (havings : List Having) : Template :=
  havings.flatMap fun h => h.connective.template ++ h.condition.template d

/-- A section under its keyword, absent if it has no items. -/
def sectionTemplate (keyword : String) (items : List α) (body : List α → Template) :
    List Template :=
  if items.isEmpty then [] else [text keyword :: body items]

def groupSection (groups : List GroupKey) : List Template :=
  sectionTemplate "GROUP BY " groups fun gs => [text ", "].intercalate (gs.map GroupKey.template)

def havingSection (havings : List Having) : List Template :=
  match havings with
  | [] => []
  | h :: rest => [text "HAVING " :: h.condition.template d ++ laterHavingTemplate d rest]

def orderSection (orders : List OrderKey) : List Template :=
  sectionTemplate "ORDER BY " orders fun os => [text ", "].intercalate (os.map OrderKey.template)

/-- The sections that bind no values. -/
def boundSection (limit offset : Option Nat) (lock : Option LockMode) : List Template :=
  (limit.map fun n => [text ("LIMIT " ++ toString n)]).toList
    ++ (offset.map fun n => [text ("OFFSET " ++ toString n)]).toList
    ++ (lock.map fun m => [text m.text]).toList

def sourceSection (table : Option String) : List Template :=
  match table with
  | none | some "" => []
  | some t => [[text ("FROM " ++ t)]]

/-- The words of a join up to its further filters. -/
def joinHead (j : Join) : Template :=
  match d.joinKeyword j.kind with
  | .ok keyword => [text (keyword ++ " " ++ j.table ++ " ON " ++ j.first.getD "" ++ " "
      ++ d.operatorText j.operator ++ " " ++ j.second.getD "")]
  | .error _ => []

mutual

/-- The text of a condition, with a slot for each value that it mentions. -/
def Condition.template : Condition → Template
  | .raw s values => rawTemplate s values
  | .compare column c v => comparedTemplate d column c v
  | .between column negated low high =>
    [text (column ++ (if negated then " NOT BETWEEN " else " BETWEEN ")), slot (.plain low),
      text " AND ", slot (.plain high)]
  | .inValues column negated values =>
    text (column ++ (if negated then " NOT IN (" else " IN (")) :: listTemplate values
      ++ [text ")"]
  | .inQuery column negated query =>
    text (column ++ (if negated then " NOT IN (" else " IN (")) :: query.template ++ [text ")"]
  | .isNull column negated => [text (column ++ (if negated then " IS NOT NULL" else " IS NULL"))]
  | .exists negated query =>
    text (if negated then "NOT EXISTS (" else "EXISTS (") :: query.template ++ [text ")"]
  | .group filters => text "(" :: filterTemplate filters ++ [text ")"]
  | .columns first c second => [text (first ++ " " ++ d.comparisonText c ++ " " ++ second)]
  | .datePart column part c v =>
    match d.datePart with
    | some words => comparedTemplate d (words column part) c v
    | none => []
  | .jsonContains column v =>
    match d.jsonContains with
    | some words => (words column).template (.contained v)
    | none => []
  | .jsonLength column c v =>
    match d.jsonLength with
    | some words => comparedTemplate d (words column) c v
    | none => []
  | .jsonPath column path c v =>
    match d.jsonPath with
    | some words => comparedTemplate d (words column path) c v
    | none => []
  | .fullText columns v =>
    match d.fullText with
    | some words => (words columns).template (.plain v)
    | none => []
  | .anyColumn columns c v matchAll negated =>
    text (if negated then "NOT (" else "(")
      :: [text (if matchAll then " AND " else " OR ")].intercalate
        (columns.map fun column => comparedTemplate d column c v)
      ++ [text ")"]

/-- Filters with the words between them. The word of the first is not shown. -/
def filterTemplate : List Filter → Template
  | [] => []
  | ⟨_, condition, _⟩ :: rest => condition.template ++ laterTemplate rest

/-- Filters that follow others, each after its word. -/
def laterTemplate : List Filter → Template
  | [] => []
  | ⟨connective, condition, _⟩ :: rest =>
    connective.template ++ condition.template ++ laterTemplate rest

def joinTemplates : List Join → List Template
  | [] => []
  | ⟨.cross, table, _, _, _, _⟩ :: rest => [text ("CROSS JOIN " ++ table)] :: joinTemplates rest
  | ⟨kind, table, first, operator, second, filters⟩ :: rest =>
    (joinHead d { kind, table, first, operator, second } ++ laterTemplate filters)
      :: joinTemplates rest

def branchTemplates : List Branch → List Template
  | [] => []
  | ⟨query, all⟩ :: rest =>
    (text (if all then "UNION ALL (" else "UNION (") :: query.template ++ [text ")"])
      :: branchTemplates rest

/-- The text of a whole statement. -/
def Query.template : Query → Template
  | { table, selects, distinct, filters, joins, groups, havings, orders, unions, limit, offset,
      lock, selectValues } =>
    let sections := sourceSection table ++ joinTemplates joins
      ++ (if filters.isEmpty then [] else [text "WHERE " :: filterTemplate filters])
      ++ groupSection groups ++ havingSection d havings ++ branchTemplates unions
      ++ orderSection orders ++ boundSection limit offset lock
    headTemplate distinct selects selectValues ++ sections.flatMap fun s => text " " :: s

end

theorem Query.template_eq (q : Query) : q.template d =
    headTemplate q.distinct q.selects q.selectValues
      ++ (sourceSection q.table ++ joinTemplates d q.joins
        ++ (if q.filters.isEmpty then [] else [text "WHERE " :: filterTemplate d q.filters])
        ++ groupSection q.groups ++ havingSection d q.havings ++ branchTemplates d q.unions
        ++ orderSection q.orders ++ boundSection q.limit q.offset q.lock).flatMap
          fun s => text " " :: s := by
  cases q
  rw [Query.template]

theorem joinTemplates_on {j : Join} (h : j.kind ≠ .cross) (rest : List Join) :
    joinTemplates d (j :: rest)
      = (joinHead d { j with filters := [] } ++ laterTemplate d j.filters)
        :: joinTemplates d rest := by
  cases j
  rw [joinTemplates]
  exact h

end Template

/-! ## Operands -/

def GroupKey.operands : GroupKey → List Operand
  | column .. => []
  | raw _ values => values.map .plain

def OrderKey.operands : OrderKey → List Operand
  | column .. => []
  | raw _ values _ => values.map .plain

def HavingCondition.operands : HavingCondition → List Operand
  | compare _ _ right => [.plain right]
  | raw _ values => values.map .plain

/-- The operands of a select list. Without items the select values are not looked at. -/
def headOperands (selects : List SelectItem) (values : List Value) : List Operand :=
  if selects.isEmpty then [] else values.map .plain

mutual

/-- The operands of a condition. -/
def Condition.operands : Condition → List Operand
  | .raw _ values => values.map .plain
  | .compare _ _ v => [.plain v]
  | .between _ _ low high => [.plain low, .plain high]
  | .inValues _ _ values => values.map .plain
  | .inQuery _ _ query => query.operands
  | .isNull .. => []
  | .exists _ query => query.operands
  | .group filters => filterOperands filters
  | .columns .. => []
  | .datePart _ _ _ v => [.plain v]
  | .jsonContains _ v => [.contained v]
  | .jsonLength _ _ v => [.plain v]
  | .jsonPath _ _ _ v => [.plain v]
  | .fullText _ v => [.plain v]
  | .anyColumn columns _ v _ _ => columns.map fun _ => .plain v

def filterOperands : List Filter → List Operand
  | [] => []
  | ⟨_, condition, _⟩ :: rest => condition.operands ++ filterOperands rest

/-- The operands of joins. A cross join shows none of its filters. -/
def joinOperands : List Join → List Operand
  | [] => []
  | ⟨.cross, _, _, _, _, _⟩ :: rest => joinOperands rest
  | ⟨_, _, _, _, _, filters⟩ :: rest => filterOperands filters ++ joinOperands rest

def branchOperands : List Branch → List Operand
  | [] => []
  | ⟨query, _⟩ :: rest => query.operands ++ branchOperands rest

/-- The operands of a statement in the order in which they are bound. -/
def Query.operands : Query → List Operand
  | { selects, filters, joins, groups, havings, orders, unions, selectValues, .. } =>
    joinOperands joins ++ filterOperands filters ++ groups.flatMap GroupKey.operands
      ++ havings.flatMap (fun h => h.condition.operands) ++ branchOperands unions
      ++ orders.flatMap OrderKey.operands ++ headOperands selects selectValues

end

/-- The operands of all sections but the select list. -/
def Query.bodyOperands (q : Query) : List Operand :=
  joinOperands q.joins ++ filterOperands q.filters ++ q.groups.flatMap GroupKey.operands
    ++ q.havings.flatMap (fun h => h.condition.operands) ++ branchOperands q.unions
    ++ q.orders.flatMap OrderKey.operands

/-- A join that is not a cross join shows its filters. -/
theorem joinOperands_on {j : Join} (h : j.kind ≠ .cross) (rest : List Join) :
    joinOperands (j :: rest) = filterOperands j.filters ++ joinOperands rest := by
  cases j
  rw [joinOperands]
  exact h

theorem Query.operands_eq (q : Query) :
    q.operands = q.bodyOperands ++ headOperands q.selects q.selectValues := by
  cases q
  rw [Query.operands]
  rfl

/-! ## Numbers -/

/-- The numbers that follow `start`, as many as there are operands. -/
def numbersFrom (start : Nat) (operands : List Operand) : List Nat :=
  List.range' (start + 1) operands.length

mutual

/-- The numbers in a condition, of which `start` were given before. -/
def Condition.numbers (start : Nat) : Condition → List Nat
  | .inQuery _ _ query => query.numbers start
  | .exists _ query => query.numbers start
  | .group filters => filterNumbers start filters
  | c => numbersFrom start c.operands

def filterNumbers (start : Nat) : List Filter → List Nat
  | [] => []
  | ⟨_, condition, _⟩ :: rest =>
    condition.numbers start ++ filterNumbers (start + condition.operands.length) rest

def joinNumbers (start : Nat) : List Join → List Nat
  | [] => []
  | ⟨.cross, _, _, _, _, _⟩ :: rest => joinNumbers start rest
  | ⟨_, _, _, _, _, filters⟩ :: rest =>
    filterNumbers start filters ++ joinNumbers (start + (filterOperands filters).length) rest

def branchNumbers (start : Nat) : List Branch → List Nat
  | [] => []
  | ⟨query, _⟩ :: rest => query.numbers start ++ branchNumbers (start + query.operands.length) rest

/-- The numbers in a statement: those of the select list, which come after all others, and then
those of the other sections. -/
def Query.numbers (start : Nat) : Query → List Nat
  | { selects, filters, joins, groups, havings, orders, unions, selectValues, .. } =>
    let afterJoins := start + (joinOperands joins).length
    let afterFilters := afterJoins + (filterOperands filters).length
    let groupOperands := groups.flatMap GroupKey.operands
    let havingOperands := havings.flatMap fun h => h.condition.operands
    let afterHavings := afterFilters + groupOperands.length + havingOperands.length
    let afterBranches := afterHavings + (branchOperands unions).length
    let orderOperands := orders.flatMap OrderKey.operands
    numbersFrom (afterBranches + orderOperands.length) (headOperands selects selectValues)
      ++ (joinNumbers start joins ++ filterNumbers afterJoins filters
        ++ numbersFrom afterFilters groupOperands
        ++ numbersFrom (afterFilters + groupOperands.length) havingOperands
        ++ branchNumbers afterHavings unions ++ numbersFrom afterBranches orderOperands)

end

/-- The numbers of all sections but the select list, each section in its place. -/
def Query.bodyNumbers (start : Nat) (q : Query) : List Nat :=
  let afterJoins := start + (joinOperands q.joins).length
  let afterFilters := afterJoins + (filterOperands q.filters).length
  let groupOperands := q.groups.flatMap GroupKey.operands
  let havingOperands := q.havings.flatMap fun h => h.condition.operands
  let afterHavings := afterFilters + groupOperands.length + havingOperands.length
  let afterBranches := afterHavings + (branchOperands q.unions).length
  joinNumbers start q.joins ++ filterNumbers afterJoins q.filters
    ++ numbersFrom afterFilters groupOperands
    ++ numbersFrom (afterFilters + groupOperands.length) havingOperands
    ++ branchNumbers afterHavings q.unions
    ++ numbersFrom afterBranches (q.orders.flatMap OrderKey.operands)

/-- The block of the select list has the highest numbers and stands first. -/
theorem Query.numbers_eq (start : Nat) (q : Query) :
    q.numbers start
      = numbersFrom (start + q.bodyOperands.length) (headOperands q.selects q.selectValues)
        ++ q.bodyNumbers start := by
  have hlength : (start + q.bodyOperands.length) = start + (joinOperands q.joins).length
      + (filterOperands q.filters).length + (q.groups.flatMap GroupKey.operands).length
      + (q.havings.flatMap fun h => h.condition.operands).length
      + (branchOperands q.unions).length + (q.orders.flatMap OrderKey.operands).length := by
    simp only [Query.bodyOperands, List.length_append, Nat.add_assoc]
  rw [hlength]
  cases q
  rw [Query.numbers]
  rfl

theorem joinNumbers_on {j : Join} (h : j.kind ≠ .cross) (start : Nat) (rest : List Join) :
    joinNumbers start (j :: rest)
      = filterNumbers start j.filters
        ++ joinNumbers (start + (filterOperands j.filters).length) rest := by
  cases j
  rw [joinNumbers]
  exact h

end SqlQuery
