import SqlQuery.Clause
import SqlQuery.Statement

/-!
SELECT statements.

Each clause becomes a fragment. The select list is the head of the statement: its raw items are
shown first, and their values are numbered after all others. Sub-queries and branches are fragments
inside the outer one, so numbers run on through the whole statement.

A statement fails for one of these reasons only: raw text whose markers and values disagree, select
values that no marker takes, a feature that the dialect lacks, or a value that JSON cannot hold.
-/

namespace SqlQuery

open Fragment

/-- The items of a select list, and the select values that are left. -/
def selectItems : List SelectItem → List Value → Result (List Fragment × List Value)
  | [], pending => .ok ([], pending)
  | .column name shownAs :: rest, pending => do
    let shown := match shownAs with
      | none | some "" => name
      | some a => name ++ " AS " ++ a
    let (items, left) ← selectItems rest pending
    return (text shown :: items, left)
  | .raw raw _ :: rest, pending => do
    let needed := RawText.markerCount raw
    let item ← Fragment.ofRaw raw (pending.take needed)
    let (items, left) ← selectItems rest (pending.drop needed)
    return (item :: items, left)

/-- `SELECT` and the select list. Without items everything is selected and no value is bound. -/
def selectHead (distinct : Bool) (selects : List SelectItem) (values : List Value) :
    Result Fragment := do
  let keyword := if distinct then "SELECT DISTINCT" else "SELECT"
  if selects.isEmpty then return text (keyword ++ " *")
  let (items, left) ← selectItems selects values
  if left.isEmpty then return text (keyword ++ " ") ++ intercalate ", " items
  else reject (.unusedSelectValues left.length)

namespace GroupKey

def fragment : GroupKey → Result Fragment
  | column name _ => .ok (text name)
  | raw s values => Fragment.ofRaw s values

end GroupKey

namespace OrderKey

def fragment : OrderKey → Result Fragment
  | column name direction _ => .ok (text (name ++ " " ++ direction.text))
  | raw s values _ => Fragment.ofRaw s values

end OrderKey

namespace HavingCondition

def fragment (d : Dialect) : HavingCondition → Result Fragment
  | compare left c right => .ok (text (left ++ " " ++ d.comparisonText c ++ " ") ++ slot right)
  | raw s values => Fragment.ofRaw s values

end HavingCondition

/-- Conditions with their connectives between them; the first connective is not shown. -/
def connected : List (Connective × Fragment) → Fragment
  | [] => text ""
  | (_, f) :: rest => rest.foldl (fun acc (c, g) => acc ++ text (" " ++ c.text ++ " ") ++ g) f

/-- A left side compared with a value. -/
def comparedWith (d : Dialect) (left : String) (c : Comparison) (v : Value) : Fragment :=
  text (left ++ " " ++ d.comparisonText c ++ " ") ++ slot v

/-- The text around a placeholder, with a slot in its place. -/
def Around.fragment (a : Around) (v : Value) : Fragment :=
  text a.before ++ slot v ++ text a.after

def havingFragments (d : Dialect) (havings : List Having) :
    Result (List (Connective × Fragment)) :=
  havings.mapM fun h => do return (h.connective, ← h.condition.fragment d)

/-- A clause under its keyword, absent if it is empty. -/
def section? (keyword : String) (items : List α) (body : List α → Result Fragment) :
    Result (List Fragment) :=
  if items.isEmpty then .ok [] else do return [text keyword ++ (← body items)]

/-- The clauses that follow the branches of a UNION. -/
def tailFragments (orders : List OrderKey) (limit offset : Option Nat) (lock : Option LockMode) :
    Result (List Fragment) := do
  let orders ← section? "ORDER BY " orders fun os => do
    return intercalate ", " (← os.mapM OrderKey.fragment)
  return orders ++ (limit.map fun n => text ("LIMIT " ++ toString n)).toList
    ++ (offset.map fun n => text ("OFFSET " ++ toString n)).toList
    ++ (lock.map fun m => text m.text).toList

def groupFragments (d : Dialect) (groups : List GroupKey) (havings : List Having) :
    Result (List Fragment) := do
  let groups ← section? "GROUP BY " groups fun gs => do
    return intercalate ", " (← gs.mapM GroupKey.fragment)
  let havings ← section? "HAVING " havings fun hs => do
    return connected (← havingFragments d hs)
  return groups ++ havings

mutual

def Condition.fragment (d : Dialect) : Condition → Result Fragment
  | .raw s values => Fragment.ofRaw s values
  | .compare column c v => .ok (comparedWith d column c v)
  | .between column negated low high =>
    .ok (text (column ++ (if negated then " NOT BETWEEN " else " BETWEEN ")) ++ slot low
      ++ text " AND " ++ slot high)
  | .inValues column negated values =>
    .ok (text (column ++ (if negated then " NOT IN (" else " IN (")) ++ slots values ++ text ")")
  | .inQuery column negated query => do
    let sub ← query.fragment d
    return text (column ++ (if negated then " NOT IN (" else " IN (")) ++ sub ++ text ")"
  | .isNull column negated =>
    .ok (text (column ++ (if negated then " IS NOT NULL" else " IS NULL")))
  | .exists negated query => do
    let sub ← query.fragment d
    return text (if negated then "NOT EXISTS (" else "EXISTS (") ++ sub ++ text ")"
  | .group filters => do
    let inner ← filterFragments d filters
    return text "(" ++ connected inner ++ text ")"
  | .columns first c second => .ok (text (first ++ " " ++ d.comparisonText c ++ " " ++ second))
  | .datePart column part c v => do
    return comparedWith d (← d.requireDatePart column part) c v
  | .jsonContains column v => do
    let v ← Dialect.jsonContainsValue v
    return (← d.requireJsonContains column).fragment v
  | .jsonLength column c v => do
    return comparedWith d (← d.requireJsonLength column) c v
  | .jsonPath column path c v => do
    return comparedWith d (← d.requireJsonPath column path) c v
  | .fullText columns v => do
    return (← d.requireFullText columns).fragment v
  | .anyColumn columns c v matchAll negated =>
    let each := columns.map fun column => comparedWith d column c v
    let inner := intercalate (if matchAll then " AND " else " OR ") each
    .ok (text (if negated then "NOT (" else "(") ++ inner ++ text ")")

def filterFragments (d : Dialect) : List Filter → Result (List (Connective × Fragment))
  | [] => .ok []
  | ⟨connective, condition, _⟩ :: rest => do
    let first ← condition.fragment d
    return (connective, first) :: (← filterFragments d rest)

def joinFragments (d : Dialect) : List Join → Result (List Fragment)
  | [] => .ok []
  | ⟨.cross, table, _, _, _, _⟩ :: rest => do
    return text ("CROSS JOIN " ++ table) :: (← joinFragments d rest)
  | ⟨kind, table, first, operator, second, filters⟩ :: rest => do
    let keyword ← d.joinKeyword kind
    let on := keyword ++ " " ++ table ++ " ON " ++ first.getD "" ++ " "
      ++ d.operatorText operator ++ " " ++ second.getD ""
    let extra ← filterFragments d filters
    let join := extra.foldl (fun acc (c, f) => acc ++ text (" " ++ c.text ++ " ") ++ f) (text on)
    return join :: (← joinFragments d rest)

def branchFragments (d : Dialect) : List Branch → Result (List Fragment)
  | [] => .ok []
  | ⟨query, all⟩ :: rest => do
    let sub ← query.fragment d
    let branch := text (if all then "UNION ALL (" else "UNION (") ++ sub ++ text ")"
    return branch :: (← branchFragments d rest)

/-- A whole SELECT statement. -/
def Query.fragment (d : Dialect) : Query → Result Fragment
  | { table, selects, distinct, filters, joins, groups, havings, orders, unions, limit, offset,
      lock, selectValues } => do
    let source := match table with
      | none | some "" => []
      | some t => [text ("FROM " ++ t)]
    let joins ← joinFragments d joins
    let conditions ← filterFragments d filters
    let condition := if conditions.isEmpty then [] else [text "WHERE " ++ connected conditions]
    let groups ← groupFragments d groups havings
    let branches ← branchFragments d unions
    let tail ← tailFragments orders limit offset lock
    let parts := source ++ joins ++ condition ++ groups ++ branches ++ tail
    let body := parts.foldr (fun part rest => text " " ++ part ++ rest) (text "")
    return .headed (← selectHead distinct selects selectValues) body

end

/-- The WHERE section of a statement, absent if there are no filters. -/
def Query.whereFragment (d : Dialect) (q : Query) : Result Fragment := do
  if q.filters.isEmpty then return text ""
  return text " WHERE " ++ connected (← filterFragments d q.filters)

namespace Statement

def select (d : Dialect) (q : Query) : Result Statement := do
  return ofFragment d (← q.fragment d)

end Statement

end SqlQuery
