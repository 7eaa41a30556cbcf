import SqlQuery.Argument
import SqlQuery.Script.Call

/-!
The methods of query builders and joins by name.

A method is a verb with parameters. Methods that differ only in a connective, a negation or a
direction share their verb and pass that difference as an argument of their own.
-/

namespace SqlQuery

/-- A method of a builder: its verb, its parameters, arguments that it always passes, and whether
it takes any number of further arguments. -/
structure Signature where
  verb : Verb
  params : List (Param Term) := []
  tail : List Term := []
  variadic : Bool := false

def connectiveTerm (c : Connective) : Term := .word (.connective c)

def boolTerm (b : Bool) : Term := .value (.bool b)

def joinedBy : Param Term := ⟨"boolean", some (connectiveTerm .and)⟩

def notNegated : Param Term := ⟨"negated", some (boolTerm false)⟩

/-- The variants of a filter that can be joined by OR. -/
def withOr (name : String) (verb : Verb) (ps : List String) : List (String × Signature) :=
  [("where_" ++ name, { verb, params := paramsOf ps ++ [joinedBy] }),
   ("or_where_" ++ name, { verb, params := paramsOf ps, tail := [connectiveTerm .or] })]

/-- The variants of a filter that can be negated as well. -/
def withNot (name : String) (verb : Verb) (ps : List String) : List (String × Signature) :=
  [("where_" ++ name, { verb, params := paramsOf ps ++ [joinedBy, notNegated] }),
   ("or_where_" ++ name,
     { verb, params := paramsOf ps, tail := [connectiveTerm .or, boolTerm false] }),
   ("where_not_" ++ name,
     { verb, params := paramsOf ps, tail := [connectiveTerm .and, boolTerm true] }),
   ("or_where_not_" ++ name,
     { verb, params := paramsOf ps, tail := [connectiveTerm .or, boolTerm true] })]

def datePartMethods (name : String) (part : DatePart) : List (String × Signature) :=
  [("where_" ++ name,
     { verb := .filterDatePart part .and, params := paramsOf ["column", "operator", "value"] }),
   ("or_where_" ++ name,
     { verb := .filterDatePart part .or, params := paramsOf ["column", "operator", "value"] })]

def multiMethods (name : String) (matchAll negated : Bool) : List (String × Signature) :=
  [("where_" ++ name,
     { verb := .filterAny matchAll negated .and,
       params := paramsOf ["columns", "operator", "value"] }),
   ("or_where_" ++ name,
     { verb := .filterAny matchAll negated .or,
       params := paramsOf ["columns", "operator", "value"] })]

def columnMethod (name : String) (verb : Verb) : String × Signature :=
  (name, { verb, params := paramsOf ["column"] })

def joinMethod (name : String) (kind : JoinKind) : String × Signature :=
  (name, { verb := .join, params := paramsOf ["table", "first", "operator", "second"],
           tail := [.word (.join kind)] })

def variadicMethod (name : String) (verb : Verb) : String × Signature :=
  (name, { verb, variadic := true })

def rawMethod (name : String) (verb : Verb) : String × Signature :=
  (name, { verb, params := paramsOf ["raw"], variadic := true })

def createdAt : Param Term := ⟨"column", some (.value (.text "created_at"))⟩

def lockMethod (name : String) (mode : LockMode) : String × Signature :=
  (name, { verb := .lock, tail := [.word (.lock mode)] })

/-- All methods that build queries and joins. -/
def methods : List (String × Signature) :=
  [("table", { verb := .table, params := paramsOf ["name"] }),
   ("from_", { verb := .table, params := paramsOf ["name"] }),
   variadicMethod "select" .select,
   ("select_as", { verb := .selectAs, params := paramsOf ["column", "alias"] }),
   rawMethod "select_raw" .selectRaw,
   ("distinct", { verb := .distinct, params := [⟨"enabled", some (boolTerm true)⟩] }),
   ("where", { verb := .filter, params := paramsOf ["column", "operator", "value"] ++ [joinedBy] }),
   ("or_where", { verb := .filter, params := paramsOf ["column", "operator", "value"],
                  tail := [connectiveTerm .or] })]
  ++ withOr "not" .filterNot ["column", "operator", "value"]
  ++ [rawMethod "where_raw" (.filterRaw .and), rawMethod "or_where_raw" (.filterRaw .or)]
  ++ withOr "column" .filterColumns ["first", "operator", "second"]
  ++ withNot "between" .filterBetween ["column", "values"]
  ++ withNot "in" .filterIn ["column", "values"]
  ++ withNot "null" .filterNull ["column"]
  ++ withNot "exists" .filterExists ["query"]
  ++ datePartMethods "date" .date ++ datePartMethods "time" .time
  ++ datePartMethods "day" .day ++ datePartMethods "month" .month
  ++ datePartMethods "year" .year
  ++ [columnMethod "where_past" (.filterNow .lt),
      columnMethod "where_future" (.filterNow .gt),
      columnMethod "where_now_or_past" (.filterNow .lte),
      columnMethod "where_now_or_future" (.filterNow .gte),
      columnMethod "where_today" (.filterToday .eq),
      columnMethod "where_before_today" (.filterToday .lt),
      columnMethod "where_after_today" (.filterToday .gt),
      columnMethod "where_today_or_before" (.filterToday .lte),
      columnMethod "where_today_or_after" (.filterToday .gte)]
  ++ withOr "json_contains" .filterJsonContains ["column", "value"]
  ++ withOr "json_length" .filterJsonLength ["column", "operator", "value"]
  ++ withOr "json_path" .filterJsonPath ["column", "path", "operator", "value"]
  ++ withOr "full_text" .filterFullText ["columns", "value"]
  ++ multiMethods "any" false false ++ multiMethods "all" true false
  ++ multiMethods "none" false true
  ++ [("join", { verb := .join,
                 params := paramsOf ["table", "first", "operator", "second"]
                   ++ [⟨"kind", some (.word (.join .inner))⟩] }),
      joinMethod "left_join" .left, joinMethod "right_join" .right,
      joinMethod "full_join" .full,
      ("cross_join", { verb := .crossJoin, params := paramsOf ["table"] }),
      ("on", { verb := .on, params := paramsOf ["first", "operator", "second"]
                 ++ [⟨"boolean", some (.value (.text "and"))⟩] }),
      ("or_on", { verb := .on, params := paramsOf ["first", "operator", "second"],
                  tail := [.value (.text "or")] }),
      variadicMethod "group_by" .groupBy, rawMethod "group_by_raw" .groupByRaw,
      ("having", { verb := .having,
                   params := paramsOf ["column", "operator", "value"] ++ [joinedBy] }),
      ("or_having", { verb := .having, params := paramsOf ["column", "operator", "value"],
                      tail := [connectiveTerm .or] }),
      rawMethod "having_raw" (.havingRaw .and), rawMethod "or_having_raw" (.havingRaw .or),
      ("order_by", { verb := .orderBy,
                     params := paramsOf ["column"]
                       ++ [⟨"direction", some (.word (.direction .asc))⟩] }),
      ("order_by_desc", { verb := .orderBy, params := paramsOf ["column"],
                          tail := [.word (.direction .desc)] }),
      rawMethod "order_by_raw" .orderByRaw,
      ("latest", { verb := .orderBy, params := [createdAt], tail := [.word (.direction .desc)] }),
      ("oldest", { verb := .orderBy, params := [createdAt], tail := [.word (.direction .asc)] }),
      ("limit", { verb := .limit, params := paramsOf ["value"] }),
      ("take", { verb := .limit, params := paramsOf ["value"] }),
      ("offset", { verb := .offset, params := paramsOf ["value"] }),
      ("skip", { verb := .offset, params := paramsOf ["value"] }),
      ("for_page", { verb := .forPage,
                     params := paramsOf ["page"] ++ [⟨"per_page", some (.value .null)⟩] }),
      ("union", { verb := .union,
                  params := paramsOf ["query"] ++ [⟨"all", some (boolTerm false)⟩] }),
      ("union_all", { verb := .union, params := paramsOf ["query"], tail := [boolTerm true] }),
      ("lock", { verb := .lock, params := paramsOf ["mode"] }),
      lockMethod "for_update" .forUpdate, lockMethod "for_share" .forShare,
      ("when", { verb := .choose false, params := paramsOf ["condition", "fn", "default"] }),
      ("unless", { verb := .choose true, params := paramsOf ["condition", "fn", "default"] }),
      ("tap", { verb := .tap, params := paramsOf ["fn"] }),
      variadicMethod "scope" .scope,
      ("debug", { verb := .debug, params := [⟨"enabled", some (boolTerm true)⟩] }),
      ("cancellable", { verb := .cancellable, params := paramsOf ["event", "timeout"] })]

def Signature.step (s : Signature) (c : Call Term) : Step :=
  let rest := if s.variadic then (c.positional.drop s.params.length).map some else []
  .mk s.verb (c.bind s.params ++ s.tail.map some ++ rest)

/-- The step that a method's name and arguments stand for. -/
def Step.ofCall? (name : String) (c : Call Term) : Option Step :=
  (methods.lookup name).map (·.step c)

end SqlQuery
