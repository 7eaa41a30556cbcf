import SqlQuery.Dialect
import SqlQuery.JsonPath
import SqlQuery.Text.Literal

/-!
MySQL. Placeholders have no number and are paired with the values by position. There is no ILIKE
(LIKE ignores case in most text columns) and no FULL JOIN.
-/

namespace SqlQuery.Dialect

open SqlQuery.Text

def mysqlPath (path : String) : String :=
  sqlLiteral (JsonPath.rooted path)

/-- The unique indexes decide what a conflict is, so the target only names a column to leave as it
is. Without any column there is none to name. -/
def mysqlUpsert (rule : ConflictRule) : Result String :=
  let keyword := "ON DUPLICATE KEY UPDATE "
  match rule.action with
  | .doNothing =>
    match rule.target ++ rule.columns with
    | c :: _ => .ok (keyword ++ c ++ " = " ++ c)
    | [] => .error (.foreign .index "list index out of range")
  | .doUpdate =>
    let columns := match rule.overwrite with
      | none | some [] => rule.columns
      | some named => named
    .ok (keyword ++ ", ".intercalate (columns.map fun c => c ++ " = VALUES(" ++ c ++ ")"))

def mysql : Dialect where
  name := "mysql"
  placeholder _ := "?"
  like
    | .ilike => "LIKE"
    | .notIlike => "NOT LIKE"
    | c => c.text
  jsonContains := some fun column => ⟨"JSON_CONTAINS(" ++ column ++ ", ", ")"⟩
  jsonLength := some fun column => "JSON_LENGTH(" ++ column ++ ")"
  jsonPath := some fun column path =>
    "JSON_UNQUOTE(JSON_EXTRACT(" ++ column ++ ", " ++ mysqlPath path ++ "))"
  jsonSet := some fun column path =>
    ⟨"JSON_SET(" ++ column ++ ", " ++ mysqlPath path ++ ", ", ")"⟩
  jsonRemove := some fun column path =>
    "JSON_REMOVE(" ++ column ++ ", " ++ mysqlPath path ++ ")"
  fullText := some fun columns => ⟨"MATCH(" ++ ", ".intercalate columns ++ ") AGAINST(", ")"⟩
  datePart := some fun column part => part.text ++ "(" ++ column ++ ")"
  upsert := some mysqlUpsert
  insertOrIgnore := some ("INSERT IGNORE INTO", "")
  replaceKeyword := some "REPLACE INTO"

end SqlQuery.Dialect
