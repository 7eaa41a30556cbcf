import SqlQuery.Dialect
import SqlQuery.JsonPath
import SqlQuery.Text.Literal

/-!
PostgreSQL. Placeholders are numbered through the whole statement, sub-queries and branches
included.
-/

namespace SqlQuery.Dialect

open SqlQuery.Text

/-- The literal of a path as a text array. -/
def postgresPath (path : String) : String :=
  sqlLiteral (JsonPath.textArray (JsonPath.segments path))

/-- One segment outside brackets is a key; all else goes through a text array. -/
def postgresJsonPath (column path : String) : String :=
  match JsonPath.segments path, path.toList.contains '[' with
  | [segment], false => column ++ " ->> " ++ sqlLiteral segment
  | segments, _ => column ++ " #>> " ++ sqlLiteral (JsonPath.textArray segments)

/-- A conflict target is needed. Without columns to overwrite nothing is done on a conflict. -/
def postgresUpsert (rule : ConflictRule) : Result String :=
  if rule.target.isEmpty then
    .error (.unsupported "upsert" "postgres" (some "upsert on postgres requires a conflict target"))
  else
    let head := "ON CONFLICT (" ++ ", ".intercalate rule.target ++ ")"
    let columns := rule.overwrite.getD (rule.columns.filter (!rule.target.contains ·))
    match rule.action, columns with
    | .doNothing, _ | .doUpdate, [] => .ok (head ++ " DO NOTHING")
    | .doUpdate, columns =>
      .ok (head ++ " DO UPDATE SET "
        ++ ", ".intercalate (columns.map fun c => c ++ " = EXCLUDED." ++ c))

def postgres : Dialect where
  name := "postgres"
  placeholder n := "$" ++ toString n
  fullJoin := some "FULL OUTER JOIN"
  jsonContains := some fun column => ⟨column ++ " @> ", ""⟩
  jsonLength := some fun column => "jsonb_array_length(" ++ column ++ ")"
  jsonPath := some postgresJsonPath
  jsonSet := some fun column path =>
    ⟨"jsonb_set(" ++ column ++ ", " ++ postgresPath path ++ ", ", "::jsonb)"⟩
  bindsJsonText := true
  jsonRemove := some fun column path => column ++ " #- " ++ postgresPath path
  fullText := some fun columns =>
    ⟨"to_tsvector(" ++ " || ' ' || ".intercalate columns ++ ") @@ plainto_tsquery(", ")"⟩
  datePart := some fun column part =>
    match part with
    | .date => "DATE(" ++ column ++ ")"
    | .time => "CAST(" ++ column ++ " AS TIME)"
    | part => "EXTRACT(" ++ part.text ++ " FROM " ++ column ++ ")"
  listsTarget := true
  upsert := some postgresUpsert
  insertOrIgnore := some ("INSERT INTO", "ON CONFLICT DO NOTHING")
  supportsReturning := true

end SqlQuery.Dialect
