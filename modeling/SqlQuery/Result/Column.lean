import SqlQuery.Error
import SqlQuery.Text.Case
import SqlQuery.Text.Blank

/-!
What a database reports for a selected column, and what is made of the values it reports.

Buffers that hold UTF-8 become texts and all other buffers plain bytes. A column is reported under
its alias, or else under the last part of its qualified name.
-/

namespace SqlQuery

open SqlQuery.Text

/-- A fetched value: buffers become texts, or bytes where they hold no text. -/
def Value.normalize : Value → Value
  | .bytes _ data =>
    match String.fromUTF8? ⟨data.toArray⟩ with
    | some s => .text s
    | none => .bytes .fixed data
  | v => v

def Row.normalize (row : Row) : Row :=
  row.map fun (k, v) => (k, v.normalize)

/-- Where the last occurrence of `pattern` starts. -/
def lastIndexOf? (pattern : List Char) : List Char → Option Nat
  | [] => if pattern.isEmpty then some 0 else none
  | c :: cs =>
    match lastIndexOf? pattern cs with
    | some i => some (i + 1)
    | none => if pattern.isPrefixOf (c :: cs) then some 0 else none

/-- The name that a database reports a selected column under. The alias is looked for in the lower
case of the text, whose positions are taken as those of the text itself. -/
def resultName (column : String) : String :=
  match lastIndexOf? " as ".toList (lower column).toList with
  | some i => String.ofList (trimChars isBlank (column.toList.drop (i + 4)))
  | none =>
    String.ofList (trimChars isBlank ((splitChars (· == '.') column.toList).getLast?.getD []))

/-- A column as a caller names it. A text is all of this at once; whatever else may name a column is
written in SQL as `text` or as `shown`, and has a key in rows or none. -/
structure ColumnName where
  text : String
  shown : String := text
  /-- The name that rows hold the column under. -/
  key : Result String := .ok (resultName text)

instance : Coe String ColumnName := ⟨fun text => { text }⟩

/-- The value of a cursor column in a row. Without one, paging on would read the same rows
again. -/
def cursorValue (row : Row) (column : ColumnName) : Result Value := do
  let key ← column.key
  match row.get key with
  | .null => reject (.missingCursor column.shown column.text key)
  | v => .ok v

end SqlQuery
