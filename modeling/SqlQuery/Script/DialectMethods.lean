import SqlQuery.Clause.Make
import SqlQuery.Dialect
import SqlQuery.Script.Form
import SqlQuery.Statement.Operands

/-!
What a dialect decides, by name.

Decisions take operands as they are: a word is asked for its text, a list for its parts, and other
operands are shown.
-/

namespace SqlQuery.Dialect

open Argument

/-- Text that a dialect may have no way to write. -/
def textForm (params : List String) (read : (Nat → Argument) → Result String) : Form Argument :=
  .of params fun a => do return .text (← read a)

/-- A decision about a word: one that the dialect knows is written by `write`, any other stands for
itself, and an operand that is no word has no text to stand for it. -/
def aboutWord (known? : Word → Option α) (write : α → Result String) (other : Word → String)
    (a : Argument) : Result String :=
  match a with
  | .word w => (known? w).elim (.ok (other w)) write
  | a => .error (a.lacks "value")

def operator? : Word → Option Operator
  | .operator op => some op
  | _ => none

def joinKind? : Word → Option JoinKind
  | .join kind => some kind
  | _ => none

def datePart? : Word → Option DatePart
  | .datePart part => some part
  | _ => none

/-- The placeholder of a position. A dialect that numbers its placeholders writes the number last,
whatever it is. -/
def placeholderAt (d : Dialect) (position : Argument) : String :=
  let first := (d.placeholder 1).toList
  if first.getLast? == some '1' then String.ofList first.dropLast ++ position.shown
  else d.placeholder 1

/-! ## Upserts -/

/-- Whether a conflict target names a column. A text names every part of it. -/
def isTarget (target column : Argument) : Result Bool :=
  match target.text?, column.text? with
  | some s, some c => .ok (lastIndexOf? c.toList s.toList).isSome
  | some _, none => .error (.foreign .type
      ("'in <string>' requires string as left operand, not " ++ column.qualifiedTypeName))
  | none, _ => do return (← target.spent.parts).any (·.toValue.same column.toValue)

/-- The columns of an upsert that lists its conflict target: those that were named to overwrite, or
else those outside the target. -/
def overwritten (columns target overwrite : Argument) : Result (List Argument) :=
  match overwrite with
  | .value .null => do (← columns.parts).filterM fun c => do return !(← isTarget target c)
  | a => if a.isTruthy then a.parts else .ok []

def upsertClause (d : Dialect) (columns target overwrite action : Argument) : Result String := do
  let write ← d.require "upsert" d.upsert
  let names (items : List Argument) : List String := items.map Argument.shown
  let action := Statement.actionOf action
  if d.listsTarget then
    let texts ← if target.isTruthy then target.partsToJoin >>= textsFrom 0 else .ok []
    let named ← if texts.isEmpty || action = .doNothing then .ok []
      else overwritten columns target overwrite
    write { columns := [], target := texts, overwrite := some (names named), action }
  else if action = .doNothing then
    let target ← target.parts
    let columns ← if target.isEmpty then columns.parts else .ok []
    write { columns := names columns, target := names target, overwrite := none, action }
  else
    let named ← if overwrite.isTruthy then overwrite.parts else columns.parts
    write { columns := names named, target := [], overwrite := none, action }

/-! ## All decisions -/

def decisions (d : Dialect) : List (String × Form Argument) :=
  [("placeholder", textForm ["position"] fun a => .ok (d.placeholderAt (a 0))),
   ("like_operator", textForm ["operator"] fun a =>
     aboutWord operator? (fun op => .ok (d.likeText op)) Word.text (a 0)),
   ("comparison", textForm ["operator"] fun a =>
     aboutWord operator? (fun op => .ok (d.operatorText op)) Word.text (a 0)),
   ("join_keyword", textForm ["kind"] fun a =>
     aboutWord joinKind? d.joinKeyword (fun w => w.text ++ " JOIN") (a 0)),
   ("lock_clause", textForm ["mode"] fun a =>
     aboutWord (fun _ => (none : Option Word)) (fun w => .ok w.text) Word.text (a 0)),
   ("json_contains", textForm ["column", "placeholder"] fun a => do
     return (← d.requireJsonContains (a 0).shown).fill (a 1).shown),
   ("json_contains_value", .of ["value"] fun a => do
     return .value (← jsonContainsValue (a 0).toValue)),
   ("json_length", textForm ["column"] fun a => d.requireJsonLength (a 0).shown),
   ("json_path", textForm ["column", "path"] fun a => do
     let write ← d.require "JSON path" d.jsonPath
     return write (a 0).shown (← pathText (a 1))),
   ("json_set", textForm ["column", "path", "placeholder"] fun a => do
     let write ← d.requireJsonSet
     return (write (a 0).shown (← pathText (a 1))).fill (a 2).shown),
   ("json_set_value", .of ["value"] fun a => do
     return .value (← d.jsonSetValue (a 0).toValue)),
   ("json_remove", textForm ["column", "path"] fun a => do
     let write ← d.requireJsonRemove
     return write (a 0).shown (← pathText (a 1))),
   ("full_text", textForm ["columns", "placeholder"] fun a => do
     let write ← d.require "full-text search" d.fullText
     let columns ← textsFrom 0 (← (a 0).partsToJoin)
     return (write columns).fill (a 1).shown),
   ("date_part", textForm ["column", "part"] fun a =>
     aboutWord datePart? (d.requireDatePart (a 0).shown) Word.text (a 1)),
   ("upsert_suffix",
    textForm ["columns", "conflict_target", "update_columns", "action"] fun a =>
     d.upsertClause (a 0) (a 1) (a 2) (a 3)),
   ("insert_or_ignore_parts", .of [] fun _ => do
     let (before, after) ← d.requireInsertOrIgnore
     return .ofTexts [before, after]),
   ("replace_keyword", textForm [] fun _ => d.requireReplace),
   ("supports_returning", .constant (.value (.bool d.supportsReturning))),
   ("dialect_name", .constant (.text d.name))]

end SqlQuery.Dialect
