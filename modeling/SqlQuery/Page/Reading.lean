import SqlQuery.Page
import SqlQuery.Clause.Reading

/-!
Pages from named fields.

The first row may be given under either of two names, and its faults go by the name that was used.
-/

namespace SqlQuery

open Reader

/-- An integer that is not below `least`. -/
def readAtLeast (least : Int) (a : Argument) : Read Int := do
  let n ← a.readInt
  if n < least then .error (.greaterThanEqual least) else .ok n

def readRow : Argument → Result (Checked Row)
  | .mapping entries => return .ok (Argument.toEntries entries)
  | .value (.mapping entries) => return .ok entries
  | _ => return .error [⟨[], .dictType⟩]

/-- A list of rows that must be there. -/
def dataField (fields : Fields) : Reader (List Row) := do
  if (fields.lookup "data").isNone then fault ["data"] .missing ()
  nested fields "data" [] (readItems .listType readRow)

namespace PageBounds

def ofFields (fields : Fields) : Result (Checked PageBounds) :=
  Reader.complete .ok do
    let firstField := if (fields.lookup "from").isSome then "from" else "from_"
    let currentPage ← required fields "current_page" 1 (readAtLeast 1)
    let nextPage ← field fields "next_page" none (Argument.readOption Argument.readInt)
    let perPage ← required fields "per_page" 1 (readAtLeast 1)
    let total ← field fields "total" notCounted Argument.readInt
    let lastPage ← field fields "last_page" notCounted Argument.readInt
    let first ← field fields firstField 0 (readAtLeast 0)
    let last ← field fields "to" 0 (readAtLeast 0)
    closed fields ["current_page", "next_page", "per_page", "total", "last_page", firstField, "to"]
    return { currentPage, nextPage, perPage, total, lastPage, first, last }

def describe (fields : Fields) : Result PageBounds :=
  Checked.toResult (ofFields fields)

end PageBounds

def Argument.bounds? : Argument → Option PageBounds
  | .bounds b => some b
  | _ => none

def Page.describe (fields : Fields) : Result Page :=
  Checked.toResult <| Reader.complete .ok do
    let data ← dataField fields
    if (fields.lookup "meta").isNone then fault ["meta"] .missing ()
    let bounds ← nested fields "meta" { currentPage := 1, perPage := 1 }
      (readClause Argument.bounds? PageBounds.ofFields)
    closed fields ["data", "meta"]
    return { data, bounds }

def CursorPage.describe (fields : Fields) : Result CursorPage :=
  Checked.toResult <| Reader.complete .ok do
    let data ← dataField fields
    let nextCursor ← field fields "next_cursor" .null readAny
    let hasMore ← field fields "has_more" false Argument.readBool
    let perPage ← required fields "per_page" 1 (readAtLeast 1)
    closed fields ["data", "next_cursor", "has_more", "per_page"]
    return { data, nextCursor, hasMore, perPage }

end SqlQuery
