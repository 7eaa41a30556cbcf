import SqlQuery.Error
import SqlQuery.Number.Double

/-!
Pages of a result, and the numbers that describe where a page lies in it.

Pages and rows are counted from one. The first and last row of an empty page are zero. What was not
counted is minus one.
-/

namespace SqlQuery

/-- What stands for a number that was not counted. -/
def notCounted : Int := -1

/-- Where a page lies in its result. -/
structure PageBounds where
  currentPage : Int
  nextPage : Option Int := none
  perPage : Int
  total : Int := notCounted
  lastPage : Int := notCounted
  first : Int := 0
  last : Int := 0
  deriving DecidableEq, Repr

namespace PageBounds

/-- The first and the last row of a page with `count` rows. -/
def rowRange (page perPage count : Int) : Int × Int :=
  if count ≤ 0 then (0, 0)
  else
    let first := (page - 1) * perPage + 1
    (first, first + count - 1)

def belowLeast (field : String) (least n : Int) : List FieldFault :=
  if n < least then [⟨[field], .greaterThanEqual least⟩] else []

/-- The bounds, if each number is in its range. `firstField` is the name that the first row goes
by in faults. -/
def check (firstField : String) (b : PageBounds) : Result PageBounds :=
  match belowLeast "current_page" 1 b.currentPage ++ belowLeast "per_page" 1 b.perPage
      ++ belowLeast firstField 0 b.first ++ belowLeast "to" 0 b.last with
  | [] => .ok b
  | faults => .error (.invalid faults)

/-- The number of pages that hold `total` rows, at least one. The quotient is rounded to a double
before it is rounded up. -/
def pageCount (total perPage : Int) : Result Int :=
  if perPage = 0 then .error (.foreign .division "division by zero")
  else match (Double.quotient? total perPage).bind Double.ceiling? with
    | some n => .ok (max 1 n)
    | none => .error (.foreign .overflow "integer division result too large for a float")

def counted (page perPage total count : Int) : Result PageBounds := do
  let lastPage ← pageCount total perPage
  let (first, last) := rowRange page perPage count
  check "from_"
    { currentPage := page, nextPage := if page < lastPage then some (page + 1) else none, perPage,
      total, lastPage, first, last }

/-- The bounds of a page of a result whose rows were not counted. -/
def uncounted (page perPage count : Int) (hasMore : Bool) : Result PageBounds :=
  let (first, last) := rowRange page perPage count
  check "from_"
    { currentPage := page, nextPage := if hasMore then some (page + 1) else none, perPage,
      first, last }

end PageBounds

/-- A page of rows with its bounds. -/
structure Page where
  data : List Row
  bounds : PageBounds
  deriving Repr

namespace Page

def hasMorePages (p : Page) : Bool :=
  p.bounds.nextPage.isSome

def onFirstPage (p : Page) : Bool :=
  p.bounds.currentPage == 1

def previousPage (p : Page) : Option Int :=
  if 1 < p.bounds.currentPage then some (p.bounds.currentPage - 1) else none

end Page

/-- A page of rows with the cursor for the page after it. -/
structure CursorPage where
  data : List Row
  nextCursor : Value := .null
  hasMore : Bool := false
  perPage : Int
  deriving Repr

end SqlQuery
