import SqlQuery.Argument.Arithmetic
import SqlQuery.Page.Reading

/-!
Where a page lies in its result, in numbers of any kind.

Integers have the bounds of `PageBounds.counted` and `PageBounds.uncounted`. Other numbers are
worked out as they are given and then read as fields, so a page can be asked for by a double or a
decimal as long as its bounds come out whole.
-/

namespace SqlQuery

open Argument

namespace PageBounds

/-- The first and the last row of a page with `count` rows. -/
def rangeOf (page perPage count : Argument) : Result (Argument × Argument) := do
  if let (some page, some perPage, some count) := (page.int?, perPage.int?, count.int?) then
    let (first, last) := rowRange page perPage count
    return (ofInt first, ofInt last)
  if ← count.isAtMost (ofInt 0) then return (ofInt 0, ofInt 0)
  let first ← (← (← page.minus (ofInt 1)).multiply perPage).plus (ofInt 1)
  return (first, ← (← first.plus count).minus (ofInt 1))

/-- The page after a page, if there is one. -/
def nextOf (page : Argument) (exists? : Bool) : Result Argument :=
  if exists? then page.plus (ofInt 1) else .ok null

def countedOf (page perPage total count : Argument) : Result PageBounds := do
  if let (some page, some perPage, some total, some count) :=
      (page.int?, perPage.int?, total.int?, count.int?) then
    return ← counted page perPage total count
  let lastPage := ofInt (max 1 (← (← total.dividedBy perPage).ceiling))
  let (first, last) ← rangeOf page perPage count
  let next ← nextOf page (← page.isBelow lastPage)
  describe [("current_page", page), ("next_page", next), ("per_page", perPage), ("total", total),
    ("last_page", lastPage), ("from_", first), ("to", last)]

/-- The bounds of a page of a result whose rows were not counted. -/
def uncountedOf (page perPage count : Argument) (hasMore : Bool) : Result PageBounds := do
  if let (some page, some perPage, some count) := (page.int?, perPage.int?, count.int?) then
    return ← uncounted page perPage count hasMore
  let (first, last) ← rangeOf page perPage count
  let next ← nextOf page hasMore
  describe [("current_page", page), ("next_page", next), ("per_page", perPage), ("from_", first),
    ("to", last)]

end PageBounds

end SqlQuery
