import SqlQuery.Answer
import SqlQuery.Execution.Batches
import SqlQuery.Execution.Paging.Numbers
import SqlQuery.Execution.Stream
import SqlQuery.Execution.Write
import SqlQuery.Settings

/-!
Operations: what can be done with a query that is finished.
-/

namespace SqlQuery

/-- An operation on a query. -/
inductive Operation where
  | get
  | first
  | firstOrFail
  | find (v : Value) (key : String)
  | pluck (column : String)
  | value (column : ColumnName)
  | exists
  | isAbsent
  | aggregate (fn : Aggregate) (column : ColumnName)
  | insert (values : Row)
  | insertGetId (values : Row) (key : String)
  | insertBatch (rows : List Row)
  | update (values : Row)
  | delete
  | increment (column : String) (amount : Value) (extra : Row)
  | decrement (column : String) (amount : Value) (extra : Row)
  | jsonUpdate (column path : String) (v : Value)
  | jsonRemove (column path : String)
  | upsert (rows : List Row) (target : List String) (overwrite : Option (List String))
      (action : ConflictAction)
  | insertOrIgnore (rows : List Row)
  | replace (rows : List Row)
  | updateOrInsert (attributes values : Row)
  | updateOrCreate (attributes values : Row)
  | paginate (page : Int) (perPage : Option Int)
  | simplePaginate (page : Int) (perPage : Option Int)
  | cursorPaginate (perPage : Option Int) (cursor : Value) (column : ColumnName)
  /-- Pages that are asked for by numbers of any kind. -/
  | paginateOf (page : Argument) (perPage : Option Argument)
  | simplePaginateOf (page : Argument) (perPage : Option Argument)
  | cursorPaginateOf (perPage : Argument) (cursor : Value) (column : ColumnName)
  /-- Any other statement that changes rows, with the name that its failures go by. -/
  | change (make : Dialect → Query → Result Statement) (action : String)
  /-- Any other INSERT of a row, and how to find the key of the row. -/
  | insertReturning (make : Dialect → Query → Result Statement) (read : Row → Result Value)
  /-- Hands every batch to a visitor. -/
  | chunk (size : Int) (start : BatchPlace)
  /-- Hands every row to a visitor. -/
  | each (size : Option Int) (start : BatchPlace)

/-- Who is handed rows or batches, and answers each. -/
abbrev Visitor (σ : Type) := Value → Effect σ Value

namespace Visitor

variable {σ : Type}

/-- Whether the visitor wants more. Only the answer false ends a visit. -/
def wantsMore (visitor : Visitor σ) (v : Value) : Run σ Bool := do
  match ← Run.outside (visitor v) with
  | .bool false => return false
  | _ => return true

def row (visitor : Visitor σ) (row : Row) : Run σ Bool :=
  visitor.wantsMore (.mapping row)

def batch (visitor : Visitor σ) (rows : List Row) : Run σ Bool :=
  visitor.wantsMore (.list (rows.map .mapping))

end Visitor

/-- The size of a batch, the default in place of one that is not positive. -/
def batchSize (settings : Settings) (size : Option Int) : Int :=
  match size with
  | some n => if 0 < n then n else settings.defaultChunkSize
  | none => settings.defaultChunkSize

namespace Operation

variable {σ : Type}

/-- A bound on the number of batches of one operation. -/
def maxBatches : Nat := Nat.pow 2 64

def request (settings : Settings) (page : Int) (perPage : Option Int) : PageRequest :=
  .make page perPage settings.defaultPerPage

/-- The same in numbers of any kind. -/
def requestOf (settings : Settings) (page : Argument) (perPage : Option Argument) :
    PageNumbers where
  page := page
  perPage := perPage.getD (.ofInt settings.defaultPerPage)

def run (e : Engine σ) (settings : Settings) (visitor : Visitor σ) (q : Query) :
    Operation → Run σ Answer
  | get => return .rows (← e.get q).rows
  | first => return .row (← e.first q)
  | firstOrFail => return .row (← e.firstOrFail q)
  | find v key => return .row (← e.find q v key)
  | pluck column => return .value (.list (← e.pluck q column))
  | value column => return .value (← e.value q column)
  | Operation.exists => return .bool (← e.exists? q)
  | isAbsent => return .bool (!(← e.exists? q))
  | aggregate fn column => return .value (← e.aggregate q fn column)
  | insert values => return .executed (← e.insert q values)
  | insertGetId values key => return .value (← e.insertGetId q values key)
  | insertBatch rows => return .executed (← e.insertBatch q rows)
  | update values => return .value (← e.update q values)
  | delete => return .value (← e.delete q)
  | increment column amount extra => return .value (← e.increment q column amount extra)
  | decrement column amount extra => return .value (← e.decrement q column amount extra)
  | jsonUpdate column path v => return .value (← e.jsonUpdate q column path v)
  | jsonRemove column path => return .value (← e.jsonRemove q column path)
  | upsert rows target overwrite action =>
    return .executed (← e.upsert q rows target overwrite action)
  | insertOrIgnore rows => return .executed (← e.insertOrIgnore q rows)
  | replace rows => return .executed (← e.replace q rows)
  | updateOrInsert attributes values => return .bool (← e.updateOrInsert q attributes values)
  | updateOrCreate attributes values =>
    return .row (some (← e.updateOrCreate q attributes values))
  | paginate page perPage => return .page (← e.paginate q (request settings page perPage))
  | simplePaginate page perPage =>
    return .page (← e.simplePaginate q (request settings page perPage))
  | cursorPaginate perPage cursor column =>
    return .cursorPage (← e.cursorPaginate q (PageRequest.sizeOf perPage settings.defaultPerPage)
      cursor column)
  | paginateOf page perPage =>
    return .page (← e.paginateOf q (requestOf settings page perPage))
  | simplePaginateOf page perPage =>
    return .page (← e.simplePaginateOf q (requestOf settings page perPage))
  | cursorPaginateOf perPage cursor column =>
    return .cursorPage (← e.cursorPaginateOf q perPage cursor column)
  | change make action => return .executed (← e.perform (make e.dialect q) action)
  | insertReturning make read =>
    return .value (← e.insertReturning (make e.dialect q) read)
  | chunk size place =>
    return .bool (← Batches.drive e visitor.batch maxBatches { query := q, size, place })
  | each size place =>
    return .bool (← Batches.drive e (Batches.visitRows visitor.row) maxBatches
      { query := q, size := batchSize settings size, place })

end Operation

/-- How an operation takes up the query of its builder. -/
inductive Approach where
  | inPlace
  | onCopy
  /-- On a copy, after scopes that were added by scopes were applied as well. -/
  | onSnapshot
  /-- On a copy that is taken before anything else is looked at. -/
  | beside
  deriving DecidableEq, Repr

/-- How the rows of a query are handed out one by one. -/
inductive Supply where
  /-- The rows of one execution. -/
  | stream
  /-- The rows of batches. -/
  | batches (size : Option Int) (start : BatchPlace)
  /-- No rows: the first that is asked for cannot be handed out. -/
  | broken (e : Error)

/-- Rows that are handed out one by one. -/
inductive RowSource where
  | stream (s : Stream)
  | batches (rows : Batches.Rows)
  | broken (e : Error)
  | finished

/-- Why no more rows are handed out. -/
inductive Ending where
  /-- As many were handed out as were asked for. -/
  | enough
  | exhausted
  | broken (e : Error)
  deriving Repr

namespace RowSource

variable {σ : Type}

/-- The rows of a query. Its statement is made now if there is to be only one. -/
def make (d : Dialect) (settings : Settings) (q : Query) : Supply → Result RowSource
  | .stream => do return stream (.waiting (← Statement.select d q))
  | .batches size place =>
    .ok (batches { batches := { query := q, size := batchSize settings size, place } })
  | .broken e => .ok (broken e)

/-- The next row and what comes after it. -/
def pull (e : Engine σ) : RowSource → Run σ (Option Row × RowSource)
  | stream s => do
    let (row, s) ← s.pull e
    return (row, if row.isSome then stream s else finished)
  | batches rows => do
    let (row, rows) ← rows.pull e
    return (row, if row.isSome then batches rows else finished)
  | broken err => throw err
  | finished => return (none, finished)

/-- Ends the rows early. -/
def close : RowSource → Run σ Unit
  | stream s => s.close
  | batches _ | broken _ | finished => return

/-- Up to `limit` rows, all there are without a limit; what is left; and why there are not more.
`fuel` bounds the number of rows. -/
def take (e : Engine σ) : Nat → Option Nat → RowSource →
    StateM (World σ) (List Row × RowSource × Ending)
  | 0, _, source | _, some 0, source => return ([], source, .enough)
  | fuel + 1, limit, source => do
    match ← (source.pull e).run with
    | .ok (some row, source) =>
      let (rows, source, ending) ← take e fuel (limit.map (· - 1)) source
      return (row :: rows, source, ending)
    | .ok (none, source) => return ([], source, .exhausted)
    | .error err => return ([], finished, .broken err)

end RowSource

end SqlQuery
