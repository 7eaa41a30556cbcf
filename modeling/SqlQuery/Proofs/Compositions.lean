import SqlQuery.Execution.Operation
import SqlQuery.Proofs.CommonFlow
import SqlQuery.Proofs.Effects

/-!
# What operations are made of

Whatever an engine does with a query, it notes a statement, asks the cache, keeps rows there, and
runs single statements in one of three ways; a visitor may be asked in between. `Composes` says that
a computation is put together of nothing else, and every operation is (`Operation.composes`).

So what is said of operations is proved for single statements first, and then for all that is
composed of them, by induction on the composition (`Composes.keeps` is the first case of that).
-/

namespace SqlQuery

open Effect

variable {σ α β : Type}

/-- Computations that are composed of what an engine does with single statements. -/
inductive Engine.Composes (e : Engine σ) (visitor : Visitor σ) : {α : Type} → Run σ α → Prop
  | result {α : Type} (r : Result α) : Composes e visitor (ofResult r)
  | bind {α β : Type} {x : Run σ α} {f : α → Run σ β} :
    Composes e visitor x → (∀ a, Composes e visitor (f a)) → Composes e visitor (x >>= f)
  | observe (s : Statement) : Composes e visitor (Run.observe s)
  | lookup (s : Statement) : Composes e visitor (e.lookup s)
  | store (s : Statement) (rows : List Row) : Composes e visitor (e.store s rows)
  | fetch (s : Statement) (action : String) : Composes e visitor (e.fetch s action)
  | fetchOne (s : Statement) (action : String) : Composes e visitor (e.fetchOne s action)
  | run (s : Statement) (action : String) : Composes e visitor (e.run s action)
  | visit (v : Value) : Composes e visitor (Run.outside (visitor v))

namespace Engine.Composes

variable {e : Engine σ} {visitor : Visitor σ} {q : Query}

theorem pure (a : α) : e.Composes visitor (Pure.pure a : Run σ α) :=
  .result (.ok a)

theorem throw (err : Error) : e.Composes visitor (MonadExceptOf.throw err : Run σ α) :=
  .result (.error err)

/-- What a composition keeps is what each of its parts keeps. -/
theorem keeps {I : World σ → Prop} {x : Run σ α} (hx : e.Composes visitor x)
    (hobserve : ∀ s, Keeps I (Run.observe s)) (hlookup : ∀ s, Keeps I (e.lookup s))
    (hstore : ∀ s rows, Keeps I (e.store s rows)) (hfetch : ∀ s action, Keeps I (e.fetch s action))
    (hfetchOne : ∀ s action, Keeps I (e.fetchOne s action))
    (hrun : ∀ s action, Keeps I (e.run s action))
    (hvisit : ∀ v, Keeps I (Run.outside (visitor v))) : Keeps I x := by
  induction hx with
  | result r => exact .of_result r
  | bind _ _ hx hf => exact hx.bind hf
  | observe s => exact hobserve s
  | lookup s => exact hlookup s
  | store s rows => exact hstore s rows
  | fetch s action => exact hfetch s action
  | fetchOne s action => exact hfetchOne s action
  | run s action => exact hrun s action
  | visit v => exact hvisit v

/-! ## Reads -/

theorem fetchCached (s : Statement) : e.Composes visitor (e.fetchCached s) := by
  refine .bind (.lookup s) fun found => ?_
  cases found with
  | some rows => exact .bind (.observe s) fun _ => .pure rows
  | none => exact .bind (.fetch s _) fun rows => .bind (.store s rows) fun _ => .pure rows

theorem get (q : Query) : e.Composes visitor (e.get q) :=
  .bind (.result _) fun s => .bind (.fetchCached s) fun _ => .pure _

theorem first (q : Query) : e.Composes visitor (e.first q) :=
  .bind (.get _) fun _ => .pure _

theorem value (q : Query) (column : ColumnName) : e.Composes visitor (e.value q column) := by
  refine .bind (.result _) fun selected => .bind (.first _) fun row => ?_
  cases row with
  | none => exact .pure _
  | some row => exact .bind (.result _) fun _ => .pure _

theorem exists? (q : Query) : e.Composes visitor (e.exists? q) :=
  .bind (.first _) fun _ => .pure _

theorem aggregate (q : Query) (fn : Aggregate) (column : ColumnName) :
    e.Composes visitor (e.aggregate q fn column) :=
  .bind (.result _) fun _ => .bind (.fetch _ _) fun _ => .result _

/-! ## Writes -/

theorem perform (s : Result Statement) (action : String) :
    e.Composes visitor (e.perform s action) :=
  .bind (.result s) fun s => .run s action

theorem change (s : Result Statement) (action : String) :
    e.Composes visitor (e.change s action) :=
  .bind (.perform s action) fun _ => .pure _

theorem insertReturning (s : Result Statement) (read : Row → Result Value) :
    e.Composes visitor (e.insertReturning s read) := by
  refine .bind (.result s) fun s => ?_
  by_cases hreturning : e.dialect.supportsReturning = true
  · simp only [hreturning, if_true]
    refine .bind (.fetchOne s _) fun row => ?_
    cases row with
    | none => exact .pure _
    | some row => exact .result _
  · simp only [hreturning]
    exact .bind (.run s _) fun _ => .pure _

theorem updateOr (q : Query) (attributes values : Row) :
    e.Composes visitor (e.updateOr q attributes values) := by
  refine .bind (.result _) fun matched => .bind (.first matched) fun row => ?_
  cases row with
  | none => exact .bind (.perform _ _) fun _ => .pure _
  | some row =>
    by_cases hvalues : values.isEmpty = true
    · simp only [hvalues]
      exact .pure _
    · simp only [hvalues]
      exact .bind (.change _ _) fun _ => .pure _

/-! ## Pages -/

theorem cursorPaginate (q : Query) (perPage : Nat) (cursor : Value) (column : ColumnName) :
    e.Composes visitor (e.cursorPaginate q perPage cursor column) :=
  .bind (.result _) fun _ => .bind (.get _) fun _ => .bind (.result _) fun _ => .pure _

theorem paginate (q : Query) (r : PageRequest) : e.Composes visitor (e.paginate q r) :=
  .bind (.aggregate _ _ _) fun _ => .bind (.get _) fun _ => .bind (.result _) fun _ => .pure _

theorem simplePaginate (q : Query) (r : PageRequest) :
    e.Composes visitor (e.simplePaginate q r) :=
  .bind (.get _) fun _ => .bind (.result _) fun _ => .pure _

theorem paginateOf (q : Query) (n : PageNumbers) : e.Composes visitor (e.paginateOf q n) :=
  .bind (.aggregate _ _ _) fun _ => .bind (.result _) fun _ => .bind (.get _) fun _ =>
    .bind (.result _) fun _ => .pure _

theorem simplePaginateOf (q : Query) (n : PageNumbers) :
    e.Composes visitor (e.simplePaginateOf q n) :=
  .bind (.result _) fun _ => .bind (.result _) fun _ => .bind (.get _) fun _ =>
    .bind (.result _) fun _ => .bind (.result _) fun _ => .bind (.result _) fun _ => .pure _

theorem cursorPaginateOf (q : Query) (perPage : Argument) (cursor : Value)
    (column : ColumnName) : e.Composes visitor (e.cursorPaginateOf q perPage cursor column) :=
  .bind (.result _) fun _ => .bind (.result _) fun _ => .bind (.result _) fun _ =>
    .bind (.result _) fun _ => .bind (.get _) fun _ => .bind (.result _) fun _ =>
      .bind (.result _) fun _ => .bind (.result _) fun _ => .pure _

/-! ## Batches -/

theorem wantsMore (v : Value) : e.Composes visitor (visitor.wantsMore v) := by
  refine .bind (.visit v) fun answer => ?_
  split
  · exact .pure false
  · exact .pure true

theorem visitRows (rows : List Row) :
    e.Composes visitor (Batches.visitRows visitor.row rows) := by
  induction rows with
  | nil => exact .pure true
  | cons row rows ih =>
    refine .bind (.wantsMore _) fun more => ?_
    cases more with
    | true => exact ih
    | false => exact .pure false

theorem pull (b : Batches) : e.Composes visitor (b.pull e) := by
  unfold Batches.pull
  by_cases hfinished : b.finished = true
  · simp only [hfinished, if_true]
    exact .pure _
  simp only [hfinished]
  by_cases hsize : b.size ≤ 0
  · simp only [hsize, if_true]
    exact .throw _
  simp only [hsize]
  by_cases hlast : (b.previous.map b.isLast).getD false = true
  · simp only [hlast, if_true]
    exact .pure _
  simp only [hlast]
  refine .bind (.result _) fun b => .bind (.result _) fun batch => .bind (.get _) fun c => ?_
  split
  · exact .pure _
  · exact .pure _

/-- A loop over batches is composed if each of its visits is. -/
theorem drive {visit : List Row → Run σ Bool} (hvisit : ∀ rows, e.Composes visitor (visit rows))
    (fuel : Nat) (b : Batches) : e.Composes visitor (Batches.drive e visit fuel b) := by
  induction fuel generalizing b with
  | zero => exact .throw _
  | succ fuel ih =>
    refine .bind (.pull b) fun (batch, b) => ?_
    cases batch with
    | none => exact .pure true
    | some rows =>
      refine .bind (hvisit rows) fun more => ?_
      cases more with
      | true => exact ih b
      | false => exact .pure false

end Engine.Composes

/-- **Every operation is composed of what its engine does with single statements.** -/
theorem Operation.composes (e : Engine σ) (settings : Settings) (visitor : Visitor σ) (q : Query)
    (op : Operation) : e.Composes visitor (op.run e settings visitor q) := by
  cases op with
  | get => exact .bind (.get q) fun _ => .pure _
  | first => exact .bind (.first q) fun _ => .pure _
  | firstOrFail => exact .bind (.bind (.first q) fun _ => .result _) fun _ => .pure _
  | find v key =>
    exact .bind (.bind (.result _) fun _ => .bind (.first _) fun _ => .result _) fun _ => .pure _
  | pluck column =>
    exact .bind (.bind (.result _) fun _ => .bind (.get _) fun _ => .pure _) fun _ => .pure _
  | value column => exact .bind (.value q column) fun _ => .pure _
  | «exists» => exact .bind (.exists? q) fun _ => .pure _
  | isAbsent => exact .bind (.exists? q) fun _ => .pure _
  | aggregate fn column => exact .bind (.aggregate q fn column) fun _ => .pure _
  | insert values => exact .bind (.perform _ _) fun _ => .pure _
  | insertGetId values key => exact .bind (.insertReturning _ _) fun _ => .pure _
  | insertBatch rows => exact .bind (.perform _ _) fun _ => .pure _
  | update values => exact .bind (.change _ _) fun _ => .pure _
  | delete => exact .bind (.change _ _) fun _ => .pure _
  | increment column amount extra => exact .bind (.change _ _) fun _ => .pure _
  | decrement column amount extra =>
    exact .bind (.bind (.result _) fun _ => .change _ _) fun _ => .pure _
  | jsonUpdate column path v => exact .bind (.change _ _) fun _ => .pure _
  | jsonRemove column path => exact .bind (.change _ _) fun _ => .pure _
  | upsert rows target overwrite action => exact .bind (.perform _ _) fun _ => .pure _
  | insertOrIgnore rows => exact .bind (.perform _ _) fun _ => .pure _
  | replace rows => exact .bind (.perform _ _) fun _ => .pure _
  | updateOrInsert attributes values =>
    refine .bind ?_ fun _ => .pure _
    rw [e.updateOrInsert_eq]
    exact .bind (.updateOr q attributes values) fun _ => .pure _
  | updateOrCreate attributes values =>
    refine .bind ?_ fun _ => .pure _
    rw [e.updateOrCreate_eq]
    refine .bind (.updateOr q attributes values) fun row => ?_
    cases row with
    | none => exact .pure _
    | some row => exact .pure _
  | paginate page perPage => exact .bind (.paginate q _) fun _ => .pure _
  | simplePaginate page perPage => exact .bind (.simplePaginate q _) fun _ => .pure _
  | cursorPaginate perPage cursor column =>
    exact .bind (.cursorPaginate q _ cursor column) fun _ => .pure _
  | paginateOf page perPage => exact .bind (.paginateOf q _) fun _ => .pure _
  | simplePaginateOf page perPage => exact .bind (.simplePaginateOf q _) fun _ => .pure _
  | cursorPaginateOf perPage cursor column =>
    exact .bind (.cursorPaginateOf q perPage cursor column) fun _ => .pure _
  | change make action => exact .bind (.perform _ _) fun _ => .pure _
  | insertReturning make read => exact .bind (.insertReturning _ _) fun _ => .pure _
  | chunk size place => exact .bind (.drive (fun _ => .wantsMore _) _ _) fun _ => .pure _
  | each size place => exact .bind (.drive .visitRows _ _) fun _ => .pure _

end SqlQuery
