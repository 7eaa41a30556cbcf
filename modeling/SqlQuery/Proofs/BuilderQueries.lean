import SqlQuery.Proofs.BuilderSteps

/-!
# Queries of builders

A workspace that began empty and was used by builders only, in any order and with any scripts, has
no query in which markers and values disagree; neither does anything that an engine, its pages or
its batches make of such a query. So no statement about one is refused for numbers that differ
(`Holder.queries_in_step`).
-/

namespace SqlQuery

open Workspace

/-- A call that brings along no query but an empty one, and no script that describes a query by its
fields. -/
def BuilderCall.IsBuilderMade : BuilderCall → Prop
  | newQuery q => q = {}
  | step _ s => s.isBuilderMade
  | evaluate t => t.isBuilderMade
  | _ => True

theorem BuilderCall.carryOut_ensures (given : List BuilderId) {c : BuilderCall}
    (hc : c.IsBuilderMade) : Ensures (fun _ => True) (c.carryOut given) := by
  have hheld (i : Nat) : Ensures (fun _ => True) (liftM (held given i)) :=
    .of_lift (.any _)
  cases c with
  | newQuery q =>
    have hq : q.AllFit := by
      rw [show q = {} from hc]
      exact allFit_empty
    exact (addQuery_ensures hq).bind fun _ _ => .of_pure trivial
  | newBuilder b =>
    refine .get_bind fun w _ => ?_
    dsimp only
    split
    · exact .of_throw _
    · refine Effect.Ensures.bind (addBuilder_ensures ?_) fun _ _ => .of_pure trivial
      exact List.forall_mem_nil _
  | clone i =>
    exact (hheld i).bind fun id _ => (clone_ensures id).bind fun _ _ => .of_pure trivial
  | name text i =>
    refine (hheld i).bind fun id _ => ?_
    have hname : Ensures (fun _ => True) (rename text id) := .modify fun w hw =>
      { hw with queries := hw.queries }
    exact hname.bind fun _ _ => .of_pure trivial
  | step i s =>
    exact (hheld i).bind fun id _ => (run_ensures id hc).bind fun _ _ => .of_pure trivial
  | evaluate t => exact (evaluate_ensures hc).bind fun _ _ => .of_pure trivial
  | settle i =>
    exact (hheld i).bind fun id _ => (settle_ensures id).bind fun _ _ => .of_pure trivial
  | toSql i =>
    exact (hheld i).bind fun id _ => (toSql_ensures id).bind fun _ _ => .of_pure trivial

/-- Any number of calls, whether or not they succeed. -/
theorem Holder.run_allFit {h : Holder Workspace} (hw : h.state.AllFit) {calls : List BuilderCall}
    (hcalls : ∀ c ∈ calls, c.IsBuilderMade) :
    (h.run BuilderCall.carryOut calls).state.AllFit := by
  induction calls generalizing h with
  | nil => exact hw
  | cons c rest ih =>
    obtain ⟨hc, hrest⟩ := List.forall_mem_cons.1 hcalls
    have hnext := (BuilderCall.carryOut_ensures h.given hc).keeps h.state hw
    exact ih hnext hrest

/-- What the markers and values of a query and of all queries inside it come to. -/
structure Query.InStep (q : Query) : Prop where
  /-- A select list that is not empty has one value for each marker, in every statement. -/
  counts : ∀ t ∈ q.statements, t.selects ≠ [] → t.selectValues.length = selectMarkers t.selects
  /-- No statement about the query is refused for markers and values whose numbers differ. -/
  statements : ∀ d (r : Request), r.query? = some q → Result.NoMismatch (r.compile d)
  /-- Nor is an aggregate over a column without a question mark, -/
  aggregates : ∀ d fn (column : Argument), '?' ∉ column.columnName.shown.toList →
    Result.NoMismatch (q.aggregateStatement d fn column.columnName)
  /-- nor the count of a page. -/
  totals : ∀ d, Result.NoMismatch (q.aggregateStatement d .count ("*" : String))

/-- The name of a column in a result is looked up in lower case, which text alone has. -/
theorem columnName_key_noMismatch (column : Argument) :
    Result.NoMismatch column.columnName.key := by
  refine Result.NoMismatch.map ?_
  unfold Argument.textBy
  split
  · exact .ok _
  · split
    · exact .error (by simp [Argument.mixed, Error.code?])
    · exact .error (by simp [Argument.lacks, Error.code?])

theorem Query.AllFit.inStep {q : Query} (h : q.AllFit) : q.InStep where
  counts t ht _ := (h t ht).selects
  statements _ _ hr := h.noMismatch hr
  aggregates d fn column hplain :=
    h.aggregate_noMismatch d fn hplain (columnName_key_noMismatch column)
  totals d := h.aggregate_noMismatch d .count (by decide) (.ok _)

/-- A workspace without builders and queries. -/
def Holder.unused (registry : Registry) (now : Moment) : Holder Workspace where
  state := { registry, now }

/-- **Markers and values agree in every query that builders made**, and in whatever is derived from
it. -/
theorem Holder.queries_in_step (registry : Registry) (now : Moment) {calls : List BuilderCall}
    (hcalls : ∀ c ∈ calls, c.IsBuilderMade) {q q' : Query}
    (hq : q ∈ ((unused registry now).run BuilderCall.carryOut calls).state.queries)
    (hderived : q.DerivedFrom q') : q'.InStep := by
  have hstart : (unused registry now).state.AllFit := .empty registry now
  have hmade : q.AllFit := (run_allFit hstart hcalls).queries q hq
  have hfit : q'.ClausesFit := (q.allFit_iff.1 hmade).of_derived hderived
  exact (q'.allFit_iff.2 hfit).inStep

namespace Workspace

def tableIs (name : String) : Step :=
  .mk .table [some (.value (.text name))]

def selectRaw (text : String) (values : List Value) : Step :=
  .mk .selectRaw (some (.value (.text text)) :: values.map fun v => some (.value v))

/-- A builder selects a reduced price where there are bills of more than a sum. In between it tries a
raw item that has no value for its marker. -/
def reducedPrices : List BuilderCall :=
  [.newQuery {}, .newBuilder { query := 0, dialect := .mysql },
    .step 0 (tableIs "stock"),
    .step 0 (selectRaw "price * ? AS reduced" [.int 2]),
    .step 0 (selectRaw "price * ?" []),
    .step 0 (.mk .filterExists [some (.routine [tableIs "bills", selectRaw "?" [.int 1],
      .mk (.filterRaw .and) [some (.value (.text "total > ?")), some (.value (.int 100))]]),
      some (.word (.connective .and)), some (.value (.bool false))])]

def noon : Moment :=
  ⟨⟨2024, 5, 1⟩, ⟨12, 0, 0, 0⟩⟩

/-- The first page. -/
def reducedPage : String :=
  "SELECT price * ? AS reduced FROM stock WHERE EXISTS (SELECT ? FROM bills WHERE total > ?) "
    ++ "LIMIT 10 OFFSET 0"

/-- The page of a query with values in its select list and in a sub-query. -/
theorem reduced_prices_in_step :
    ∃ q ∈ ((Holder.unused .initial noon).run BuilderCall.carryOut reducedPrices).state.queries,
      (Statement.select .mysql (q.rows 0 10)).toOption.map Statement.sql = some reducedPage
      ∧ (q.rows 0 10).InStep := by
  have hcalls : ∀ c ∈ reducedPrices, c.IsBuilderMade := by
    simp only [reducedPrices, List.forall_mem_cons]
    exact ⟨rfl, trivial, rfl, rfl, rfl, rfl, List.forall_mem_nil _⟩
  obtain ⟨q, hq, hsql⟩ :
      ∃ q ∈ ((Holder.unused .initial noon).run BuilderCall.carryOut reducedPrices).state.queries,
        (Statement.select .mysql (q.rows 0 10)).toOption.map Statement.sql = some reducedPage := by
    decide +kernel
  exact ⟨q, hq, hsql, Holder.queries_in_step .initial noon hcalls hq (.paged 0 10 .self)⟩

end Workspace

end SqlQuery
