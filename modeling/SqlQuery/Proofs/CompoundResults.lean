import SqlQuery.Proofs.CursorTables
import SqlQuery.Proofs.CursorWalks
import SqlQuery.Proofs.Writable

/-!
# What a query after a cursor returns

A query after a cursor bounds its main SELECT and leaves the branches of its UNION as they are. So
its rows are all beyond the cursor exactly if those of the branches are (`Store.beyond_iff`), and
their keys are those that a walk reads after the cursor (`Store.keys_afterCursor`).
-/

namespace SqlQuery

/-! ## What a compound statement can return -/

/-- What a database has for a query: the table of its main SELECT, and the rows of branches. -/
structure Store where
  main : Table
  branches : List Branch → Table

namespace Store

/-- The rows that a statement can return: those that its main SELECT reaches, and those of its
branches. -/
def Returns (S : Store) (q : Query) (r : Record) : Prop :=
  r ∈ S.main ∧ q.Reaches r.truth ∨ r ∈ S.branches q.unions

variable {S : Store} {q q' : Query} {column : String} {cursor : Value} {count : Nat}

/-- The bound of a cursor holds for the main SELECT alone. -/
theorem returns_afterCursor_iff (h : q.afterCursor column cursor count = .ok q') (r : Record) :
    S.Returns q' r
      ↔ (r ∈ S.main ∧ q.Reaches r.truth
        ∧ (cursor ≠ .null → r.truth (.compare column .gt cursor) = .yes))
        ∨ r ∈ S.branches q.unions := by
  obtain ⟨-, -, -, hunions, hreaches⟩ := Query.afterCursor_eq_ok h
  unfold Returns
  rw [hunions, hreaches]

/-- **All rows of a query after a cursor are beyond it exactly if those of its branches are.** -/
theorem beyond_iff (h : q.afterCursor column cursor count = .ok q') (hsome : cursor ≠ .null) :
    (∀ r, S.Returns q' r → r.truth (.compare column .gt cursor) = .yes)
      ↔ ∀ r ∈ S.branches q.unions, r.truth (.compare column .gt cursor) = .yes := by
  constructor
  · intro hall r hr
    exact hall r ((returns_afterCursor_iff h r).2 (.inr hr))
  · intro hbranches r hr
    obtain ⟨-, -, hbound⟩ | hbranch := (returns_afterCursor_iff h r).1 hr
    · exact hbound hsome
    · exact hbranches r hbranch

end Store

/-! ## A query after a cursor can be written -/

section Compiles

variable {d : Dialect} {q q' : Query} {column : String}

theorem filterStatements_isolated (fs : List Filter) :
    filterStatements (Query.isolated fs) = filterStatements fs := by
  unfold Query.isolated
  split
  · show filterStatements fs ++ [] = _
    rw [List.append_nil]
  · rfl

theorem writable_isolated {fs : List Filter} (h : ∀ x ∈ shownFilters fs, x.condition.WritableIn d) :
    ∀ x ∈ shownFilters (Query.isolated fs), x.condition.WritableIn d := by
  unfold Query.isolated
  split
  · show ∀ x ∈ Filter.of (.group fs) :: (shownFilters fs ++ []), _
    rw [List.append_nil, List.forall_mem_cons]
    exact ⟨trivial, h⟩
  · exact h

theorem OrderKey.ascending_ok (h : column ≠ "") :
    OrderKey.ascending column = .ok (.column column .asc []) := by
  unfold OrderKey.ascending KeyParts.orderKey KeyParts.needColumn
  rw [given_some h]
  rfl

theorem Filter.comparing_ok (h : column ≠ "") (c : Comparison) (v : Value) :
    ∃ f, Filter.comparing column c v = .ok f ∧ f.condition = .compare column c v := by
  unfold Filter.comparing FilterParts.check FilterParts.condition FilterParts.needComparedColumn
    FilterParts.needColumn FilterParts.needComparison
  rw [given_some h]
  exact ⟨_, rfl, rfl⟩

theorem compiles_with_filters {fs : List Filter} {count : Nat} (h : q.Compiles d)
    (hfilters : ∀ x ∈ shownFilters fs, x.condition.WritableIn d)
    (hstatements : filterStatements fs = filterStatements q.filters) :
    Query.Compiles d { q with
      filters := fs, orders := [.column column .asc []], limit := some count, offset := none } := by
  have hall := q.compiles_iff.1 h
  rw [Query.statements_eq, List.forall_mem_cons] at hall
  obtain ⟨hself, hinside⟩ := hall
  refine (Query.compiles_iff _).2 ?_
  rw [Query.statements_eq, List.forall_mem_cons, hstatements]
  refine ⟨?_, hinside⟩
  exact {
    joins := hself.joins
    filters := List.forall_mem_append.2 ⟨(List.forall_mem_append.1 hself.filters).1, hfilters⟩
    groups := hself.groups
    havings := hself.havings
    orders := List.forall_mem_singleton.2 trivial
    selects := hself.selects }

theorem afterCursor_compiles (h : q.Compiles d) (hcolumn : column ≠ "") (cursor : Value)
    (count : Nat) : ∃ q', q.afterCursor column cursor count = .ok q' ∧ q'.Compiles d := by
  have hall := q.compiles_iff.1 h q (by rw [Query.statements_eq]; exact List.mem_cons_self)
  have hown := (List.forall_mem_append.1 hall.filters).2
  have horder := OrderKey.ascending_ok hcolumn
  by_cases hnull : cursor = .null
  · subst hnull
    exact ⟨_, Result.bind_eq_ok.2 ⟨_, horder, rfl⟩, compiles_with_filters h hown rfl⟩
  · obtain ⟨f, hf, hcondition⟩ := Filter.comparing_ok hcolumn .gt cursor
    have hbounded : q.afterCursor column cursor count = .ok { q with
        filters := Query.isolated q.filters ++ [f], orders := [.column column .asc []]
        limit := some count, offset := none } := by
      refine Result.bind_eq_ok.2 ⟨_, horder, ?_⟩
      cases cursor with
      | null => exact absurd rfl hnull
      | _ => exact Result.bind_eq_ok.2 ⟨f, hf, rfl⟩
    refine ⟨_, hbounded, compiles_with_filters h ?_ ?_⟩
    · rw [shownFilters_append, List.forall_mem_append]
      refine ⟨writable_isolated hown, ?_⟩
      obtain ⟨connective, condition, unread⟩ := f
      cases hcondition
      exact List.forall_mem_singleton.2 trivial
    · rw [filterStatements_append, filterStatements_isolated]
      obtain ⟨connective, condition, unread⟩ := f
      cases hcondition
      exact List.append_nil _

end Compiles

/-! ## The keys of a compound result -/

section Keyed

variable {σ κ : Type} [LinearOrder κ] (rank : Value → κ) (column : String)

/-- Where the rows of a query stand. -/
def Store.keys (S : Store) (q : Query) : Keys κ where
  main := (S.main.filter fun r => q.Reaches r.truth).map fun r => r.row.place rank column
  branches := (S.branches q.unions).map fun r => r.row.place rank column

/-- The column is a key of the result: it is never null, the row can be told by it, and it is
compared by its rank. -/
structure Store.Keyed (S : Store) (q : Query) (rowAt : κ → Row) : Prop where
  present : ∀ r, S.Returns q r → r.row.get (resultName column) ≠ .null
  unique : ∀ r, S.Returns q r → rowAt (r.row.place rank column) = r.row
  compared : ∀ r ∈ S.main, ∀ r', S.Returns q r' →
    (r.truth (.compare column .gt (r'.row.get (resultName column))) = .yes
      ↔ r'.row.place rank column < r.row.place rank column)

/-- A cursor stands at the start of all or at a row of the result. -/
inductive Store.Stands (S : Store) (q : Query) : Value → WithBot κ → Prop
  | start : Stands S q .null ⊥
  | row {r : Record} (h : S.Returns q r) :
    Stands S q (r.row.get (resultName column)) (r.row.place rank column : κ)

/-- An executor answers a query after a cursor with the first rows of its result, in the order of
the column. -/
def Store.Answers (S : Store) (d : Dialect) (q : Query) (rowAt : κ → Row)
    (select : σ → String → List Value → List Row) (count : Nat) : Prop :=
  ∀ cursor q' s x, q.afterCursor column cursor count = .ok q' → Statement.select d q' = .ok s →
    (select x s.sql s.bindings).map Row.normalize
      = ((ascending (S.keys rank column q').all).take count).map rowAt

variable {rank column} {S : Store} {q q' : Query} {rowAt : κ → Row} {cursor : Value}
  {last : WithBot κ} {count : Nat}

namespace Store

omit [LinearOrder κ] in
theorem mem_keys_all {k : κ} :
    k ∈ (S.keys rank column q).all ↔ ∃ r, S.Returns q r ∧ r.row.place rank column = k := by
  unfold keys Keys.all Returns
  simp only [List.mem_append, List.mem_map, List.mem_filter, decide_eq_true_iff]
  constructor
  · rintro (⟨r, hr, hk⟩ | ⟨r, hr, hk⟩)
    · exact ⟨r, .inl hr, hk⟩
    · exact ⟨r, .inr hr, hk⟩
  · rintro ⟨r, hr | hr, hk⟩
    · exact .inl ⟨r, hr, hk⟩
    · exact .inr ⟨r, hr, hk⟩

/-- The rows of a query after a cursor are those that are read after it. -/
theorem keys_afterCursor (hkeyed : S.Keyed rank column q rowAt)
    (hstands : S.Stands rank column q cursor last)
    (h : q.afterCursor column cursor count = .ok q') :
    S.keys rank column q' = (S.keys rank column q).after last := by
  obtain ⟨-, -, -, hunions, hreaches⟩ := Query.afterCursor_eq_ok h
  have hbeyond (r : Record) (hr : r ∈ S.main) :
      (cursor ≠ .null → r.truth (.compare column .gt cursor) = .yes)
        ↔ last < (r.row.place rank column : κ) := by
    cases hstands with
    | start => exact iff_of_true (fun hsome => absurd rfl hsome) (WithBot.bot_lt_coe _)
    | row hreturned =>
      rw [hkeyed.compared r hr _ hreturned, WithBot.coe_lt_coe]
      exact imp_iff_right (hkeyed.present _ hreturned)
  unfold keys Keys.after
  rw [hunions, List.filter_map, List.filter_filter]
  congr 2
  refine List.filter_congr fun r hr => ?_
  rw [Function.comp_apply, ← Bool.decide_and, decide_eq_decide, hreaches, hbeyond r hr]
  exact and_comm

/-- A key of the result is where a row stands, and the cursor of that row stands there. -/
theorem stands_of_mem (hkeyed : S.Keyed rank column q rowAt) {k : κ}
    (hk : k ∈ (S.keys rank column q).all) :
    S.Stands rank column q ((rowAt k).get (resultName column)) k
    ∧ cursorValue (rowAt k) column = .ok ((rowAt k).get (resultName column)) := by
  obtain ⟨r, hr, rfl⟩ := mem_keys_all.1 hk
  rw [hkeyed.unique r hr]
  refine ⟨.row hr, ?_⟩
  have hsome := hkeyed.present r hr
  unfold cursorValue
  refine Result.bind_eq_ok.2 ⟨_, rfl, ?_⟩
  split
  · next hnull => exact absurd hnull hsome
  · rfl

end Store

end Keyed

end SqlQuery
