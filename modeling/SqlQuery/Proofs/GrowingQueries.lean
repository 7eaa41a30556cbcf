import SqlQuery.Query.Edit
import SqlQuery.Proofs.Results

/-!
# Queries that only grow

A step of a builder puts clauses after those that are there, and never takes one away: of a query's
parts it replaces only the table, the bounds, the lock and whether rows are distinct. So a clause
that a query once got is in the query ever after, at the same place.
-/

namespace SqlQuery

/-- The clauses of a query come first among those of another. -/
structure Query.ExtendedBy (q q' : Query) : Prop where
  selects : q.selects <+: q'.selects
  selectValues : q.selectValues <+: q'.selectValues
  filters : q.filters <+: q'.filters
  joins : q.joins <+: q'.joins
  groups : q.groups <+: q'.groups
  havings : q.havings <+: q'.havings
  orders : q.orders <+: q'.orders
  unions : q.unions <+: q'.unions

namespace Query.ExtendedBy

variable {q q' q'' : Query}

theorem refl (q : Query) : q.ExtendedBy q := by
  constructor <;> exact List.prefix_rfl

theorem trans (h : q.ExtendedBy q') (h' : q'.ExtendedBy q'') : q.ExtendedBy q'' where
  selects := h.selects.trans h'.selects
  selectValues := h.selectValues.trans h'.selectValues
  filters := h.filters.trans h'.filters
  joins := h.joins.trans h'.joins
  groups := h.groups.trans h'.groups
  havings := h.havings.trans h'.havings
  orders := h.orders.trans h'.orders
  unions := h.unions.trans h'.unions

/-- The parts that are replaced are no clauses. -/
theorem replace (q : Query) (table : Option String) (distinct : Bool) (limit offset : Option Nat)
    (lock : Option LockMode) : q.ExtendedBy { q with table, distinct, limit, offset, lock } := by
  constructor <;> exact List.prefix_rfl

end Query.ExtendedBy

namespace Edit

def Extends (e : Edit) : Prop :=
  ∀ q q', e q = .ok q' → q.ExtendedBy q'

section Parts

variable {α : Type}

/-- An edit that puts what was made into a query extends the query if putting it there does. -/
theorem extends_of_put {x : Result α} {put : Query → α → Query}
    (h : ∀ (q : Query) a, q.ExtendedBy (put q a)) :
    Extends fun q => do return put q (← x) := by
  intro q q' hq
  cases x with
  | error e => cases hq
  | ok a =>
    cases hq
    exact h q a

@[simp]
theorem addFilter_extends (f : Result Filter) : Extends (addFilter f) :=
  extends_of_put fun q _ => { Query.ExtendedBy.refl q with filters := List.prefix_append _ _ }

@[simp]
theorem addJoin_extends (j : Result Join) : Extends (addJoin j) :=
  extends_of_put fun q _ => { Query.ExtendedBy.refl q with joins := List.prefix_append _ _ }

@[simp]
theorem addGroup_extends (g : Result GroupKey) : Extends (addGroup g) :=
  extends_of_put fun q _ => { Query.ExtendedBy.refl q with groups := List.prefix_append _ _ }

@[simp]
theorem addHaving_extends (h : Result Having) : Extends (addHaving h) :=
  extends_of_put fun q _ => { Query.ExtendedBy.refl q with havings := List.prefix_append _ _ }

@[simp]
theorem addOrder_extends (o : Result OrderKey) : Extends (addOrder o) :=
  extends_of_put fun q _ => { Query.ExtendedBy.refl q with orders := List.prefix_append _ _ }

@[simp]
theorem addBranch_extends (b : Result Branch) : Extends (addBranch b) :=
  extends_of_put fun q _ => { Query.ExtendedBy.refl q with unions := List.prefix_append _ _ }

@[simp]
theorem addSelect_extends (s : Result SelectItem) : Extends (addSelect s) :=
  extends_of_put fun q _ => { Query.ExtendedBy.refl q with selects := List.prefix_append _ _ }

@[simp]
theorem addRawSelect_extends (raw : Argument) (values : List Argument) :
    Extends (addRawSelect raw values) := by
  intro q q' hq
  obtain ⟨segments, -, hq⟩ := Result.bind_eq_ok.1 hq
  obtain ⟨_, -, hq⟩ := Result.bind_eq_ok.1 hq
  obtain ⟨item, -, hq⟩ := Result.bind_eq_ok.1 hq
  cases hq
  exact { Query.ExtendedBy.refl q with
    selects := List.prefix_append _ _
    selectValues := List.prefix_append _ _ }

@[simp]
theorem setTable_extends (a : Argument) : Extends (setTable a) :=
  extends_of_put fun q _ => .replace q ..

@[simp]
theorem setDistinct_extends (a : Argument) : Extends (setDistinct a) :=
  extends_of_put fun q _ => .replace q ..

@[simp]
theorem setLimit_extends (a : Argument) : Extends (setLimit a) :=
  extends_of_put fun q _ => .replace q ..

@[simp]
theorem setOffset_extends (a : Argument) : Extends (setOffset a) :=
  extends_of_put fun q _ => .replace q ..

@[simp]
theorem setLock_extends (a : Argument) : Extends (setLock a) :=
  extends_of_put fun q _ => .replace q ..

/-- The edits of a page set the bounds. -/
theorem forPage_extends {default : Int} {page perPage : Argument} {edits : List Edit}
    (h : forPage default page perPage = .ok edits) : ∀ e ∈ edits, e.Extends := by
  obtain ⟨isAbove, -, h⟩ := Result.bind_eq_ok.1 h
  cases h
  intro e he
  rcases List.mem_cons.1 he with rfl | he
  · exact setLimit_extends _
  · rw [List.mem_singleton.1 he]
    intro q q' hq
    obtain ⟨offset, -, hq⟩ := Result.bind_eq_ok.1 hq
    exact setOffset_extends offset q q' hq

end Parts

/-- Edits that extend a query do so also when one of them fails. -/
theorem extendedBy_applyAll {edits : List Edit} (h : ∀ e ∈ edits, e.Extends) (q : Query) :
    q.ExtendedBy (applyAll edits q).1 := by
  induction edits generalizing q with
  | nil => exact .refl q
  | cons e rest ih =>
    unfold applyAll
    cases hq : e q with
    | error err => exact .refl q
    | ok q' =>
      have hfirst : q.ExtendedBy q' := h e (List.mem_cons_self ..) q q' hq
      exact hfirst.trans (ih (fun e he => h e (List.mem_cons_of_mem _ he)) q')

end Edit

/-- Whatever a step says, its edits extend the query. -/
theorem Verb.edits_extend {around : Surroundings} {verb : Verb} {args : List (Option Argument)}
    {edits : List Edit} (h : Verb.edits around verb args = .ok edits) :
    ∀ e ∈ edits, e.Extends := by
  unfold Verb.edits at h
  split at h
  all_goals try cases h
  all_goals try simp
  -- left are the filters of a mapping, and the edits of a page, which are computed
  · rintro e key v - rfl
    exact Edit.addFilter_extends _
  · exact Edit.forPage_extends h

end SqlQuery
