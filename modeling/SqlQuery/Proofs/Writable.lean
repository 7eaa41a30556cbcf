import SqlQuery.Proofs.PairingOrder

/-!
# What a dialect can write

A statement is refused for four reasons only: raw text has not one marker for each of its values,
the select list has not one marker for each of its values, the dialect lacks a feature, or a value
that is searched for in JSON cannot be written as JSON. `WritableIn` says of one statement, apart
from the statements inside it, that there is no such reason, and `Query.compiles_iff` that a query
compiles exactly if this holds of every statement of its tree.
-/

namespace SqlQuery

/-! ## The clauses of one statement -/

/-- Raw text has one marker for each value. -/
def RawFits (raw : String) (values : List Value) : Prop :=
  RawText.markerCount raw = values.length

def GroupKey.Fits : GroupKey → Prop
  | column .. => True
  | raw s values => RawFits s values

def OrderKey.Fits : OrderKey → Prop
  | column .. => True
  | raw s values _ => RawFits s values

def HavingCondition.Fits : HavingCondition → Prop
  | compare .. => True
  | raw s values => RawFits s values

mutual

/-- The filters in the parentheses of a condition, but not those of statements inside it. -/
def Condition.filtersInside : Condition → List Filter
  | .group filters => shownFilters filters
  | _ => []

/-- Filters and those in their parentheses. -/
def shownFilters : List Filter → List Filter
  | [] => []
  | ⟨connective, condition, unread⟩ :: rest =>
    ⟨connective, condition, unread⟩ :: (condition.filtersInside ++ shownFilters rest)

end

theorem shownFilters_append (fs gs : List Filter) :
    shownFilters (fs ++ gs) = shownFilters fs ++ shownFilters gs := by
  induction fs with
  | nil => rfl
  | cons f fs ih =>
    obtain ⟨connective, condition, unread⟩ := f
    rw [List.cons_append, shownFilters, shownFilters, ih, List.cons_append, List.append_assoc]

/-- The filters that joins show. A cross join shows none. -/
def joinFilters : List Join → List Filter
  | [] => []
  | ⟨.cross, _, _, _, _, _⟩ :: rest => joinFilters rest
  | ⟨_, _, _, _, _, filters⟩ :: rest => shownFilters filters ++ joinFilters rest

theorem joinFilters_on {j : Join} (h : j.kind ≠ .cross) (rest : List Join) :
    joinFilters (j :: rest) = shownFilters j.filters ++ joinFilters rest := by
  cases j
  rw [joinFilters]
  exact h

/-- All filters of a statement, but not those of statements inside it. -/
def Query.shownFilters (q : Query) : List Filter :=
  joinFilters q.joins ++ SqlQuery.shownFilters q.filters

/-- A dialect has the feature that a condition needs, and its values fit. -/
def Condition.WritableIn (d : Dialect) : Condition → Prop
  | .raw s values => RawFits s values
  | .datePart .. => d.datePart.isSome
  | .jsonContains _ v => Succeeds (Dialect.jsonContainsValue v) ∧ d.jsonContains.isSome
  | .jsonLength .. => d.jsonLength.isSome
  | .jsonPath .. => d.jsonPath.isSome
  | .fullText .. => d.fullText.isSome
  | _ => True

/-- What a dialect asks of a statement, apart from the statements inside it. -/
structure Query.WritableIn (d : Dialect) (q : Query) : Prop where
  joins : ∀ j ∈ q.joins, Succeeds (d.joinKeyword j.kind)
  filters : ∀ x ∈ q.shownFilters, x.condition.WritableIn d
  groups : ∀ g ∈ q.groups, g.Fits
  havings : ∀ h ∈ q.havings, h.condition.Fits
  orders : ∀ o ∈ q.orders, o.Fits
  selects : q.selects = [] ∨ q.selectValues.length = selectMarkers q.selects

variable {d : Dialect}

/-! ## Sections without statements inside them -/

theorem ofRaw_succeeds_iff {raw : String} {values : List Value} :
    Succeeds (Fragment.ofRaw raw values) ↔ RawFits raw values := by
  constructor
  · rintro ⟨f, h⟩
    exact (ofRaw_eq_ok h).1
  · intro h
    exact ⟨Fragment.weave (RawText.split raw) values, if_pos h⟩

theorem GroupKey.succeeds_iff (g : GroupKey) : Succeeds g.fragment ↔ g.Fits := by
  cases g with
  | column name unread => exact iff_true_intro (.ok _)
  | raw s values => exact ofRaw_succeeds_iff

theorem OrderKey.succeeds_iff (o : OrderKey) : Succeeds o.fragment ↔ o.Fits := by
  cases o with
  | column name direction unread => exact iff_true_intro (.ok _)
  | raw s values unread => exact ofRaw_succeeds_iff

theorem HavingCondition.succeeds_iff (c : HavingCondition) :
    Succeeds (c.fragment d) ↔ c.Fits := by
  cases c with
  | compare left c right => exact iff_true_intro (.ok _)
  | raw s values => exact ofRaw_succeeds_iff

/-- A section succeeds if each of its items does; without items it is absent. -/
theorem section_succeeds_iff {α : Type} {keyword : String} {items : List α}
    {body : List α → Result Fragment} {P : α → Prop}
    (h : ∀ xs, Succeeds (body xs) ↔ ∀ x ∈ xs, P x) :
    Succeeds (section? keyword items body) ↔ ∀ x ∈ items, P x := by
  cases items with
  | nil => exact ⟨fun _ _ hx => (nomatch hx), fun _ => .ok []⟩
  | cons x xs => exact Succeeds.bind_pure_iff.trans (h (x :: xs))

theorem groups_succeed_iff {groups : List GroupKey} {havings : List Having} :
    Succeeds (groupFragments d groups havings)
      ↔ (∀ g ∈ groups, g.Fits) ∧ ∀ h ∈ havings, h.condition.Fits := by
  have keys : Succeeds (section? "GROUP BY " groups fun gs => do
      return Fragment.intercalate ", " (← gs.mapM GroupKey.fragment)) ↔ ∀ g ∈ groups, g.Fits := by
    refine section_succeeds_iff fun gs => ?_
    simp only [Succeeds.bind_pure_iff, Succeeds.mapM_iff, GroupKey.succeeds_iff]
  have clauses : Succeeds (section? "HAVING " havings fun hs => do
      return connected (← havingFragments d hs)) ↔ ∀ h ∈ havings, h.condition.Fits := by
    refine section_succeeds_iff fun hs => ?_
    simp only [havingFragments, Succeeds.bind_pure_iff, Succeeds.mapM_iff,
      HavingCondition.succeeds_iff]
  rw [← keys, ← clauses]
  exact Succeeds.bind_iff fun _ => Succeeds.bind_pure_iff

theorem tail_succeeds_iff {orders : List OrderKey} {limit offset : Option Nat}
    {lock : Option LockMode} :
    Succeeds (tailFragments orders limit offset lock) ↔ ∀ o ∈ orders, o.Fits := by
  refine Succeeds.bind_pure_iff.trans (section_succeeds_iff fun os => ?_)
  simp only [Succeeds.bind_pure_iff, Succeeds.mapM_iff, OrderKey.succeeds_iff]

/-! ## The select list -/

/-- A select list can be written if there are enough values, and takes one for each marker. -/
theorem selectItems_eq_ok {selects : List SelectItem} {values : List Value}
    (h : selectMarkers selects ≤ values.length) :
    ∃ items, selectItems selects values = .ok (items, values.drop (selectMarkers selects)) := by
  induction selects generalizing values with
  | nil => exact ⟨[], rfl⟩
  | cons item rest ih =>
    cases item with
    | column name shownAs =>
      have hcount : selectMarkers (.column name shownAs :: rest) = selectMarkers rest :=
        Nat.zero_add _
      rw [hcount] at h ⊢
      obtain ⟨items, hitems⟩ := ih h
      exact ⟨_, Result.bind_eq_ok.2 ⟨_, hitems, rfl⟩⟩
    | raw s shownAs =>
      have hcount : selectMarkers (.raw s shownAs :: rest)
          = RawText.markerCount s + selectMarkers rest := rfl
      rw [hcount] at h ⊢
      have taken : RawFits s (values.take (RawText.markerCount s)) := by
        unfold RawFits
        rw [List.length_take]
        omega
      have left : selectMarkers rest ≤ (values.drop (RawText.markerCount s)).length := by
        rw [List.length_drop]
        omega
      obtain ⟨item, hitem⟩ := ofRaw_succeeds_iff.2 taken
      obtain ⟨items, hitems⟩ := ih left
      rw [← List.drop_drop]
      exact ⟨_, Result.bind_eq_ok.2 ⟨item, hitem, Result.bind_eq_ok.2 ⟨_, hitems, rfl⟩⟩⟩

/-- A statement without a select list looks at no select value. -/
theorem head_succeeds_iff {distinct : Bool} {selects : List SelectItem} {values : List Value} :
    Succeeds (selectHead distinct selects values)
      ↔ selects = [] ∨ values.length = selectMarkers selects := by
  constructor
  · rintro ⟨f, h⟩
    obtain ⟨-, hlength⟩ := writes_head (d := .mysql) h
    cases selects with
    | nil => exact .inl rfl
    | cons item rest =>
      rw [headOperands, List.isEmpty_cons, if_neg Bool.false_ne_true, List.length_map] at hlength
      exact .inr hlength
  · intro h
    cases selects with
    | nil => exact .ok _
    | cons item rest =>
      rcases h with h | h
      · cases h
      · obtain ⟨items, hitems⟩ := selectItems_eq_ok (Nat.le_of_eq h.symm)
        rw [← h, List.drop_length] at hitems
        unfold selectHead
        rw [hitems]
        exact .ok _

/-! ## Features -/

theorem require_succeeds_iff {α : Type} {name : String} {feature : Option α} :
    Succeeds (d.require name feature) ↔ feature.isSome := by
  cases feature with
  | none => exact ⟨fun h => absurd h (Succeeds.not_error _), fun h => (nomatch h)⟩
  | some x => exact ⟨fun _ => rfl, fun _ => .ok x⟩

/-! ## Whole queries -/

/-- A condition can be written, and so can everything inside it. -/
def Condition.AllWritable (d : Dialect) (c : Condition) : Prop :=
  (c.WritableIn d ∧ ∀ x ∈ c.filtersInside, x.condition.WritableIn d)
    ∧ ∀ t ∈ c.statements, t.WritableIn d

/-- Only sub-queries and parentheses hold anything further. -/
theorem Condition.allWritable_of_leaf {c : Condition} (hfilters : c.filtersInside = [])
    (hstatements : c.statements = []) : c.AllWritable d ↔ c.WritableIn d := by
  unfold Condition.AllWritable
  rw [hfilters, hstatements]
  simp

mutual

theorem Condition.compiles_iff (c : Condition) : Succeeds (c.fragment d) ↔ c.AllWritable d := by
  cases c with
  | raw s values =>
    rw [Condition.allWritable_of_leaf rfl rfl]
    exact ofRaw_succeeds_iff
  | inQuery column negated query =>
    rw [Condition.fragment, Succeeds.bind_pure_iff, query.compiles_iff]
    simp [Condition.AllWritable, Condition.WritableIn, Condition.filtersInside,
      Condition.statements]
  | «exists» negated query =>
    rw [Condition.fragment, Succeeds.bind_pure_iff, query.compiles_iff]
    simp [Condition.AllWritable, Condition.WritableIn, Condition.filtersInside,
      Condition.statements]
  | group filters =>
    rw [Condition.fragment, Succeeds.bind_pure_iff, filters_compile_iff filters]
    simp [Condition.AllWritable, Condition.WritableIn, Condition.filtersInside,
      Condition.statements]
  | datePart | jsonLength | jsonPath | fullText =>
    rw [Condition.allWritable_of_leaf rfl rfl, Condition.fragment, Succeeds.bind_pure_iff]
    exact Succeeds.map_iff.trans require_succeeds_iff
  | jsonContains column v =>
    rw [Condition.allWritable_of_leaf rfl rfl, Condition.fragment]
    exact Succeeds.bind_iff fun _ =>
      Succeeds.bind_pure_iff.trans (Succeeds.map_iff.trans require_succeeds_iff)
  | _ =>
    rw [Condition.allWritable_of_leaf rfl rfl]
    exact iff_true_intro (.ok _)

theorem filters_compile_iff : ∀ filters : List Filter,
    Succeeds (filterFragments d filters)
      ↔ (∀ x ∈ shownFilters filters, x.condition.WritableIn d)
        ∧ ∀ t ∈ filterStatements filters, t.WritableIn d
  | [] => by
    rw [filterFragments]
    exact ⟨fun _ => ⟨fun _ hx => (nomatch hx), fun _ ht => (nomatch ht)⟩, fun _ => .ok []⟩
  | ⟨connective, condition, unread⟩ :: rest => by
    have each : Succeeds (filterFragments d (⟨connective, condition, unread⟩ :: rest))
        ↔ Succeeds (condition.fragment d) ∧ Succeeds (filterFragments d rest) := by
      rw [filterFragments]
      exact Succeeds.bind_iff fun _ => Succeeds.bind_pure_iff
    rw [each, condition.compiles_iff, filters_compile_iff rest, shownFilters, filterStatements,
      List.forall_mem_cons, List.forall_mem_append, List.forall_mem_append]
    unfold Condition.AllWritable
    tauto

theorem joins_compile_iff : ∀ joins : List Join,
    Succeeds (joinFragments d joins)
      ↔ ((∀ j ∈ joins, Succeeds (d.joinKeyword j.kind))
          ∧ ∀ x ∈ joinFilters joins, x.condition.WritableIn d)
        ∧ ∀ t ∈ joinStatements joins, t.WritableIn d
  | [] => by
    rw [joinFragments]
    exact ⟨fun _ => ⟨⟨fun _ hj => (nomatch hj), fun _ hx => (nomatch hx)⟩,
      fun _ ht => (nomatch ht)⟩, fun _ => .ok []⟩
  | ⟨kind, table, first, operator, second, filters⟩ :: rest => by
    by_cases hk : kind = .cross
    · subst hk
      have cross : Succeeds (d.joinKeyword .cross) := .ok _
      rw [joinFragments, Succeeds.bind_pure_iff, joins_compile_iff rest, joinFilters,
        joinStatements, List.forall_mem_cons]
      simp only [cross, true_and]
    · have each : Succeeds (joinFragments d
            (⟨kind, table, first, operator, second, filters⟩ :: rest))
          ↔ Succeeds (d.joinKeyword kind) ∧ Succeeds (filterFragments d filters)
            ∧ Succeeds (joinFragments d rest) := by
        rw [joinFragments_on hk]
        exact Succeeds.bind_iff fun _ => Succeeds.bind_iff fun _ => Succeeds.bind_pure_iff
      rw [each, filters_compile_iff filters, joins_compile_iff rest, joinFilters_on hk,
        joinStatements_on hk, List.forall_mem_cons, List.forall_mem_append,
        List.forall_mem_append]
      tauto

theorem branches_compile_iff : ∀ branches : List Branch,
    Succeeds (branchFragments d branches)
      ↔ ∀ t ∈ branchStatements branches, t.WritableIn d
  | [] => by
    rw [branchFragments]
    exact ⟨fun _ _ ht => (nomatch ht), fun _ => .ok []⟩
  | ⟨query, all⟩ :: rest => by
    have each : Succeeds (branchFragments d (⟨query, all⟩ :: rest))
        ↔ Succeeds (query.fragment d) ∧ Succeeds (branchFragments d rest) := by
      rw [branchFragments]
      exact Succeeds.bind_iff fun _ => Succeeds.bind_pure_iff
    rw [each, query.compiles_iff, branches_compile_iff rest, branchStatements,
      List.forall_mem_append]

/-- **A query compiles exactly if the dialect can write every statement of its tree.** -/
theorem Query.compiles_iff : ∀ q : Query,
    Succeeds (q.fragment d) ↔ ∀ t ∈ q.statements, t.WritableIn d
  | ⟨table, selects, distinct, filters, joins, groups, havings, orders, unions, limit, offset,
      lock, selectValues⟩ => by
    have sections : Succeeds (Query.fragment d ⟨table, selects, distinct, filters, joins, groups,
          havings, orders, unions, limit, offset, lock, selectValues⟩)
        ↔ Succeeds (joinFragments d joins) ∧ Succeeds (filterFragments d filters)
          ∧ Succeeds (groupFragments d groups havings) ∧ Succeeds (branchFragments d unions)
          ∧ Succeeds (tailFragments orders limit offset lock)
          ∧ Succeeds (selectHead distinct selects selectValues) := by
      refine Succeeds.bind_iff fun joined => ?_
      refine Succeeds.bind_iff fun conditions => ?_
      refine Succeeds.bind_iff fun grouped => ?_
      refine Succeeds.bind_iff fun branches => ?_
      refine Succeeds.bind_iff fun tail => ?_
      exact Succeeds.bind_pure_iff
    rw [sections, joins_compile_iff joins, filters_compile_iff filters, groups_succeed_iff,
      branches_compile_iff unions, tail_succeeds_iff, head_succeeds_iff, Query.statements,
      List.forall_mem_cons, List.forall_mem_append, List.forall_mem_append]
    constructor
    · rintro ⟨⟨⟨hkinds, hon⟩, hjoined⟩, ⟨hfilters, hinside⟩, ⟨hgroups, hhavings⟩, hbranches,
        horders, hselects⟩
      exact ⟨⟨hkinds, List.forall_mem_append.2 ⟨hon, hfilters⟩, hgroups, hhavings, horders,
        hselects⟩, ⟨hjoined, hinside⟩, hbranches⟩
    · rintro ⟨hself, ⟨hjoined, hinside⟩, hbranches⟩
      obtain ⟨hon, hfilters⟩ := List.forall_mem_append.1 hself.filters
      exact ⟨⟨⟨hself.joins, hon⟩, hjoined⟩, ⟨hfilters, hinside⟩, ⟨hself.groups, hself.havings⟩,
        hbranches, hself.orders, hself.selects⟩

end

end SqlQuery
