import SqlQuery.Execution.Batches
import SqlQuery.Execution.Paging.Numbers
import SqlQuery.Proofs.CheckedClauses
import SqlQuery.Proofs.CursorBounds
import SqlQuery.Query.Copy

/-!
# One marker for each value

Raw text is shown with its values, and a select list with the values of all its raw items, which are
kept beside it. `Query.AllFit` says that in all statements of a query's tree there is one marker for
each of these values. Then a statement of the query may be refused for other reasons, but not for
numbers that differ (`Query.AllFit.noMismatch`). And it is kept by whatever makes another query of
one (`Query.ClausesFit.of_derived`): the select list and its values are replaced together.
-/

namespace SqlQuery

/-! ## Queries whose markers and values agree -/

def Condition.Fits : Condition → Prop
  | .raw s values => RawFits s values
  | _ => True

/-- In a statement, apart from the statements inside it, there is one marker for each value. -/
structure Query.Fits (q : Query) : Prop where
  selects : q.selectValues.length = selectMarkers q.selects
  filters : ∀ x ∈ q.shownFilters, x.condition.Fits
  groups : ∀ g ∈ q.groups, g.Fits
  havings : ∀ h ∈ q.havings, h.condition.Fits
  orders : ∀ o ∈ q.orders, o.Fits

/-- In all statements of a tree there is one marker for each value. -/
def Query.AllFit (q : Query) : Prop :=
  ∀ t ∈ q.statements, t.Fits

/-- In a condition and in all statements inside it there is one marker for each value. -/
structure Condition.AllFit (c : Condition) : Prop where
  self : c.Fits
  shown : ∀ x ∈ c.filtersInside, x.condition.Fits
  inside : ∀ t ∈ c.statements, t.Fits

structure FiltersFit (filters : List Filter) : Prop where
  shown : ∀ x ∈ shownFilters filters, x.condition.Fits
  inside : ∀ t ∈ filterStatements filters, t.Fits

structure JoinsFit (joins : List Join) : Prop where
  shown : ∀ x ∈ joinFilters joins, x.condition.Fits
  inside : ∀ t ∈ joinStatements joins, t.Fits

def BranchesFit (branches : List Branch) : Prop :=
  ∀ t ∈ branchStatements branches, t.Fits

/-- What there is to say of a query's tree, clause by clause. -/
structure Query.ClausesFit (q : Query) : Prop where
  selects : q.selectValues.length = selectMarkers q.selects
  filters : FiltersFit q.filters
  joins : JoinsFit q.joins
  groups : ∀ g ∈ q.groups, g.Fits
  havings : ∀ h ∈ q.havings, h.condition.Fits
  orders : ∀ o ∈ q.orders, o.Fits
  unions : BranchesFit q.unions

theorem Query.allFit_iff (q : Query) : q.AllFit ↔ q.ClausesFit := by
  unfold AllFit
  rw [q.statements_eq, List.forall_mem_cons, List.forall_mem_append, List.forall_mem_append]
  constructor
  · rintro ⟨⟨hselects, hfilters, hgroups, hhavings, horders⟩, ⟨hjoined, hinside⟩, hbranches⟩
    obtain ⟨hon, hshown⟩ := List.forall_mem_append.1 hfilters
    exact ⟨hselects, ⟨hshown, hinside⟩, ⟨hon, hjoined⟩, hgroups, hhavings, horders, hbranches⟩
  · rintro ⟨hselects, hfilters, hjoins, hgroups, hhavings, horders, hbranches⟩
    exact ⟨⟨hselects, List.forall_mem_append.2 ⟨hjoins.shown, hfilters.shown⟩, hgroups, hhavings,
      horders⟩, ⟨hjoins.inside, hfilters.inside⟩, hbranches⟩

theorem FiltersFit.empty : FiltersFit [] :=
  ⟨List.forall_mem_nil _, List.forall_mem_nil _⟩

theorem filtersFit_cons {connective : Connective} {condition : Condition} {unread : Unread}
    {rest : List Filter} : FiltersFit (⟨connective, condition, unread⟩ :: rest)
      ↔ condition.AllFit ∧ FiltersFit rest := by
  constructor
  · rintro ⟨hshown, hinside⟩
    rw [shownFilters, List.forall_mem_cons, List.forall_mem_append] at hshown
    rw [filterStatements, List.forall_mem_append] at hinside
    exact ⟨⟨hshown.1, hshown.2.1, hinside.1⟩, hshown.2.2, hinside.2⟩
  · rintro ⟨⟨hself, hgroup, hquery⟩, hshown, hinside⟩
    constructor
    · rw [shownFilters, List.forall_mem_cons, List.forall_mem_append]
      exact ⟨hself, hgroup, hshown⟩
    · rw [filterStatements, List.forall_mem_append]
      exact ⟨hquery, hinside⟩

theorem FiltersFit.append {fs gs : List Filter} (h : FiltersFit fs) (h' : FiltersFit gs) :
    FiltersFit (fs ++ gs) where
  shown := by
    rw [shownFilters_append]
    exact List.forall_mem_append.2 ⟨h.shown, h'.shown⟩
  inside := by
    rw [filterStatements_append]
    exact List.forall_mem_append.2 ⟨h.inside, h'.inside⟩

theorem FiltersFit.compare (connective : Connective) (column : String) (c : Comparison) (v : Value)
    (unread : Unread) : FiltersFit [⟨connective, .compare column c v, unread⟩] :=
  filtersFit_cons.2 ⟨⟨trivial, List.forall_mem_nil _, List.forall_mem_nil _⟩, .empty⟩

theorem FiltersFit.group {fs : List Filter} (h : FiltersFit fs) : (Condition.group fs).AllFit :=
  ⟨trivial, h.shown, h.inside⟩

theorem joinsFit_cons {j : Join} {rest : List Join} :
    JoinsFit (j :: rest) ↔ (j.kind ≠ .cross → FiltersFit j.filters) ∧ JoinsFit rest := by
  by_cases hk : j.kind = .cross
  · obtain ⟨kind, table, first, operator, second, filters⟩ := j
    change kind = .cross at hk
    subst hk
    constructor
    · rintro ⟨hshown, hinside⟩
      exact ⟨fun hk => absurd rfl hk, hshown, hinside⟩
    · rintro ⟨-, hshown, hinside⟩
      exact ⟨hshown, hinside⟩
  · constructor
    · rintro ⟨hshown, hinside⟩
      rw [joinFilters_on hk, List.forall_mem_append] at hshown
      rw [joinStatements_on hk, List.forall_mem_append] at hinside
      exact ⟨fun _ => ⟨hshown.1, hinside.1⟩, hshown.2, hinside.2⟩
    · rintro ⟨hfirst, hrest⟩
      obtain ⟨hshown, hinside⟩ := hfirst hk
      constructor
      · rw [joinFilters_on hk]
        exact List.forall_mem_append.2 ⟨hshown, hrest.shown⟩
      · rw [joinStatements_on hk]
        exact List.forall_mem_append.2 ⟨hinside, hrest.inside⟩

theorem JoinsFit.empty : JoinsFit [] :=
  ⟨List.forall_mem_nil _, List.forall_mem_nil _⟩

theorem BranchesFit.empty : BranchesFit [] :=
  List.forall_mem_nil _

theorem JoinsFit.append {js ks : List Join} (h : JoinsFit js) (h' : JoinsFit ks) :
    JoinsFit (js ++ ks) := by
  induction js with
  | nil => exact h'
  | cons j rest ih =>
    obtain ⟨hfirst, hrest⟩ := joinsFit_cons.1 h
    exact joinsFit_cons.2 ⟨hfirst, ih hrest⟩

theorem branchesFit_cons {b : Branch} {rest : List Branch} :
    BranchesFit (b :: rest) ↔ b.query.AllFit ∧ BranchesFit rest := by
  obtain ⟨query, all⟩ := b
  unfold BranchesFit
  rw [branchStatements, List.forall_mem_append]
  rfl

theorem BranchesFit.append {bs cs : List Branch} (h : BranchesFit bs) (h' : BranchesFit cs) :
    BranchesFit (bs ++ cs) := by
  induction bs with
  | nil => exact h'
  | cons b rest ih =>
    obtain ⟨hfirst, hrest⟩ := branchesFit_cons.1 h
    exact branchesFit_cons.2 ⟨hfirst, ih hrest⟩

/-- A query that says nothing. -/
theorem Query.ClausesFit.empty : ({} : Query).ClausesFit where
  selects := rfl
  filters := .empty
  joins := .empty
  groups := List.forall_mem_nil _
  havings := List.forall_mem_nil _
  orders := List.forall_mem_nil _
  unions := .empty

/-! ## Refusals for numbers that differ -/

namespace Error

/-- The code of a request that was rejected. -/
def code? : Error → Option String
  | malformed cause => some cause.code
  | _ => none

/-- Raw text or a select list has not one marker for each value. -/
def IsMismatch (e : Error) : Prop :=
  e.code? = some "BINDING_COUNT_MISMATCH"

end Error

namespace Result

/-- A computation that does not fail for markers and values whose numbers differ. -/
def NoMismatch {α : Type} (r : Result α) : Prop :=
  ∀ e, r = .error e → ¬e.IsMismatch

namespace NoMismatch

variable {α β : Type} {x : Result α}

theorem of_succeeds (h : Succeeds x) : NoMismatch x := by
  obtain ⟨a, rfl⟩ := h
  exact fun e he => nomatch he

theorem ok (a : α) : NoMismatch (.ok a : Result α) :=
  of_succeeds (.ok a)

theorem error {e : Error} (h : e.code? ≠ some "BINDING_COUNT_MISMATCH") :
    NoMismatch (.error e : Result α) := by
  intro e' he'
  cases he'
  exact h

theorem bind {f : α → Result β} (hx : NoMismatch x) (hf : ∀ a, x = .ok a → NoMismatch (f a)) :
    NoMismatch (x >>= f) := by
  cases x with
  | error e => exact error (hx e rfl)
  | ok a => exact hf a rfl

theorem bind_pure {f : α → β} (hx : NoMismatch x) : NoMismatch (x >>= fun a => pure (f a)) :=
  hx.bind fun a _ => ok (f a)

theorem map {f : α → β} (hx : NoMismatch x) : NoMismatch (x.map f) := by
  cases x with
  | error e => exact error (hx e rfl)
  | ok a => exact ok (f a)

end NoMismatch

end Result

section Statements

open Result Result.NoMismatch

variable {d : Dialect}

/-- A feature that a dialect lacks is no matter of markers. -/
theorem require_noMismatch {α : Type} (name : String) (feature : Option α) :
    NoMismatch (d.require name feature) := by
  cases feature with
  | some f => exact ok f
  | none => exact error (fun h => nomatch h)

theorem jsonText_noMismatch (v : Value) : NoMismatch (Dialect.jsonText v) := by
  unfold Dialect.jsonText
  split
  · exact ok _
  · exact error (fun h => nomatch h)

theorem jsonContainsValue_noMismatch (v : Value) : NoMismatch (Dialect.jsonContainsValue v) := by
  unfold Dialect.jsonContainsValue
  split
  · exact ok _
  · exact jsonText_noMismatch _

theorem joinKeyword_noMismatch (kind : JoinKind) : NoMismatch (d.joinKeyword kind) := by
  unfold Dialect.joinKeyword
  split
  · exact require_noMismatch _ _
  · exact ok _

mutual

theorem Condition.fragment_noMismatch (c : Condition) (h : c.AllFit) :
    NoMismatch (c.fragment d) := by
  cases c with
  | raw s values => exact of_succeeds (ofRaw_succeeds_iff.2 h.self)
  | inQuery column negated query =>
    rw [Condition.fragment]
    exact (query.fragment_noMismatch h.inside).bind_pure
  | «exists» negated query =>
    rw [Condition.fragment]
    exact (query.fragment_noMismatch h.inside).bind_pure
  | group filters =>
    rw [Condition.fragment]
    exact (filters_noMismatch filters ⟨h.shown, h.inside⟩).bind_pure
  | datePart | jsonLength | jsonPath | fullText =>
    rw [Condition.fragment]
    exact (require_noMismatch _ _).map.bind_pure
  | jsonContains column v =>
    rw [Condition.fragment]
    exact (jsonContainsValue_noMismatch v).bind fun _ _ => (require_noMismatch _ _).map.bind_pure
  | _ => exact ok _

theorem filters_noMismatch : ∀ filters : List Filter, FiltersFit filters →
    NoMismatch (filterFragments d filters)
  | [], _ => by
    rw [filterFragments]
    exact ok []
  | ⟨connective, condition, unread⟩ :: rest, h => by
    obtain ⟨hfirst, hrest⟩ := filtersFit_cons.1 h
    rw [filterFragments]
    exact (condition.fragment_noMismatch hfirst).bind fun _ _ =>
      (filters_noMismatch rest hrest).bind_pure

theorem joins_noMismatch : ∀ joins : List Join, JoinsFit joins →
    NoMismatch (joinFragments d joins)
  | [], _ => by
    rw [joinFragments]
    exact ok []
  | ⟨kind, table, first, operator, second, filters⟩ :: rest, h => by
    obtain ⟨hfirst, hrest⟩ := joinsFit_cons.1 h
    by_cases hk : kind = .cross
    · subst hk
      rw [joinFragments]
      exact (joins_noMismatch rest hrest).bind_pure
    · rw [joinFragments_on hk]
      refine (joinKeyword_noMismatch kind).bind fun _ _ => ?_
      refine (filters_noMismatch filters (hfirst hk)).bind fun _ _ => ?_
      exact (joins_noMismatch rest hrest).bind_pure

theorem branches_noMismatch : ∀ branches : List Branch, BranchesFit branches →
    NoMismatch (branchFragments d branches)
  | [], _ => by
    rw [branchFragments]
    exact ok []
  | ⟨query, all⟩ :: rest, h => by
    obtain ⟨hquery, hrest⟩ := branchesFit_cons.1 h
    rw [branchFragments]
    exact (query.fragment_noMismatch hquery).bind fun _ _ =>
      (branches_noMismatch rest hrest).bind_pure

/-- A query with one marker for each value is not refused for their numbers. -/
theorem Query.fragment_noMismatch : ∀ q : Query, q.AllFit → NoMismatch (q.fragment d)
  | ⟨table, selects, distinct, filters, joins, groups, havings, orders, unions, limit, offset,
      lock, selectValues⟩, h => by
    obtain ⟨hselects, hfilters, hjoins, hgroups, hhavings, horders, hunions⟩ :=
      (Query.allFit_iff _).1 h
    refine bind (joins_noMismatch joins hjoins) fun _ _ => ?_
    refine bind (filters_noMismatch filters hfilters) fun _ _ => ?_
    refine bind (of_succeeds (groups_succeed_iff.2 ⟨hgroups, hhavings⟩)) fun _ _ => ?_
    refine bind (branches_noMismatch unions hunions) fun _ _ => ?_
    refine bind (of_succeeds (tail_succeeds_iff.2 horders)) fun _ _ => ?_
    exact bind_pure (of_succeeds (head_succeeds_iff.2 (.inr hselects)))

end

theorem Statement.select_noMismatch {q : Query} (h : q.AllFit) :
    NoMismatch (Statement.select d q) :=
  (q.fragment_noMismatch h).bind_pure

/-! ### Statements that change rows -/

/-- The query that a request is about, if it is about one. -/
def Request.query? : Request → Option Query
  | .select q | .update q _ | .increment q .. | .jsonUpdate q .. | .jsonRemove q .. | .delete q =>
    some q
  | _ => none

theorem namedTable_noMismatch (action : String) (table : Option String) :
    NoMismatch (namedTable action table) := by
  unfold namedTable
  split
  · exact error (by simp [Error.code?, Malformed.code])
  · exact error (by simp [Error.code?, Malformed.code])
  · exact ok _

theorem Query.whereFragment_noMismatch {q : Query} (h : q.AllFit) :
    NoMismatch (q.whereFragment d) := by
  unfold whereFragment
  split
  · exact ok _
  · exact (filters_noMismatch q.filters ((Query.allFit_iff q).1 h).filters).bind_pure

theorem updateFragment_noMismatch {q : Query} (h : q.AllFit) (sets : List Fragment) :
    NoMismatch (updateFragment d q sets) :=
  (namedTable_noMismatch _ _).bind fun _ _ => (Query.whereFragment_noMismatch h).bind_pure

/-- **No statement of a query is refused for markers and values whose numbers differ.** -/
theorem Query.AllFit.noMismatch {q : Query} (h : q.AllFit) {r : Request} (hr : r.query? = some q) :
    NoMismatch (r.compile d) := by
  cases r with
  | select q' =>
    cases hr
    exact Statement.select_noMismatch h
  | update q' values =>
    cases hr
    show NoMismatch (Statement.update d q values)
    unfold Statement.update
    split
    · exact error (by simp [Error.code?, Malformed.code])
    · exact (updateFragment_noMismatch h _).bind_pure
  | increment q' column amount extra =>
    cases hr
    exact (updateFragment_noMismatch h _).bind_pure
  | jsonUpdate q' column path v =>
    cases hr
    have hvalue : NoMismatch (d.jsonSetValue v) := by
      unfold Dialect.jsonSetValue
      split
      · exact jsonText_noMismatch v
      · exact ok v
    refine hvalue.bind fun _ _ => (require_noMismatch _ _).bind fun _ _ => ?_
    exact (ok path).bind fun _ _ => (updateFragment_noMismatch h _).bind_pure
  | jsonRemove q' column path =>
    cases hr
    refine (require_noMismatch _ _).bind fun _ _ => ?_
    exact (ok path).bind fun _ _ => (updateFragment_noMismatch h _).bind_pure
  | delete q' =>
    cases hr
    exact (namedTable_noMismatch _ _).bind fun _ _ => (Query.whereFragment_noMismatch h).bind_pure
  | _ => cases hr

end Statements

/-! ## Text without a marker -/

namespace RawText

theorem length_segments {cs : List Char} (h : '?' ∉ cs) (quote : Option Char) :
    (segments quote cs).length = 1 := by
  induction cs generalizing quote with
  | nil => rfl
  | cons c cs ih =>
    obtain ⟨hc, hcs⟩ := not_or.1 (mt List.mem_cons.2 h)
    have hplain : (quote.isNone && c == '?') = false := by
      simp [Ne.symm hc]
    have hrest := ih hcs (quoteAfter quote c)
    unfold segments
    rw [hplain, if_neg Bool.false_ne_true]
    cases hsegments : segments (quoteAfter quote c) cs with
    | nil => exact absurd hsegments (segments_ne_nil _ _)
    | cons first others =>
      rw [hsegments] at hrest
      exact hrest

/-- Text without a question mark has no marker. -/
theorem markerCount_eq_zero {raw : String} (h : '?' ∉ raw.toList) : markerCount raw = 0 := by
  unfold markerCount split
  rw [List.length_map, length_segments h]

end RawText

/-! ## Queries made of others -/

namespace Query

/-- The queries that a query's rows are asked for with: the query itself, and what is made of it for
the first row, for rows with keys, for a column, for an aggregate over a column without a question
mark, for pages, and for batches. -/
inductive DerivedFrom (q : Query) : Query → Prop
  | self : DerivedFrom q q
  | copied {t t' : Query} (h : DerivedFrom q t) (hcopy : t.copy = .ok t') : DerivedFrom q t'
  | first {t : Query} (h : DerivedFrom q t) : DerivedFrom q t.firstOnly
  | keyed {t t' : Query} {key : String} {v : Value} (h : DerivedFrom q t)
    (hkey : t.withKey key v = .ok t') : DerivedFrom q t'
  | matched {t t' : Query} {attributes : Row} (h : DerivedFrom q t)
    (hmatching : t.matching attributes = .ok t') : DerivedFrom q t'
  | column {t t' : Query} {name : String} (h : DerivedFrom q t) (hcolumn : t.column name = .ok t') :
    DerivedFrom q t'
  | presence {t : Query} (h : DerivedFrom q t) : DerivedFrom q t.presence
  | whole {t : Query} (h : DerivedFrom q t) : DerivedFrom q { t.unbounded with lock := none }
  | aggregated {t : Query} {column : String} (fn : Aggregate) (h : DerivedFrom q t)
    (hplain : '?' ∉ column.toList) :
    DerivedFrom q (t.selecting (.raw (fn.text ++ "(" ++ column ++ ") AS aggregate") none))
  | counted {t : Query} (h : DerivedFrom q t) : DerivedFrom q t.counting
  | paged {t : Query} (offset count : Nat) (h : DerivedFrom q t) : DerivedFrom q (t.rows offset count)
  | pagedOf {t t' : Query} {offset : Result Argument} {count : Argument} (h : DerivedFrom q t)
    (hrows : t.rowsOf offset count = .ok t') : DerivedFrom q t'
  | after {t t' : Query} {name : ColumnName} {cursor : Value} {count : Nat} (h : DerivedFrom q t)
    (hafter : t.afterCursor name cursor count = .ok t') : DerivedFrom q t'
  | batch {t t' : Query} {place : BatchPlace} {size : Nat} (h : DerivedFrom q t)
    (hbatch : place.batch t size = .ok t') : DerivedFrom q t'

namespace ClausesFit

variable {q q' : Query}

/-- Neither the table nor the bounds have to do with markers. -/
theorem replace (h : q.ClausesFit) (table : Option String) (distinct : Bool)
    (limit offset : Option Nat) (lock : Option LockMode) :
    { q with table, distinct, limit, offset, lock : Query }.ClausesFit :=
  ⟨h.selects, h.filters, h.joins, h.groups, h.havings, h.orders, h.unions⟩

/-- An item without markers in place of the select list and its values. -/
theorem selecting (h : q.ClausesFit) {item : SelectItem} (hitem : item.markerCount = 0) :
    (q.selecting item).ClausesFit :=
  { h with selects := (Nat.add_zero _).trans hitem |>.symm }

theorem ordered (h : q.ClausesFit) {orders : List OrderKey} (horders : ∀ o ∈ orders, o.Fits) :
    { q with orders }.ClausesFit :=
  { h with orders := horders }

theorem filtered (h : q.ClausesFit) {filters : List Filter} (hfilters : FiltersFit filters) :
    { q with filters }.ClausesFit :=
  { h with filters := hfilters }

theorem unbounded (h : q.ClausesFit) : q.unbounded.ClausesFit :=
  (h.ordered (List.forall_mem_nil _)).replace _ _ _ _ _

theorem column (h : q.ClausesFit) {name : String} (hq : q.column name = .ok q') :
    q'.ClausesFit := by
  obtain ⟨item, hitem, hq⟩ := Result.bind_eq_ok.1 hq
  obtain ⟨text, -, hitem⟩ := Result.bind_eq_ok.1 hitem
  cases hitem
  cases hq
  exact h.selecting rfl

theorem counting (h : q.ClausesFit) : q.counting.ClausesFit := by
  unfold Query.counting
  dsimp only
  split
  · exact { h.unbounded with selects := rfl }
  · exact h.unbounded

theorem withKey (h : q.ClausesFit) {key : String} {v : Value} (hq : q.withKey key v = .ok q') :
    q'.ClausesFit := by
  obtain ⟨⟨connective, condition, unread⟩, hf, hq⟩ := Result.bind_eq_ok.1 hq
  obtain ⟨-, hcondition⟩ := Filter.comparing_eq_ok hf
  cases hcondition
  cases hq
  exact h.filtered (h.filters.append (.compare ..))

theorem matching (h : q.ClausesFit) {attributes : Row} (hq : q.matching attributes = .ok q') :
    q'.ClausesFit := by
  induction attributes generalizing q with
  | nil =>
    cases hq
    exact h
  | cons a rest ih =>
    obtain ⟨keyed, hkeyed, hq⟩ := Result.bind_eq_ok.1 hq
    exact ih (h.withKey hkeyed) hq

theorem rowsOf (h : q.ClausesFit) {offset : Result Argument} {count : Argument}
    (hq : q.rowsOf offset count = .ok q') : q'.ClausesFit := by
  obtain ⟨limited, hlimited, hq⟩ := Result.bind_eq_ok.1 hq
  obtain ⟨limit, -, hlimited⟩ := Result.bind_eq_ok.1 hlimited
  obtain ⟨n, -, hq⟩ := Result.bind_eq_ok.1 hq
  obtain ⟨offset, -, hq⟩ := Result.bind_eq_ok.1 hq
  cases hlimited
  cases hq
  exact h.replace _ _ _ _ _

/-- The order by a column has no marker. -/
theorem inOrderOf (h : q.ClausesFit) (column : String) (direction : Direction)
    (unread : List Value) :
    { q with orders := [.column column direction unread] : Query }.ClausesFit := by
  refine h.ordered fun o ho => ?_
  rw [List.mem_singleton.1 ho]
  trivial

theorem filtersFit_isolated {filters : List Filter} (h : FiltersFit filters) :
    FiltersFit (isolated filters) := by
  unfold isolated
  split
  · exact filtersFit_cons.2 ⟨h.group, .empty⟩
  · exact h

theorem afterCursor (h : q.ClausesFit) {name : ColumnName} {cursor : Value} {count : Nat}
    (hq : q.afterCursor name cursor count = .ok q') : q'.ClausesFit := by
  by_cases hcursor : cursor = .null
  · subst hcursor
    obtain ⟨order, horder, hq⟩ := Result.bind_eq_ok.1 hq
    obtain ⟨unread, rfl⟩ := OrderKey.ascending_eq_ok horder
    cases hq
    exact (h.inOrderOf _ _ _).replace _ _ _ _ _
  · obtain ⟨unread, unread', rfl⟩ := Query.afterCursor_eq hcursor hq
    have hfilters := (filtersFit_isolated h.filters).append
      (.compare .and name.text .gt cursor unread')
    exact ((h.inOrderOf _ _ _).filtered hfilters).replace _ _ _ _ _

theorem batch (h : q.ClausesFit) {place : BatchPlace} {size : Nat}
    (hq : place.batch q size = .ok q') : q'.ClausesFit := by
  cases place with
  | after column last => exact h.afterCursor hq
  | offset rows =>
    unfold BatchPlace.batch at hq
    dsimp only at hq
    split at hq
    · obtain ⟨orders, horders, hq⟩ := Result.bind_eq_ok.1 hq
      obtain ⟨order, horder, rfl⟩ := Result.map_eq_ok.1 horders
      obtain ⟨unread, rfl⟩ := OrderKey.ascending_eq_ok horder
      cases hq
      exact (h.inOrderOf _ _ _).replace _ _ _ _ _
    · cases hq
      exact h.replace _ _ _ _ _

/-- **What is made of a query has one marker for each value if the query has.** -/
theorem of_derived (h : q.ClausesFit) (hq : q.DerivedFrom q') : q'.ClausesFit := by
  induction hq with
  | self => exact h
  | copied _ hcopy ih =>
    unfold Query.copy at hcopy
    split at hcopy
    · cases hcopy
    · cases hcopy
      exact ih
  | first _ ih => exact ih.replace _ _ _ _ _
  | keyed _ hkey ih => exact ih.withKey hkey
  | matched _ hmatching ih => exact ih.matching hmatching
  | column _ hcolumn ih => exact ih.column hcolumn
  | presence _ ih =>
    have hmarkers : (SelectItem.raw "1 AS present" none).markerCount = 0 :=
      RawText.markerCount_eq_zero (by decide)
    exact (ih.selecting hmarkers).ordered (List.forall_mem_nil _)
  | whole _ ih => exact ih.unbounded.replace _ _ _ _ _
  | @aggregated t column fn _ hplain ih =>
    have hfn : '?' ∉ fn.text.toList := by
      cases fn <;> decide
    have hmarkers : (SelectItem.raw (fn.text ++ "(" ++ column ++ ") AS aggregate") none).markerCount
        = 0 := RawText.markerCount_eq_zero (by simp [hfn, hplain])
    exact ih.selecting hmarkers
  | counted _ ih => exact ih.counting
  | paged _ _ _ ih => exact ih.replace _ _ _ _ _
  | pagedOf _ hrows ih => exact ih.rowsOf hrows
  | after _ hafter ih => exact ih.afterCursor hafter
  | batch _ hbatch ih => exact ih.batch hbatch

end ClausesFit

/-- An aggregate over a column without a question mark is not refused for numbers that differ. -/
theorem AllFit.aggregate_noMismatch {q : Query} (h : q.AllFit) (d : Dialect) (fn : Aggregate)
    {column : ColumnName} (hplain : '?' ∉ column.shown.toList)
    (hkey : Result.NoMismatch column.key) :
    Result.NoMismatch (q.aggregateStatement d fn column) := by
  have hq : q.ClausesFit := q.allFit_iff.1 h
  unfold aggregateStatement
  dsimp only
  split
  · have hwhole := hq.of_derived (DerivedFrom.self.whole)
    refine (Statement.select_noMismatch ((allFit_iff _).2 hwhole)).bind fun _ _ => ?_
    split
    · exact (Result.NoMismatch.ok _).bind_pure
    · exact hkey.bind_pure
  · have hone := hq.of_derived (DerivedFrom.self.whole.aggregated fn hplain)
    exact Statement.select_noMismatch ((allFit_iff _).2 hone)

end Query

end SqlQuery
