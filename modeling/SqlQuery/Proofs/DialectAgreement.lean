import SqlQuery.Proofs.CheckedClauses

/-!
# Two dialects agree

PostgreSQL has every feature that a condition or a join may ask for, and MySQL all but FULL JOIN.
Clauses that were checked when they were made have as many values as markers. What is left to fail
is the select list, whose values are kept apart from its items, and a value that JSON cannot hold
(`dialects_agree`).

An operand of a SELECT statement is bound in the same way by every dialect, so the bindings are
equal. Where a query asks for no feature and has no operator that only one of the two knows, the
two make one fragment of it, and the texts differ in the placeholders alone.
-/

namespace SqlQuery

/-! ## What each dialect can write -/

theorem postgres_joinKeyword (kind : JoinKind) : Succeeds (Dialect.postgres.joinKeyword kind) := by
  cases kind <;> exact .ok _

theorem mysql_joinKeyword_iff (kind : JoinKind) :
    Succeeds (Dialect.mysql.joinKeyword kind) ↔ kind ≠ .full := by
  cases kind with
  | full =>
    have lacking : ¬Succeeds (Dialect.mysql.joinKeyword .full) := by
      unfold Dialect.joinKeyword
      rw [require_succeeds_iff]
      exact Bool.false_ne_true
    exact ⟨fun h => absurd h lacking, fun h => absurd rfl h⟩
  | _ => exact ⟨fun _ h => (nomatch h), fun _ => .ok _⟩

/-- Apart from joins the two have the same features. -/
theorem Condition.writableIn_mysql_iff (c : Condition) :
    c.WritableIn .mysql ↔ c.WritableIn .postgres := by
  cases c with
  | datePart | jsonLength | jsonPath | fullText => exact iff_of_true rfl rfl
  | jsonContains column v => exact and_congr_right fun _ => iff_of_true rfl rfl
  | _ => exact Iff.rfl

theorem Query.writableIn_mysql_iff (q : Query) :
    q.WritableIn .mysql ↔ q.WritableIn .postgres ∧ ∀ j ∈ q.joins, j.kind ≠ .full := by
  constructor
  · intro h
    refine ⟨?_, fun j hj => (mysql_joinKeyword_iff j.kind).1 (h.joins j hj)⟩
    exact { h with
      joins := fun j _ => postgres_joinKeyword j.kind
      filters := fun x hx => x.condition.writableIn_mysql_iff.1 (h.filters x hx) }
  · rintro ⟨h, hjoins⟩
    exact { h with
      joins := fun j hj => (mysql_joinKeyword_iff j.kind).2 (hjoins j hj)
      filters := fun x hx => x.condition.writableIn_mysql_iff.2 (h.filters x hx) }

theorem FilterParts.writableIn_postgres_iff {p : FilterParts} {x : Filter} (h : p.check = .ok x) :
    x.condition.WritableIn .postgres ↔ x.condition.Encodable := by
  have hcondition := condition_of_check h
  cases hc : x.condition with
  | raw raw values =>
    rw [hc] at hcondition
    exact iff_true_intro (fits_of_raw hcondition)
  | jsonContains column v =>
    exact (and_iff_left rfl).trans (jsonContainsValue_succeeds_iff v)
  | datePart | jsonLength | jsonPath | fullText => exact iff_true_intro rfl
  | _ => exact Iff.rfl

theorem Query.Checked.writableIn_postgres_iff {q : Query} (h : q.Checked) :
    q.WritableIn .postgres
      ↔ (q.selects = [] ∨ q.selectValues.length = selectMarkers q.selects)
        ∧ ∀ x ∈ q.shownFilters, x.condition.Encodable := by
  have hfilters (x : Filter) (hx : x ∈ q.shownFilters) :
      x.condition.WritableIn .postgres ↔ x.condition.Encodable := by
    obtain ⟨p, hp⟩ := h.filters x hx
    exact FilterParts.writableIn_postgres_iff hp
  constructor
  · intro hq
    exact ⟨hq.selects, fun x hx => (hfilters x hx).1 (hq.filters x hx)⟩
  · rintro ⟨hselects, hencodable⟩
    exact {
      joins := fun j _ => postgres_joinKeyword j.kind
      filters := fun x hx => (hfilters x hx).2 (hencodable x hx)
      groups := fun g hg => by
        obtain ⟨p, hp⟩ := h.groups g hg
        exact KeyParts.fits_of_groupKey hp
      havings := fun x hx => by
        obtain ⟨p, hp⟩ := h.havings x hx
        exact KeyParts.fits_of_having hp
      orders := fun o ho => by
        obtain ⟨p, hp⟩ := h.orders o ho
        exact KeyParts.fits_of_orderKey hp
      selects := hselects }

/-! ## What is bound -/

section Bound

variable {d e : Dialect}

theorem bound_eq_of_plain (values : List Value) :
    ∀ o ∈ values.map Operand.plain, o.bound d = o.bound e := by
  rw [List.forall_mem_map]
  exact fun _ _ => rfl

theorem GroupKey.bound_eq (g : GroupKey) : ∀ o ∈ g.operands, o.bound d = o.bound e := by
  cases g with
  | column name unread => exact fun _ ho => nomatch ho
  | raw s values => exact bound_eq_of_plain values

theorem OrderKey.bound_eq (k : OrderKey) : ∀ o ∈ k.operands, o.bound d = o.bound e := by
  cases k with
  | column name direction unread => exact fun _ ho => nomatch ho
  | raw s values unread => exact bound_eq_of_plain values

theorem HavingCondition.bound_eq (c : HavingCondition) :
    ∀ o ∈ c.operands, o.bound d = o.bound e := by
  cases c with
  | compare left c right => exact bound_eq_of_plain [right]
  | raw s values => exact bound_eq_of_plain values

theorem head_bound_eq (selects : List SelectItem) (values : List Value) :
    ∀ o ∈ headOperands selects values, o.bound d = o.bound e := by
  unfold headOperands
  split
  · exact fun _ ho => nomatch ho
  · exact bound_eq_of_plain values

mutual

theorem Condition.bound_eq (c : Condition) : ∀ o ∈ c.operands, o.bound d = o.bound e := by
  cases c with
  | raw raw values => exact bound_eq_of_plain values
  | inValues column negated values => exact bound_eq_of_plain values
  | inQuery column negated query => exact query.bound_eq
  | «exists» negated query => exact query.bound_eq
  | group filters => exact filters_bound_eq filters
  | anyColumn columns c v matchAll negated =>
    rw [Condition.operands, List.forall_mem_map]
    exact fun _ _ => rfl
  | _ => simp [Condition.operands, Operand.bound]

theorem filters_bound_eq : ∀ filters : List Filter,
    ∀ o ∈ filterOperands filters, o.bound d = o.bound e
  | [] => fun _ ho => nomatch ho
  | ⟨_, condition, _⟩ :: rest => by
    rw [filterOperands, List.forall_mem_append]
    exact ⟨condition.bound_eq, filters_bound_eq rest⟩

theorem joins_bound_eq : ∀ joins : List Join,
    ∀ o ∈ joinOperands joins, o.bound d = o.bound e
  | [] => fun _ ho => nomatch ho
  | ⟨kind, table, first, operator, second, filters⟩ :: rest => by
    by_cases hk : kind = .cross
    · subst hk
      rw [joinOperands]
      exact joins_bound_eq rest
    · rw [joinOperands_on hk, List.forall_mem_append]
      exact ⟨filters_bound_eq filters, joins_bound_eq rest⟩

theorem branches_bound_eq : ∀ branches : List Branch,
    ∀ o ∈ branchOperands branches, o.bound d = o.bound e
  | [] => fun _ ho => nomatch ho
  | ⟨query, _⟩ :: rest => by
    rw [branchOperands, List.forall_mem_append]
    exact ⟨query.bound_eq, branches_bound_eq rest⟩

/-- Only the value of a JSON update is bound in a way of the dialect. -/
theorem Query.bound_eq : ∀ q : Query, ∀ o ∈ q.operands, o.bound d = o.bound e
  | ⟨table, selects, distinct, filters, joins, groups, havings, orders, unions, limit, offset,
      lock, selectValues⟩ => by
    rw [Query.operands]
    simp only [List.forall_mem_append, List.forall_mem_flatMap]
    exact ⟨⟨⟨⟨⟨⟨joins_bound_eq joins, filters_bound_eq filters⟩, fun g _ => g.bound_eq⟩,
      fun h _ => h.condition.bound_eq⟩, branches_bound_eq unions⟩, fun o _ => o.bound_eq⟩,
      head_bound_eq selects selectValues⟩

end

/-- Operands that are bound alike have the same values. -/
theorem values_eq_of_bound {os : List Operand} {vs ws : List Value}
    (h : ∀ o ∈ os, o.bound d = o.bound e)
    (hv : List.Forall₂ (fun o v => o.bound d = .ok v) os vs)
    (hw : List.Forall₂ (fun o v => o.bound e = .ok v) os ws) : vs = ws := by
  induction hv generalizing ws with
  | nil =>
    cases hw
    rfl
  | cons first _ ih =>
    cases hw with
    | cons first' rest' =>
      rw [List.forall_mem_cons] at h
      have hvalue := first.symm.trans (h.1.trans first')
      rw [Except.ok.inj hvalue, ih h.2 rest']

end Bound

/-! ## What is shown -/

/-- An operator that both dialects write in the same words. -/
def Operator.Neutral (op : Operator) : Prop :=
  op ≠ .compare .ilike ∧ op ≠ .compare .notIlike

/-- A condition that asks for no feature, and whose operator is neutral. -/
def Condition.Neutral : Condition → Prop
  | .compare _ c _ | .columns _ c _ | .anyColumn _ c _ _ _ => (Operator.compare c).Neutral
  | .datePart .. | .jsonContains .. | .jsonLength .. | .jsonPath .. | .fullText .. => False
  | _ => True

def HavingCondition.Neutral : HavingCondition → Prop
  | compare _ c _ => (Operator.compare c).Neutral
  | raw .. => True

/-- A statement with neutral clauses, apart from the statements inside it. -/
structure Query.Neutral (q : Query) : Prop where
  joins : ∀ j ∈ q.joins, j.kind ≠ .cross → j.operator.Neutral
  filters : ∀ x ∈ q.shownFilters, x.condition.Neutral
  havings : ∀ h ∈ q.havings, h.condition.Neutral

/-- A statement that both dialects can write, in the same words. -/
def Query.WrittenAlike (q : Query) : Prop :=
  q.Neutral ∧ ∀ j ∈ q.joins, j.kind ≠ .full

theorem Operator.Neutral.text_eq {op : Operator} (h : op.Neutral) :
    Dialect.mysql.operatorText op = Dialect.postgres.operatorText op := by
  cases op with
  | compare c =>
    cases c with
    | ilike => exact absurd rfl h.1
    | notIlike => exact absurd rfl h.2
    | _ => rfl
  | _ => rfl

theorem comparedWith_eq {left : String} {c : Comparison} {v : Value}
    (h : (Operator.compare c).Neutral) :
    comparedWith .mysql left c v = comparedWith .postgres left c v := by
  have htext : Dialect.mysql.comparisonText c = Dialect.postgres.comparisonText c := h.text_eq
  unfold comparedWith
  rw [htext]

theorem HavingCondition.Neutral.fragment_eq {c : HavingCondition} (h : c.Neutral) :
    c.fragment .mysql = c.fragment .postgres := by
  cases c with
  | compare left c right => exact congrArg Except.ok (comparedWith_eq h)
  | raw s values => rfl

theorem havingFragments_eq {havings : List Having} (h : ∀ x ∈ havings, x.condition.Neutral) :
    havingFragments .mysql havings = havingFragments .postgres havings := by
  unfold havingFragments
  induction havings with
  | nil => rfl
  | cons x rest ih =>
    rw [List.forall_mem_cons] at h
    rw [List.mapM_cons, List.mapM_cons, h.1.fragment_eq, ih h.2]

theorem section_congr {α : Type} {word : String} {items : List α}
    {body body' : List α → Result Fragment}
    (h : body items = body' items) : section? word items body = section? word items body' := by
  unfold section?
  rw [h]

theorem groupFragments_eq {groups : List GroupKey} {havings : List Having}
    (h : ∀ x ∈ havings, x.condition.Neutral) :
    groupFragments .mysql groups havings = groupFragments .postgres groups havings := by
  have clauses : section? "HAVING " havings (fun hs => do
        return connected (← havingFragments .mysql hs))
      = section? "HAVING " havings fun hs => do
        return connected (← havingFragments .postgres hs) := by
    refine section_congr ?_
    rw [havingFragments_eq h]
  unfold groupFragments
  rw [clauses]

theorem joinKeyword_eq {kind : JoinKind} (h : kind ≠ .full) :
    Dialect.mysql.joinKeyword kind = Dialect.postgres.joinKeyword kind := by
  cases kind with
  | full => exact absurd rfl h
  | _ => rfl

mutual

theorem Condition.fragment_eq (c : Condition) (hc : c.Neutral)
    (hfilters : ∀ x ∈ c.filtersInside, x.condition.Neutral)
    (hstatements : ∀ t ∈ c.statements, t.WrittenAlike) :
    c.fragment .mysql = c.fragment .postgres := by
  cases c with
  | compare column c v => exact congrArg Except.ok (comparedWith_eq hc)
  | columns first c second =>
    have htext : Dialect.mysql.comparisonText c = Dialect.postgres.comparisonText c := hc.text_eq
    rw [Condition.fragment, Condition.fragment, htext]
  | anyColumn columns c v matchAll negated =>
    have heach : (fun column => comparedWith .mysql column c v)
        = fun column => comparedWith .postgres column c v := by
      funext column
      exact comparedWith_eq hc
    rw [Condition.fragment, Condition.fragment, heach]
  | inQuery column negated query =>
    rw [Condition.fragment, Condition.fragment, query.fragment_eq hstatements]
  | «exists» negated query =>
    rw [Condition.fragment, Condition.fragment, query.fragment_eq hstatements]
  | group filters =>
    rw [Condition.fragment, Condition.fragment, filterFragments_eq filters hfilters hstatements]
  | raw | between | inValues | isNull => rfl
  | datePart | jsonContains | jsonLength | jsonPath | fullText => exact hc.elim

theorem filterFragments_eq (filters : List Filter)
    (hfilters : ∀ x ∈ shownFilters filters, x.condition.Neutral)
    (hstatements : ∀ t ∈ filterStatements filters, t.WrittenAlike) :
    filterFragments .mysql filters = filterFragments .postgres filters := by
  match filters with
  | [] => rfl
  | ⟨connective, condition, unread⟩ :: rest =>
    rw [shownFilters, List.forall_mem_cons, List.forall_mem_append] at hfilters
    rw [filterStatements, List.forall_mem_append] at hstatements
    obtain ⟨hfirst, hinside, hrest⟩ := hfilters
    rw [filterFragments, filterFragments, condition.fragment_eq hfirst hinside hstatements.1,
      filterFragments_eq rest hrest hstatements.2]

theorem joinFragments_eq (joins : List Join)
    (hjoins : ∀ j ∈ joins, j.kind ≠ .full ∧ (j.kind ≠ .cross → j.operator.Neutral))
    (hfilters : ∀ x ∈ joinFilters joins, x.condition.Neutral)
    (hstatements : ∀ t ∈ joinStatements joins, t.WrittenAlike) :
    joinFragments .mysql joins = joinFragments .postgres joins := by
  match joins with
  | [] => rfl
  | ⟨kind, table, first, operator, second, filters⟩ :: rest =>
    rw [List.forall_mem_cons] at hjoins
    obtain ⟨⟨hfull, hop⟩, hrest⟩ := hjoins
    by_cases hk : kind = .cross
    · subst hk
      rw [joinFilters] at hfilters
      rw [joinStatements] at hstatements
      rw [joinFragments, joinFragments, joinFragments_eq rest hrest hfilters hstatements]
    · rw [joinFilters_on hk, List.forall_mem_append] at hfilters
      rw [joinStatements_on hk, List.forall_mem_append] at hstatements
      rw [joinFragments_on hk, joinFragments_on hk, joinKeyword_eq hfull, (hop hk).text_eq,
        filterFragments_eq filters hfilters.1 hstatements.1,
        joinFragments_eq rest hrest hfilters.2 hstatements.2]

theorem branchFragments_eq (branches : List Branch)
    (hstatements : ∀ t ∈ branchStatements branches, t.WrittenAlike) :
    branchFragments .mysql branches = branchFragments .postgres branches := by
  match branches with
  | [] => rfl
  | ⟨query, all⟩ :: rest =>
    rw [branchStatements, List.forall_mem_append] at hstatements
    rw [branchFragments, branchFragments, query.fragment_eq hstatements.1,
      branchFragments_eq rest hstatements.2]

/-- Dialects that write every statement of a tree alike make one fragment of it. -/
theorem Query.fragment_eq (q : Query) (h : ∀ t ∈ q.statements, t.WrittenAlike) :
    q.fragment .mysql = q.fragment .postgres := by
  match q with
  | ⟨table, selects, distinct, filters, joins, groups, havings, orders, unions, limit, offset,
      lock, selectValues⟩ =>
    rw [Query.statements, List.forall_mem_cons, List.forall_mem_append,
      List.forall_mem_append] at h
    obtain ⟨⟨hneutral, hfull⟩, ⟨hjoined, hinside⟩, hbranches⟩ := h
    obtain ⟨hon, hfilters⟩ := List.forall_mem_append.1 hneutral.filters
    have hjoins := joinFragments_eq joins
      (fun j hj => ⟨hfull j hj, hneutral.joins j hj⟩) hon hjoined
    unfold Query.fragment
    rw [hjoins, filterFragments_eq filters hfilters hinside, groupFragments_eq hneutral.havings,
      branchFragments_eq unions hbranches]

end

/-! ## The two dialects -/

theorem Query.select_succeeds_iff {d : Dialect} (q : Query) :
    Succeeds (Statement.select d q) ↔ ∀ t ∈ q.statements, t.WritableIn d :=
  Succeeds.bind_pure_iff.trans q.compiles_iff

/-- **The dialects accept the same queries and bind the same values.** A query of checked clauses
fails for PostgreSQL only by a select list or by a value that JSON cannot hold, and for MySQL by a
FULL JOIN besides. What both accept has the same bindings, and if it is neutral the same text up to
the placeholders. -/
theorem Query.dialects_agree (q : Query) (h : ∀ t ∈ q.statements, t.Checked) :
    (Succeeds (Statement.select .postgres q) ↔ ∀ t ∈ q.statements,
      (t.selects = [] ∨ t.selectValues.length = selectMarkers t.selects)
        ∧ ∀ x ∈ t.shownFilters, x.condition.Encodable)
    ∧ (Succeeds (Statement.select .mysql q) ↔ Succeeds (Statement.select .postgres q)
      ∧ ∀ t ∈ q.statements, ∀ j ∈ t.joins, j.kind ≠ .full)
    ∧ ∀ p m, Statement.select .postgres q = .ok p → Statement.select .mysql q = .ok m →
      m.bindings = p.bindings
      ∧ ((∀ t ∈ q.statements, t.Neutral) →
        p.sql = (q.template .postgres).fill (fun n => "$" ++ toString n) (q.numbers 0)
        ∧ m.sql = (q.template .postgres).fill (fun _ => "?") (q.numbers 0)) := by
  refine ⟨?_, ?_, ?_⟩
  · rw [q.select_succeeds_iff]
    constructor
    · intro hwritable t ht
      exact (h t ht).writableIn_postgres_iff.1 (hwritable t ht)
    · intro hfits t ht
      exact (h t ht).writableIn_postgres_iff.2 (hfits t ht)
  · simp only [Query.select_succeeds_iff, Query.writableIn_mysql_iff]
    exact forall₂_and
  · intro p m hp hm
    have hfull : ∀ t ∈ q.statements, ∀ j ∈ t.joins, j.kind ≠ .full := by
      intro t ht
      have hwritable := q.select_succeeds_iff.1 ⟨m, hm⟩ t ht
      exact (t.writableIn_mysql_iff.1 hwritable).2
    obtain ⟨f, hf, hp⟩ := Result.bind_eq_ok.1 hp
    obtain ⟨g, hg, hm⟩ := Result.bind_eq_ok.1 hm
    cases hp
    cases hm
    have written := q.writes hf
    refine ⟨values_eq_of_bound q.bound_eq (q.writes hg).bound written.bound, ?_⟩
    intro hneutral
    have hsame := q.fragment_eq fun t ht => ⟨hneutral t ht, hfull t ht⟩
    rw [hf, hg] at hsame
    cases hsame
    exact ⟨written.shown _ 0, written.shown _ 0⟩

theorem billsOf_checked : ∀ t ∈ (billsOf 5 "a" ["b", "c"]).statements, t.Checked := by
  have items (s : SelectItem) (h : s.parts.selectItem = .ok s) :
      ∃ p : KeyParts, p.selectItem = .ok s := ⟨s.parts, h⟩
  have filters (x : Filter) (h : x.parts.check = .ok x) :
      ∃ p : FilterParts, p.check = .ok x := ⟨x.parts, h⟩
  refine List.forall_mem_cons.2 ⟨?bills, List.forall_mem_singleton.2 ?payments⟩
  case bills =>
    refine ⟨?_, fun _ h => (nomatch h), ?_, fun _ h => (nomatch h), fun _ h => (nomatch h),
      fun _ h => (nomatch h)⟩
    · exact List.forall_mem_cons.2 ⟨items _ rfl, List.forall_mem_singleton.2 (items _ rfl)⟩
    · exact List.forall_mem_cons.2 ⟨filters _ rfl, List.forall_mem_cons.2 ⟨filters _ rfl,
        List.forall_mem_singleton.2 (filters _ rfl)⟩⟩
  case payments =>
    refine ⟨?_, fun _ h => (nomatch h), ?_, fun _ h => (nomatch h), fun _ h => (nomatch h),
      fun _ h => (nomatch h)⟩
    · exact List.forall_mem_singleton.2 (items _ rfl)
    · exact List.forall_mem_singleton.2 (filters _ rfl)

theorem billsOf_neutral : ∀ t ∈ (billsOf 5 "a" ["b", "c"]).statements, t.Neutral := by
  have equal : (Operator.compare .eq).Neutral := by
    constructor <;> decide
  refine List.forall_mem_cons.2 ⟨?bills, List.forall_mem_singleton.2 ?payments⟩
  case bills =>
    refine ⟨fun _ h => (nomatch h), ?_, fun _ h => (nomatch h)⟩
    exact List.forall_mem_cons.2 ⟨equal, List.forall_mem_cons.2 ⟨trivial,
      List.forall_mem_singleton.2 trivial⟩⟩
  case payments =>
    refine ⟨fun _ h => (nomatch h), ?_, fun _ h => (nomatch h)⟩
    exact List.forall_mem_singleton.2 trivial

/-- Both dialects accept the query, and only the placeholders differ. -/
theorem billsOf_agrees : ∃ p m,
    Statement.select .postgres (billsOf 5 "a" ["b", "c"]) = .ok p
    ∧ Statement.select .mysql (billsOf 5 "a" ["b", "c"]) = .ok m
    ∧ m.bindings = p.bindings
    ∧ p.sql = "SELECT id, total - $7 FROM bills WHERE customer = $1 OR customer IN ($2, $3)"
      ++ " AND EXISTS (SELECT paid * $6 FROM payments WHERE day BETWEEN $4 AND $5)"
    ∧ m.sql = "SELECT id, total - ? FROM bills WHERE customer = ? OR customer IN (?, ?)"
      ++ " AND EXISTS (SELECT paid * ? FROM payments WHERE day BETWEEN ? AND ?)" := by
  obtain ⟨hpostgres, hmysql, hsame⟩ := Query.dialects_agree _ billsOf_checked
  have bills : [Value.int 5].length
      = selectMarkers [.column "id" none, .raw "total - ?" none] := by
    decide +kernel
  have payments : [Value.int 5].length = selectMarkers [.raw "paid * ?" none] := by
    decide +kernel
  have accepted : Succeeds (Statement.select .postgres (billsOf 5 "a" ["b", "c"])) := by
    refine hpostgres.2 (List.forall_mem_cons.2 ⟨⟨.inr bills, ?_⟩,
      List.forall_mem_singleton.2 ⟨.inr payments, ?_⟩⟩)
    · exact List.forall_mem_cons.2 ⟨trivial, List.forall_mem_cons.2 ⟨trivial,
        List.forall_mem_singleton.2 trivial⟩⟩
    · exact List.forall_mem_singleton.2 trivial
  have joinless : ∀ t ∈ (billsOf 5 "a" ["b", "c"]).statements, ∀ j ∈ t.joins, j.kind ≠ .full :=
    List.forall_mem_cons.2 ⟨fun _ h => (nomatch h),
      List.forall_mem_singleton.2 fun _ h => (nomatch h)⟩
  obtain ⟨m, hm⟩ := hmysql.2 ⟨accepted, joinless⟩
  obtain ⟨p, hp⟩ := accepted
  obtain ⟨hbindings, htexts⟩ := hsame p m hp hm
  obtain ⟨hnumbered, hunnumbered⟩ := htexts billsOf_neutral
  refine ⟨p, m, hp, hm, hbindings, ?_, ?_⟩
  · rw [hnumbered]
    decide +kernel
  · rw [hunnumbered]
    decide +kernel

end SqlQuery
