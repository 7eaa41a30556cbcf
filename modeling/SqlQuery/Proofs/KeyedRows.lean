import SqlQuery.Dialect.MySql
import SqlQuery.Proofs.Precedence
import SqlQuery.Proofs.Requests
import SqlQuery.Query.Derived

/-!
# The rows with a key

`Query.withKey` and `Query.matching` put an equality for each key after the filters of a query, each
after AND. AND binds tighter than OR, so the equalities belong to the last alternative of the
filters only: a row for which an alternative before it holds is reached whatever its keys are. That
is the one way to miss a key, and a row that is reached is always one of the query's own.
-/

namespace SqlQuery

/-! ## The filters of a keyed query -/

theorem given_some {s : String} (h : s ≠ "") : given (some s) = some s := by
  unfold given
  split <;> simp_all

/-- A comparison of a column that has a name is the filter that was asked for. -/
theorem Filter.comparing_eq_ok {column : String} {c : Comparison} {v : Value} {f : Filter}
    (h : Filter.comparing column c v = .ok f) :
    f.connective = .and ∧ f.condition = .compare column c v := by
  obtain ⟨condition, hcondition, h⟩ := Result.bind_eq_ok.1 h
  cases h
  refine ⟨rfl, ?_⟩
  obtain ⟨⟨name, comparison⟩, hneeded, hcondition⟩ := Result.bind_eq_ok.1 hcondition
  obtain ⟨named, hnamed, hneeded⟩ := Result.bind_eq_ok.1 hneeded
  cases hneeded
  cases hcondition
  unfold FilterParts.needColumn at hnamed
  by_cases hempty : column = ""
  · subst hempty
    cases hnamed
  · rw [given_some hempty] at hnamed
    cases hnamed
    rfl

/-- The equalities that attributes ask for. -/
def KeyedBy (attributes : Row) (keys : List Filter) : Prop :=
  List.Forall₂ (fun (a : String × Value) f => f.connective = .and ∧ f.condition
    = .compare a.1 .eq a.2) attributes keys

/-- The row has all of the attributes. -/
def Row.HeldBy (attributes : Row) (row : Condition → Truth) : Prop :=
  ∀ a ∈ attributes, row (.compare a.1 .eq a.2) = .yes

theorem KeyedBy.connective {attributes : Row} {keys : List Filter} (h : KeyedBy attributes keys) :
    ∀ f ∈ keys, f.connective = .and := by
  induction h with
  | nil => exact fun _ hf => nomatch hf
  | cons first _ ih => exact List.forall_mem_cons.2 ⟨first.1, ih⟩

theorem KeyedBy.held_iff {attributes : Row} {keys : List Filter} (h : KeyedBy attributes keys)
    (row : Condition → Truth) :
    (∀ f ∈ keys, f.condition.truth row = .yes) ↔ attributes.HeldBy row := by
  unfold Row.HeldBy
  induction h with
  | nil => exact ⟨fun _ _ ha => (nomatch ha), fun _ _ hf => (nomatch hf)⟩
  | @cons a f _ _ first _ ih =>
    rw [List.forall_mem_cons, List.forall_mem_cons, ih, first.2]
    exact Iff.rfl

/-- The filters of a query are kept, and the equalities follow them. -/
theorem Query.matching_eq_ok {q q' : Query} {attributes : Row}
    (h : q.matching attributes = .ok q') :
    ∃ keys, q' = { q with filters := q.filters ++ keys } ∧ KeyedBy attributes keys := by
  induction attributes generalizing q with
  | nil =>
    cases h
    refine ⟨[], ?_, .nil⟩
    cases q'
    rw [List.append_nil]
  | cons a rest ih =>
    obtain ⟨column, v⟩ := a
    obtain ⟨keyed, hkeyed, h⟩ := Result.bind_eq_ok.1 h
    obtain ⟨f, hf, hkeyed⟩ := Result.bind_eq_ok.1 hkeyed
    cases hkeyed
    obtain ⟨keys, rfl, hkeys⟩ := ih h
    refine ⟨f :: keys, ?_, .cons (Filter.comparing_eq_ok hf) hkeys⟩
    simp only [Query.addFilter, List.append_assoc, List.singleton_append]

/-- A key that is asked for alone is an attribute. -/
theorem Query.withKey_eq_matching (q : Query) (key : String) (v : Value) :
    q.withKey key v = q.matching [(key, v)] := by
  show _ = (q.withKey key v).bind fun keyed => .ok keyed
  cases q.withKey key v <;> rfl

/-! ## What the statements of a keyed query show -/

section Shown

variable {d : Dialect} {q : Query}

/-- A SELECT shows the tokens of its filters as its WHERE section. -/
theorem Query.template_where (h : q.filters.isEmpty = false) :
    ∃ before after, q.template d
      = before ++ .text "WHERE " :: tokensTemplate d (filterTokens q.filters) ++ after := by
  refine ⟨headTemplate q.distinct q.selects q.selectValues
      ++ (sourceSection q.table ++ joinTemplates d q.joins).flatMap (fun s => .text " " :: s)
      ++ [.text " "],
    (groupSection q.groups ++ havingSection d q.havings ++ branchTemplates d q.unions
      ++ orderSection q.orders ++ boundSection q.limit q.offset q.lock).flatMap
        fun s => .text " " :: s, ?_⟩
  rw [Query.template_eq, h, filterTemplate_tokens]
  simp only [Bool.false_eq_true, if_false, List.flatMap_append, List.flatMap_cons,
    List.append_assoc, List.cons_append, List.nil_append]

/-- An UPDATE shows the same tokens. -/
theorem updateTemplate_where (h : q.filters.isEmpty = false) (sets : List Template) :
    ∃ before, updateTemplate d q sets
      = before ++ .text " WHERE " :: tokensTemplate d (filterTokens q.filters) := by
  refine ⟨.text ("UPDATE " ++ q.table.getD "" ++ " SET ") :: [Piece.text ", "].intercalate sets,
    ?_⟩
  rw [updateTemplate, Query.whereTemplate, h, filterTemplate_tokens]
  rfl

end Shown

/-! ## The rows that a keyed query reaches -/

/-- The WHERE section of a query, as it is shown, is true for a row. -/
def Query.Reaches (q : Query) (row : Condition → Truth) : Prop :=
  Token.read row (filterTokens q.filters) = .yes

section Reached

variable {q q' : Query} {attributes : Row}

theorem Query.reaches_iff (q : Query) (row : Condition → Truth) :
    q.Reaches row
      ↔ (filterFrame row q.filters).done = .yes ∨ (filterFrame row q.filters).current = .yes := by
  unfold Query.Reaches
  rw [read_filterTokens, Frame.value, Truth.or_eq_yes]

/-- The keys narrow the last alternative and leave those before it. -/
theorem Query.matching_reaches_iff (h : q.matching attributes = .ok q')
    (row : Condition → Truth) :
    q'.Reaches row ↔ (filterFrame row q.filters).done = .yes
      ∨ (filterFrame row q.filters).current = .yes ∧ attributes.HeldBy row := by
  obtain ⟨keys, rfl, hkeys⟩ := Query.matching_eq_ok h
  unfold Query.Reaches
  rw [read_append_eq_yes row hkeys.connective, hkeys.held_iff]

/-- An alternative before the last is a section of its own. -/
theorem filterFrame_done_eq_yes (row : Condition → Truth) (filters : List Filter) :
    (filterFrame row filters).done = .yes
      ↔ ∃ early, beforeLastOr filters = some early
        ∧ Token.read row (filterTokens early) = .yes := by
  rw [filterFrame_done]
  cases beforeLastOr filters with
  | none =>
    constructor
    · intro hno
      cases hno
    · rintro ⟨early, hearly, -⟩
      cases hearly
  | some early =>
    constructor
    · intro hyes
      exact ⟨early, rfl, (read_filterTokens row early).trans hyes⟩
    · rintro ⟨other, hother, hyes⟩
      cases hother
      rw [read_filterTokens] at hyes
      exact hyes

/-- **When a keyed query keeps to its keys.** One key is a case of attributes. SELECT and UPDATE
show the filters as one section, and every row that the section reaches is one of the query's own.
It has all of the keys if and only if the filters before the last OR, where there is one, do not
hold for it or it has them anyway. -/
theorem Query.matching_keeps_iff (d : Dialect) (q q' : Query) (attributes values : Row)
    (h : q.matching attributes = .ok q') :
    (∀ key v, q.withKey key v = q.matching [(key, v)])
    ∧ (q'.filters.isEmpty = false →
      (∃ before after, (Request.select q'.firstOnly).template d
        = before ++ .text "WHERE " :: tokensTemplate d (filterTokens q'.filters) ++ after)
      ∧ ∃ before, (Request.update q' values).template d
        = before ++ .text " WHERE " :: tokensTemplate d (filterTokens q'.filters))
    ∧ ∀ row, (q'.Reaches row → q.Reaches row)
      ∧ ((q'.Reaches row → q.Reaches row ∧ attributes.HeldBy row)
        ↔ ∀ early, beforeLastOr q.filters = some early →
          Token.read row (filterTokens early) = .yes → attributes.HeldBy row) := by
  refine ⟨q.withKey_eq_matching, ?_, ?_⟩
  · intro hfilters
    exact ⟨Query.template_where (q := q'.firstOnly) hfilters, updateTemplate_where hfilters _⟩
  · intro row
    have hown : q'.Reaches row → q.Reaches row := by
      rw [Query.matching_reaches_iff h, Query.reaches_iff]
      rintro (hdone | ⟨hcurrent, -⟩)
      · exact .inl hdone
      · exact .inr hcurrent
    refine ⟨hown, ?_⟩
    constructor
    · intro hkeeps early hearly hyes
      have hdone := (filterFrame_done_eq_yes row q.filters).2 ⟨early, hearly, hyes⟩
      exact (hkeeps ((Query.matching_reaches_iff h row).2 (.inl hdone))).2
    · intro hearly hreaches
      refine ⟨hown hreaches, ?_⟩
      obtain hdone | ⟨-, hheld⟩ := (Query.matching_reaches_iff h row).1 hreaches
      · obtain ⟨early, hsome, hyes⟩ := (filterFrame_done_eq_yes row q.filters).1 hdone
        exact hearly early hsome hyes
      · exact hheld

end Reached

/-- Rows with one of two marks. -/
def eitherMark : Query where
  table := some "t"
  filters := [.of (.compare "a" .eq (.int 1)), .of (.compare "b" .eq (.int 2)) .or]

/-- The key is asked for beside the second mark only, and a row with the first mark and another key
is reached. -/
theorem eitherMark_reaches_other_key : ∃ q',
    eitherMark.withKey "id" (.int 5) = .ok q'
    ∧ (Statement.select .mysql q'.firstOnly).toOption.map Statement.sql
      = some "SELECT * FROM t WHERE a = ? OR b = ? AND id = ? LIMIT 1"
    ∧ ∃ row : Condition → Truth, q'.Reaches row ∧ row (.compare "id" .eq (.int 5)) = .no := by
  refine ⟨_, rfl, by decide +kernel, ?_⟩
  refine ⟨fun | .compare "a" _ _ => .yes | _ => .no, ?_, rfl⟩
  unfold Query.Reaches
  rfl

/-- Rows with a mark, or with another that is asked for together with it. -/
def markWithin : Query where
  table := some "t"
  filters := [.of (.group [.of (.compare "a" .eq (.int 1)),
    .of (.compare "b" .eq (.int 2)) .or])]

/-- In parentheses the marks are one alternative, and every row that is reached has the key. -/
theorem markWithin_keeps_key : ∃ q', markWithin.matching [("id", .int 5)] = .ok q'
    ∧ ∀ row, q'.Reaches row
      → markWithin.Reaches row ∧ Row.HeldBy [("id", .int 5)] row := by
  have h : markWithin.matching [("id", .int 5)] = .ok _ := rfl
  refine ⟨_, h, fun row => ?_⟩
  have keeps := (Query.matching_keeps_iff .mysql _ _ _ [] h).2.2 row
  exact keeps.2.2 fun early hearly => nomatch hearly

end SqlQuery
