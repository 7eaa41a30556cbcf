import SqlQuery.Proofs.CompoundResults

/-!
# The bound of a cursor

A query after a cursor has `column > cursor` after its own filters, joined by AND. AND binds tighter
than OR, so the bound would belong to the last alternative of the filters only. Filters that are
joined by OR are therefore put in parentheses first (`filterFrame_isolated_eq`), and then the
section has, for every row, the truth of the filters AND the truth of the bound: also where one of
the two is unknown, and also if a filter is raw.

The section decides the order of the bindings as well: the cursor comes after the values of the
joins and the filters, and before all others (`Query.operands_bounded`).
-/

namespace SqlQuery

namespace Truth

@[simp] theorem yes_and (a : Truth) : yes.and a = a := by
  cases a <;> rfl

@[simp] theorem no_or (a : Truth) : no.or a = a := by
  cases a <;> rfl

end Truth

/-! ## The section of a query after a cursor -/

/-- The truth of the WHERE section of a query for a row. Without filters every row is reached. -/
def Query.truth (q : Query) (row : Condition → Truth) : Truth :=
  Token.read row (filterTokens q.filters)

/-- The tokens of filters, in parentheses if one of them is joined by OR. -/
def isolatedTokens (filters : List Filter) : List Token :=
  if filters.any (·.connective == .or) then .opening :: filterTokens filters ++ [.closing]
  else filterTokens filters

section Filters

variable (row : Condition → Truth) {filters : List Filter}

theorem connective_and_of_any (h : ¬filters.any (·.connective == .or) = true) :
    ∀ f ∈ filters, f.connective = .and := by
  intro f hf
  cases hconnective : f.connective with
  | and => rfl
  | or =>
    refine absurd (List.any_eq_true.2 ⟨f, hf, ?_⟩) h
    simp [hconnective]

/-- Isolated filters are one alternative, and it has the truth of the whole section. -/
theorem filterFrame_isolated_eq (filters : List Filter) :
    filterFrame row (Query.isolated filters)
      = { done := .no, current := Token.read row (filterTokens filters) } := by
  rw [read_filterTokens]
  unfold Query.isolated
  by_cases hor : filters.any (·.connective == .or) = true
  · rw [if_pos hor]
    simp [Filter.of, filterFrame, laterFrame, Frame.factor, Condition.truth]
  · rw [if_neg hor]
    have hdone : (filterFrame row ([] ++ filters)).done = .no := by
      rw [filterFrame_append row (connective_and_of_any hor),
        laterFrame_done_of_and row (connective_and_of_any hor)]
      rfl
    rw [List.nil_append] at hdone
    have hcurrent : (filterFrame row filters).value = (filterFrame row filters).current := by
      rw [Frame.value, hdone, Truth.no_or]
    rw [hcurrent, ← hdone]

/-- One more filter after AND narrows the whole section if the filters before it are isolated. -/
theorem read_isolated_append {f : Filter} (hand : f.connective = .and) (filters : List Filter) :
    Token.read row (filterTokens (Query.isolated filters ++ [f]))
      = (Token.read row (filterTokens filters)).and (f.condition.truth row) := by
  have hjoined : ∀ g ∈ [f], g.connective = .and := by
    simpa using hand
  obtain ⟨connective, condition, unread⟩ := f
  cases hand
  rw [read_filterTokens, filterFrame_append row hjoined, filterFrame_isolated_eq]
  simp [laterFrame, Frame.factor, Frame.value]

theorem laterTokens_append (xs ys : List Filter) :
    laterTokens (xs ++ ys) = laterTokens xs ++ laterTokens ys := by
  induction xs with
  | nil => rfl
  | cons f rest ih =>
    obtain ⟨connective, condition, unread⟩ := f
    simp [laterTokens, ih]

/-- The word of a filter is shown unless it is the first. -/
theorem filterTokens_append (xs : List Filter) (connective : Connective) (condition : Condition)
    (unread : Unread) : filterTokens (xs ++ [⟨connective, condition, unread⟩])
      = filterTokens xs ++ (if xs.isEmpty then [] else [.word connective]) ++ condition.tokens := by
  cases xs with
  | nil => simp [filterTokens, laterTokens]
  | cons f rest =>
    obtain ⟨first, firstCondition, firstUnread⟩ := f
    simp [filterTokens, laterTokens, laterTokens_append]

theorem filterTokens_isolated (filters : List Filter) :
    filterTokens (Query.isolated filters) = isolatedTokens filters := by
  unfold Query.isolated isolatedTokens
  split
  · simp [Filter.of, filterTokens, laterTokens, Condition.tokens]
  · rfl

theorem isEmpty_isolated (filters : List Filter) :
    (Query.isolated filters).isEmpty = filters.isEmpty := by
  unfold Query.isolated
  split
  · cases filters <;> simp_all
  · rfl

end Filters

/-! ## The bindings of a query after a cursor -/

/-- The values that are bound for operands, one for each. -/
def Binds (d : Dialect) (operands : List Operand) (values : List Value) : Prop :=
  List.Forall₂ (fun o v => o.bound d = .ok v) operands values

/-- The values of operands one after the other are the values of each part. -/
theorem Binds.split {d : Dialect} {os ps : List Operand} {values : List Value}
    (h : Binds d (os ++ ps) values) :
    ∃ us vs, values = us ++ vs ∧ Binds d os us ∧ Binds d ps vs := by
  induction os generalizing values with
  | nil => exact ⟨[], values, rfl, .nil, h⟩
  | cons o os ih =>
    cases h with
    | cons first rest =>
      obtain ⟨us, vs, rfl, hus, hvs⟩ := ih rest
      exact ⟨_ :: us, vs, rfl, .cons first hus, hvs⟩

theorem filterOperands_append (xs ys : List Filter) :
    filterOperands (xs ++ ys) = filterOperands xs ++ filterOperands ys := by
  induction xs with
  | nil => rfl
  | cons f rest ih =>
    obtain ⟨connective, condition, unread⟩ := f
    simp [filterOperands, ih]

/-- Parentheses bind nothing. -/
theorem filterOperands_isolated (filters : List Filter) :
    filterOperands (Query.isolated filters) = filterOperands filters := by
  unfold Query.isolated
  split
  · simp [Filter.of, filterOperands, Condition.operands]
  · rfl

/-- Rows are put in the order of a column only if it has a name. -/
theorem Query.afterCursor_named {q q' : Query} {column : ColumnName} {cursor : Value} {count : Nat}
    (h : q.afterCursor column cursor count = .ok q') : column.text ≠ "" := by
  intro hempty
  obtain ⟨order, horder, -⟩ := Result.bind_eq_ok.1 h
  rw [hempty] at horder
  cases horder

/-- What a query says after a cursor that is no null. -/
theorem Query.afterCursor_eq {q q' : Query} {column : ColumnName} {cursor : Value} {count : Nat}
    (hcursor : cursor ≠ .null) (h : q.afterCursor column cursor count = .ok q') :
    ∃ unread unread', q' = { q with
      orders := [.column column.text .asc unread], limit := some count, offset := none
      filters := isolated q.filters ++ [⟨.and, .compare column.text .gt cursor, unread'⟩] } := by
  obtain ⟨order, horder, h⟩ := Result.bind_eq_ok.1 h
  obtain ⟨unread, rfl⟩ := OrderKey.ascending_eq_ok horder
  have hbound : ∃ f, Filter.comparing column.text .gt cursor = .ok f ∧ q' = { q with
      orders := [.column column.text .asc unread], limit := some count, offset := none
      filters := isolated q.filters ++ [f] } := by
    cases cursor with
    | null => exact absurd rfl hcursor
    | _ =>
      obtain ⟨f, hf, h⟩ := Result.bind_eq_ok.1 h
      cases h
      exact ⟨f, hf, rfl⟩
  obtain ⟨⟨connective, condition, unread'⟩, hf, rfl⟩ := hbound
  obtain ⟨hand, hcondition⟩ := Filter.comparing_eq_ok hf
  cases hand
  cases hcondition
  exact ⟨unread, unread', rfl⟩

/-- The cursor is bound after what joins and filters bind. The order by the column binds nothing. -/
theorem Query.operands_bounded {q q' : Query} {column : ColumnName} {cursor : Value} {count : Nat}
    (hcursor : cursor ≠ .null) (h : q.afterCursor column cursor count = .ok q') :
    q'.operands = joinOperands q.joins ++ (filterOperands q.filters ++ ([.plain cursor]
      ++ (q.groups.flatMap GroupKey.operands
        ++ (q.havings.flatMap (fun c => c.condition.operands)
          ++ (branchOperands q.unions ++ headOperands q.selects q.selectValues))))) := by
  obtain ⟨unread, unread', rfl⟩ := afterCursor_eq hcursor h
  rw [operands_eq, bodyOperands, filterOperands_append, filterOperands_isolated]
  simp [filterOperands, Condition.operands, OrderKey.operands]

/-! ## What a cursor adds -/

/-- A statement for the rows after a cursor. -/
structure BoundedStatement (d : Dialect) (q q' : Query) (cursor : Value) (s : Statement) :
    Prop where
  /-- Its text is filled in where the tokens of the filters are the WHERE section. -/
  shown : ∃ before after numbers, s.sql = Template.fill d.placeholder
    (before ++ .text "WHERE " :: tokensTemplate d (filterTokens q'.filters) ++ after) numbers
  /-- The cursor follows the values of the filters, and those of groups and havings follow it. -/
  bindings : ∃ joins filters groups havings branches selects,
    s.bindings
      = joins ++ (filters ++ ([cursor] ++ (groups ++ (havings ++ (branches ++ selects)))))
    ∧ Binds d (joinOperands q.joins) joins
    ∧ Binds d (filterOperands q.filters) filters
    ∧ Binds d (q.groups.flatMap GroupKey.operands) groups
    ∧ Binds d (q.havings.flatMap fun c => c.condition.operands) havings
    ∧ Binds d (branchOperands q.unions) branches
    ∧ Binds d (headOperands q.selects q.selectValues) selects

/-- What a query after a cursor has of the query that it comes from, and of the cursor. -/
structure Query.Bounded (q q' : Query) (column : String) (cursor : Value) : Prop where
  /-- For every row, what the filters are AND what the bound is. -/
  truth : ∀ row, q'.truth row = (q.truth row).and (row (.compare column .gt cursor))
  /-- The filters as they stood, and the bound after AND. -/
  tokens : filterTokens q'.filters = isolatedTokens q.filters
    ++ (if q.filters.isEmpty then [] else [.word .and]) ++ [.atom (.compare column .gt cursor)]
  /-- A SELECT can be written if it could without the bound. -/
  compiles : ∀ d, q.Compiles d → ∃ s, Statement.select d q' = .ok s
  statement : ∀ d s, Statement.select d q' = .ok s → BoundedStatement d q q' cursor s

section Bounded

variable {d : Dialect} {q q' : Query} {column : ColumnName} {cursor : Value} {count : Nat}

theorem BoundedStatement.of_afterCursor (hcursor : cursor ≠ .null)
    (h : q.afterCursor column cursor count = .ok q') {s : Statement}
    (hs : Statement.select d q' = .ok s) : BoundedStatement d q q' cursor s := by
  obtain ⟨f, rfl, hf⟩ := (Request.select q').written hs
  have hfilters : q'.filters.isEmpty = false := by
    obtain ⟨unread, unread', rfl⟩ := Query.afterCursor_eq hcursor h
    simp
  constructor
  · obtain ⟨before, after, htemplate⟩ := Query.template_where (d := d) hfilters
    refine ⟨before, after, q'.numbers 0, ?_⟩
    rw [← htemplate]
    exact hf.shown d.placeholder 0
  · have hbound : Binds d q'.operands f.values := hf.bound
    rw [Query.operands_bounded hcursor h] at hbound
    obtain ⟨joins, vs, hvalues, hjoins, h₁⟩ := hbound.split
    obtain ⟨filters, vs, rfl, hfilterValues, h₂⟩ := h₁.split
    obtain ⟨bound, vs, rfl, hcursorValue, h₃⟩ := h₂.split
    obtain ⟨groups, vs, rfl, hgroups, h₄⟩ := h₃.split
    obtain ⟨havings, vs, rfl, hhavings, h₅⟩ := h₄.split
    obtain ⟨branches, selects, rfl, hbranches, hselects⟩ := h₅.split
    have hone : bound = [cursor] := by
      rcases hcursorValue with _ | ⟨hv, hnil⟩
      cases hv
      cases hnil
      rfl
    rw [hone] at hvalues
    exact ⟨joins, filters, groups, havings, branches, selects, hvalues, hjoins, hfilterValues,
      hgroups, hhavings, hbranches, hselects⟩

theorem Query.Bounded.of_afterCursor (hcursor : cursor ≠ .null)
    (h : q.afterCursor column cursor count = .ok q') : q.Bounded q' column.text cursor := by
  constructor
  · intro row
    obtain ⟨unread, unread', rfl⟩ := afterCursor_eq hcursor h
    exact read_isolated_append row rfl q.filters
  · obtain ⟨unread, unread', rfl⟩ := afterCursor_eq hcursor h
    rw [filterTokens_append, filterTokens_isolated, isEmpty_isolated]
    rfl
  · intro d hcompiles
    obtain ⟨q'', hq'', f, hf⟩ := afterCursor_compiles hcompiles (afterCursor_named h) cursor count
    have hsame : q'' = q' := Except.ok.inj (hq''.symm.trans h)
    rw [hsame] at hf
    exact ⟨_, Result.bind_eq_ok.2 ⟨f, hf, rfl⟩⟩
  · intro d s hs
    exact BoundedStatement.of_afterCursor hcursor h hs

end Bounded

/-- **A cursor bounds the whole filter.** For every query, every column that has a name and every
cursor that is no null there is a query for the rows after it. Its WHERE section has for every row
the truth of the filters AND that of `column > cursor`, the filters keep their order in it, and in
every statement of it the cursor is bound after the values of the filters, and before those of
groups and havings. -/
theorem Query.afterCursor_bounds_filters (q : Query) (column : ColumnName) (cursor : Value)
    (count : Nat) (hcursor : cursor ≠ .null) :
    ((∃ q', q.afterCursor column cursor count = .ok q') ↔ column.text ≠ "")
    ∧ ∀ q', q.afterCursor column cursor count = .ok q' → q.Bounded q' column.text cursor := by
  refine ⟨?_, fun q' h => .of_afterCursor hcursor h⟩
  constructor
  · rintro ⟨q', h⟩
    exact afterCursor_named h
  · intro hnamed
    obtain ⟨f, hf, -⟩ := Filter.comparing_ok hnamed .gt cursor
    have horder := OrderKey.ascending_ok hnamed
    cases cursor with
    | null => exact absurd rfl hcursor
    | _ => exact ⟨_, Result.bind_eq_ok.2 ⟨_, horder, Result.bind_eq_ok.2 ⟨f, hf, rfl⟩⟩⟩

/-- Rows with a raw mark or with another, counted in groups. -/
def markedGroups : Query where
  table := some "t"
  filters := [.of (.raw "a = ?" [.int 1]), .of (.compare "b" .eq (.int 2)) .or]
  groups := [.column "c" []]
  havings := [{ connective := .and, condition := .compare "n" .gt (.int 9) }]

/-- Both marks are in parentheses, and the cursor is bound between them and the condition of the
groups. A row whose first mark is unknown and whose second is not there stays unknown if it is
beyond the cursor, and is none if it is not. -/
theorem markedGroups_bounded : ∃ q', markedGroups.afterCursor ("id" : String) (.int 5) 2 = .ok q'
    ∧ markedGroups.Bounded q' "id" (.int 5)
    ∧ (Statement.select .mysql q').toOption.map Statement.sql
      = some ("SELECT * FROM t WHERE (a = ? OR b = ?) AND id > ?"
        ++ " GROUP BY c HAVING n > ? ORDER BY id ASC LIMIT 2")
    ∧ (Statement.select .mysql q').toOption.map Statement.bindings
      = some [.int 1, .int 2, .int 5, .int 9]
    ∧ q'.truth (fun | .raw .. => .unknown | .compare "b" .. => .no | _ => .yes) = .unknown
    ∧ q'.truth (fun | .raw .. => .unknown | _ => .no) = .no := by
  have hcursor : Value.int 5 ≠ .null := fun hnull => nomatch hnull
  obtain ⟨-, hbounded⟩ :=
    Query.afterCursor_bounds_filters markedGroups ("id" : String) (.int 5) 2 hcursor
  have h : markedGroups.afterCursor ("id" : String) (.int 5) 2 = .ok _ := rfl
  refine ⟨_, h, hbounded _ h, ?_, rfl, ?_, ?_⟩
  · decide +kernel
  · rw [(hbounded _ h).truth]
    rfl
  · rw [(hbounded _ h).truth]
    rfl

end SqlQuery
