import SqlQuery.Proofs.Placeholders

/-!
# When numbers are shown in order

A driver with unnumbered markers pairs the first marker with the first binding. That is right where
the numbers of a statement, read as they are shown, are 1, 2, 3 and so on.

The select list of a statement is shown before its other sections and bound after them. So the
numbers are out of order as soon as one statement of the tree has values in both, and in order if
none has: a section with no values moves nothing.
-/

namespace SqlQuery

variable {d : Dialect} {start : Nat}

/-! ## The statements of a tree -/

mutual

/-- The statements inside a condition. -/
def Condition.statements : Condition → List Query
  | .inQuery _ _ query => query.statements
  | .exists _ query => query.statements
  | .group filters => filterStatements filters
  | _ => []

def filterStatements : List Filter → List Query
  | [] => []
  | ⟨_, condition, _⟩ :: rest => condition.statements ++ filterStatements rest

/-- The statements inside joins. A cross join shows none of its filters. -/
def joinStatements : List Join → List Query
  | [] => []
  | ⟨.cross, _, _, _, _, _⟩ :: rest => joinStatements rest
  | ⟨_, _, _, _, _, filters⟩ :: rest => filterStatements filters ++ joinStatements rest

def branchStatements : List Branch → List Query
  | [] => []
  | ⟨query, _⟩ :: rest => query.statements ++ branchStatements rest

/-- A statement and all statements inside it. -/
def Query.statements : Query → List Query
  | ⟨table, selects, distinct, filters, joins, groups, havings, orders, unions, limit, offset,
      lock, selectValues⟩ =>
    ⟨table, selects, distinct, filters, joins, groups, havings, orders, unions, limit, offset,
      lock, selectValues⟩
      :: (joinStatements joins ++ filterStatements filters ++ branchStatements unions)

end

theorem filterStatements_append (fs gs : List Filter) :
    filterStatements (fs ++ gs) = filterStatements fs ++ filterStatements gs := by
  induction fs with
  | nil => rfl
  | cons f fs ih =>
    obtain ⟨connective, condition, unread⟩ := f
    rw [List.cons_append, filterStatements, filterStatements, ih, List.append_assoc]

theorem joinStatements_on {j : Join} (h : j.kind ≠ .cross) (rest : List Join) :
    joinStatements (j :: rest) = filterStatements j.filters ++ joinStatements rest := by
  cases j
  rw [joinStatements]
  exact h

theorem Query.statements_eq (q : Query) : q.statements
    = q :: (joinStatements q.joins ++ filterStatements q.filters ++ branchStatements q.unions) := by
  cases q
  rw [Query.statements]

/-! ## All statements of a tree compile -/

theorem length_numbersFrom (start : Nat) (os : List Operand) :
    (numbersFrom start os).length = os.length :=
  List.length_range'

/-- A dialect can write a query. -/
def Query.Compiles (d : Dialect) (q : Query) : Prop :=
  ∃ f, q.fragment d = .ok f

mutual

theorem Condition.compiles (c : Condition) {f : Fragment} (h : c.fragment d = .ok f) :
    ∀ t ∈ c.statements, t.Compiles d := by
  cases c with
  | inQuery column negated query =>
    rw [Condition.fragment] at h
    obtain ⟨sub, hsub, -⟩ := Result.bind_eq_ok.1 h
    exact query.compiles hsub
  | «exists» negated query =>
    rw [Condition.fragment] at h
    obtain ⟨sub, hsub, -⟩ := Result.bind_eq_ok.1 h
    exact query.compiles hsub
  | group filters =>
    rw [Condition.fragment] at h
    obtain ⟨items, hitems, -⟩ := Result.bind_eq_ok.1 h
    exact filters_compile filters hitems
  | _ => exact fun _ ht => nomatch ht

theorem filters_compile : ∀ (filters : List Filter) {items : List (Connective × Fragment)},
    filterFragments d filters = .ok items → ∀ t ∈ filterStatements filters, t.Compiles d
  | [], _, _ => fun _ ht => nomatch ht
  | ⟨connective, condition, unread⟩ :: rest, items, h => by
    rw [filterFragments] at h
    obtain ⟨first, hfirst, h⟩ := Result.bind_eq_ok.1 h
    obtain ⟨others, hothers, -⟩ := Result.bind_eq_ok.1 h
    rw [filterStatements, List.forall_mem_append]
    exact ⟨condition.compiles hfirst, filters_compile rest hothers⟩

theorem joins_compile : ∀ (joins : List Join) {fs : List Fragment},
    joinFragments d joins = .ok fs → ∀ t ∈ joinStatements joins, t.Compiles d
  | [], _, _ => fun _ ht => nomatch ht
  | ⟨kind, table, first, operator, second, filters⟩ :: rest, fs, h => by
    by_cases hk : kind = .cross
    · subst hk
      rw [joinFragments] at h
      obtain ⟨others, hothers, -⟩ := Result.bind_eq_ok.1 h
      rw [joinStatements]
      exact joins_compile rest hothers
    · rw [joinFragments_on hk] at h
      obtain ⟨keyword, -, h⟩ := Result.bind_eq_ok.1 h
      obtain ⟨extra, hextra, h⟩ := Result.bind_eq_ok.1 h
      obtain ⟨others, hothers, -⟩ := Result.bind_eq_ok.1 h
      rw [joinStatements_on hk, List.forall_mem_append]
      exact ⟨filters_compile filters hextra, joins_compile rest hothers⟩

theorem branches_compile : ∀ (branches : List Branch) {fs : List Fragment},
    branchFragments d branches = .ok fs → ∀ t ∈ branchStatements branches, t.Compiles d
  | [], _, _ => fun _ ht => nomatch ht
  | ⟨query, all⟩ :: rest, fs, h => by
    rw [branchFragments] at h
    obtain ⟨sub, hsub, h⟩ := Result.bind_eq_ok.1 h
    obtain ⟨others, hothers, -⟩ := Result.bind_eq_ok.1 h
    rw [branchStatements, List.forall_mem_append]
    exact ⟨query.compiles hsub, branches_compile rest hothers⟩

/-- A statement compiles only if every statement inside it does. -/
theorem Query.compiles : ∀ (q : Query) {f : Fragment}, q.fragment d = .ok f →
    ∀ t ∈ q.statements, t.Compiles d
  | ⟨table, selects, distinct, filters, joins, groups, havings, orders, unions, limit, offset,
      lock, selectValues⟩, f, h => by
    have whole := h
    obtain ⟨joined, hjoined, h⟩ := Result.bind_eq_ok.1 h
    obtain ⟨conditions, hconditions, h⟩ := Result.bind_eq_ok.1 h
    obtain ⟨grouped, -, h⟩ := Result.bind_eq_ok.1 h
    obtain ⟨branches, hbranches, -⟩ := Result.bind_eq_ok.1 h
    rw [Query.statements, List.forall_mem_cons, List.forall_mem_append, List.forall_mem_append]
    exact ⟨⟨f, whole⟩, ⟨joins_compile joins hjoined, filters_compile filters hconditions⟩,
      branches_compile unions hbranches⟩

end

/-- The select list of a statement that compiles has a value and a slot for each of its markers. -/
theorem Query.Compiles.head_length {q : Query} (h : q.Compiles d) :
    (headOperands q.selects q.selectValues).length = selectMarkers q.selects
      ∧ (headTemplate q.distinct q.selects q.selectValues).slots.length
        = selectMarkers q.selects := by
  obtain ⟨f, h⟩ := h
  cases q
  obtain ⟨joined, -, h⟩ := Result.bind_eq_ok.1 h
  obtain ⟨conditions, -, h⟩ := Result.bind_eq_ok.1 h
  obtain ⟨grouped, -, h⟩ := Result.bind_eq_ok.1 h
  obtain ⟨branches, -, h⟩ := Result.bind_eq_ok.1 h
  obtain ⟨tail, -, h⟩ := Result.bind_eq_ok.1 h
  obtain ⟨head, hhead, -⟩ := Result.bind_eq_ok.1 h
  obtain ⟨written, hlength⟩ := writes_head (d := d) hhead
  refine ⟨hlength, ?_⟩
  rw [← written.length_numbers 0, length_numbersFrom, hlength]

/-! ## Every statement is numbered in its place -/

/-- The numbers of a statement stand together in a list of numbers. -/
def Query.NumberedIn (t : Query) (ns : List Nat) : Prop :=
  ∃ start, t.numbers start <:+: ns

namespace Query.NumberedIn

variable {t : Query} {ns ms : List Nat}

theorem self (q : Query) (start : Nat) : q.NumberedIn (q.numbers start) :=
  ⟨start, List.infix_rfl⟩

theorem left (h : t.NumberedIn ns) : t.NumberedIn (ns ++ ms) := by
  obtain ⟨s, hs⟩ := h
  exact ⟨s, hs.trans (List.prefix_append ns ms).isInfix⟩

theorem right (h : t.NumberedIn ms) : t.NumberedIn (ns ++ ms) := by
  obtain ⟨s, hs⟩ := h
  exact ⟨s, hs.trans (List.suffix_append ns ms).isInfix⟩

end Query.NumberedIn

mutual

theorem Condition.numberedIn (start : Nat) (c : Condition) :
    ∀ t ∈ c.statements, t.NumberedIn (c.numbers start) := by
  cases c with
  | inQuery column negated query => exact query.numberedIn start
  | «exists» negated query => exact query.numberedIn start
  | group filters => exact filters_numberedIn start filters
  | _ => exact fun _ ht => nomatch ht

theorem filters_numberedIn (start : Nat) : ∀ filters : List Filter,
    ∀ t ∈ filterStatements filters, t.NumberedIn (filterNumbers start filters)
  | [] => fun _ ht => nomatch ht
  | ⟨_, condition, _⟩ :: rest => by
    rw [filterStatements, filterNumbers, List.forall_mem_append]
    exact ⟨fun t ht => (condition.numberedIn start t ht).left,
      fun t ht => (filters_numberedIn _ rest t ht).right⟩

theorem joins_numberedIn (start : Nat) : ∀ joins : List Join,
    ∀ t ∈ joinStatements joins, t.NumberedIn (joinNumbers start joins)
  | [] => fun _ ht => nomatch ht
  | ⟨kind, table, first, operator, second, filters⟩ :: rest => by
    by_cases hk : kind = .cross
    · subst hk
      rw [joinStatements, joinNumbers]
      exact joins_numberedIn start rest
    · rw [joinStatements_on hk, joinNumbers_on hk, List.forall_mem_append]
      exact ⟨fun t ht => (filters_numberedIn start filters t ht).left,
        fun t ht => (joins_numberedIn _ rest t ht).right⟩

theorem branches_numberedIn (start : Nat) : ∀ branches : List Branch,
    ∀ t ∈ branchStatements branches, t.NumberedIn (branchNumbers start branches)
  | [] => fun _ ht => nomatch ht
  | ⟨query, _⟩ :: rest => by
    rw [branchStatements, branchNumbers, List.forall_mem_append]
    exact ⟨fun t ht => (query.numberedIn start t ht).left,
      fun t ht => (branches_numberedIn _ rest t ht).right⟩

/-- The numbers of a statement hold together those of each statement inside it. -/
theorem Query.numberedIn (start : Nat) : ∀ q : Query,
    ∀ t ∈ q.statements, t.NumberedIn (q.numbers start)
  | ⟨table, selects, distinct, filters, joins, groups, havings, orders, unions, limit, offset,
      lock, selectValues⟩ => by
    rw [Query.statements, List.forall_mem_cons, List.forall_mem_append, List.forall_mem_append]
    refine ⟨.self _ start, ⟨?_, ?_⟩, ?_⟩
    · intro t ht
      rw [Query.numbers]
      exact (joins_numberedIn _ joins t ht).left.left.left.left.left.right
    · intro t ht
      rw [Query.numbers]
      exact (filters_numberedIn _ filters t ht).right.left.left.left.left.right
    · intro t ht
      rw [Query.numbers]
      exact (branches_numberedIn _ unions t ht).right.left.right

end

/-! ## The order of the numbers -/

/-- A statement that has values in its select list alone, or in its other sections alone. -/
def Query.InOrder (t : Query) : Prop :=
  headOperands t.selects t.selectValues = [] ∨ t.bodyOperands = []

section Order

variable {ns ms : List Nat} {os ps : List Operand}

theorem append_eq_numbersFrom_iff (h : ns.Perm (numbersFrom start os)) :
    ns ++ ms = numbersFrom start (os ++ ps)
      ↔ ns = numbersFrom start os ∧ ms = numbersFrom (start + os.length) ps := by
  rw [numbersFrom_append]
  constructor
  · intro e
    exact List.append_inj e h.length_eq
  · intro e
    rw [e.1, e.2]

/-- A block of higher numbers in front is in order only if it or what follows is empty. -/
theorem block_eq_numbersFrom_iff (h : ms.Perm (numbersFrom start os)) :
    numbersFrom (start + os.length) ps ++ ms = numbersFrom start (os ++ ps)
      ↔ (ps = [] ∨ os = []) ∧ ms = numbersFrom start os := by
  cases ps with
  | nil =>
    rw [List.append_nil]
    exact ⟨fun e => ⟨.inl rfl, e⟩, fun e => e.2⟩
  | cons p ps =>
    cases os with
    | nil =>
      have hms : ms = [] := h.eq_nil
      rw [hms, List.append_nil]
      exact ⟨fun _ => ⟨.inr rfl, rfl⟩, fun _ => rfl⟩
    | cons o os =>
      constructor
      · intro e
        -- the first number of the block is not the first of all
        have hfirst : start + (os.length + 1) + 1 = start + 1 := (List.cons.inj e).1
        omega
      · intro e
        obtain ⟨hp | ho, -⟩ := e
        · cases hp
        · cases ho

end Order

/-- The sections without statements inside them are in order by themselves. -/
theorem Query.bodyNumbers_eq_iff {q : Query}
    (hjoins : joinNumbers start q.joins = numbersFrom start (joinOperands q.joins)
      ↔ ∀ t ∈ joinStatements q.joins, t.InOrder)
    (hfilters : ∀ after, filterNumbers after q.filters
        = numbersFrom after (filterOperands q.filters)
      ↔ ∀ t ∈ filterStatements q.filters, t.InOrder)
    (hbranches : ∀ after, branchNumbers after q.unions
        = numbersFrom after (branchOperands q.unions)
      ↔ ∀ t ∈ branchStatements q.unions, t.InOrder) :
    q.bodyNumbers start = numbersFrom start q.bodyOperands
      ↔ ((∀ t ∈ joinStatements q.joins, t.InOrder) ∧ ∀ t ∈ filterStatements q.filters, t.InOrder)
        ∧ ∀ t ∈ branchStatements q.unions, t.InOrder := by
  have joined := joinNumbers_perm start q.joins
  have filtered := perm_numbersFrom_append joined (filterNumbers_perm _ q.filters)
  have grouped := perm_numbersFrom_append filtered
    (.refl (numbersFrom _ (q.groups.flatMap GroupKey.operands)))
  have chosen := perm_numbersFrom_append grouped
    (.refl (numbersFrom _ (q.havings.flatMap fun h => h.condition.operands)))
  have joint := perm_numbersFrom_append chosen (branchNumbers_perm _ q.unions)
  simp only [List.length_append, ← Nat.add_assoc] at filtered grouped chosen joint
  unfold Query.bodyNumbers Query.bodyOperands
  dsimp only
  rw [append_eq_numbersFrom_iff joint, append_eq_numbersFrom_iff chosen,
    append_eq_numbersFrom_iff grouped, append_eq_numbersFrom_iff filtered,
    append_eq_numbersFrom_iff joined, hjoins, hfilters]
  simp only [List.length_append, ← Nat.add_assoc, and_true, hbranches]

/-- A statement is in order if its own block and all statements inside it are. -/
theorem Query.numbers_eq_iff {q : Query}
    (h : q.bodyNumbers start = numbersFrom start q.bodyOperands
      ↔ ((∀ t ∈ joinStatements q.joins, t.InOrder) ∧ ∀ t ∈ filterStatements q.filters, t.InOrder)
        ∧ ∀ t ∈ branchStatements q.unions, t.InOrder) :
    q.numbers start = numbersFrom start q.operands ↔ ∀ t ∈ q.statements, t.InOrder := by
  rw [Query.numbers_eq, Query.operands_eq, block_eq_numbersFrom_iff (q.bodyNumbers_perm start), h,
    Query.statements_eq, List.forall_mem_cons, List.forall_mem_append, List.forall_mem_append]
  exact Iff.rfl

theorem numbersFrom_eq_iff_of_leaf (ns : List Nat) :
    ns = ns ↔ ∀ t ∈ ([] : List Query), t.InOrder :=
  ⟨fun _ _ ht => (nomatch ht), fun _ => rfl⟩

mutual

theorem Condition.inOrder_iff (start : Nat) (c : Condition) :
    c.numbers start = numbersFrom start c.operands ↔ ∀ t ∈ c.statements, t.InOrder := by
  cases c with
  | inQuery column negated query => exact query.inOrder_iff start
  | «exists» negated query => exact query.inOrder_iff start
  | group filters => exact filters_inOrder_iff start filters
  | _ => exact numbersFrom_eq_iff_of_leaf _

theorem filters_inOrder_iff (start : Nat) : ∀ filters : List Filter,
    filterNumbers start filters = numbersFrom start (filterOperands filters)
      ↔ ∀ t ∈ filterStatements filters, t.InOrder
  | [] => numbersFrom_eq_iff_of_leaf []
  | ⟨_, condition, _⟩ :: rest => by
    rw [filterNumbers, filterOperands, filterStatements, List.forall_mem_append,
      append_eq_numbersFrom_iff (condition.numbers_perm start), condition.inOrder_iff start,
      filters_inOrder_iff _ rest]

theorem joins_inOrder_iff (start : Nat) : ∀ joins : List Join,
    joinNumbers start joins = numbersFrom start (joinOperands joins)
      ↔ ∀ t ∈ joinStatements joins, t.InOrder
  | [] => numbersFrom_eq_iff_of_leaf []
  | ⟨kind, table, first, operator, second, filters⟩ :: rest => by
    by_cases hk : kind = .cross
    · subst hk
      rw [joinNumbers, joinOperands, joinStatements]
      exact joins_inOrder_iff start rest
    · rw [joinNumbers_on hk, joinOperands_on hk, joinStatements_on hk, List.forall_mem_append,
        append_eq_numbersFrom_iff (filterNumbers_perm start filters),
        filters_inOrder_iff start filters, joins_inOrder_iff _ rest]

theorem branches_inOrder_iff (start : Nat) : ∀ branches : List Branch,
    branchNumbers start branches = numbersFrom start (branchOperands branches)
      ↔ ∀ t ∈ branchStatements branches, t.InOrder
  | [] => numbersFrom_eq_iff_of_leaf []
  | ⟨query, _⟩ :: rest => by
    rw [branchNumbers, branchOperands, branchStatements, List.forall_mem_append,
      append_eq_numbersFrom_iff (query.numbers_perm start), query.inOrder_iff start,
      branches_inOrder_iff _ rest]

/-- The numbers of a statement are in order if and only if those of every statement of its tree
are a block in front of nothing, or nothing in front of the rest. -/
theorem Query.inOrder_iff (start : Nat) : ∀ q : Query,
    q.numbers start = numbersFrom start q.operands ↔ ∀ t ∈ q.statements, t.InOrder
  | ⟨_, _, _, filters, joins, _, _, _, unions, _, _, _, _⟩ =>
    Query.numbers_eq_iff (Query.bodyNumbers_eq_iff (joins_inOrder_iff start joins)
      (fun after => filters_inOrder_iff after filters)
      fun after => branches_inOrder_iff after unions)

end

/-- A select list without markers shows no values. -/
theorem Query.Compiles.inOrder_iff {t : Query} (h : t.Compiles d) :
    t.InOrder ↔ selectMarkers t.selects = 0 ∨ t.bodyOperands = [] := by
  unfold Query.InOrder
  rw [← h.head_length.1, List.length_eq_zero_iff]

/-- **The numbers of a SELECT statement are in order exactly if no statement of its tree has both
markers in its select list and values elsewhere.** In every case the numbers of a statement stand
together: a block of its highest numbers for the select list, and then those of its other
sections. -/
theorem Statement.select_inOrder_iff (d : Dialect) (q : Query) (s : Statement)
    (h : Statement.select d q = .ok s) :
    s.sql = (q.template d).fill d.placeholder (q.numbers 0)
      ∧ (q.numbers 0 = List.range' 1 s.bindings.length
        ↔ ¬ ∃ t ∈ q.statements, 0 < selectMarkers t.selects ∧ 0 < t.bodyOperands.length)
      ∧ ∀ t ∈ q.statements,
        t.NumberedIn (q.numbers 0)
          ∧ (headTemplate t.distinct t.selects t.selectValues).slots.length
            = selectMarkers t.selects
          ∧ ∀ start, t.numbers start
              = List.range' (start + t.bodyOperands.length + 1) (selectMarkers t.selects)
                ++ t.bodyNumbers start
            ∧ (t.bodyNumbers start).Perm (List.range' (start + 1) t.bodyOperands.length) := by
  obtain ⟨f, hf, hs⟩ := Result.bind_eq_ok.1 h
  have compiles := q.compiles hf
  have written := q.writes hf
  rw [← Result.pure_eq_ok.1 hs]
  refine ⟨?_, ?_, ?_⟩
  · exact written.shown d.placeholder 0
  · have bound : (Statement.ofFragment d f).bindings.length = q.operands.length :=
      written.bound.length_eq.symm
    rw [bound]
    refine (q.inOrder_iff 0).trans ?_
    constructor
    · rintro inOrder ⟨t, ht, hmarkers, hbody⟩
      obtain hnone | hnone := (compiles t ht).inOrder_iff.1 (inOrder t ht)
      · omega
      · rw [hnone] at hbody
        exact absurd hbody (Nat.lt_irrefl 0)
    · intro none t ht
      rw [(compiles t ht).inOrder_iff]
      by_cases hmarkers : selectMarkers t.selects = 0
      · exact .inl hmarkers
      · refine .inr (List.eq_nil_of_length_eq_zero ?_)
        by_contra hbody
        exact none ⟨t, ht, Nat.pos_of_ne_zero hmarkers, Nat.pos_of_ne_zero hbody⟩
  · intro t ht
    obtain ⟨hvalues, hslots⟩ := (compiles t ht).head_length
    refine ⟨q.numberedIn 0 t ht, hslots, fun start => ⟨?_, t.bodyNumbers_perm start⟩⟩
    rw [t.numbers_eq, numbersFrom, hvalues]

/-- The value of the outer select list is bound seventh and shown first. -/
theorem billsOf_outOfOrder : ∃ s, Statement.select .mysql (billsOf 5 "a" ["b", "c"]) = .ok s
    ∧ (billsOf 5 "a" ["b", "c"]).numbers 0 = [7, 1, 2, 3, 6, 4, 5]
    ∧ ∃ t ∈ (billsOf 5 "a" ["b", "c"]).statements,
      0 < selectMarkers t.selects ∧ 0 < t.bodyOperands.length := by
  have run : (Statement.select .mysql (billsOf 5 "a" ["b", "c"])).toOption.map
      (fun s => s.bindings.length) = some 7 := by
    decide +kernel
  have shown : (billsOf 5 "a" ["b", "c"]).numbers 0 = [7, 1, 2, 3, 6, 4, 5] := by
    rfl
  obtain ⟨s, h, hlength⟩ := Result.exists_of_map_eq_some run
  refine ⟨s, h, shown, ?_⟩
  by_contra hnone
  have inOrder := (Statement.select_inOrder_iff .mysql _ s h).2.1.2 hnone
  rw [hlength, shown] at inOrder
  exact absurd inOrder (by decide)

end SqlQuery
