import SqlQuery.Proofs.Clauses

/-!
# Queries are written as their templates

The induction over queries: a condition, a list of filters, joins or branches, and a whole
statement are written as their templates, with their operands and numbers. Each member of the
mutual block follows the constructors of its type; a sub-query is a fragment inside the outer one
and is met with the numbers that were given before it.
-/

namespace SqlQuery

open Fragment

/-- A filter with its word, and what is written for it. -/
def FilterWritten (d : Dialect) (x : Filter) (item : Connective × Fragment) : Prop :=
  item.1 = x.connective
    ∧ item.2.Writes d (x.condition.template d) x.condition.operands fun start =>
        x.condition.numbers start

variable {d : Dialect}

theorem require_eq_ok {α : Type} {name : String} {feature : Option α} {x : α}
    (h : d.require name feature = .ok x) : feature = some x := by
  cases feature with
  | none => cases h
  | some y => cases h; rfl

/-- A feature that is asked for with an argument. -/
theorem require_map_eq_ok {α β : Type} {name : String} {feature : Option α} {apply : α → β} {x : β}
    (h : (d.require name feature).map apply = .ok x) : ∃ y, feature = some y ∧ apply y = x := by
  obtain ⟨y, hy, hx⟩ := Result.map_eq_ok.1 h
  exact ⟨y, require_eq_ok hy, hx⟩

/-- Filters after others, each with its word before it. -/
theorem writes_laterFilters {f : Fragment} {t : Template} {os : List Operand} {ns : Nat → List Nat}
    {filters : List Filter} {items : List (Connective × Fragment)} (hf : f.Writes d t os ns)
    (h : List.Forall₂ (FilterWritten d) filters items) :
    (items.foldl (fun acc (c, g) => acc ++ text (" " ++ c.text ++ " ") ++ g) f).Writes d
      (t ++ laterTemplate d filters) (os ++ filterOperands filters)
      fun start => ns start ++ filterNumbers (start + os.length) filters := by
  induction h generalizing f t os ns with
  | nil =>
    refine Writes.congr ?_ (List.append_nil os).symm fun start => (List.append_nil _).symm
    rw [laterTemplate, List.append_nil]
    exact hf
  | @cons x item _ _ first _ ih =>
    obtain ⟨c, g⟩ := item
    obtain ⟨connective, condition, unread⟩ := x
    obtain ⟨rfl, hg⟩ := first
    have step := ih ((hf.append (.text (" " ++ c.text ++ " "))).append hg)
    rw [laterTemplate]
    rw [List.append_assoc, List.append_assoc, ← List.append_assoc [_]] at step
    refine Writes.congr step ?_ fun start => ?_
    · rw [List.append_nil, filterOperands, List.append_assoc]
    · rw [List.append_nil, List.append_nil, filterNumbers, List.length_append, List.append_assoc,
        Nat.add_assoc]

/-- The filters of a WHERE section or of a group. -/
theorem writes_filters {filters : List Filter} {items : List (Connective × Fragment)}
    (h : List.Forall₂ (FilterWritten d) filters items) :
    (connected items).Writes d (filterTemplate d filters) (filterOperands filters)
      fun start => filterNumbers start filters := by
  cases h with
  | nil => exact .nothing
  | @cons x item _ _ first rest =>
    obtain ⟨c, g⟩ := item
    obtain ⟨connective, condition, unread⟩ := x
    have body := writes_laterFilters first.2 rest
    rw [filterTemplate]
    exact body.congr (by rw [filterOperands]) fun start => by rw [filterNumbers]

/-- The WHERE section, absent if there are no filters. -/
theorem writes_where {filters : List Filter} {items : List (Connective × Fragment)}
    (h : List.Forall₂ (FilterWritten d) filters items) :
    WritesEach d (if items.isEmpty then [] else [text "WHERE " ++ connected items])
      (if filters.isEmpty then [] else [.text "WHERE " :: filterTemplate d filters])
      (filterOperands filters) fun start => filterNumbers start filters := by
  have body := writes_filters h
  cases h with
  | nil => exact .nil
  | cons first rest =>
    exact (WritesEach.single ((Writes.text "WHERE ").append body)).congr rfl fun _ => rfl

/-- The words of a join and its filters, unless it is a cross join. -/
theorem joinFragments_on {kind : JoinKind} {table : String} {first second : Option String}
    {operator : Operator} {filters : List Filter} {rest : List Join} (h : kind ≠ .cross) :
    joinFragments d (⟨kind, table, first, operator, second, filters⟩ :: rest) = do
      let keyword ← d.joinKeyword kind
      let on := keyword ++ " " ++ table ++ " ON " ++ first.getD "" ++ " "
        ++ d.operatorText operator ++ " " ++ second.getD ""
      let extra ← filterFragments d filters
      let join := extra.foldl (fun acc (c, f) => acc ++ text (" " ++ c.text ++ " ") ++ f) (text on)
      return join :: (← joinFragments d rest) := by
  rw [joinFragments]
  exact h

/-- A statement is put together from its sections. -/
theorem Query.writes_of_sections {q : Query} {joined branches grouped tail : List Fragment}
    {conditions : List (Connective × Fragment)} {head : Fragment}
    (hjoined : WritesEach d joined (joinTemplates d q.joins) (joinOperands q.joins)
      fun start => joinNumbers start q.joins)
    (hconditions : List.Forall₂ (FilterWritten d) q.filters conditions)
    (hgrouped : groupFragments d q.groups q.havings = .ok grouped)
    (hbranches : WritesEach d branches (branchTemplates d q.unions) (branchOperands q.unions)
      fun start => branchNumbers start q.unions)
    (htail : tailFragments q.orders q.limit q.offset q.lock = .ok tail)
    (hhead : selectHead q.distinct q.selects q.selectValues = .ok head) :
    (Fragment.headed head
      (((match q.table with
          | none | some "" => []
          | some t => [text ("FROM " ++ t)]) ++ joined
        ++ (if conditions.isEmpty then [] else [text "WHERE " ++ connected conditions])
        ++ grouped ++ branches ++ tail).foldr (fun part rest => text " " ++ part ++ rest)
          (text ""))).Writes d (q.template d) q.operands fun start => q.numbers start := by
  have source := (writes_source (d := d) q.table).append hjoined
  have filtered := source.append (writes_where hconditions)
  have keyed := filtered.append (writes_groups hgrouped)
  have joint := keyed.append hbranches
  have sections := (joint.append (writes_tail htail)).spaced
  have whole := (writes_head hhead).1.headed sections
  rw [Query.template_eq]
  simp only [List.append_assoc] at whole ⊢
  refine whole.congr ?_ fun start => ?_
  · rw [Query.operands_eq, Query.bodyOperands]
    simp only [List.append_assoc, List.nil_append]
  · rw [Query.numbers_eq, Query.bodyOperands, Query.bodyNumbers]
    simp only [List.append_assoc, List.nil_append, List.length_append, List.length_nil,
      Nat.add_zero, numbersFrom_append, Nat.add_assoc]

mutual

theorem Condition.writes : ∀ (c : Condition) {f : Fragment}, c.fragment d = .ok f →
    f.Writes d (c.template d) c.operands fun start => c.numbers start
  | .raw s values, f, h => by
    rw [Condition.fragment] at h
    exact writes_raw h
  | .compare column c v, f, h => by
    cases h
    exact writes_compared column c v
  | .between column negated low high, f, h => by
    cases h
    exact (((Writes.text _).appendRun (.slot rfl)).appendRun (.text " AND ")).appendRun (.slot rfl)
  | .inValues column negated values, f, h => by
    cases h
    exact (writes_slots values).enclosed _ ")"
  | .inQuery column negated query, f, h => by
    rw [Condition.fragment] at h
    obtain ⟨sub, hsub, h⟩ := Result.bind_eq_ok.1 h
    cases h
    exact (query.writes hsub).enclosed _ ")"
  | .isNull column negated, f, h => by
    cases h
    exact .text _
  | .exists negated query, f, h => by
    rw [Condition.fragment] at h
    obtain ⟨sub, hsub, h⟩ := Result.bind_eq_ok.1 h
    cases h
    exact (query.writes hsub).enclosed _ ")"
  | .group filters, f, h => by
    rw [Condition.fragment] at h
    obtain ⟨items, hitems, h⟩ := Result.bind_eq_ok.1 h
    cases h
    exact (writes_filters (filters_written filters hitems)).enclosed "(" ")"
  | .columns first c second, f, h => by
    cases h
    exact .text _
  | .datePart column part c v, f, h => by
    rw [Condition.fragment] at h
    obtain ⟨left, hleft, h⟩ := Result.bind_eq_ok.1 h
    obtain ⟨words, hwords, rfl⟩ := require_map_eq_ok hleft
    cases h
    rw [Condition.template, hwords]
    exact writes_compared _ c v
  | .jsonContains column v, f, h => by
    rw [Condition.fragment] at h
    obtain ⟨encoded, hencoded, h⟩ := Result.bind_eq_ok.1 h
    obtain ⟨around, haround, h⟩ := Result.bind_eq_ok.1 h
    obtain ⟨words, hwords, rfl⟩ := require_map_eq_ok haround
    cases h
    rw [Condition.template, hwords]
    exact writes_around _ hencoded
  | .jsonLength column c v, f, h => by
    rw [Condition.fragment] at h
    obtain ⟨left, hleft, h⟩ := Result.bind_eq_ok.1 h
    obtain ⟨words, hwords, rfl⟩ := require_map_eq_ok hleft
    cases h
    rw [Condition.template, hwords]
    exact writes_compared _ c v
  | .jsonPath column path c v, f, h => by
    rw [Condition.fragment] at h
    obtain ⟨left, hleft, h⟩ := Result.bind_eq_ok.1 h
    obtain ⟨words, hwords, rfl⟩ := require_map_eq_ok hleft
    cases h
    rw [Condition.template, hwords]
    exact writes_compared _ c v
  | .fullText columns v, f, h => by
    rw [Condition.fragment] at h
    obtain ⟨around, haround, h⟩ := Result.bind_eq_ok.1 h
    obtain ⟨words, hwords, rfl⟩ := require_map_eq_ok haround
    cases h
    rw [Condition.template, hwords]
    exact writes_around _ rfl
  | .anyColumn columns c v matchAll negated, f, h => by
    cases h
    have each := WritesEach.ofSlots (d := d) (o := fun _ => .plain v) columns
      fun column _ => writes_compared column c v
    exact (each.intercalate (if matchAll then " AND " else " OR ")).enclosed _ ")"

theorem filters_written : ∀ (filters : List Filter) {items : List (Connective × Fragment)},
    filterFragments d filters = .ok items → List.Forall₂ (FilterWritten d) filters items
  | [], items, h => by
    cases h
    exact .nil
  | ⟨connective, condition, unread⟩ :: rest, items, h => by
    rw [filterFragments] at h
    obtain ⟨first, hfirst, h⟩ := Result.bind_eq_ok.1 h
    obtain ⟨others, hothers, h⟩ := Result.bind_eq_ok.1 h
    cases h
    exact .cons ⟨rfl, condition.writes hfirst⟩ (filters_written rest hothers)

theorem joins_written : ∀ (joins : List Join) {fs : List Fragment},
    joinFragments d joins = .ok fs →
    WritesEach d fs (joinTemplates d joins) (joinOperands joins) fun start =>
      joinNumbers start joins
  | [], fs, h => by
    cases h
    exact .nil
  | ⟨kind, table, first, operator, second, filters⟩ :: rest, fs, h => by
    by_cases hk : kind = .cross
    · subst hk
      rw [joinFragments] at h
      obtain ⟨others, hothers, h⟩ := Result.bind_eq_ok.1 h
      cases h
      rw [joinTemplates]
      refine (WritesEach.cons (.text _) (joins_written rest hothers)).congr ?_ fun start => ?_
      · rw [joinOperands]; rfl
      · rw [joinNumbers]; rfl
    · rw [joinFragments_on hk] at h
      obtain ⟨keyword, hkeyword, h⟩ := Result.bind_eq_ok.1 h
      obtain ⟨extra, hextra, h⟩ := Result.bind_eq_ok.1 h
      obtain ⟨others, hothers, h⟩ := Result.bind_eq_ok.1 h
      cases h
      have head := writes_laterFilters (.text (keyword ++ " " ++ table ++ " ON "
          ++ first.getD "" ++ " " ++ d.operatorText operator ++ " " ++ second.getD ""))
        (filters_written filters hextra)
      rw [joinTemplates_on d hk, joinHead, hkeyword]
      refine (WritesEach.cons head (joins_written rest hothers)).congr ?_ fun start => ?_
      · rw [joinOperands_on hk]; rfl
      · rw [joinNumbers_on hk]; rfl

theorem branches_written : ∀ (branches : List Branch) {fs : List Fragment},
    branchFragments d branches = .ok fs →
    WritesEach d fs (branchTemplates d branches) (branchOperands branches) fun start =>
      branchNumbers start branches
  | [], fs, h => by
    cases h
    exact .nil
  | ⟨query, all⟩ :: rest, fs, h => by
    rw [branchFragments] at h
    obtain ⟨sub, hsub, h⟩ := Result.bind_eq_ok.1 h
    obtain ⟨others, hothers, h⟩ := Result.bind_eq_ok.1 h
    cases h
    have branch := (query.writes hsub).enclosed (if all then "UNION ALL (" else "UNION (") ")"
    exact (WritesEach.cons branch (branches_written rest hothers)).congr (by rw [branchOperands])
      fun start => by rw [branchNumbers]

theorem Query.writes : ∀ (q : Query) {f : Fragment}, q.fragment d = .ok f →
    f.Writes d (q.template d) q.operands fun start => q.numbers start
  | ⟨table, selects, distinct, filters, joins, groups, havings, orders, unions, limit, offset,
      lock, selectValues⟩, f, h => by
    obtain ⟨joined, hjoined, h⟩ := Result.bind_eq_ok.1 h
    obtain ⟨conditions, hconditions, h⟩ := Result.bind_eq_ok.1 h
    obtain ⟨grouped, hgrouped, h⟩ := Result.bind_eq_ok.1 h
    obtain ⟨branches, hbranches, h⟩ := Result.bind_eq_ok.1 h
    obtain ⟨tail, htail, h⟩ := Result.bind_eq_ok.1 h
    obtain ⟨head, hhead, h⟩ := Result.bind_eq_ok.1 h
    rw [← Result.pure_eq_ok.1 h]
    exact Query.writes_of_sections (q := ⟨table, selects, distinct, filters, joins, groups, havings,
      orders, unions, limit, offset, lock, selectValues⟩) (joins_written joins hjoined)
      (filters_written filters hconditions) hgrouped (branches_written unions hbranches) htail hhead

end

end SqlQuery
