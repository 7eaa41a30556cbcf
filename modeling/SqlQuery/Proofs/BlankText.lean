import SqlQuery.Proofs.Blank

/-!
# Blank queries and requests

The induction that carries `blank` through queries: first for operands, then for numbers, which
only count operands, and for templates. The last section compares two requests with one blank.
-/

namespace SqlQuery

variable {d : Dialect}

/-! ## Operands -/

mutual

theorem Condition.operands_blank (c : Condition) :
    c.blank.operands = c.operands.map Operand.blank := by
  cases c with
  | raw s values => exact map_plain_blankValues values
  | inValues column negated values => exact map_plain_blankValues values
  | inQuery column negated query => exact query.operands_blank
  | «exists» negated query => exact query.operands_blank
  | group filters => exact filterOperands_blank filters
  | anyColumn columns c v matchAll negated =>
    show (columns.map fun _ => Operand.plain .null)
      = (columns.map fun _ => Operand.plain v).map Operand.blank
    rw [List.map_map]
    rfl
  | _ => rfl

theorem filterOperands_blank : ∀ filters : List Filter,
    filterOperands (blankFilters filters) = (filterOperands filters).map Operand.blank
  | [] => rfl
  | ⟨_, condition, _⟩ :: rest => by
    rw [blankFilters, filterOperands, filterOperands, condition.operands_blank,
      filterOperands_blank rest, List.map_append]

theorem joinOperands_blank : ∀ joins : List Join,
    joinOperands (blankJoins joins) = (joinOperands joins).map Operand.blank
  | [] => rfl
  | ⟨kind, table, first, operator, second, filters⟩ :: rest => by
    rw [blankJoins]
    by_cases hk : kind = .cross
    · subst hk
      rw [joinOperands, joinOperands, joinOperands_blank rest]
    · rw [joinOperands_on hk, joinOperands_on hk, filterOperands_blank filters,
        joinOperands_blank rest, List.map_append]

theorem branchOperands_blank : ∀ branches : List Branch,
    branchOperands (blankBranches branches) = (branchOperands branches).map Operand.blank
  | [] => rfl
  | ⟨query, _⟩ :: rest => by
    rw [blankBranches, branchOperands, branchOperands, query.operands_blank,
      branchOperands_blank rest, List.map_append]

theorem Query.operands_blank : ∀ q : Query, q.blank.operands = q.operands.map Operand.blank
  | ⟨table, selects, distinct, filters, joins, groups, havings, orders, unions, limit, offset,
      lock, selectValues⟩ => by
    rw [Query.blank, Query.operands, Query.operands, joinOperands_blank joins,
      filterOperands_blank filters, flatMap_blank GroupKey.operands_blank groups,
      havingOperands_blank havings,
      branchOperands_blank unions, flatMap_blank OrderKey.operands_blank orders,
      headOperands_blank selects selectValues]
    simp only [List.map_append]

end

/-! ## Numbers -/

theorem numbersFrom_blank (start : Nat) (os : List Operand) :
    numbersFrom start (os.map Operand.blank) = numbersFrom start os := by
  unfold numbersFrom
  rw [List.length_map]

mutual

theorem Condition.numbers_blank (start : Nat) (c : Condition) :
    c.blank.numbers start = c.numbers start := by
  -- of a condition without statements inside it only the number of operands counts
  have leaf : ∀ values : List Value, numbersFrom start ((blankValues values).map .plain)
      = numbersFrom start (values.map .plain) := by
    intro values
    rw [map_plain_blankValues, numbersFrom_blank]
  cases c with
  | raw s values => exact leaf values
  | inValues column negated values => exact leaf values
  | inQuery column negated query => exact query.numbers_blank start
  | «exists» negated query => exact query.numbers_blank start
  | group filters => exact filterNumbers_blank start filters
  | anyColumn columns c v matchAll negated =>
    show numbersFrom start (columns.map fun _ => .plain .null)
      = numbersFrom start (columns.map fun _ => .plain v)
    unfold numbersFrom
    rw [List.length_map, List.length_map]
  | _ => rfl

theorem filterNumbers_blank (start : Nat) : ∀ filters : List Filter,
    filterNumbers start (blankFilters filters) = filterNumbers start filters
  | [] => rfl
  | ⟨_, condition, _⟩ :: rest => by
    rw [blankFilters, filterNumbers, filterNumbers, condition.numbers_blank start,
      condition.operands_blank, List.length_map, filterNumbers_blank _ rest]

theorem joinNumbers_blank (start : Nat) : ∀ joins : List Join,
    joinNumbers start (blankJoins joins) = joinNumbers start joins
  | [] => rfl
  | ⟨kind, table, first, operator, second, filters⟩ :: rest => by
    rw [blankJoins]
    by_cases hk : kind = .cross
    · subst hk
      rw [joinNumbers, joinNumbers, joinNumbers_blank start rest]
    · rw [joinNumbers_on hk, joinNumbers_on hk, filterNumbers_blank start filters,
        filterOperands_blank filters, List.length_map, joinNumbers_blank _ rest]

theorem branchNumbers_blank (start : Nat) : ∀ branches : List Branch,
    branchNumbers start (blankBranches branches) = branchNumbers start branches
  | [] => rfl
  | ⟨query, _⟩ :: rest => by
    rw [blankBranches, branchNumbers, branchNumbers, query.numbers_blank start,
      query.operands_blank, List.length_map, branchNumbers_blank _ rest]

theorem Query.numbers_blank (start : Nat) : ∀ q : Query, q.blank.numbers start = q.numbers start
  | ⟨table, selects, distinct, filters, joins, groups, havings, orders, unions, limit, offset,
      lock, selectValues⟩ => by
    rw [Query.blank, Query.numbers, Query.numbers]
    simp only [joinOperands_blank, filterOperands_blank, flatMap_blank GroupKey.operands_blank,
      havingOperands_blank, branchOperands_blank,
      flatMap_blank OrderKey.operands_blank, headOperands_blank, List.length_map,
      numbersFrom_blank, joinNumbers_blank, filterNumbers_blank, branchNumbers_blank]

end

/-! ## Templates -/

/-- Text before and after a template stays as it is. -/
theorem blank_enclosed (before after : String) (t : Template) :
    Template.blank (.text before :: t ++ [.text after])
      = .text before :: t.blank ++ [.text after] := by
  rw [blank_append]
  rfl

theorem joinHead_blank (j : Join) : (joinHead d j).blank = joinHead d j := by
  unfold joinHead
  cases d.joinKeyword j.kind <;> rfl

theorem sourceSection_blank (table : Option String) :
    (sourceSection table).map Template.blank = sourceSection table := by
  unfold sourceSection
  split <;> rfl

theorem boundSection_blank (limit offset : Option Nat) (lock : Option LockMode) :
    (boundSection limit offset lock).map Template.blank = boundSection limit offset lock := by
  cases limit <;> cases offset <;> cases lock <;> rfl

theorem groupSection_blank (groups : List GroupKey) :
    groupSection (groups.map GroupKey.blank) = (groupSection groups).map Template.blank :=
  listSection_blank _ GroupKey.template_blank groups

theorem orderSection_blank (orders : List OrderKey) :
    orderSection (orders.map OrderKey.blank) = (orderSection orders).map Template.blank :=
  listSection_blank _ OrderKey.template_blank orders

/-- Sections with a blank before each. -/
theorem blank_spaced (sections : List Template) :
    Template.blank (sections.flatMap fun s => .text " " :: s)
      = (sections.map Template.blank).flatMap fun s => .text " " :: s := by
  rw [List.flatMap_map]
  exact List.map_flatMap

theorem isEmpty_blankFilters (filters : List Filter) :
    (blankFilters filters).isEmpty = filters.isEmpty := by
  cases filters with
  | nil => rfl
  | cons f rest => cases f; rfl

theorem whereSection_blank {filters : List Filter}
    (h : filterTemplate d (blankFilters filters) = (filterTemplate d filters).blank) :
    (if (blankFilters filters).isEmpty then []
        else [Piece.text "WHERE " :: filterTemplate d (blankFilters filters)])
      = (if filters.isEmpty then []
        else [Piece.text "WHERE " :: filterTemplate d filters]).map Template.blank := by
  rw [isEmpty_blankFilters, h]
  cases filters with
  | nil => rfl
  | cons f rest => rfl

mutual

theorem Condition.template_blank (c : Condition) :
    c.blank.template d = (c.template d).blank := by
  cases c with
  | raw s values => exact rawTemplate_blank s values
  | inValues column negated values =>
    rw [Condition.blank, Condition.template, Condition.template, blank_enclosed,
      listTemplate_blank]
  | inQuery column negated query =>
    rw [Condition.blank, Condition.template, Condition.template, blank_enclosed,
      query.template_blank]
  | «exists» negated query =>
    rw [Condition.blank, Condition.template, Condition.template, blank_enclosed,
      query.template_blank]
  | group filters =>
    rw [Condition.blank, Condition.template, Condition.template, blank_enclosed,
      filterTemplate_blank filters]
  | datePart column part c v =>
    rw [Condition.blank, Condition.template, Condition.template]
    cases d.datePart <;> rfl
  | jsonContains column v =>
    rw [Condition.blank, Condition.template, Condition.template]
    cases d.jsonContains <;> rfl
  | jsonLength column c v =>
    rw [Condition.blank, Condition.template, Condition.template]
    cases d.jsonLength <;> rfl
  | jsonPath column path c v =>
    rw [Condition.blank, Condition.template, Condition.template]
    cases d.jsonPath <;> rfl
  | fullText columns v =>
    rw [Condition.blank, Condition.template, Condition.template]
    cases d.fullText <;> rfl
  | anyColumn columns c v matchAll negated =>
    rw [Condition.blank, Condition.template, Condition.template, blank_enclosed,
      blank_intercalate, List.map_map]
    rfl
  | _ => rfl

theorem filterTemplate_blank : ∀ filters : List Filter,
    filterTemplate d (blankFilters filters) = (filterTemplate d filters).blank
  | [] => rfl
  | ⟨_, condition, _⟩ :: rest => by
    rw [blankFilters, filterTemplate, filterTemplate, blank_append, condition.template_blank,
      laterTemplate_blank rest]

theorem laterTemplate_blank : ∀ filters : List Filter,
    laterTemplate d (blankFilters filters) = (laterTemplate d filters).blank
  | [] => rfl
  | ⟨connective, condition, _⟩ :: rest => by
    rw [blankFilters, laterTemplate, laterTemplate, blank_append, blank_append,
      condition.template_blank, laterTemplate_blank rest]
    rfl

theorem joinTemplates_blank : ∀ joins : List Join,
    joinTemplates d (blankJoins joins) = (joinTemplates d joins).map Template.blank
  | [] => rfl
  | ⟨kind, table, first, operator, second, filters⟩ :: rest => by
    rw [blankJoins]
    by_cases hk : kind = .cross
    · subst hk
      rw [joinTemplates, joinTemplates, joinTemplates_blank rest]
      rfl
    · rw [joinTemplates_on _ hk, joinTemplates_on _ hk, joinTemplates_blank rest, List.map_cons,
        blank_append, laterTemplate_blank filters, joinHead_blank]

theorem branchTemplates_blank : ∀ branches : List Branch,
    branchTemplates d (blankBranches branches) = (branchTemplates d branches).map Template.blank
  | [] => rfl
  | ⟨query, _⟩ :: rest => by
    rw [blankBranches, branchTemplates, branchTemplates, List.map_cons, blank_enclosed,
      query.template_blank, branchTemplates_blank rest]

theorem Query.template_blank : ∀ q : Query, q.blank.template d = (q.template d).blank
  | ⟨table, selects, distinct, filters, joins, groups, havings, orders, unions, limit, offset,
      lock, selectValues⟩ => by
    rw [Query.blank, Query.template, Query.template, blank_append, headTemplate_blank,
      blank_spaced]
    simp only [List.map_append, joinTemplates_blank joins, groupSection_blank,
      havingSection_blank, branchTemplates_blank unions, orderSection_blank, boundSection_blank,
      sourceSection_blank, whereSection_blank (filterTemplate_blank filters)]

end

end SqlQuery
