import SqlQuery.Dialect.MySql
import SqlQuery.Dialect.Postgres
import SqlQuery.Proofs.Numbers
import SqlQuery.Proofs.Requests

/-!
# Placeholders and bindings correspond

A template belongs to a request alone: it is the same however a dialect writes its placeholders
(`Request.template_placeholder`). The text of a statement is the template of its request filled
with numbers, each number is that of a binding and used once, and the binding of a slot's number is
the slot's value.
-/

namespace SqlQuery

variable {d : Dialect} (p : Nat → String)

/-! ## Templates do not show how placeholders are written -/

mutual

theorem Condition.template_placeholder (c : Condition) :
    c.template { d with placeholder := p } = c.template d := by
  cases c with
  | inQuery column negated query =>
    rw [Condition.template, Condition.template, query.template_placeholder]
  | «exists» negated query =>
    rw [Condition.template, Condition.template, query.template_placeholder]
  | group filters =>
    rw [Condition.template, Condition.template, filterTemplate_placeholder filters]
  | _ => rfl

theorem filterTemplate_placeholder : ∀ filters : List Filter,
    filterTemplate { d with placeholder := p } filters = filterTemplate d filters
  | [] => rfl
  | ⟨_, condition, _⟩ :: rest => by
    rw [filterTemplate, filterTemplate, condition.template_placeholder,
      laterTemplate_placeholder rest]

theorem laterTemplate_placeholder : ∀ filters : List Filter,
    laterTemplate { d with placeholder := p } filters = laterTemplate d filters
  | [] => rfl
  | ⟨_, condition, _⟩ :: rest => by
    rw [laterTemplate, laterTemplate, condition.template_placeholder,
      laterTemplate_placeholder rest]

theorem joinTemplates_placeholder : ∀ joins : List Join,
    joinTemplates { d with placeholder := p } joins = joinTemplates d joins
  | [] => rfl
  | ⟨kind, table, first, operator, second, filters⟩ :: rest => by
    by_cases hk : kind = .cross
    · subst hk
      rw [joinTemplates, joinTemplates, joinTemplates_placeholder rest]
    · rw [joinTemplates_on _ hk, joinTemplates_on _ hk, laterTemplate_placeholder filters,
        joinTemplates_placeholder rest]
      rfl

theorem branchTemplates_placeholder : ∀ branches : List Branch,
    branchTemplates { d with placeholder := p } branches = branchTemplates d branches
  | [] => rfl
  | ⟨query, _⟩ :: rest => by
    rw [branchTemplates, branchTemplates, query.template_placeholder,
      branchTemplates_placeholder rest]

theorem Query.template_placeholder : ∀ q : Query,
    q.template { d with placeholder := p } = q.template d
  | ⟨table, selects, distinct, filters, joins, groups, havings, orders, unions, limit, offset,
      lock, selectValues⟩ => by
    rw [Query.template, Query.template, joinTemplates_placeholder joins,
      filterTemplate_placeholder filters, branchTemplates_placeholder unions]
    rfl

end

theorem Query.whereTemplate_placeholder (q : Query) :
    q.whereTemplate { d with placeholder := p } = q.whereTemplate d := by
  rw [Query.whereTemplate, Query.whereTemplate, filterTemplate_placeholder]

theorem updateTemplate_placeholder (q : Query) (sets : List Template) :
    updateTemplate { d with placeholder := p } q sets = updateTemplate d q sets := by
  rw [updateTemplate, updateTemplate, Query.whereTemplate_placeholder]

theorem Request.template_placeholder (r : Request) :
    r.template { d with placeholder := p } = r.template d := by
  cases r with
  | select q => exact q.template_placeholder p
  | insert table values returning => rfl
  | insertBatch table rows returning => rfl
  | upsert table rows target overwrite action => rfl
  | insertOrIgnore table rows => rfl
  | replace table rows => rfl
  | update q values => exact updateTemplate_placeholder p q _
  | increment q column amount extra => exact updateTemplate_placeholder p q _
  | jsonUpdate q column path v =>
    simp only [Request.template, updateTemplate_placeholder]
  | jsonRemove q column path =>
    simp only [Request.template, updateTemplate_placeholder]
  | delete q =>
    rw [Request.template, Request.template, Query.whereTemplate_placeholder]

/-! ## Numbers of a request -/

theorem Request.numbers_perm (start : Nat) (r : Request) :
    (r.numbers start).Perm (numbersFrom start r.operands) := by
  cases r with
  | select q => exact q.numbers_perm start
  | _ => exact perm_numbersFrom_append (.refl _) (filterNumbers_perm _ _)

/-- The operand of a number is bound at the place of the number. -/
theorem Numbered.bound_at {os : List Operand} {vs : List Value} {n : Nat} {o : Operand}
    (hbound : List.Forall₂ (fun o v => o.bound d = .ok v) os vs) (h : Numbered 0 os n o) :
    ∃ v, vs[n - 1]? = some v ∧ o.bound d = .ok v := by
  obtain ⟨i, hn, ho⟩ := h
  obtain ⟨hi, hio⟩ := List.getElem?_eq_some_iff.1 ho
  have hiv : i < vs.length := hbound.length_eq ▸ hi
  have hplace : n - 1 = i := by omega
  refine ⟨vs[i], ?_, ?_⟩
  · rw [hplace, List.getElem?_eq_getElem hiv]
  · rw [← hio]
    exact hbound.get hi hiv

/-! ## The correspondence -/

/-- **Placeholders and bindings correspond**, whatever placeholders look like. The text is the
template of the request with a number for each slot, the binding of that number is the slot's value,
and the numbers are those of the bindings, each once. -/
theorem Request.placeholders_correspond (r : Request) (s : Statement)
    (h : r.compile { d with placeholder := p } = .ok s) :
    s.sql = (r.template d).fill p (r.numbers 0)
      ∧ List.Forall₂ (fun n o => ∃ v, s.bindings[n - 1]? = some v ∧ o.bound d = .ok v)
        (r.numbers 0) (r.template d).slots
      ∧ (r.numbers 0).Perm (List.range' 1 s.bindings.length) := by
  obtain ⟨f, hs, hf⟩ := r.written h
  rw [r.template_placeholder] at hf
  have hsql : s.sql = f.render p 0 := by
    rw [hs]
    rfl
  have hbindings : s.bindings = f.values := by
    rw [hs]
    rfl
  refine ⟨?_, ?_, ?_⟩
  · rw [hsql, hf.shown]
  · rw [hbindings]
    exact (hf.placed 0).imp fun n o placed => placed.bound_at hf.bound
  · rw [hbindings, ← hf.bound.length_eq]
    exact r.numbers_perm 0

/-- Bills of some customers that have payments. Both select lists have a marker, which is shown
first and bound last. -/
def billsOf (share : Int) (customer : String) (others : List String) : Query where
  table := some "bills"
  selects := [.column "id" none, .raw "total - ?" none]
  selectValues := [.int share]
  filters := [
    .of (.compare "customer" .eq (.text customer)),
    .of (.inValues "customer" false (others.map .text)) .or,
    .of (.exists false {
      table := some "payments"
      selects := [.raw "paid * ?" none]
      selectValues := [.int share]
      filters := [.of (.between "day" false (.int 1) (.int share))] })]

/-- With numbered placeholders the number in a select list is above those that follow it. -/
theorem billsOf_correspond : ∃ s, (Request.select (billsOf 5 "a" ["b", "c"])).compile
      { Dialect.mysql with placeholder := Dialect.postgres.placeholder } = .ok s
    ∧ s.sql = "SELECT id, total - $7 FROM bills WHERE customer = $1 OR customer IN ($2, $3)"
        ++ " AND EXISTS (SELECT paid * $6 FROM payments WHERE day BETWEEN $4 AND $5)"
    ∧ s.sql = ((billsOf 5 "a" ["b", "c"]).template .mysql).fill Dialect.postgres.placeholder
        ((billsOf 5 "a" ["b", "c"]).numbers 0)
    ∧ ((billsOf 5 "a" ["b", "c"]).numbers 0).Perm (List.range' 1 s.bindings.length) := by
  have run : ((Request.select (billsOf 5 "a" ["b", "c"])).compile
      { Dialect.mysql with placeholder := Dialect.postgres.placeholder }).toOption.map
        Statement.sql
      = some ("SELECT id, total - $7 FROM bills WHERE customer = $1 OR customer IN ($2, $3)"
        ++ " AND EXISTS (SELECT paid * $6 FROM payments WHERE day BETWEEN $4 AND $5)") := by
    decide +kernel
  obtain ⟨s, h, hs⟩ := Result.exists_of_map_eq_some run
  obtain ⟨hsql, -, hperm⟩ := Request.placeholders_correspond Dialect.postgres.placeholder _ s h
  exact ⟨s, h, hs, hsql, hperm⟩

end SqlQuery
