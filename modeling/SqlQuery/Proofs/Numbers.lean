import SqlQuery.Proofs.Writing

/-!
# Every number is given once

The numbers that a clause shows are a permutation of the numbers that follow those given before,
as many as the clause has operands. Only the select list of a statement stands out of order, so the
permutation is the identity but for the exchange of the two blocks of a statement.
-/

namespace SqlQuery

variable {start : Nat} {os ps : List Operand} {ns ms : List Nat}

theorem perm_numbersFrom_append (h : ns.Perm (numbersFrom start os))
    (h' : ms.Perm (numbersFrom (start + os.length) ps)) :
    (ns ++ ms).Perm (numbersFrom start (os ++ ps)) := by
  rw [numbersFrom_append]
  exact h.append h'

/-- The sections of a statement are numbered one after the other. -/
theorem Query.bodyNumbers_perm_of {q : Query}
    (hjoins : (joinNumbers start q.joins).Perm (numbersFrom start (joinOperands q.joins)))
    (hfilters : ∀ after,
      (filterNumbers after q.filters).Perm (numbersFrom after (filterOperands q.filters)))
    (hbranches : ∀ after,
      (branchNumbers after q.unions).Perm (numbersFrom after (branchOperands q.unions))) :
    (q.bodyNumbers start).Perm (numbersFrom start q.bodyOperands) := by
  have filtered := perm_numbersFrom_append hjoins (hfilters _)
  have grouped := perm_numbersFrom_append filtered
    (.refl (numbersFrom _ (q.groups.flatMap GroupKey.operands)))
  have chosen := perm_numbersFrom_append grouped
    (.refl (numbersFrom _ (q.havings.flatMap fun h => h.condition.operands)))
  have joint := perm_numbersFrom_append chosen (hbranches _)
  have whole := perm_numbersFrom_append joint
    (.refl (numbersFrom _ (q.orders.flatMap OrderKey.operands)))
  simp only [List.length_append, ← Nat.add_assoc] at whole
  exact whole

/-- The select list has the numbers after those of all other sections. -/
theorem Query.numbers_perm_of {q : Query}
    (h : (q.bodyNumbers start).Perm (numbersFrom start q.bodyOperands)) :
    (q.numbers start).Perm (numbersFrom start q.operands) := by
  rw [Query.numbers_eq, Query.operands_eq]
  exact List.perm_append_comm.trans (perm_numbersFrom_append h (.refl _))

mutual

theorem Condition.numbers_perm (start : Nat) (c : Condition) :
    (c.numbers start).Perm (numbersFrom start c.operands) := by
  cases c with
  | inQuery column negated query => exact query.numbers_perm start
  | «exists» negated query => exact query.numbers_perm start
  | group filters => exact filterNumbers_perm start filters
  | _ => exact .refl _

theorem filterNumbers_perm (start : Nat) : ∀ filters : List Filter,
    (filterNumbers start filters).Perm (numbersFrom start (filterOperands filters))
  | [] => .refl _
  | ⟨_, condition, _⟩ :: rest => by
    rw [filterNumbers, filterOperands]
    exact perm_numbersFrom_append (condition.numbers_perm start) (filterNumbers_perm _ rest)

theorem joinNumbers_perm (start : Nat) : ∀ joins : List Join,
    (joinNumbers start joins).Perm (numbersFrom start (joinOperands joins))
  | [] => .refl _
  | ⟨kind, table, first, operator, second, filters⟩ :: rest => by
    by_cases hk : kind = .cross
    · subst hk
      rw [joinNumbers, joinOperands]
      exact joinNumbers_perm start rest
    · rw [joinNumbers_on hk, joinOperands_on hk]
      exact perm_numbersFrom_append (filterNumbers_perm start filters) (joinNumbers_perm _ rest)

theorem branchNumbers_perm (start : Nat) : ∀ branches : List Branch,
    (branchNumbers start branches).Perm (numbersFrom start (branchOperands branches))
  | [] => .refl _
  | ⟨query, _⟩ :: rest => by
    rw [branchNumbers, branchOperands]
    exact perm_numbersFrom_append (query.numbers_perm start) (branchNumbers_perm _ rest)

theorem Query.numbers_perm (start : Nat) : ∀ q : Query,
    (q.numbers start).Perm (numbersFrom start q.operands)
  | ⟨_, _, _, filters, joins, _, _, _, unions, _, _, _, _⟩ =>
    Query.numbers_perm_of (Query.bodyNumbers_perm_of (joinNumbers_perm start joins)
      (fun after => filterNumbers_perm after filters) fun after => branchNumbers_perm after unions)

end

theorem Query.bodyNumbers_perm (start : Nat) (q : Query) :
    (q.bodyNumbers start).Perm (numbersFrom start q.bodyOperands) :=
  Query.bodyNumbers_perm_of (joinNumbers_perm start q.joins)
    (fun after => filterNumbers_perm after q.filters) fun after => branchNumbers_perm after q.unions

end SqlQuery
