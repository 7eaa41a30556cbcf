import SqlQuery.Proofs.Placeholders
import SqlQuery.Proofs.Sections
import SqlQuery.Steps.Numbering

/-!
# One condition for all statements of a query

SELECT, UPDATE and DELETE write the filters of a query into the values that are bound so far.
`Numbering.write` does this slot by slot: a slot binds its value and shows the number that the value
then has. What is bound before raises every number and changes nothing else (`Query.whereIn_eq`),
for statements inside the filters too, whose select lists are numbered last.

So the statements that change rows have the condition of the DELETE behind the values that they set,
and the SELECT has it behind the values of its joins (`Query.one_condition`): a SELECT that is looked
at before a change addresses the rows of the change.
-/

namespace SqlQuery

open Fragment

/-! ## Numbers are raised -/

theorem numbersFrom_add (k start : Nat) (os : List Operand) :
    numbersFrom (k + start) os = (numbersFrom start os).map (k + ·) := by
  unfold numbersFrom
  rw [List.map_add_range', Nat.add_assoc]

mutual

theorem Condition.numbers_add (k start : Nat) (c : Condition) :
    c.numbers (k + start) = (c.numbers start).map (k + ·) := by
  cases c with
  | inQuery column negated query => exact query.numbers_add k start
  | «exists» negated query => exact query.numbers_add k start
  | group filters => exact filterNumbers_add k start filters
  | _ => exact numbersFrom_add k start _

theorem filterNumbers_add (k start : Nat) : ∀ filters : List Filter,
    filterNumbers (k + start) filters = (filterNumbers start filters).map (k + ·)
  | [] => rfl
  | ⟨_, condition, _⟩ :: rest => by
    rw [filterNumbers, filterNumbers, List.map_append, condition.numbers_add, Nat.add_assoc,
      filterNumbers_add k _ rest]

theorem joinNumbers_add (k start : Nat) : ∀ joins : List Join,
    joinNumbers (k + start) joins = (joinNumbers start joins).map (k + ·)
  | [] => rfl
  | ⟨kind, table, first, operator, second, filters⟩ :: rest => by
    by_cases hk : kind = .cross
    · subst hk
      rw [joinNumbers, joinNumbers, joinNumbers_add k start rest]
    · rw [joinNumbers_on hk, joinNumbers_on hk, List.map_append, filterNumbers_add k start filters,
        Nat.add_assoc, joinNumbers_add k _ rest]

theorem branchNumbers_add (k start : Nat) : ∀ branches : List Branch,
    branchNumbers (k + start) branches = (branchNumbers start branches).map (k + ·)
  | [] => rfl
  | ⟨query, _⟩ :: rest => by
    rw [branchNumbers, branchNumbers, List.map_append, query.numbers_add, Nat.add_assoc,
      branchNumbers_add k _ rest]

/-- The select list of a statement is numbered last, so its numbers are raised with the others. -/
theorem Query.numbers_add (k start : Nat) : ∀ q : Query,
    q.numbers (k + start) = (q.numbers start).map (k + ·)
  | ⟨_, _, _, filters, joins, _, _, _, unions, _, _, _, _⟩ => by
    simp only [Query.numbers, List.map_append, Nat.add_assoc, joinNumbers_add k _ joins,
      filterNumbers_add k _ filters, branchNumbers_add k _ unions, numbersFrom_add k]

end

/-! ## Writing slot by slot -/

namespace Numbering

/-- Writes a fragment after the values that are bound so far. A slot binds its value, and the head
of a fragment is written after its body. -/
def write (n : Numbering) : Fragment → String × Numbering
  | .text s => (s, n)
  | .slot v => n.render (.slot v)
  | .append f g =>
    let (first, n) := n.write f
    let (second, n) := n.write g
    (first ++ second, n)
  | .headed h b =>
    let (body, n) := n.write b
    let (head, n) := n.write h
    (head ++ body, n)

/-- What is written slot by slot is the text whose numbers follow the values that are bound. -/
theorem write_eq (n : Numbering) (f : Fragment) : n.write f = n.render f := by
  induction f generalizing n with
  | text s =>
    show (s, n) = (s, { n with values := n.values ++ [] })
    rw [List.append_nil]
  | slot v => rfl
  | append f g ihf ihg =>
    simp only [write, ihf, ihg, render, Fragment.values, Fragment.render, List.length_append,
      length_values, List.append_assoc]
  | headed h b ihh ihb =>
    simp only [write, ihh, ihb, render, Fragment.values, Fragment.render, List.length_append,
      length_values, List.append_assoc]

end Numbering

namespace Query

/-- Writes the WHERE section of a query after the values that are bound so far. -/
def whereIn (q : Query) (n : Numbering) : Result (String × Numbering) := do
  return n.write (← q.whereFragment n.dialect)

/-- The numbers that the WHERE section shows if nothing is bound before. -/
def whereNumbers (q : Query) : List Nat :=
  filterNumbers 0 q.filters

/-- The text of the WHERE section with all numbers raised. -/
def raisedWhere (d : Dialect) (q : Query) (k : Nat) : String :=
  (q.whereTemplate d).fill d.placeholder (q.whereNumbers.map (k + ·))

variable {d : Dialect} {q : Query} {f : Fragment}

theorem render_whereFragment (h : q.whereFragment d = .ok f) (k : Nat) :
    f.render d.placeholder k = q.raisedWhere d k := by
  rw [(writes_whereSection h).shown d.placeholder k]
  have raised := filterNumbers_add k 0 q.filters
  rw [Nat.add_zero] at raised
  rw [raised]
  rfl

/-- The numbers are those of the values that the section binds. -/
theorem whereNumbers_perm (h : q.whereFragment d = .ok f) :
    q.whereNumbers.Perm (List.range' 1 f.values.length) := by
  have length : (filterOperands q.filters).length = f.values.length :=
    (writes_whereSection h).bound.length_eq
  rw [← length]
  exact filterNumbers_perm 0 q.filters

/-- **What is bound before a WHERE section raises its numbers.** The section fails after other
values as it fails after none. Else its text is the same template with each number raised, the
values before it stay, and the same values follow them. -/
theorem whereIn_eq (q : Query) (n : Numbering) :
    (∀ e, q.whereFragment n.dialect = .error e → q.whereIn n = .error e)
      ∧ ∀ f, q.whereFragment n.dialect = .ok f → q.whereIn n
        = .ok (q.raisedWhere n.dialect n.values.length, { n with values := n.values ++ f.values }) := by
  constructor
  · intro e h
    unfold whereIn
    rw [h]
    rfl
  · intro f h
    unfold whereIn
    rw [h]
    show Except.ok (n.write f) = _
    rw [n.write_eq]
    show Except.ok (f.render n.dialect.placeholder n.values.length, _) = _
    rw [render_whereFragment h]

end Query

/-! ## Statements that change rows -/

variable {d : Dialect} {q : Query} {t : String}

theorem namedTable_of_ne {action : String} (ht : t ≠ "") : namedTable action (some t) = .ok t := by
  unfold namedTable
  split
  · next h => cases h
  · next h => exact absurd (Option.some.inj h) ht
  · next h => rw [Option.some.inj h]

/-- A statement shows the condition of the DELETE `x` behind a text in which `first` are bound, and
binds the values of the condition behind `first`. -/
structure Query.ChangesAs (d : Dialect) (q : Query) (x s : Statement) (before : String)
    (first : List Value) : Prop where
  sql : s.sql = before ++ q.raisedWhere d first.length
  bindings : s.bindings = first ++ x.bindings

theorem Statement.delete_of_where {f : Fragment} (hq : q.table = some t) (ht : t ≠ "")
    (h : q.whereFragment d = .ok f) :
    Statement.delete d q = .ok (ofFragment d (text ("DELETE FROM " ++ t) ++ f)) := by
  unfold Statement.delete
  rw [hq, namedTable_of_ne ht, h]
  rfl

/-- A DELETE has its condition behind its table. -/
theorem Statement.delete_sql {f : Fragment} (h : q.whereFragment d = .ok f) :
    (ofFragment d (text ("DELETE FROM " ++ t) ++ f)).sql
      = "DELETE FROM " ++ t ++ q.raisedWhere d 0 := by
  rw [← Query.render_whereFragment h]
  rfl

/-- Whatever an UPDATE sets, its condition is that of the DELETE. -/
theorem updateFragment_changesAs {sets : List Fragment} {f : Fragment} (hq : q.table = some t)
    (ht : t ≠ "") (h : updateFragment d q sets = .ok f) :
    ∃ x, Statement.delete d q = .ok x ∧ q.ChangesAs d x (Statement.ofFragment d f)
      ("UPDATE " ++ t ++ " SET " ++ (intercalate ", " sets).render d.placeholder 0)
      (intercalate ", " sets).values := by
  unfold updateFragment at h
  obtain ⟨name, hname, h⟩ := Result.bind_eq_ok.1 h
  rw [hq, namedTable_of_ne ht] at hname
  cases hname
  obtain ⟨condition, hcondition, h⟩ := Result.bind_eq_ok.1 h
  cases h
  refine ⟨_, Statement.delete_of_where hq ht hcondition, ?_, rfl⟩
  have shown := Query.render_whereFragment hcondition (intercalate ", " sets).values.length
  rw [← shown, length_values]
  show "UPDATE " ++ t ++ " SET " ++ (intercalate ", " sets).render d.placeholder (0 + 0)
      ++ condition.render d.placeholder (0 + (0 + (intercalate ", " sets).size)) = _
  rw [Nat.zero_add, Nat.zero_add, Nat.zero_add]

theorem values_assignments (values : Row) :
    (assignments values).flatMap Fragment.values = values.map Prod.snd := by
  induction values with
  | nil => rfl
  | cons entry rest ih =>
    show [] ++ [entry.2] ++ (assignments rest).flatMap Fragment.values = _
    rw [ih, List.map_cons]
    rfl

/-! ## SELECT -/

theorem values_spaced_cons (f : Fragment) (fs : List Fragment) :
    (spaced (f :: fs)).values = f.values ++ (spaced fs).values :=
  rfl

/-- The sections that follow the condition of a SELECT. -/
def Query.laterFragments (d : Dialect) (q : Query) : Result (List Fragment) := do
  let grouped ← groupFragments d q.groups q.havings
  let branches ← branchFragments d q.unions
  let tail ← tailFragments q.orders q.limit q.offset q.lock
  return grouped ++ branches ++ tail

/-- A SELECT shows the condition of the DELETE `x` behind its select list, its table and its joins,
and binds the values of the condition behind those of the joins. -/
structure Query.ReadsAs (d : Dialect) (q : Query) (t : String) (x s : Statement) (head : Fragment)
    (joined later : List Fragment) : Prop where
  selects : selectHead q.distinct q.selects q.selectValues = .ok head
  joins : joinFragments d q.joins = .ok joined
  rest : q.laterFragments d = .ok later
  sql : s.sql = head.render d.placeholder
        ((spaced joined).values.length + x.bindings.length + (spaced later).values.length)
      ++ (" FROM " ++ t ++ (spaced joined).render d.placeholder 0)
      ++ q.raisedWhere d (spaced joined).values.length
      ++ (spaced later).render d.placeholder ((spaced joined).values.length + x.bindings.length)
  bindings : s.bindings
    = (spaced joined).values ++ x.bindings ++ ((spaced later).values ++ head.values)

/-- The section of the filters in a SELECT is that of a DELETE. -/
theorem Query.whereFragment_of_conditions {conditions : List (Connective × Fragment)}
    (h : filterFragments d q.filters = .ok conditions) :
    ∃ f, q.whereFragment d = .ok f ∧ f.values = (spaced (whereFragments conditions)).values
      ∧ ∀ p start, (spaced (whereFragments conditions)).render p start = f.render p start := by
  unfold Query.whereFragment
  cases hfilters : q.filters with
  | nil =>
    rw [hfilters] at h
    cases h
    exact ⟨text "", rfl, rfl, fun _ _ => rfl⟩
  | cons first rest =>
    rw [hfilters] at h
    have each := (filters_written (first :: rest) h).length_eq
    cases conditions with
    | nil => exact absurd each (Nat.add_one_ne_zero _)
    | cons item items =>
      refine ⟨text " WHERE " ++ connected (item :: items), ?_, ?_, fun p start => ?_⟩
      · rw [h]
        rfl
      · exact (List.append_nil _).symm
      · show " " ++ ("WHERE " ++ (connected (item :: items)).render p (start + 0 + 0)) ++ "" = _
        rw [String.append_empty, ← String.append_assoc]
        rfl

theorem sourceFragments_of_ne (ht : t ≠ "") : sourceFragments (some t) = [text ("FROM " ++ t)] := by
  unfold sourceFragments
  split
  · next h => cases h
  · next h => exact absurd (Option.some.inj h) ht
  · next h => rw [Option.some.inj h]

/-- The sections of a SELECT up to its condition, the condition, and the others. -/
theorem render_spaced_source (p : Nat → String) (t : String) (joined conditions later : List Fragment) :
    (spaced (text ("FROM " ++ t) :: (joined ++ (conditions ++ later)))).render p 0
      = " FROM " ++ t ++ (spaced joined).render p 0
        ++ (spaced conditions).render p (spaced joined).size
        ++ (spaced later).render p ((spaced joined).size + (spaced conditions).size) := by
  have keyword : " " ++ ("FROM " ++ t) = " FROM " ++ t := by
    rw [← String.append_assoc]
    rfl
  have source : (text ("FROM " ++ t)).render p 0 = "FROM " ++ t := rfl
  have size : (text ("FROM " ++ t)).size = 0 := rfl
  rw [render_spaced_cons, render_spaced_append, render_spaced_append, source, size, keyword]
  simp only [String.append_assoc, Nat.zero_add]

theorem Statement.sql_headed (d : Dialect) (head body : Fragment) :
    (ofFragment d (.headed head body)).sql
      = head.render d.placeholder body.values.length ++ body.render d.placeholder 0 := by
  rw [length_values, ← Nat.zero_add body.size]
  rfl

theorem Statement.select_readsAs {s : Statement} (hq : q.table = some t) (ht : t ≠ "")
    (h : Statement.select d q = .ok s) :
    ∃ x head joined later, Statement.delete d q = .ok x ∧ q.ReadsAs d t x s head joined later := by
  obtain ⟨f, hf, h⟩ := Result.bind_eq_ok.1 h
  cases h
  obtain @⟨joined, grouped, branches, tail, conditions, head, hjoined, hconditions, hgrouped,
    hbranches, htail, hhead⟩ := Query.written_of_fragment hf
  obtain ⟨w, hw, hvalues, hshown⟩ := Query.whereFragment_of_conditions hconditions
  have later : q.laterFragments d = .ok (grouped ++ branches ++ tail) := by
    unfold Query.laterFragments
    rw [hgrouped, hbranches, htail]
    rfl
  have sections : sourceFragments q.table ++ joined ++ whereFragments conditions ++ grouped
        ++ branches ++ tail
      = text ("FROM " ++ t) :: (joined ++ (whereFragments conditions
        ++ (grouped ++ branches ++ tail))) := by
    rw [hq, sourceFragments_of_ne ht]
    simp only [List.append_assoc, List.cons_append, List.nil_append]
  have size : (spaced (whereFragments conditions)).size = w.values.length := by
    rw [hvalues, length_values]
  have bound : (spaced (text ("FROM " ++ t) :: (joined ++ (whereFragments conditions
        ++ (grouped ++ branches ++ tail))))).values
      = (spaced joined).values ++ (w.values ++ (spaced (grouped ++ branches ++ tail)).values) := by
    rw [values_spaced_cons, values_spaced_append, values_spaced_append, hvalues]
    rfl
  have deleted : (Statement.ofFragment d (text ("DELETE FROM " ++ t) ++ w)).bindings = w.values :=
    rfl
  refine ⟨_, head, joined, grouped ++ branches ++ tail, Statement.delete_of_where hq ht hw, hhead,
    hjoined, later, ?_, ?_⟩
  · rw [sections, sql_headed, bound, deleted, render_spaced_source, hshown, size,
      Query.render_whereFragment hw]
    simp only [List.length_append, length_values, String.append_assoc, Nat.add_assoc]
  · rw [sections, deleted]
    show (spaced _).values ++ head.values = _
    rw [bound]
    simp only [List.append_assoc]

/-! ## One condition -/

namespace Statement

variable {s : Statement}

/-- A DELETE shows its condition with the numbers that it has if nothing is bound before. -/
theorem delete_changesAs (hq : q.table = some t) (ht : t ≠ "") (h : delete d q = .ok s) :
    ∃ n, q.whereIn { dialect := d } = .ok (q.raisedWhere d 0, n)
      ∧ s.sql = "DELETE FROM " ++ t ++ q.raisedWhere d 0 ∧ s.bindings = n.values := by
  obtain ⟨name, -, hdelete⟩ := Result.bind_eq_ok.1 h
  obtain ⟨f, hf, -⟩ := Result.bind_eq_ok.1 hdelete
  rw [delete_of_where hq ht hf] at h
  cases h
  exact ⟨_, (q.whereIn_eq { dialect := d }).2 f hf, delete_sql hf, rfl⟩

theorem update_changesAs {values : Row} (hq : q.table = some t) (ht : t ≠ "")
    (h : update d q values = .ok s) : ∃ x, delete d q = .ok x ∧ q.ChangesAs d x s
      ("UPDATE " ++ t ++ " SET " ++ (intercalate ", " (assignments values)).render d.placeholder 0)
      (values.map Prod.snd) := by
  unfold update at h
  split at h
  · exact absurd h Result.reject_ne_ok
  · obtain ⟨f, hf, h⟩ := Result.bind_eq_ok.1 h
    cases h
    rw [← values_assignments, ← values_intercalate ", "]
    exact updateFragment_changesAs hq ht hf

/-- What an increment sets: the column it adds to, and others. -/
def additions (column : String) (amount : Value) (extra : Row) : List Fragment :=
  (text (column ++ " = " ++ column ++ " + ") ++ slot amount) :: assignments extra

theorem increment_changesAs {column : String} {amount : Value} {extra : Row}
    (hq : q.table = some t) (ht : t ≠ "") (h : increment d q column amount extra = .ok s) :
    ∃ x, delete d q = .ok x ∧ q.ChangesAs d x s
      ("UPDATE " ++ t ++ " SET "
        ++ (intercalate ", " (additions column amount extra)).render d.placeholder 0)
      (amount :: extra.map Prod.snd) := by
  obtain ⟨f, hf, h⟩ := Result.bind_eq_ok.1 h
  cases h
  have values : (intercalate ", " (additions column amount extra)).values
      = amount :: extra.map Prod.snd := by
    rw [values_intercalate, ← values_assignments]
    rfl
  rw [← values]
  exact updateFragment_changesAs hq ht hf

/-- One value is set in a JSON column: that which is bound for it. -/
theorem jsonUpdate_changesAs {column path : String} {v : Value} (hq : q.table = some t)
    (ht : t ≠ "") (h : jsonUpdate d q column path v = .ok s) :
    ∃ x stored words, delete d q = .ok x ∧ d.jsonSetValue v = .ok stored
      ∧ d.requireJsonSet = .ok words
      ∧ q.ChangesAs d x s ("UPDATE " ++ t ++ " SET " ++ (column ++ " = "
        ++ (words column path).before ++ d.placeholder 1 ++ (words column path).after)) [stored] := by
  obtain ⟨stored, words, f, hstored, hwords, hf, rfl⟩ := jsonUpdate_eq_ok h
  obtain ⟨x, hx, hs⟩ := updateFragment_changesAs hq ht hf
  refine ⟨x, stored, words, hx, hstored, hwords, ?_⟩
  have shown : (text (column ++ " = ") ++ (words column path).fragment stored).render d.placeholder 0
      = column ++ " = " ++ (words column path).before ++ d.placeholder 1
        ++ (words column path).after := by
    show column ++ " = " ++ ((words column path).before ++ d.placeholder 1
      ++ (words column path).after) = _
    simp only [String.append_assoc]
  rw [← shown]
  exact hs

/-- Nothing is bound to remove what stands in a JSON column. -/
theorem jsonRemove_changesAs {column path : String} (hq : q.table = some t) (ht : t ≠ "")
    (h : jsonRemove d q column path = .ok s) :
    ∃ x words, delete d q = .ok x ∧ d.requireJsonRemove = .ok words
      ∧ q.ChangesAs d x s ("UPDATE " ++ t ++ " SET " ++ (column ++ " = " ++ words column path))
        [] := by
  obtain ⟨words, f, hwords, hf, rfl⟩ := jsonRemove_eq_ok h
  obtain ⟨x, hx, hs⟩ := updateFragment_changesAs hq ht hf
  exact ⟨x, words, hx, hwords, hs⟩

end Statement

/-- **All statements of a query filter on one condition.** Written where values are bound already,
the WHERE section of a query fails as it fails where none are; else its numbers are raised by as
many, the values before it stay, and the same values follow them. So the statements that change
rows show and bind the condition of the DELETE behind the values that they set, and the SELECT shows
and binds it behind the values of its joins. -/
theorem Query.one_condition (d : Dialect) (q : Query) :
    (∀ n : Numbering, n.dialect = d →
      (∀ e, q.whereIn { dialect := d } = .error e → q.whereIn n = .error e)
      ∧ ∀ s m, q.whereIn { dialect := d } = .ok (s, m) →
        s = (q.whereTemplate d).fill d.placeholder q.whereNumbers
        ∧ q.whereNumbers.Perm (List.range' 1 m.values.length)
        ∧ q.whereIn n = .ok
          ((q.whereTemplate d).fill d.placeholder (q.whereNumbers.map (n.values.length + ·)),
            { n with values := n.values ++ m.values }))
    ∧ ∀ t, q.table = some t → t ≠ "" →
      (∀ s, Statement.delete d q = .ok s → ∃ n, q.whereIn { dialect := d }
          = .ok (q.raisedWhere d 0, n)
        ∧ s.sql = "DELETE FROM " ++ t ++ q.raisedWhere d 0 ∧ s.bindings = n.values)
      ∧ (∀ values s, Statement.update d q values = .ok s → ∃ x, Statement.delete d q = .ok x
        ∧ q.ChangesAs d x s ("UPDATE " ++ t ++ " SET "
          ++ (intercalate ", " (assignments values)).render d.placeholder 0)
          (values.map Prod.snd))
      ∧ (∀ column amount extra s, Statement.increment d q column amount extra = .ok s →
        ∃ x, Statement.delete d q = .ok x ∧ q.ChangesAs d x s ("UPDATE " ++ t ++ " SET "
          ++ (intercalate ", " (Statement.additions column amount extra)).render d.placeholder 0)
          (amount :: extra.map Prod.snd))
      ∧ (∀ column path v s, Statement.jsonUpdate d q column path v = .ok s →
        ∃ x stored words, Statement.delete d q = .ok x ∧ d.jsonSetValue v = .ok stored
          ∧ d.requireJsonSet = .ok words
          ∧ q.ChangesAs d x s ("UPDATE " ++ t ++ " SET " ++ (column ++ " = "
            ++ (words column path).before ++ d.placeholder 1 ++ (words column path).after))
            [stored])
      ∧ (∀ column path s, Statement.jsonRemove d q column path = .ok s →
        ∃ x words, Statement.delete d q = .ok x ∧ d.requireJsonRemove = .ok words
          ∧ q.ChangesAs d x s ("UPDATE " ++ t ++ " SET " ++ (column ++ " = " ++ words column path))
            [])
      ∧ ∀ s, Statement.select d q = .ok s → ∃ x head joined later, Statement.delete d q = .ok x
        ∧ q.ReadsAs d t x s head joined later := by
  constructor
  · rintro n rfl
    have here := q.whereIn_eq n
    have empty := q.whereIn_eq { dialect := n.dialect }
    cases hw : q.whereFragment n.dialect with
    | error e =>
      rw [here.1 e hw, empty.1 e hw]
      exact ⟨fun _ h => h, fun _ _ h => nomatch h⟩
    | ok f =>
      rw [here.2 f hw, empty.2 f hw]
      refine ⟨fun _ h => (nomatch h), fun s m h => ?_⟩
      cases h
      refine ⟨?_, whereNumbers_perm hw, rfl⟩
      show (q.whereTemplate n.dialect).fill _ (q.whereNumbers.map (0 + ·)) = _
      simp only [Nat.zero_add, List.map_id']
  · intro t hq ht
    exact ⟨fun s => Statement.delete_changesAs hq ht,
      fun values s => Statement.update_changesAs hq ht,
      fun column amount extra s => Statement.increment_changesAs hq ht,
      fun column path v s => Statement.jsonUpdate_changesAs hq ht,
      fun column path s => Statement.jsonRemove_changesAs hq ht,
      fun s => Statement.select_readsAs hq ht⟩

/-- The discounts that were given before a day. -/
def discounts : Join where
  kind := .left
  table := "discounts"
  first := some "bill"
  second := some "id"
  filters := [.of (.compare "day" .lt (.int 9))]

/-- Bills with their discounts, of a customer or with payments. -/
def discountedBills : Query :=
  { billsOf 5 "a" ["b"] with joins := [discounts] }

/-- The numbers of the condition follow those of the two values of the UPDATE, and that of the value
of the join. -/
theorem discountedBills_condition : ∃ u x s others,
    Statement.update .postgres discountedBills [("paid", .int 1), ("seen", .int 2)] = .ok u
    ∧ Statement.delete .postgres discountedBills = .ok x
    ∧ Statement.select .postgres discountedBills = .ok s
    ∧ x.sql = "DELETE FROM bills WHERE customer = $1 OR customer IN ($2)"
      ++ " AND EXISTS (SELECT paid * $5 FROM payments WHERE day BETWEEN $3 AND $4)"
    ∧ u.sql = "UPDATE bills SET paid = $1, seen = $2 WHERE customer = $3 OR customer IN ($4)"
      ++ " AND EXISTS (SELECT paid * $7 FROM payments WHERE day BETWEEN $5 AND $6)"
    ∧ s.sql = "SELECT id, total - $7 FROM bills LEFT JOIN discounts ON bill = id AND day < $1"
      ++ " WHERE customer = $2 OR customer IN ($3)"
      ++ " AND EXISTS (SELECT paid * $6 FROM payments WHERE day BETWEEN $4 AND $5)"
    ∧ u.bindings = [.int 1, .int 2] ++ x.bindings
    ∧ s.bindings = [.int 9] ++ x.bindings ++ others := by
  have updated : (Statement.update .postgres discountedBills
      [("paid", .int 1), ("seen", .int 2)]).toOption.map Statement.sql
      = some ("UPDATE bills SET paid = $1, seen = $2 WHERE customer = $3 OR customer IN ($4)"
        ++ " AND EXISTS (SELECT paid * $7 FROM payments WHERE day BETWEEN $5 AND $6)") := by
    decide +kernel
  have deleted : (Statement.delete .postgres discountedBills).toOption.map Statement.sql
      = some ("DELETE FROM bills WHERE customer = $1 OR customer IN ($2)"
        ++ " AND EXISTS (SELECT paid * $5 FROM payments WHERE day BETWEEN $3 AND $4)") := by
    decide +kernel
  have selected : (Statement.select .postgres discountedBills).toOption.map Statement.sql
      = some ("SELECT id, total - $7 FROM bills LEFT JOIN discounts ON bill = id AND day < $1"
        ++ " WHERE customer = $2 OR customer IN ($3)"
        ++ " AND EXISTS (SELECT paid * $6 FROM payments WHERE day BETWEEN $4 AND $5)") := by
    decide +kernel
  obtain ⟨u, hu, uSql⟩ := Result.exists_of_map_eq_some updated
  obtain ⟨x, hx, xSql⟩ := Result.exists_of_map_eq_some deleted
  obtain ⟨s, hs, sSql⟩ := Result.exists_of_map_eq_some selected
  obtain ⟨-, changed, -, -, -, read⟩ :=
    (Query.one_condition .postgres discountedBills).2 "bills" rfl (by decide)
  obtain ⟨y, hy, changes⟩ := changed _ u hu
  obtain ⟨z, head, joined, later, hz, reads⟩ := read s hs
  cases hx.symm.trans hy
  cases hx.symm.trans hz
  have values : (spaced joined).values = [.int 9] := by
    rw [← Except.ok.inj reads.joins]
    rfl
  have bound := reads.bindings
  rw [values] at bound
  exact ⟨u, x, s, _, hu, hx, hs, xSql, uSql, sSql, changes.bindings, bound⟩

end SqlQuery
