import SqlQuery.Proofs.CachedReads
import SqlQuery.Proofs.FixedResults
import SqlQuery.Proofs.Sections

/-!
# Select lists of their own

Some reads put a select list of their own in place of the query's: one column for its values, and a
constant to see whether there are rows (`Operation.projected?`). That list has one item. The
branches of a UNION are queries of their own and keep their lists.

A statement has one fragment for each item of a select list, in the statement itself and in its
branches (`Fragment.Unites`). So where a query and its branches agree on how many items they select
(`Query.Aligned`), what is read from them still agrees exactly if that number is one
(`Operation.projection_unites`).
-/

namespace SqlQuery

open Effect Fragment

variable {d : Dialect} {q q' : Query} {f : Fragment}

/-! ## Items in statements -/

/-- A SELECT with `n` items in its list. -/
inductive Fragment.Selects : Fragment → Nat → Prop
  | of (keyword : String) (items sections : List Fragment) :
    Selects (.headed (text keyword ++ intercalate ", " items) (spaced sections)) items.length

/-- A SELECT with `n` items in parentheses, as a branch of a UNION. -/
inductive Fragment.Branches : Fragment → Nat → Prop
  | of (keyword : String) {sub : Fragment} {n : Nat} (selects : sub.Selects n) :
    Branches (text keyword ++ sub ++ text ")") n

/-- A SELECT with `n` items, among whose sections there are branches with `ns` items. -/
inductive Fragment.Unites : Fragment → Nat → List Nat → Prop
  | of (keyword : String) (items before after : List Fragment) {branches : List Fragment}
    {ns : List Nat} (each : List.Forall₂ Fragment.Branches branches ns) :
    Unites (.headed (text keyword ++ intercalate ", " items) (spaced (before ++ branches ++ after)))
      items.length ns

/-- The number of items in the select lists of a query's branches. -/
def Query.branchItems (q : Query) : List Nat :=
  q.unions.map fun b => b.query.selects.length

theorem length_selectItems {selects : List SelectItem} {values left : List Value}
    {items : List Fragment} (h : selectItems selects values = .ok (items, left)) :
    items.length = selects.length := by
  induction selects generalizing values items with
  | nil =>
    cases h
    rfl
  | cons item rest ih =>
    cases item with
    | column name shownAs =>
      obtain ⟨⟨items, left⟩, hrest, h⟩ := Result.bind_eq_ok.1 h
      cases h
      exact congrArg (· + 1) (ih hrest)
    | raw raw shownAs =>
      obtain ⟨item, -, h⟩ := Result.bind_eq_ok.1 h
      obtain ⟨⟨items, left⟩, hrest, h⟩ := Result.bind_eq_ok.1 h
      cases h
      exact congrArg (· + 1) (ih hrest)

/-- A select list that is not empty is written item by item. -/
theorem selectHead_lists {distinct : Bool} {selects : List SelectItem} {values : List Value}
    {head : Fragment} (h : selectHead distinct selects values = .ok head)
    (hselects : selects ≠ []) :
    ∃ keyword items, head = text keyword ++ intercalate ", " items
      ∧ items.length = selects.length := by
  unfold selectHead at h
  rw [if_neg (by simpa using hselects)] at h
  obtain ⟨⟨items, left⟩, hitems, h⟩ := Result.bind_eq_ok.1 h
  dsimp only at h
  split at h
  next =>
    cases h
    exact ⟨_, items, rfl, length_selectItems hitems⟩
  next => exact absurd h Result.reject_ne_ok

theorem Query.selects_of_fragment (h : q.fragment d = .ok f) (hselects : q.selects ≠ []) :
    f.Selects q.selects.length := by
  obtain @⟨_, _, _, _, _, head, _, _, _, _, _, hhead⟩ := written_of_fragment h
  obtain ⟨keyword, items, rfl, hitems⟩ := selectHead_lists hhead hselects
  rw [← hitems]
  exact .of keyword items _

theorem branches_of_fragments {unions : List Branch} {branches : List Fragment}
    (h : branchFragments d unions = .ok branches)
    (hselects : ∀ b ∈ unions, b.query.selects ≠ []) :
    List.Forall₂ Fragment.Branches branches (unions.map fun b => b.query.selects.length) := by
  induction unions generalizing branches with
  | nil =>
    rw [branchFragments] at h
    cases h
    exact .nil
  | cons b rest ih =>
    obtain ⟨query, all⟩ := b
    rw [branchFragments] at h
    obtain ⟨sub, hsub, h⟩ := Result.bind_eq_ok.1 h
    obtain ⟨others, hothers, h⟩ := Result.bind_eq_ok.1 h
    cases h
    obtain ⟨hquery, hrest⟩ := List.forall_mem_cons.1 hselects
    exact .cons (.of _ (Query.selects_of_fragment hsub hquery)) (ih hothers hrest)

/-- **A statement has one fragment for each item.** This goes for its own select list and for those
of its branches. -/
theorem Query.unites_of_fragment (h : q.fragment d = .ok f) (hselects : q.selects ≠ [])
    (hbranches : ∀ b ∈ q.unions, b.query.selects ≠ []) :
    f.Unites q.selects.length q.branchItems := by
  obtain @⟨_, _, branches, tail, _, head, _, _, _, hunions, _, hhead⟩ := written_of_fragment h
  obtain ⟨keyword, items, rfl, hitems⟩ := selectHead_lists hhead hselects
  rw [← hitems]
  exact .of keyword items _ tail (branches_of_fragments hunions hbranches)

/-! ## Derived queries -/

/-- The query that a read with a select list of its own is answered from. -/
def Operation.projected? (q : Query) : Operation → Option (Result Query)
  | pluck column => some (q.column column)
  | value column => some do return (← q.column column.text).firstOnly
  | .exists | isAbsent => some (.ok q.presence.firstOnly)
  | _ => none

/-- A query and its branches select the same number of items. -/
def Query.Aligned (q : Query) : Prop :=
  ∀ n ∈ q.branchItems, n = q.selects.length

/-- A query is read in place of `q`: one item is selected, no value is bound for it, and every other
part is as it was, but for bounds and keys of the order that may be left out. -/
structure Query.Projects (q q' : Query) : Prop where
  single : ∃ item, q'.selects = [item] ∧ item.markerCount = 0
  bare : q'.selectValues = []
  unions : q'.unions = q.unions
  joins : q'.joins = q.joins
  filters : q'.filters = q.filters
  groups : q'.groups = q.groups
  havings : q'.havings = q.havings
  orders : ∀ o ∈ q'.orders, o ∈ q.orders

theorem SelectItem.markerCount_of_named {column : String} {item : SelectItem}
    (h : SelectItem.named column = .ok item) : item.markerCount = 0 := by
  obtain ⟨name, -, h⟩ := Result.bind_eq_ok.1 (show KeyParts.selectItem _ = _ from h)
  cases h
  rfl

theorem Query.projects_of_column {column : String} (h : q.column column = .ok q') :
    q.Projects q' := by
  obtain ⟨item, hitem, h⟩ := Result.bind_eq_ok.1 h
  cases h
  exact {
    single := ⟨item, rfl, SelectItem.markerCount_of_named hitem⟩
    bare := rfl
    unions := rfl
    joins := rfl
    filters := rfl
    groups := rfl
    havings := rfl
    orders := fun _ h => h }

theorem Query.projects_presence (q : Query) : q.Projects q.presence where
  single := ⟨_, rfl, by decide +kernel⟩
  bare := rfl
  unions := rfl
  joins := rfl
  filters := rfl
  groups := rfl
  havings := rfl
  orders _ h := nomatch h

namespace Query.Projects

theorem firstOnly (h : q.Projects q') : q.Projects q'.firstOnly :=
  { h with }

theorem branchItems (h : q.Projects q') : q'.branchItems = q.branchItems :=
  congrArg (List.map _) h.unions

theorem length_selects (h : q.Projects q') : q'.selects.length = 1 := by
  obtain ⟨item, hitem, -⟩ := h.single
  rw [hitem]
  rfl

theorem selects_ne_nil (h : q.Projects q') : q'.selects ≠ [] := by
  obtain ⟨item, hitem, -⟩ := h.single
  rw [hitem]
  exact List.cons_ne_nil _ _

/-- The branches keep their number of items, so it is still that of the query only if it is one. -/
theorem aligned_iff (h : q.Projects q') (hunions : q.unions ≠ []) (haligned : q.Aligned) :
    q'.Aligned ↔ q.selects.length = 1 := by
  unfold Aligned
  rw [h.branchItems, h.length_selects]
  constructor
  · intro heach
    obtain ⟨n, hn⟩ := List.exists_mem_of_ne_nil q.branchItems (mt List.map_eq_nil_iff.1 hunions)
    exact (haligned n hn).symm.trans (heach n hn)
  · exact fun hone n hn => (haligned n hn).trans hone

/-- What can be written of a query can be written of one that is read in its place. -/
theorem compiles (h : q.Projects q') (hq : q.Compiles d) : q'.Compiles d := by
  have hall := q.compiles_iff.1 hq
  rw [Query.statements_eq, List.forall_mem_cons] at hall
  obtain ⟨hself, hinside⟩ := hall
  refine (Query.compiles_iff q').2 ?_
  rw [Query.statements_eq, List.forall_mem_cons, h.joins, h.filters, h.unions]
  refine ⟨?_, hinside⟩
  obtain ⟨item, hitem, hmarkers⟩ := h.single
  exact {
    joins := h.joins ▸ hself.joins
    filters := by
      unfold Query.shownFilters
      rw [h.joins, h.filters]
      exact hself.filters
    groups := h.groups ▸ hself.groups
    havings := h.havings ▸ hself.havings
    orders := fun o ho => hself.orders o (h.orders o ho)
    selects := by
      rw [h.bare, hitem]
      exact .inr (congrArg (· + 0) hmarkers).symm }

end Query.Projects

theorem Operation.projects_of_projected {op : Operation}
    (h : op.projected? q = some (.ok q')) : q.Projects q' := by
  cases op with
  | pluck column => exact Query.projects_of_column (Option.some.inj h)
  | value column =>
    obtain ⟨selected, hselected, h⟩ := Result.bind_eq_ok.1 (Option.some.inj h)
    cases h
    exact (Query.projects_of_column hselected).firstOnly
  | «exists» | isAbsent =>
    cases h
    exact q.projects_presence.firstOnly
  | _ => cases h

/-- The statement of such a read is that of the query that it is answered from. -/
theorem Operation.readStatement_of_projected {op : Operation} {r : Result Query}
    (h : op.projected? q = some r) :
    op.readStatement? d q = some (r >>= fun q' => Statement.select d q') := by
  cases op with
  | pluck column =>
    cases h
    rfl
  | value column =>
    cases h
    cases hselected : q.column column.text <;> simp [readStatement?, hselected] <;> rfl
  | «exists» | isAbsent =>
    cases h
    rfl
  | _ => cases h

/-- **When projections of a union agree.** Let a query and its branches select the same number of
items, one at least. To pluck a column, to take its first value or to see whether there are rows,
one statement is read: it has one item, and its branches as many as before. So the query that is
read agrees with its branches exactly if that number is one. It can be written wherever the query
can. -/
theorem Operation.projection_unites {σ : Type} (e : Engine σ) (settings : Settings)
    (visitor : Visitor σ) {op : Operation} {r : Result Query} (hop : op.projected? q = some r)
    (hselects : q.selects ≠ []) (hunions : q.unions ≠ []) (haligned : q.Aligned) :
    op.run e settings visitor q
        = (ofResult (r >>= fun q' => Statement.select e.dialect q') >>= fun s =>
          e.fetchCached s >>= fun rows => ofResult (op.readAnswer q rows))
    ∧ ∀ q', r = .ok q' →
      (q'.Aligned ↔ q.selects.length = 1)
      ∧ (∀ s, Statement.select e.dialect q' = .ok s → ∃ f, s = .ofFragment e.dialect f
        ∧ f.Unites 1 (List.replicate q.unions.length q.selects.length))
      ∧ (q.Compiles e.dialect → q'.Compiles e.dialect) := by
  refine ⟨run_read e settings visitor (readStatement_of_projected hop), ?_⟩
  rintro q' rfl
  have hprojects := projects_of_projected hop
  refine ⟨hprojects.aligned_iff hunions haligned, fun s hs => ?_, hprojects.compiles⟩
  obtain ⟨f, hf, hs⟩ := Result.bind_eq_ok.1 hs
  cases hs
  have hbranches : ∀ b ∈ q'.unions, b.query.selects ≠ [] := by
    intro b hb hempty
    rw [hprojects.unions] at hb
    have hlength := haligned _ (List.mem_map_of_mem hb)
    rw [hempty] at hlength
    exact hselects (List.length_eq_zero_iff.1 hlength.symm)
  have hitems : q'.branchItems = List.replicate q.unions.length q.selects.length := by
    rw [hprojects.branchItems, List.eq_replicate_iff]
    exact ⟨List.length_map _, haligned⟩
  have hunites := q'.unites_of_fragment hf hprojects.selects_ne_nil hbranches
  rw [hprojects.length_selects, hitems] at hunites
  exact ⟨f, rfl, hunites⟩

/-- Columns of one table and of another. -/
def eitherTable (columns : List String) : Query where
  table := some "t"
  selects := columns.map (.column · none)
  unions := [{ query := { table := some "s", selects := columns.map (.column · none) } }]

/-- The ids of two tables are plucked from a union of ids. -/
theorem eitherTable_plucked : (eitherTable ["id"]).Aligned
    ∧ ∃ q' s, (eitherTable ["id"]).column "id" = .ok q' ∧ q'.Aligned
      ∧ Statement.select .mysql q' = .ok s ∧ s.sql = "SELECT id FROM t UNION (SELECT id FROM s)"
      ∧ ∃ f, s = .ofFragment .mysql f ∧ f.Unites 1 [1] := by
  have haligned : (eitherTable ["id"]).Aligned := List.forall_mem_singleton.2 rfl
  have hsql : ((eitherTable ["id"]).column "id" >>= Statement.select .mysql).toOption.map
      Statement.sql = some "SELECT id FROM t UNION (SELECT id FROM s)" := by
    decide +kernel
  obtain ⟨s, hs, hsql⟩ := Result.exists_of_map_eq_some hsql
  obtain ⟨q', hq', hs⟩ := Result.bind_eq_ok.1 hs
  have hprojected : (Operation.pluck "id").projected? (eitherTable ["id"])
      = some ((eitherTable ["id"]).column "id") := rfl
  obtain ⟨-, hread⟩ := Operation.projection_unites (numberedEngine 3 3) {} (fun _ => pure .null)
    hprojected (List.cons_ne_nil _ _) (List.cons_ne_nil _ _) haligned
  obtain ⟨hselected, hunites, -⟩ := hread q' hq'
  exact ⟨haligned, q', s, hq', hselected.2 rfl, hs, hsql, hunites s hs⟩

/-- The ids of two tables that are united with their names are one column beside two. -/
theorem eitherTable_misread : (eitherTable ["id", "name"]).Aligned
    ∧ ((eitherTable ["id", "name"]).column "id" >>= Statement.select .mysql).toOption.map
        Statement.sql
      = some "SELECT id FROM t UNION (SELECT id, name FROM s)" := by
  refine ⟨List.forall_mem_singleton.2 rfl, ?_⟩
  decide +kernel

end SqlQuery
