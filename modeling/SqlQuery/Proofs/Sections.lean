import SqlQuery.Proofs.Queries

/-!
# The sections of a statement

A statement is its select list, and after it one section after the other with a blank before each
(`Fragment.spaced`, `Query.Written`). So its text can be cut before any section, as
`render_spaced_append` says.
-/

namespace SqlQuery

open Fragment

variable {d : Dialect} {q : Query} {f : Fragment}

/-- Sections with a blank before each. -/
def Fragment.spaced (sections : List Fragment) : Fragment :=
  sections.foldr (fun part rest => text " " ++ part ++ rest) (text "")

theorem Fragment.render_spaced_append (placeholder : Nat → String) (fs gs : List Fragment)
    (start : Nat) : (spaced (fs ++ gs)).render placeholder start
      = (spaced fs).render placeholder start
        ++ (spaced gs).render placeholder (start + (spaced fs).size) := by
  induction fs generalizing start with
  | nil => exact String.empty_append.symm
  | cons f fs ih =>
    show (text " " ++ f).render placeholder start
        ++ (spaced (fs ++ gs)).render placeholder (start + (text " " ++ f).size)
      = (text " " ++ f).render placeholder start
          ++ (spaced fs).render placeholder (start + (text " " ++ f).size)
        ++ (spaced gs).render placeholder (start + ((text " " ++ f).size + (spaced fs).size))
    rw [ih, String.append_assoc, Nat.add_assoc]

theorem Fragment.render_spaced_cons (placeholder : Nat → String) (f : Fragment)
    (fs : List Fragment) (start : Nat) : (spaced (f :: fs)).render placeholder start
      = " " ++ f.render placeholder start
        ++ (spaced fs).render placeholder (start + f.size) := by
  show " " ++ f.render placeholder (start + 0)
    ++ (spaced fs).render placeholder (start + (0 + f.size)) = _
  rw [Nat.add_zero, Nat.zero_add]

theorem Fragment.values_spaced_append (fs gs : List Fragment) :
    (spaced (fs ++ gs)).values = (spaced fs).values ++ (spaced gs).values := by
  induction fs with
  | nil => rfl
  | cons f fs ih =>
    show (text " " ++ f).values ++ (spaced (fs ++ gs)).values
      = (text " " ++ f).values ++ (spaced fs).values ++ (spaced gs).values
    rw [ih, List.append_assoc]

/-- The last section is the end of the text. -/
theorem Fragment.render_spaced_concat (placeholder : Nat → String) (fs : List Fragment)
    (s : String) (start : Nat) :
    ∃ before, (spaced (fs ++ [text s])).render placeholder start = before ++ " " ++ s := by
  refine ⟨(spaced fs).render placeholder start, ?_⟩
  rw [render_spaced_append, String.append_assoc]
  exact congrArg _ String.append_empty

/-- The section that names the table. -/
def sourceFragments : Option String → List Fragment
  | none | some "" => []
  | some t => [text ("FROM " ++ t)]

/-- The section of the filters. -/
def whereFragments (conditions : List (Connective × Fragment)) : List Fragment :=
  if conditions.isEmpty then [] else [text "WHERE " ++ connected conditions]

/-- What is written for a query, section by section. -/
inductive Query.Written (d : Dialect) (q : Query) : Fragment → Prop
  | of {joined grouped branches tail : List Fragment} {conditions : List (Connective × Fragment)}
    {head : Fragment} (joins : joinFragments d q.joins = .ok joined)
    (filters : filterFragments d q.filters = .ok conditions)
    (groups : groupFragments d q.groups q.havings = .ok grouped)
    (unions : branchFragments d q.unions = .ok branches)
    (bounds : tailFragments q.orders q.limit q.offset q.lock = .ok tail)
    (selects : selectHead q.distinct q.selects q.selectValues = .ok head) :
    Written d q (.headed head (spaced (sourceFragments q.table ++ joined
      ++ whereFragments conditions ++ grouped ++ branches ++ tail)))

theorem Query.written_of_fragment (h : q.fragment d = .ok f) : q.Written d f := by
  obtain ⟨table, selects, distinct, filters, joins, groups, havings, orders, unions, limit, offset,
    lock, selectValues⟩ := q
  obtain ⟨joined, hjoined, h⟩ := Result.bind_eq_ok.1 h
  obtain ⟨conditions, hconditions, h⟩ := Result.bind_eq_ok.1 h
  obtain ⟨grouped, hgrouped, h⟩ := Result.bind_eq_ok.1 h
  obtain ⟨branches, hbranches, h⟩ := Result.bind_eq_ok.1 h
  obtain ⟨tail, htail, h⟩ := Result.bind_eq_ok.1 h
  obtain ⟨head, hhead, h⟩ := Result.bind_eq_ok.1 h
  rw [← Result.pure_eq_ok.1 h]
  exact .of hjoined hconditions hgrouped hbranches htail hhead

theorem Query.fragment_of_written (h : q.Written d f) : q.fragment d = .ok f := by
  obtain @⟨joined, grouped, branches, tail, conditions, head, hjoined, hconditions, hgrouped,
    hbranches, htail, hhead⟩ := h
  obtain ⟨table, selects, distinct, filters, joins, groups, havings, orders, unions, limit, offset,
    lock, selectValues⟩ := q
  refine Result.bind_eq_ok.2 ⟨joined, hjoined, ?_⟩
  refine Result.bind_eq_ok.2 ⟨conditions, hconditions, ?_⟩
  refine Result.bind_eq_ok.2 ⟨grouped, hgrouped, ?_⟩
  refine Result.bind_eq_ok.2 ⟨branches, hbranches, ?_⟩
  refine Result.bind_eq_ok.2 ⟨tail, htail, ?_⟩
  exact Result.bind_eq_ok.2 ⟨head, hhead, rfl⟩

end SqlQuery
