import SqlQuery.Proofs.FixedResults
import SqlQuery.Proofs.Histories

/-!
# What is counted for a page

The number of rows that is shown with a page is asked for by a statement of its own
(`Query.countStatement`). For a query without groups, DISTINCT and branches it counts the rows of
the same sections that the page is read from; else it counts the rows of a statement. That
statement keeps the select list for groups and DISTINCT. With branches alone the list is dropped,
so the rows that are counted are those of the query only if its list is shown as `*` and binds
nothing (`Query.SelectsAll`).
-/

namespace SqlQuery

open Effect Fragment

/-- All rows that a query describes, in no order and not locked. -/
def Query.described (q : Query) : Query :=
  { q.unbounded with lock := none }

/-- The statement for the number of all rows of a page's query. -/
def Query.countStatement (d : Dialect) (q : Query) : Result Statement :=
  q.counting.aggregateStatement d .count ("*" : String)

/-- The statement for the number of rows of a statement. -/
def Statement.counted (s : Statement) : Statement :=
  { s with sql := "SELECT COUNT(*) AS aggregate FROM (" ++ s.sql ++ ") AS aggregate_table" }

/-- The select list of a query is shown as `*` and binds nothing. -/
def Query.SelectsAll (d : Dialect) (q : Query) : Prop :=
  ∃ head, selectHead q.distinct q.selects q.selectValues = .ok head ∧ head.values = []
    ∧ head.render d.placeholder 0 = "SELECT *"

/-- The sections FROM, JOIN and WHERE of a statement. -/
def Query.sourceSections (d : Dialect) (q : Query) : Result (List Fragment) := do
  let joined ← joinFragments d q.joins
  let conditions ← filterFragments d q.filters
  return sourceFragments q.table ++ joined ++ whereFragments conditions

/-! ## Fragments without values -/

/-- Without values there is nothing to number. -/
theorem Fragment.render_of_values_nil (placeholder : Nat → String) {f : Fragment}
    (h : f.values = []) (start start' : Nat) :
    f.render placeholder start = f.render placeholder start' := by
  induction f generalizing start start' with
  | text s => rfl
  | slot v => cases h
  | append a b iha ihb =>
    obtain ⟨ha, hb⟩ := List.append_eq_nil_iff.1 h
    rw [render, render, iha ha start start', ihb hb _ (start' + a.size)]
  | headed head body ihhead ihbody =>
    obtain ⟨hbody, hhead⟩ := List.append_eq_nil_iff.1 h
    rw [render, render, ihhead hhead _ (start' + body.size), ihbody hbody start start']

theorem append_between_inj {first last s t : String} :
    first ++ s ++ last = first ++ t ++ last ↔ s = t := by
  rw [String.append_left_inj, String.append_right_inj]

theorem Statement.counted_inj {s t : Statement} : s.counted = t.counted ↔ s = t := by
  constructor
  · intro h
    obtain ⟨sql, bindings, dialect⟩ := s
    obtain ⟨sql', bindings', dialect'⟩ := t
    obtain ⟨hsql, hrest⟩ := Statement.mk.inj h
    rw [Statement.mk.injEq]
    exact ⟨append_between_inj.1 hsql, hrest⟩
  · rintro rfl
    rfl

namespace Query

variable {d : Dialect} {q : Query}

/-! ## Queries that are counted as tables of their own -/

section Compound

theorem counting_of_kept (h : (q.groups.isEmpty && !q.distinct) = false) :
    q.counting = q.unbounded := by
  unfold counting
  exact if_neg (Bool.eq_false_iff.1 h)

theorem counting_of_dropped (h : (q.groups.isEmpty && !q.distinct) = true) :
    q.counting = { q.unbounded with selects := [], selectValues := [] } :=
  if_pos h

theorem aggregateStatement_of_compound (h : q.isCompound = true) :
    q.aggregateStatement d .count ("*" : String)
      = (Statement.select d q.described).map Statement.counted := by
  have hself : q.described.isCompound = true := h
  have hwords : "SELECT " ++ Aggregate.count.text ++ "(" ++ "*" ++ ") AS aggregate FROM ("
      = "SELECT COUNT(*) AS aggregate FROM (" := by decide
  refine (if_pos hself).trans ?_
  cases hinner : Statement.select d q.described with
  | error err =>
    rw [show Statement.select d { q.unbounded with lock := none } = .error err from hinner]
    rfl
  | ok inner =>
    rw [show Statement.select d { q.unbounded with lock := none } = .ok inner from hinner]
    exact congrArg (fun words => Except.ok { inner with
      sql := words ++ inner.sql ++ ") AS aggregate_table" }) hwords

/-- With groups or DISTINCT the rows that are counted are those of the query. -/
theorem countStatement_of_kept (h : (q.groups.isEmpty && !q.distinct) = false) :
    q.countStatement d = (Statement.select d q.described).map Statement.counted := by
  have hcompound : q.isCompound = true := by
    unfold isCompound
    cases hgroups : q.groups.isEmpty <;> cases hdistinct : q.distinct <;> simp_all
  rw [countStatement, counting_of_kept h]
  exact aggregateStatement_of_compound (q := q.unbounded) hcompound

/-- With branches alone they are those of the query without its select list. -/
theorem countStatement_of_dropped (h : (q.groups.isEmpty && !q.distinct) = true)
    (hunions : q.unions ≠ []) : q.countStatement d
      = (Statement.select d { q.described with selects := [], selectValues := [] }).map
        Statement.counted := by
  rw [countStatement, counting_of_dropped h]
  refine aggregateStatement_of_compound
    (q := { q.unbounded with selects := [], selectValues := [] }) ?_
  simp [isCompound, unbounded, hunions]

/-- The rows of a query with branches alone are counted exactly if its select list is shown as `*`
and binds nothing. -/
theorem countStatement_iff_of_dropped (h : (q.groups.isEmpty && !q.distinct) = true)
    (hunions : q.unions ≠ []) {inner : Statement}
    (hinner : Statement.select d q.described = .ok inner) :
    q.countStatement d = .ok inner.counted ↔ q.SelectsAll d := by
  obtain ⟨f, hf, hstatement⟩ := Result.bind_eq_ok.1 hinner
  cases hstatement
  obtain @⟨joined, grouped, branches, tail, conditions, head, hjoined, hconditions, hgrouped,
    hbranches, htail, hhead⟩ := written_of_fragment hf
  obtain ⟨sections, hsections⟩ : ∃ sections, spaced (sourceFragments q.described.table ++ joined
    ++ whereFragments conditions ++ grouped ++ branches ++ tail) = sections := ⟨_, rfl⟩
  have hdistinct : q.distinct = false := by
    cases hdistinct : q.distinct <;> simp_all
  have hall : selectHead q.distinct [] [] = .ok (text "SELECT *") := by
    rw [hdistinct]
    rfl
  have hdropped : Statement.select d { q.described with selects := [], selectValues := [] }
      = .ok (.ofFragment d (.headed (text "SELECT *") sections)) := by
    rw [← hsections]
    exact Result.bind_eq_ok.2 ⟨_, fragment_of_written
      (.of hjoined hconditions hgrouped hbranches htail hall), rfl⟩
  rw [countStatement_of_dropped h hunions, hdropped, hsections]
  show Except.ok (Statement.counted _) = .ok _ ↔ _
  rw [Except.ok.injEq, Statement.counted_inj]
  show Statement.mk ("SELECT *" ++ sections.render d.placeholder 0) (sections.values ++ []) d.name
      = Statement.mk (head.render d.placeholder (0 + sections.size)
        ++ sections.render d.placeholder 0) (sections.values ++ head.values) d.name ↔ _
  rw [Statement.mk.injEq, String.append_left_inj, List.append_right_inj]
  constructor
  · rintro ⟨hshown, hvalues, -⟩
    exact ⟨head, hhead, hvalues.symm, (render_of_values_nil _ hvalues.symm _ _).trans hshown.symm⟩
  · rintro ⟨head', hhead', hvalues, hshown⟩
    obtain rfl : head' = head := Except.ok.inj (hhead'.symm.trans hhead)
    exact ⟨(hshown.symm.trans (render_of_values_nil _ hvalues _ _)), hvalues.symm, rfl⟩

end Compound

/-! ## Queries that are counted by their sections -/

section Plain

theorem aggregateStatement_of_plain (h : q.isCompound = false) :
    q.aggregateStatement d .count ("*" : String)
      = Statement.select d (q.described.selecting (.raw "COUNT(*) AS aggregate" none)) := by
  have hself : ¬q.described.isCompound = true := Bool.eq_false_iff.1 h
  have hwords : Aggregate.count.text ++ "(" ++ "*" ++ ") AS aggregate"
      = "COUNT(*) AS aggregate" := by decide
  refine (if_neg hself).trans ?_
  exact congrArg (fun words => Statement.select d (q.described.selecting (.raw words none))) hwords

theorem countStatement_eq_of_plain (h : q.isCompound = false) : q.countStatement d
    = Statement.select d (q.described.selecting (.raw "COUNT(*) AS aggregate" none)) := by
  have hdropped : (q.groups.isEmpty && !q.distinct) = true := by
    unfold isCompound at h
    cases hgroups : q.groups.isEmpty <;> cases hdistinct : q.distinct <;> simp_all
  rw [countStatement, counting_of_dropped hdropped]
  exact aggregateStatement_of_plain
    (q := { q.unbounded with selects := [], selectValues := [] }) h

theorem selectHead_count : selectHead false [.raw "COUNT(*) AS aggregate" none] []
    = .ok (text "SELECT " ++ text "COUNT(*) AS aggregate") := by
  have hsplit : RawText.split "COUNT(*) AS aggregate" = ["COUNT(*) AS aggregate"] := by
    decide +kernel
  have hitem : Fragment.ofRaw "COUNT(*) AS aggregate" [] = .ok (text "COUNT(*) AS aggregate") := by
    unfold Fragment.ofRaw
    rw [hsplit]
    rfl
  have hitems : selectItems [.raw "COUNT(*) AS aggregate" none] []
      = .ok ([text "COUNT(*) AS aggregate"], []) := by
    rw [selectItems, List.take_nil, hitem, List.drop_nil]
    rfl
  unfold selectHead
  rw [hitems]
  rfl

/-- What is written for such a query if it has no HAVING either. -/
theorem fragment_of_plain_iff (hplain : q.isCompound = false) (hhavings : q.havings = [])
    {f : Fragment} : q.fragment d = .ok f ↔ ∃ sections tail head,
      q.sourceSections d = .ok sections
        ∧ tailFragments q.orders q.limit q.offset q.lock = .ok tail
        ∧ selectHead false q.selects q.selectValues = .ok head
        ∧ .headed head (spaced (sections ++ tail)) = f := by
  obtain ⟨⟨hgroups, hdistinct⟩, hunions⟩ :
      (q.groups = [] ∧ q.distinct = false) ∧ q.unions = [] := by
    simpa [isCompound] using hplain
  have hnogroups : groupFragments d q.groups q.havings = .ok [] := by
    rw [hgroups, hhavings]
    rfl
  have hnobranches : branchFragments d q.unions = .ok [] := by
    rw [hunions, branchFragments]
  have hshown (sections tail : List Fragment) :
      sections ++ [] ++ [] ++ tail = sections ++ tail := by
    rw [List.append_nil, List.append_nil]
  constructor
  · intro hf
    obtain @⟨joined, grouped, branches, tail, conditions, head, hjoined, hconditions, hgrouped,
      hbranches, htail, hhead⟩ := written_of_fragment hf
    obtain rfl : [] = grouped := Except.ok.inj (hnogroups.symm.trans hgrouped)
    obtain rfl : [] = branches := Except.ok.inj (hnobranches.symm.trans hbranches)
    rw [hdistinct] at hhead
    refine ⟨sourceFragments q.table ++ joined ++ whereFragments conditions, tail, head, ?_, htail,
      hhead, ?_⟩
    · exact Result.bind_eq_ok.2
        ⟨joined, hjoined, Result.bind_eq_ok.2 ⟨conditions, hconditions, rfl⟩⟩
    · rw [hshown]
  · rintro ⟨sections, tail, head, hsections, htail, hhead, rfl⟩
    obtain ⟨joined, hjoined, hsections⟩ := Result.bind_eq_ok.1 hsections
    obtain ⟨conditions, hconditions, hsections⟩ := Result.bind_eq_ok.1 hsections
    cases hsections
    rw [← hdistinct] at hhead
    rw [← hshown]
    exact fragment_of_written (.of hjoined hconditions hnogroups hnobranches htail hhead)

/-- A page of a query without groups, DISTINCT, branches and HAVING is read from the sections that
are counted for it, and the values in these sections have the same numbers. -/
theorem countStatement_of_plain (hplain : q.isCompound = false) (hhavings : q.havings = [])
    {offset count : Nat} {data : Statement}
    (hdata : Statement.select d (q.rows offset count) = .ok data) :
    ∃ sections tail head, q.sourceSections d = .ok sections
      ∧ tailFragments q.orders (some count) (some offset) q.lock = .ok tail
      ∧ selectHead false q.selects q.selectValues = .ok head
      ∧ data.sql = head.render d.placeholder (spaced (sections ++ tail)).size
        ++ (spaced sections).render d.placeholder 0
        ++ (spaced tail).render d.placeholder (spaced sections).size
      ∧ data.bindings = (spaced sections).values ++ (spaced tail).values ++ head.values
      ∧ q.countStatement d = .ok {
          sql := "SELECT COUNT(*) AS aggregate" ++ (spaced sections).render d.placeholder 0
          bindings := (spaced sections).values
          dialect := d.name } := by
  obtain ⟨f, hf, hstatement⟩ := Result.bind_eq_ok.1 hdata
  cases hstatement
  obtain ⟨sections, tail, head, hsections, htail, hhead, rfl⟩ :=
    (fragment_of_plain_iff (q := q.rows offset count) hplain hhavings).1 hf
  refine ⟨sections, tail, head, hsections, htail, hhead, ?_, ?_, ?_⟩
  · show head.render d.placeholder (0 + (spaced (sections ++ tail)).size)
      ++ (spaced (sections ++ tail)).render d.placeholder 0 = _
    rw [render_spaced_append, Nat.zero_add, Nat.zero_add, String.append_assoc]
  · show (spaced (sections ++ tail)).values ++ head.values = _
    rw [values_spaced_append]
  · have hcount : (q.described.selecting (.raw "COUNT(*) AS aggregate" none)).fragment d
        = .ok (.headed (text "SELECT " ++ text "COUNT(*) AS aggregate")
          (spaced (sections ++ []))) :=
      (fragment_of_plain_iff (q := q.described.selecting (.raw "COUNT(*) AS aggregate" none))
        hplain hhavings).2 ⟨sections, [], _, hsections, rfl, selectHead_count, rfl⟩
    have hwords : "SELECT " ++ "COUNT(*) AS aggregate" = "SELECT COUNT(*) AS aggregate" := by decide
    rw [countStatement_eq_of_plain hplain]
    refine Result.bind_eq_ok.2 ⟨_, hcount, ?_⟩
    show Except.ok (Statement.mk (("SELECT " ++ "COUNT(*) AS aggregate")
      ++ (spaced (sections ++ [])).render d.placeholder 0)
        ((spaced (sections ++ [])).values ++ []) d.name) = _
    rw [List.append_nil, List.append_nil, hwords]

end Plain

/-- Of the queries that are counted as tables of their own, those with groups or DISTINCT are always
counted as they are described. -/
theorem counts_described_iff (hcompound : q.isCompound = true) {inner : Statement}
    (hinner : Statement.select d q.described = .ok inner) :
    q.countStatement d = .ok inner.counted
      ↔ q.groups ≠ [] ∨ q.distinct = true ∨ q.SelectsAll d := by
  by_cases hdrop : (q.groups.isEmpty && !q.distinct) = true
  · obtain ⟨hgroups, hdistinct⟩ : q.groups = [] ∧ q.distinct = false := by simpa using hdrop
    have hunions : q.unions ≠ [] := by
      rintro hunions
      simp [isCompound, hgroups, hdistinct, hunions] at hcompound
    rw [countStatement_iff_of_dropped hdrop hunions hinner]
    simp [hgroups, hdistinct]
  · rw [countStatement_of_kept (Bool.eq_false_iff.2 hdrop), hinner]
    refine iff_of_true rfl ?_
    by_cases hgroups : q.groups = []
    · exact .inr (.inl (by simpa [hgroups] using hdrop))
    · exact .inl hgroups

end Query

/-! ## The statement that is sent -/

section Sent

variable {σ α : Type} {e : Engine σ} {w : World (Observed σ)} {before : List Event}

theorem Effect.entered_continues (event : Result α → Event) (x : Effect σ α) :
    (x.entered event).Keeps fun o => before <+: o.record := by
  intro o ho
  rcases hx : x.run.run o.state with ⟨r, t⟩
  rw [run_entered event hx]
  exact ho.trans (List.prefix_append _ _)

theorem Statements.observed_keep (st : Statements σ) (s : Statement) :
    st.observed.Keep (fun o => before <+: o.record) s where
  query := entered_continues _ _
  queryOne := entered_continues _ _
  execute := entered_continues _ _

/-- A statement that is fetched is the next call. -/
theorem Engine.fetch_sends (hready : w.Ready e.wait) (s : Statement) (action : String) :
    ((e.observed.fetch s action).run.run w).2.outside.record
      = w.outside.record ++ [.call s.sql s.bindings] := by
  rcases hquery : (e.statements.query s.sql s.bindings).run.run w.outside.state with ⟨answer, t⟩
  have hread := run_entered (fun _ => Event.call s.sql s.bindings) hquery
  obtain ⟨r, hcall⟩ : ∃ r, (e.observed.readRows s).run.run w.outside
      = (r, { state := t, record := w.outside.record ++ [.call s.sql s.bindings] }) := by
    cases answer with
    | error err => exact ⟨_, run_bind_error hread _⟩
    | ok reading =>
      refine ⟨reading.materialize, (Returns.run_bind hread _).trans ?_⟩
      cases reading.materialize <;> rfl
  obtain ⟨w', hfetch, hleaves⟩ := run_timed (e := e.observed) (s := s) hready action hcall
  have hrun : (e.observed.fetch s action).run.run w = _ := hfetch
  rw [hrun, hleaves.outside]

theorem Engine.paginate_sends (hready : w.Ready e.wait) {q : Query} {s : Statement}
    (hs : q.countStatement e.dialect = .ok s) (r : PageRequest) :
    w.outside.record ++ [.call s.sql s.bindings]
      <+: ((e.observed.paginate q r).run.run w).2.outside.record := by
  let Sent (o : Observed σ) : Prop := w.outside.record ++ [.call s.sql s.bindings] <+: o.record
  let I (v : World (Observed σ)) : Prop := Sent v.outside
  have hfetch : I ((e.observed.fetch s (Text.lower Aggregate.count.text)).run.run w).2 := by
    show _ <+: _
    rw [fetch_sends hready]
  have hwritten : (ofResult (.ok s) : Run (Observed σ) Statement).Returns w s w :=
    returns_ofResult.2 ⟨rfl, rfl⟩
  have htotal :
      Sent ((e.observed.aggregate q.counting .count ("*" : String)).run.run w).2.outside := by
    unfold aggregate
    rw [show q.counting.aggregateStatement e.observed.dialect .count ("*" : String) = .ok s from hs,
      hwritten.run_bind]
    exact Effect.Keeps.holds_bind (I := I) hfetch fun rows => .of_result _
  have hrows : Run.Keeps Sent (e.observed.get (q.rows r.offset r.perPage)) :=
    get_keeps fun s _ => e.statements.observed_keep s
  exact Effect.Keeps.holds_bind (I := I) htotal fun total =>
    hrows.bind fun rows => Effect.Keeps.bind (.of_result _) fun bounds => .of_pure _

/-- Nothing is sent if the statement that counts cannot be written. -/
theorem Engine.paginate_unwritten {q : Query} {err : Error}
    (herr : q.countStatement e.dialect = .error err) (r : PageRequest) :
    (e.observed.paginate q r).run.run w = (.error err, w) := by
  have htotal : (e.observed.aggregate q.counting .count ("*" : String)).run.run w
      = (.error err, w) := by
    unfold aggregate
    rw [show q.counting.aggregateStatement e.observed.dialect .count ("*" : String) = .error err
      from herr]
    rfl
  exact run_bind_error htotal _

end Sent

/-- **What is counted for a page.** Where a slot can be had, the first statement that is sent for a
page is the one that counts, and if that cannot be written nothing is sent.

With groups, DISTINCT or branches it counts the rows of a statement, put in parentheses. That is the
statement for the query as it is described exactly if there are groups or DISTINCT, or if the select
list is shown as `*` and binds nothing. Without these and without HAVING it counts the rows of FROM,
JOIN and WHERE, in the same text as in the statement for the page's rows and with the same values,
which have the same numbers there. -/
theorem Engine.paginate_counts {σ : Type} (e : Engine σ) (q : Query) (r : PageRequest)
    (w : World (Observed σ)) (hready : w.Ready e.wait) :
    (∀ s, q.countStatement e.dialect = .ok s →
      w.outside.record ++ [.call s.sql s.bindings]
        <+: ((e.observed.paginate q r).run.run w).2.outside.record)
    ∧ (∀ err, q.countStatement e.dialect = .error err →
      (e.observed.paginate q r).run.run w = (.error err, w))
    ∧ (q.isCompound = true → ∀ inner, Statement.select e.dialect q.described = .ok inner →
      (q.countStatement e.dialect = .ok inner.counted
        ↔ q.groups ≠ [] ∨ q.distinct = true ∨ q.SelectsAll e.dialect))
    ∧ (q.isCompound = false → q.havings = [] →
      ∀ data, Statement.select e.dialect (q.rows r.offset r.perPage) = .ok data →
        ∃ sections tail head, q.sourceSections e.dialect = .ok sections
          ∧ tailFragments q.orders (some r.perPage) (some r.offset) q.lock = .ok tail
          ∧ selectHead false q.selects q.selectValues = .ok head
          ∧ data.sql = head.render e.dialect.placeholder (spaced (sections ++ tail)).size
            ++ (spaced sections).render e.dialect.placeholder 0
            ++ (spaced tail).render e.dialect.placeholder (spaced sections).size
          ∧ data.bindings = (spaced sections).values ++ (spaced tail).values ++ head.values
          ∧ q.countStatement e.dialect = .ok {
              sql := "SELECT COUNT(*) AS aggregate"
                ++ (spaced sections).render e.dialect.placeholder 0
              bindings := (spaced sections).values
              dialect := e.dialect.name }) := by
  refine ⟨fun s hs => paginate_sends hready hs r, fun err herr => paginate_unwritten herr r,
    fun hcompound inner hinner => ?_, fun hplain hhavings data hdata => ?_⟩
  · exact Query.counts_described_iff hcompound hinner
  · exact Query.countStatement_of_plain hplain hhavings hdata

/-- The roles of users. -/
def userRoles : Query where
  table := some "users"
  selects := [.column "role" none]
  groups := [.column "role" []]

/-- Groups are counted, not the rows in them. -/
theorem userRoles_counted : ∃ s, userRoles.countStatement .mysql = .ok s
    ∧ s.sql = "SELECT COUNT(*) AS aggregate FROM (SELECT role FROM users GROUP BY role)"
      ++ " AS aggregate_table"
    ∧ [.call s.sql s.bindings]
      <+: (((numberedEngine 3 3).observed.paginate userRoles ⟨1, 2⟩).run.run
        { outside := { state := [], record := [] } }).2.outside.record := by
  obtain ⟨hsent, -, hcompound, -⟩ := Engine.paginate_counts (numberedEngine 3 3) userRoles ⟨1, 2⟩
    { outside := { state := [], record := [] } } fun _ hlimiter => nomatch hlimiter
  have hsql : (Statement.select .mysql userRoles.described).toOption.map Statement.sql
      = some "SELECT role FROM users GROUP BY role" := by
    decide +kernel
  obtain ⟨inner, hinner, hsql⟩ := Result.exists_of_map_eq_some hsql
  have hcount := (hcompound rfl inner hinner).2 (.inl (List.cons_ne_nil _ _))
  refine ⟨inner.counted, hcount, ?_, hsent _ hcount⟩
  have hcounted : inner.counted.sql = "SELECT COUNT(*) AS aggregate FROM ("
      ++ "SELECT role FROM users GROUP BY role" ++ ") AS aggregate_table" :=
    congrArg (fun t => "SELECT COUNT(*) AS aggregate FROM (" ++ t ++ ") AS aggregate_table") hsql
  exact hcounted.trans (by decide +kernel)

/-- The ids of one table and of another. -/
def eitherIds : Query where
  table := some "t"
  selects := [.column "id" none]
  unions := [{ query := { table := some "s", selects := [.column "id" none] }, all := false }]

/-- The first table is counted with all its columns, and the other one with one. -/
theorem eitherIds_miscounted : eitherIds.isCompound = true
    ∧ (Statement.select .mysql eitherIds.described).toOption.map Statement.sql
      = some "SELECT id FROM t UNION (SELECT id FROM s)"
    ∧ (eitherIds.countStatement .mysql).toOption.map Statement.sql
      = some ("SELECT COUNT(*) AS aggregate FROM (SELECT * FROM t UNION (SELECT id FROM s))"
        ++ " AS aggregate_table") := by
  refine ⟨rfl, ?_, ?_⟩
  · decide +kernel
  · decide +kernel

end SqlQuery
