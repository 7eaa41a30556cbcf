import SqlQuery.Execution.Operation
import SqlQuery.Proofs.CursorTables
import SqlQuery.Proofs.Recording
import SqlQuery.Proofs.Sending

/-!
# Journals of reading a table that changes

Rows of a table are delivered batch after batch, each after the last row of the one before, and
between two batches the table may change in any way. A `Journal` holds the tables that the batches
came from and the rows that were delivered.

It stays `Journal.Faithful`: the rows are in the order of the key, and a row that was there all the
time is among them if its place is not beyond the last. The next batch takes up where the last row
stands, so a row on either side of it is where it belongs.

An executor, and a visitor who is handed the rows, can be watched: they do what they do, and the
journal is kept beside their state.
-/

namespace SqlQuery

open Effect Recorded

/-! ## Journals -/

/-- The tables that statements were answered from, and the rows that were delivered. -/
structure Journal where
  tables : List Table := []
  delivered : List Row := []

namespace Journal

def ask (j : Journal) (t : Table) : Journal :=
  { j with tables := j.tables ++ [t] }

def deliver (j : Journal) (rows : List Row) : Journal :=
  { j with delivered := j.delivered ++ rows }

@[simp] theorem deliver_nil (j : Journal) : j.deliver [] = j := by
  unfold deliver
  rw [List.append_nil]

@[simp] theorem deliver_deliver (j : Journal) (rows rows' : List Row) :
    (j.deliver rows).deliver rows' = j.deliver (rows ++ rows') := by
  unfold deliver
  rw [List.append_assoc]

/-- The row was there all the time: in every table, where the query reached it. -/
def Lasting (j : Journal) (q : Query) (row : Row) : Prop :=
  ∀ t ∈ j.tables, ∃ r ∈ t, r.row = row ∧ q.Reaches r.truth

end Journal

section Journals

variable {σ κ : Type} [LinearOrder κ]

/-- The cursor after rows: the column of the last one, and null before the first. -/
def cursorAfter (column : String) (rows : List Row) : Value :=
  match rows.getLast? with
  | some row => row.get (resultName column)
  | none => .null

/-- The rows that were delivered are in order, and of the rows that were there all the time none is
missing that does not stand beyond them. -/
structure Journal.Faithful (rank : Value → κ) (column : String) (table : σ → Table) (q : Query)
    (j : Journal) : Prop where
  ascending : j.delivered.Pairwise fun row row' => row.place rank column < row'.place rank column
  held : ∀ row ∈ j.delivered, ∃ s, ∃ r ∈ table s, r.row = row
  reached : ∀ row, j.Lasting q row →
    (∃ row' ∈ j.delivered, row.place rank column ≤ row'.place rank column) → row ∈ j.delivered

variable {rank : Value → κ} {column : String} {table : σ → Table} {q : Query} {j : Journal}
  {s : σ} {count : Nat} {batch : List Row}

namespace Journal.Faithful

theorem start : ({} : Journal).Faithful rank column table q where
  ascending := .nil
  held _ hrow := nomatch hrow
  reached _ _ hwithin := nomatch hwithin.choose_spec.1

/-- Rows are in order also if the last of them were not delivered. -/
theorem ascending_left {rows : List Row} (h : (j.deliver rows).Faithful rank column table q) :
    j.delivered.Pairwise fun row row' => row.place rank column < row'.place rank column :=
  h.ascending.sublist (List.sublist_append_left _ _)

/-- A row that was delivered does not stand beyond the cursor, which is the place of a row. -/
theorem place_le_cursor (h : j.Faithful rank column table q) (hkey : KeyColumn rank column table)
    {row : Row} (hrow : row ∈ j.delivered) :
    cursorAfter column j.delivered ≠ .null
    ∧ row.place rank column ≤ rank (cursorAfter column j.delivered)
    ∧ ∃ last ∈ j.delivered, last.place rank column = rank (cursorAfter column j.delivered) := by
  obtain hnone | ⟨earlier, last, hsplit⟩ := List.eq_nil_or_concat' j.delivered
  · rw [hnone] at hrow
    cases hrow
  · have hcursor : cursorAfter column j.delivered = last.get (resultName column) := by
      unfold cursorAfter
      rw [hsplit, List.getLast?_concat]
    have hlast : last ∈ j.delivered := by
      rw [hsplit]
      exact List.mem_concat_self
    obtain ⟨s, r, hr, hrow'⟩ := h.held last hlast
    have hascending := h.ascending
    rw [hsplit, List.pairwise_append] at hascending
    rw [hcursor]
    refine ⟨hrow' ▸ hkey.present s r hr, ?_, last, hlast, rfl⟩
    rw [hsplit] at hrow
    obtain hearlier | hsame := List.mem_append.1 hrow
    · exact le_of_lt (hascending.2.2 row hearlier last (List.mem_singleton_self last))
    · rw [List.mem_singleton.1 hsame]
      exact le_refl _

/-- A cursor that is not null is the column of a row. -/
theorem cursor_held (h : j.Faithful rank column table q)
    (hsome : cursorAfter column j.delivered ≠ .null) :
    ∃ s, ∃ r ∈ table s, r.row.get (resultName column) = cursorAfter column j.delivered := by
  unfold cursorAfter at hsome ⊢
  cases hlast : j.delivered.getLast? with
  | none =>
    rw [hlast] at hsome
    exact absurd rfl hsome
  | some row =>
    obtain ⟨s, r, hr, rfl⟩ := h.held row (List.mem_of_getLast? hlast)
    exact ⟨s, r, hr, rfl⟩

/-- A row that was there all the time is delivered with the batch that its place belongs to. -/
theorem mem_of_lasting (h : j.Faithful rank column table q) (hkey : KeyColumn rank column table)
    (hbatch : (table s).Batch rank column q (cursorAfter column j.delivered) count batch)
    {row : Row} (hlasting : (j.ask (table s)).Lasting q row)
    (hwithin : batch.length < count
      ∨ ∃ row' ∈ j.delivered ++ batch, row.place rank column ≤ row'.place rank column) :
    row ∈ j.delivered ++ batch := by
  have hbefore : j.Lasting q row := fun t ht => hlasting t (List.mem_append_left _ ht)
  obtain ⟨r, hr, rfl, hreaches⟩ := hlasting (table s) List.mem_concat_self
  by_cases hpassed : ∃ row' ∈ j.delivered, r.row.place rank column ≤ row'.place rank column
  · exact List.mem_append_left _ (h.reached r.row hbefore hpassed)
  · refine List.mem_append_right _ (hbatch.reached r hr hreaches ?_ ?_)
    · intro hsome
      -- a cursor that is not null is the place of a row that was delivered
      have hne : j.delivered ≠ [] := by
        intro hnone
        rw [hnone] at hsome
        exact hsome rfl
      obtain ⟨row', hrow'⟩ := List.exists_mem_of_ne_nil _ hne
      obtain ⟨-, -, last, hlast, hplace⟩ := h.place_le_cursor hkey hrow'
      rw [← hplace]
      exact lt_of_not_ge fun hle => hpassed ⟨last, hlast, hle⟩
    · obtain hshort | ⟨row', hrow', hle⟩ := hwithin
      · exact .inl hshort
      · obtain hold | hnew := List.mem_append.1 hrow'
        · exact absurd ⟨row', hold, hle⟩ hpassed
        · exact .inr ⟨row', hnew, hle⟩

/-- A batch after the cursor may be delivered. -/
theorem deliver (h : j.Faithful rank column table q) (hkey : KeyColumn rank column table)
    (hbatch : (table s).Batch rank column q (cursorAfter column j.delivered) count batch) :
    ((j.ask (table s)).deliver batch).Faithful rank column table q where
  ascending := by
    refine List.pairwise_append.2 ⟨h.ascending, hbatch.ascending, fun row hrow row' hrow' => ?_⟩
    obtain ⟨hsome, hle, -⟩ := h.place_le_cursor hkey hrow
    exact lt_of_le_of_lt hle (hbatch.beyond row' hrow' hsome)
  held := by
    intro row hrow
    obtain hold | hnew := List.mem_append.1 hrow
    · exact h.held row hold
    · exact ⟨s, hbatch.held row hnew⟩
  reached := fun row hlasting hwithin => h.mem_of_lasting hkey hbatch hlasting (.inr hwithin)

end Journal.Faithful

end Journals

/-! ## Runs with a journal -/

section Watched

variable {σ : Type}

/-- The rows in what a visitor is handed. -/
def Value.rows : Value → List Row
  | .mapping row => [row]
  | .list items => items.filterMap fun
    | .mapping row => some row
    | _ => none
  | _ => []

/-- The executor with a journal beside its state, where the table of every query is noted. -/
def Statements.watched (st : Statements σ) (table : σ → Table) :
    Statements (Recorded Journal σ) where
  query sql bindings := do
    let r ← get
    write (·.ask (table r.state))
    act (st.query sql bindings)
  queryOne sql bindings := act (st.queryOne sql bindings)
  execute sql bindings := act (st.execute sql bindings)

def Engine.watched (e : Engine σ) (table : σ → Table) : Engine (Recorded Journal σ) where
  dialect := e.dialect
  statements := e.statements.watched table
  caching := e.caching
  wait := e.wait
  clock r := e.clock r.state

/-- The visitor with a journal beside its state, where the rows that it is handed are noted. -/
def Visitor.watched (visitor : Visitor σ) : Visitor (Recorded Journal σ) := fun v => do
  write (·.deliver v.rows)
  act (visitor v)

/-- A world in which nothing was noted yet. -/
def World.watched (w : World σ) : World (Recorded Journal σ) where
  outside := { state := w.outside, record := {} }
  cache := w.cache
  limiter := w.limiter
  log := w.log
  observed := w.observed

theorem Value.rows_list (rows : List Row) : (Value.list (rows.map .mapping)).rows = rows := by
  change (rows.map Value.mapping).filterMap _ = rows
  rw [List.filterMap_map]
  exact List.filterMap_some

theorem Statements.returns_watched_query {st : Statements σ} {table : σ → Table} {sql : String}
    {bindings : List Value} {r r' : Recorded Journal σ} {reading : Reading}
    (h : ((st.watched table).query sql bindings).Returns r reading r') :
    (st.query sql bindings).Returns r.state reading r'.state
    ∧ r'.record = r.record.ask (table r.state) := by
  obtain ⟨_, t, hwrite, hquery⟩ := returns_bind.1 (returns_get_bind.1 h)
  obtain ⟨hran, hrecord⟩ := returns_act hquery
  have hstate := returns_modify.1 hwrite
  rw [hrecord, record_of_write hwrite]
  rw [hstate] at hran
  exact ⟨hran, rfl⟩

theorem Statements.watched_keep {st : Statements σ} {table : σ → Table} (rows : List Row)
    (s : Statement) : (st.watched table).Keep (fun r => r.record.delivered = rows) s where
  query := fun _ hr => hr
  queryOne := fun _ hr => hr
  execute := fun _ hr => hr

theorem Engine.watched_get_keeps {e : Engine σ} {table : σ → Table} (rows : List Row) (q : Query) :
    Run.Keeps (fun r => r.record.delivered = rows) ((e.watched table).get q) := by
  refine Keeps.bind_result fun s _ => Keeps.bind ?_ fun _ => .of_pure _
  have hkeep : (e.watched table).statements.Keep (fun r => r.record.delivered = rows) s :=
    Statements.watched_keep rows s
  exact fetchCached_keeps hkeep

/-- A first part of the rows was handed to a visitor, and all of them if it wants more. -/
structure Handed (rows : List Row) (w : World (Recorded Journal σ))
    (outcome : Result Bool × World (Recorded Journal σ)) : Prop where
  given : ∃ given, given <+: rows ∧ outcome.2.outside.record = w.outside.record.deliver given
    ∧ (outcome.1 = .ok true → given = rows)
  cache : outcome.2.cache = w.cache

namespace Visitor

variable (visitor : Visitor σ)

theorem handed_wantsMore (v : Value) (w : World (Recorded Journal σ)) :
    Handed v.rows w ((visitor.watched.wantsMore v).run.run w) := by
  let after := ((Run.outside (visitor.watched v)).run.run w).2
  have hrecord : after.outside.record = w.outside.record.deliver v.rows := rfl
  have hcache : after.cache = w.cache := rfl
  have handed : ∀ answer, Handed v.rows w (answer, after) := fun answer =>
    ⟨⟨v.rows, List.prefix_refl _, hrecord, fun _ => rfl⟩, hcache⟩
  unfold wantsMore
  refine run_bind_elim (M := Handed v.rows w) ?_ ?_
  · intro e t hrun
    have hafter : after = t := congrArg Prod.snd hrun
    exact hafter ▸ handed _
  · intro answer t hrun
    have hafter : after = t := congrArg Prod.snd hrun
    rw [← hafter]
    split <;> exact handed _

theorem handed_batch (rows : List Row) (w : World (Recorded Journal σ)) :
    Handed rows w ((visitor.watched.batch rows).run.run w) := by
  have handed := visitor.handed_wantsMore (.list (rows.map .mapping)) w
  rw [Value.rows_list] at handed
  exact handed

theorem handed_visitRows (rows : List Row) (w : World (Recorded Journal σ)) :
    Handed rows w ((Batches.visitRows visitor.watched.row rows).run.run w) := by
  induction rows generalizing w with
  | nil => exact ⟨⟨[], List.prefix_refl _, (Journal.deliver_nil _).symm, fun _ => rfl⟩, rfl⟩
  | cons row rows ih =>
    have hrow : Handed [row] w ((visitor.watched.row row).run.run w) :=
      visitor.handed_wantsMore (.mapping row) w
    have hfirst : [row] <+: row :: rows := List.prefix_append [row] rows
    refine run_bind_elim (M := Handed (row :: rows) w) ?_ ?_
    · intro e t hrun
      rw [hrun] at hrow
      obtain ⟨given, hgiven, hrecord, -⟩ := hrow.given
      exact ⟨⟨given, hgiven.trans hfirst, hrecord, fun hmore => nomatch hmore⟩, hrow.cache⟩
    · intro more t hrun
      unfold Effect.Returns at hrun
      rw [hrun] at hrow
      obtain ⟨given, hgiven, hrecord, hall⟩ := hrow.given
      cases more with
      | false =>
        exact ⟨⟨given, hgiven.trans hfirst, hrecord, fun hmore => nomatch hmore⟩, hrow.cache⟩
      | true =>
        have hrest := ih t
        obtain ⟨given', hgiven', hrecord', hall'⟩ := hrest.given
        rw [hall rfl] at hrecord
        refine ⟨⟨row :: given', ?_, ?_, ?_⟩, hrest.cache.trans hrow.cache⟩
        · exact List.cons_prefix_cons.2 ⟨rfl, hgiven'⟩
        · refine hrecord'.trans ?_
          change t.outside.record = _ at hrecord
          rw [hrecord, Journal.deliver_deliver]
          rfl
        · intro hmore
          rw [hall' hmore]

end Visitor

end Watched

end SqlQuery
