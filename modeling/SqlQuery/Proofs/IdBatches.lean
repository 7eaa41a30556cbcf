import SqlQuery.Dialect.MySql
import SqlQuery.Proofs.Journals

/-!
# Batches that take up after the last row

Batches that count the rows before them repeat rows, or pass over some, if the table changes
meanwhile. Batches that take up after the last row of a key do neither.

What a batch leaves behind is `Batches.Underway`: the journal is faithful, and the batches take up
after the last row that was delivered. One batch keeps it (`Underway.returns_pull`), so it is kept
however the rows are handed out: in batches, row by row, or in a loop of the caller.
-/

namespace SqlQuery

open Effect Recorded

/-- A caller's loop over rows that are handed out one by one, until it breaks off. It may do anything
between two rows. `fuel` bounds the number of rows. -/
def RowSource.forEach {σ : Type} (e : Engine σ) (visit : Row → Run σ Bool) :
    Nat → RowSource → Run σ Bool
  | 0, _ => throw (.foreign .runtime "there is no end to the rows")
  | fuel + 1, source => do
    match ← source.pull e with
    | (none, _) => return true
    | (some row, source) => if ← visit row then forEach e visit fuel source else return false

/-! ## What a batch leaves behind -/

section Batches

variable {σ κ : Type} [LinearOrder κ]

/-- An executor that answers the queries after a cursor from the table of the moment. -/
def Statements.AnswersFrom (st : Statements σ) (d : Dialect) (rank : Value → κ) (column : String)
    (table : σ → Table) (q : Query) (n : Nat) : Prop :=
  ∀ last q' s x reading x', q.afterCursor column last n = .ok q' → q'.unions = [] →
    Statement.select d q' = .ok s → (st.query s.sql s.bindings).Returns x reading x' →
    reading.failure = none → reading.rows = (table x).answer rank column q'

/-- Batches of which the first ones were delivered: they take up after the last row, and if the last
batch was not full there is nothing left. -/
structure Batches.Underway (rank : Value → κ) (column : String) (table : σ → Table) (q : Query)
    (n : Nat) (b : Batches) (j : Journal) : Prop where
  faithful : j.Faithful rank column table q
  query : b.query = q
  size : b.size = n
  unfinished : b.finished = false
  first : b.previous = none → b.place = .after column .null ∧ j.delivered = []
  later : ∀ batch, b.previous = some batch → (∃ last, b.place = .after column last)
    ∧ batch ≠ [] ∧ batch.getLast? = j.delivered.getLast?
    ∧ (batch.length < n → ∀ row, j.Lasting q row → row ∈ j.delivered)

variable {rank : Value → κ} {column : String} {table : σ → Table} {q : Query} {n : Nat}
  {e : Engine σ} {b : Batches} {j : Journal}

theorem cursorValue_eq_ok {row : Row} {v : Value} (h : cursorValue row column = .ok v) :
    v = row.get (resultName column) := by
  unfold cursorValue at h
  obtain ⟨key, hkey, hvalue⟩ := Result.bind_eq_ok.1 h
  cases hkey
  split at hvalue
  · cases hvalue
  · next hsome =>
    cases hvalue
    rfl

namespace Batches

theorem pull_eq (hopen : b.finished = false) (hsize : 0 < b.size) :
    b.pull e =
      if (b.previous.map b.isLast).getD false then return (none, { b with finished := true })
      else do
        let next ← ofResult b.advance
        let c ← e.get (← ofResult (next.place.batch next.query next.size.toNat))
        if c.rows.isEmpty then return (none, { b with finished := true })
        return (some c.rows, { next with previous := some c.rows }) := by
  have hpositive : ¬ b.size ≤ 0 := by omega
  unfold pull
  simp only [hopen, hpositive, if_false]
  rfl

namespace Underway

theorem start : Underway rank column table q n
    { query := q, size := n, place := .after column .null } {} where
  faithful := .start
  query := rfl
  size := rfl
  unfinished := rfl
  first _ := ⟨rfl, rfl⟩
  later _ hprevious := nomatch hprevious

/-- The next batch takes up after the last row that was delivered. -/
theorem advance (h : b.Underway rank column table q n j) {next : Batches}
    (hadvance : b.advance = .ok next) :
    next = { b with place := .after column (cursorAfter column j.delivered), previous := none } := by
  obtain ⟨query, size, place, previous, finished⟩ := b
  unfold Batches.advance at hadvance
  cases previous with
  | none =>
    cases hadvance
    obtain ⟨hplace, hnone⟩ := h.first rfl
    simp only at hplace
    rw [hplace, hnone]
    rfl
  | some batch =>
    obtain ⟨⟨last, hplace⟩, hne, hlast, -⟩ := h.later batch rfl
    simp only at hplace
    subst hplace
    obtain ⟨following, hnext, hadvance⟩ := Result.bind_eq_ok.1 hadvance
    cases hadvance
    unfold BatchPlace.next at hnext
    unfold cursorAfter
    rw [← hlast]
    cases hrow : batch.getLast? with
    | none => exact absurd (List.getLast?_eq_none_iff.1 hrow) hne
    | some row =>
      rw [hrow] at hnext
      obtain ⟨v, hv, hfollowing⟩ := Result.bind_eq_ok.1 hnext
      cases hfollowing
      rw [cursorValue_eq_ok hv]

/-- A batch that is not full was the last, and then nothing is missing. -/
theorem lasting_of_isLast (h : b.Underway rank column table q n j)
    (hlast : (b.previous.map b.isLast).getD false = true) {row : Row} (hrow : j.Lasting q row) :
    row ∈ j.delivered := by
  cases hprevious : b.previous with
  | none =>
    rw [hprevious] at hlast
    cases hlast
  | some batch =>
    rw [hprevious] at hlast
    have hshort : batch.length < n := by
      have hlength : ((batch.length : Int) < b.size) := of_decide_eq_true hlast
      rw [h.size] at hlength
      omega
    exact (h.later batch hprevious).2.2.2 hshort row hrow

/-- The rows that are read next are a batch after the cursor. -/
theorem batch_of_get (h : b.Underway rank column table q n j) (hkey : KeyColumn rank column table)
    (hanswers : e.statements.AnswersFrom e.dialect rank column table q n) (hunions : q.unions = [])
    {q' : Query} (hq : q.afterCursor column (cursorAfter column j.delivered) n = .ok q')
    {w w' : World (Recorded Journal σ)} (huncached : (e.watched table).Uncached w) {c : Collection}
    (hget : ((e.watched table).get q').Returns w c w') :
    (table w.outside.state).Batch rank column q (cursorAfter column j.delivered) n c.rows
    ∧ w'.outside.record = w.outside.record.ask (table w.outside.state)
    ∧ (e.watched table).Uncached w' := by
  obtain ⟨⟨s, reading, hs, hquery, hfailure, hrows⟩, hstill⟩ := Engine.returns_get huncached hget
  obtain ⟨hran, hrecord⟩ := Statements.returns_watched_query hquery
  obtain ⟨-, -, -, hsame, -⟩ := Query.afterCursor_eq_ok hq
  rw [hanswers _ _ _ _ _ _ hq (hsame.trans hunions) hs hran hfailure] at hrows
  refine ⟨?_, hrecord, hstill⟩
  rw [hrows]
  refine Table.batch_of_answer (hkey.unique _) (fun hsome r hr => ?_) hq
  obtain ⟨s', r', hr', hcursor⟩ := h.faithful.cursor_held hsome
  rw [← hcursor]
  exact hkey.compared _ s' r hr r' hr'

theorem pull_keeps (h : b.Underway rank column table q n j) (hn : 0 < n) (rows : List Row) :
    Run.Keeps (fun r => r.record.delivered = rows) (b.pull (e.watched table)) := by
  have hsize : 0 < b.size := by
    rw [h.size]
    omega
  rw [pull_eq h.unfinished hsize]
  split
  · exact .of_pure _
  · refine Keeps.bind_result fun next _ => Keeps.bind_result fun q' _ => ?_
    refine Keeps.bind (Engine.watched_get_keeps rows q') fun c => ?_
    split <;> exact .of_pure _

/-- Rows that are handed out one by one deliver nothing themselves. -/
theorem rows_pull_keeps {r : Rows} (h : r.batches.Underway rank column table q n j) (hn : 0 < n)
    (rows : List Row) :
    Run.Keeps (fun r => r.record.delivered = rows)
      ((RowSource.batches r).pull (e.watched table)) := by
  refine Keeps.bind ?_ fun _ => .of_pure _
  obtain ⟨batches, ready⟩ := r
  cases ready with
  | cons row ready => exact .of_pure _
  | nil =>
    refine Keeps.bind (h.pull_keeps hn rows) fun _ => ?_
    split <;> exact .of_pure _

/-- **One batch.** It may be delivered, and the batches after it take up where it ends. If there is
none, then nothing is missing. -/
theorem returns_pull (hkey : KeyColumn rank column table)
    (hanswers : e.statements.AnswersFrom e.dialect rank column table q n) (hunions : q.unions = [])
    (hn : 0 < n) {w w' : World (Recorded Journal σ)}
    (h : b.Underway rank column table q n w.outside.record)
    (huncached : (e.watched table).Uncached w) {answer : Option (List Row)} {b' : Batches}
    (hpull : (b.pull (e.watched table)).Returns w (answer, b') w') :
    (e.watched table).Uncached w'
    ∧ (answer = none → w'.outside.record.delivered = w.outside.record.delivered
      ∧ ∀ row, w'.outside.record.Lasting q row → row ∈ w'.outside.record.delivered)
    ∧ ∀ batch, answer = some batch → batch ≠ []
      ∧ b'.Underway rank column table q n (w'.outside.record.deliver batch) := by
  have hsize : 0 < b.size := by
    rw [h.size]
    omega
  rw [pull_eq h.unfinished hsize] at hpull
  split at hpull
  · next hlast =>
    obtain ⟨hanswer, rfl⟩ := returns_pure.1 hpull
    cases hanswer
    refine ⟨huncached, fun _ => ⟨rfl, fun row hrow => ?_⟩, fun _ hnone => nomatch hnone⟩
    exact h.lasting_of_isLast hlast hrow
  · obtain ⟨next, _, hadvance, hrest⟩ := returns_bind.1 hpull
    obtain ⟨hadvanced, rfl⟩ := returns_ofResult.1 hadvance
    have hnext := h.advance hadvanced
    subst hnext
    obtain ⟨q', _, hquery, hget⟩ := returns_bind.1 hrest
    obtain ⟨hq, rfl⟩ := returns_ofResult.1 hquery
    obtain ⟨c, w₁, hrows, hend⟩ := returns_bind.1 hget
    rw [h.query, h.size, Int.toNat_natCast] at hq
    obtain ⟨hbatch, hrecord, hstill⟩ := h.batch_of_get hkey hanswers hunions hq huncached hrows
    by_cases hempty : c.rows.isEmpty = true
    · rw [if_pos hempty] at hend
      obtain ⟨hanswer, rfl⟩ := returns_pure.1 hend
      cases hanswer
      refine ⟨hstill, fun _ => ⟨by rw [hrecord]; rfl, fun row hrow => ?_⟩,
        fun _ hnone => nomatch hnone⟩
      rw [hrecord] at hrow ⊢
      have hnone : c.rows = [] := List.isEmpty_iff.1 hempty
      have hdelivered := h.faithful.mem_of_lasting hkey hbatch hrow (.inl (by rw [hnone]; exact hn))
      rw [hnone, List.append_nil] at hdelivered
      exact hdelivered
    · rw [if_neg hempty] at hend
      obtain ⟨hanswer, rfl⟩ := returns_pure.1 hend
      cases hanswer
      have hne : c.rows ≠ [] := fun hnone => hempty (List.isEmpty_iff.2 hnone)
      refine ⟨hstill, fun hnone => (nomatch hnone), ?_⟩
      rintro _ ⟨⟩
      rw [hrecord]
      refine ⟨hne, ?_⟩
      exact {
        faithful := h.faithful.deliver hkey hbatch
        query := h.query
        size := h.size
        unfinished := h.unfinished
        first := fun hnone => nomatch hnone
        later := by
          rintro _ ⟨⟩
          refine ⟨⟨_, rfl⟩, hne, ?_, fun hshort row hrow => ?_⟩
          · exact (List.getLast?_append_of_ne_nil _ hne).symm
          · exact h.faithful.mem_of_lasting hkey hbatch hrow (.inl hshort) }

end Underway

end Batches

/-! ## Whole runs -/

/-- The outcome of a run: rows were delivered in the order of the column, no two at one place, and
if the run came to its own end, each row that was there all the time was delivered once. -/
structure Stable {α : Type} (rank : Value → κ) (column : String) (q : Query) (ended : α)
    (outcome : Result α × World (Recorded Journal σ)) : Prop where
  ascending : outcome.2.outside.record.delivered.Pairwise
    fun row row' => row.place rank column < row'.place rank column
  once : outcome.1 = .ok ended → ∀ row, outcome.2.outside.record.Lasting q row →
    ∃! i : Nat, outcome.2.outside.record.delivered[i]? = some row

/-- In order, a row is delivered once at most. -/
theorem existsUnique_of_mem {rows : List Row} {row : Row}
    (h : rows.Pairwise fun row row' => row.place rank column < row'.place rank column)
    (hrow : row ∈ rows) : ∃! i : Nat, rows[i]? = some row := by
  have hnodup : rows.Nodup := h.imp fun hlt heq => absurd (heq ▸ hlt) (lt_irrefl _)
  obtain ⟨i, hi⟩ := List.mem_iff_getElem?.1 hrow
  refine ⟨i, hi, fun i' hi' => ?_⟩
  obtain ⟨hlt, hat⟩ := List.getElem?_eq_some_iff.1 hi
  obtain ⟨hlt', hat'⟩ := List.getElem?_eq_some_iff.1 hi'
  exact (hnodup.getElem_inj_iff).1 (hat'.trans hat.symm)

namespace Stable

variable {w t : World (Recorded Journal σ)}

/-- A run that fails without delivering more. -/
theorem of_failed {err : Error} (h : w.outside.record.delivered.Pairwise
      fun row row' => row.place rank column < row'.place rank column)
    (hsame : t.outside.record.delivered = w.outside.record.delivered) :
    Stable rank column q true (.error err, t) := by
  rw [← hsame] at h
  exact ⟨h, fun hend => nomatch hend⟩

/-- A run that comes to its end when nothing is missing. -/
theorem of_ended (h : w.outside.record.delivered.Pairwise
      fun row row' => row.place rank column < row'.place rank column)
    (hended : t.outside.record.delivered = w.outside.record.delivered
      ∧ ∀ row, t.outside.record.Lasting q row → row ∈ t.outside.record.delivered) :
    Stable rank column q true (.ok true, t) := by
  obtain ⟨hsame, hmissing⟩ := hended
  rw [← hsame] at h
  exact ⟨h, fun _ row hrow => existsUnique_of_mem h (hmissing row hrow)⟩

end Stable

/-- After rows of a batch were handed to a visitor, a run that goes on stays stable. -/
theorem Handed.stable {batch rows : List Row} {w : World (Recorded Journal σ)}
    {visit next : Run (Recorded Journal σ) Bool} (hhanded : Handed rows w (visit.run.run w))
    (hrows : rows <+: batch) (h : (w.outside.record.deliver batch).Faithful rank column table q)
    (hnext : ∀ w', w'.outside.record = w.outside.record.deliver rows → w'.cache = w.cache →
      Stable rank column q true (next.run.run w')) :
    Stable rank column q true
      ((do if ← visit then next else return false : Run _ Bool).run.run w) := by
  obtain ⟨given, hgiven, hrecord, hall⟩ := hhanded.given
  have hascending : (visit.run.run w).2.outside.record.delivered.Pairwise
      fun row row' => row.place rank column < row'.place rank column := by
    rw [hrecord]
    exact h.ascending.sublist ((List.Sublist.refl _).append (hgiven.trans hrows).sublist)
  refine run_bind_elim (M := Stable rank column q true) ?_ ?_
  · intro err t hrun
    rw [hrun] at hascending
    exact ⟨hascending, fun hend => nomatch hend⟩
  · intro more t hrun
    unfold Effect.Returns at hrun
    rw [hrun] at hascending hrecord hall
    cases more with
    | false => exact ⟨hascending, fun hend => nomatch hend⟩
    | true =>
      have hcache := hhanded.cache
      rw [hrun] at hcache
      rw [hall rfl] at hrecord
      exact hnext t hrecord hcache

section Assumptions

variable (hkey : KeyColumn rank column table)
  (hanswers : e.statements.AnswersFrom e.dialect rank column table q n) (hunions : q.unions = [])
  (hn : 0 < n)

include hkey hanswers hunions hn

/-- Batches that are handed to a visitor one after the other. -/
theorem Batches.stable_drive {visit : List Row → Run (Recorded Journal σ) Bool}
    (hvisit : ∀ rows w, Handed rows w ((visit rows).run.run w)) (fuel : Nat) {b : Batches}
    {w : World (Recorded Journal σ)} (h : b.Underway rank column table q n w.outside.record)
    (huncached : (e.watched table).Uncached w) :
    Stable rank column q true ((drive (e.watched table) visit fuel b).run.run w) := by
  -- every batch that was delivered keeps `Underway`, so the induction is on the bound
  induction fuel generalizing b w with
  | zero => exact ⟨h.faithful.ascending, fun hend => nomatch hend⟩
  | succ fuel ih =>
    unfold drive
    refine run_bind_elim (M := Stable rank column q true) ?_ ?_
    · intro err t hrun
      have hsame : t.outside.record.delivered = w.outside.record.delivered :=
        (h.pull_keeps hn _).of_run hrun rfl
      exact .of_failed h.faithful.ascending hsame
    · rintro ⟨answer, b'⟩ t hpull
      obtain ⟨hstill, hended, hgoing⟩ :=
        Underway.returns_pull hkey hanswers hunions hn h huncached hpull
      cases answer with
      | none => exact .of_ended h.faithful.ascending (hended rfl)
      | some batch =>
        obtain ⟨-, hnext⟩ := hgoing batch rfl
        refine (hvisit batch t).stable (List.prefix_refl _) hnext.faithful ?_
        intro t' hrecord hcache
        rw [← hrecord] at hnext
        exact ih hnext fun hcaching => hcache.trans (hstill hcaching)

/-- The next row is handed out, and the rows after it take up where it ends. -/
theorem Batches.Rows.returns_pull {r : Rows} {w w' : World (Recorded Journal σ)}
    (h : r.batches.Underway rank column table q n (w.outside.record.deliver r.ready))
    (huncached : (e.watched table).Uncached w) {answer : Option Row} {r' : Rows}
    (hpull : (r.pull (e.watched table)).Returns w (answer, r') w') :
    (e.watched table).Uncached w'
    ∧ (answer = none → w'.outside.record.delivered = w.outside.record.delivered
      ∧ ∀ row, w'.outside.record.Lasting q row → row ∈ w'.outside.record.delivered)
    ∧ ∀ row, answer = some row → r'.batches.Underway rank column table q n
        (w'.outside.record.deliver (row :: r'.ready)) := by
  obtain ⟨batches, ready⟩ := r
  cases ready with
  | cons row ready =>
    obtain ⟨hanswer, rfl⟩ := returns_pure.1 hpull
    cases hanswer
    refine ⟨huncached, fun hnone => (nomatch hnone), ?_⟩
    rintro _ ⟨⟩
    exact h
  | nil =>
    rw [Journal.deliver_nil] at h
    obtain ⟨⟨pulled, batches'⟩, w₁, hbatch, hend⟩ := returns_bind.1 hpull
    obtain ⟨hstill, hended, hgoing⟩ :=
      Underway.returns_pull hkey hanswers hunions hn h huncached hbatch
    cases pulled with
    | none =>
      obtain ⟨hanswer, rfl⟩ := returns_pure.1 hend
      cases hanswer
      exact ⟨hstill, fun _ => hended rfl, fun _ hnone => nomatch hnone⟩
    | some batch =>
      obtain ⟨hne, hnext⟩ := hgoing batch rfl
      cases batch with
      | nil => exact absurd rfl hne
      | cons row ready =>
        obtain ⟨hanswer, rfl⟩ := returns_pure.1 hend
        cases hanswer
        refine ⟨hstill, fun hnone => (nomatch hnone), ?_⟩
        rintro _ ⟨⟩
        exact hnext

/-- Rows of batches that are handed out one by one. -/
theorem RowSource.stable_forEach (visitor : Visitor σ) (fuel : Nat) {r : Batches.Rows}
    {w : World (Recorded Journal σ)}
    (h : r.batches.Underway rank column table q n (w.outside.record.deliver r.ready))
    (huncached : (e.watched table).Uncached w) :
    Stable rank column q true
      ((forEach (e.watched table) visitor.watched.row fuel (.batches r)).run.run w) := by
  -- the invariant is that of the moment when the rows that are ready will have been delivered
  induction fuel generalizing r w with
  | zero => exact ⟨h.faithful.ascending_left, fun hend => nomatch hend⟩
  | succ fuel ih =>
    unfold forEach
    refine run_bind_elim (M := Stable rank column q true) ?_ ?_
    · intro err t hrun
      have hsame : t.outside.record.delivered = w.outside.record.delivered :=
        (h.rows_pull_keeps hn _).of_run hrun rfl
      exact .of_failed h.faithful.ascending_left hsame
    · rintro ⟨answer, source⟩ t hpull
      obtain ⟨⟨answer', r'⟩, t₁, hrow, hsource⟩ := returns_bind.1 hpull
      obtain ⟨hanswer, rfl⟩ := returns_pure.1 hsource
      cases hanswer
      obtain ⟨hstill, hended, hgoing⟩ :=
        Batches.Rows.returns_pull hkey hanswers hunions hn h huncached hrow
      cases answer with
      | none => exact .of_ended h.faithful.ascending_left (hended rfl)
      | some row =>
        have hnext := hgoing row rfl
        have hhanded : Handed [row] t ((visitor.watched.row row).run.run t) :=
          visitor.handed_wantsMore (.mapping row) t
        refine hhanded.stable (List.prefix_append [row] r'.ready) hnext.faithful ?_
        intro t' hrecord hcache
        refine ih ?_ fun hcaching => hcache.trans (hstill hcaching)
        rw [hrecord, Journal.deliver_deliver]
        exact hnext

end Assumptions

/-- An outcome is as stable as what it was made from. -/
theorem Stable.answer {x : Run (Recorded Journal σ) Bool} {w : World (Recorded Journal σ)}
    (h : Stable rank column q true (x.run.run w)) :
    Stable rank column q (.bool true) ((do return Answer.bool (← x) : Run _ Answer).run.run w) := by
  refine run_bind_elim (M := Stable rank column q (Answer.bool true)) ?_ ?_
  · intro err t hrun
    rw [hrun] at h
    exact ⟨h.ascending, fun hend => nomatch hend⟩
  · intro ended t hrun
    unfold Effect.Returns at hrun
    rw [hrun] at h
    refine ⟨h.ascending, fun hend => h.once ?_⟩
    cases hend
    rfl

/-- **Batches after the last row are stable.** Let an executor answer the queries after a cursor from
a table that may be another one each time: `table` gives it for every state of the executor, and the
executor and the visitor may change their state as they like. The column is a key of the tables, by
its values as they are read. Reads are not cached.

Then, in batches, row by row, or in a loop of the caller, whether or not the run fails or is broken
off: rows are delivered in the order of the column, no two at one place. And if the run comes to its
own end, each row that every statement found in its table, where the base query reached it, was
delivered once. -/
theorem batches_after_stable (e : Engine σ) (settings : Settings) (visitor : Visitor σ) (q : Query)
    (column : String) (rank : Value → κ) (table : σ → Table) (n : Nat) (w : World σ) (hn : 0 < n)
    (hunions : q.unions = []) (hkey : KeyColumn rank column table)
    (hanswers : e.statements.AnswersFrom e.dialect rank column table q n)
    (huncached : e.Uncached w) :
    Stable rank column q (.bool true)
      (((Operation.chunk n (.after column .null)).run (e.watched table) settings visitor.watched
        q).run.run w.watched)
    ∧ ∀ given, batchSize settings given = n →
      Stable rank column q (.bool true)
        (((Operation.each given (.after column .null)).run (e.watched table) settings
          visitor.watched q).run.run w.watched)
      ∧ ∀ fuel, Stable rank column q true
        ((do
          let source ← ofResult
            (RowSource.make e.dialect settings q (.batches given (.after column .null)))
          source.forEach (e.watched table) visitor.watched.row fuel : Run _ Bool).run.run
            w.watched) := by
  have hstart : Batches.Underway rank column table q n
      { query := q, size := n, place := .after column .null } w.watched.outside.record := .start
  have hwatched : (e.watched table).Uncached w.watched := huncached
  refine ⟨?_, fun given hgiven => ⟨?_, fun fuel => ?_⟩⟩
  · exact (Batches.stable_drive hkey hanswers hunions hn visitor.handed_batch _ hstart
      hwatched).answer
  · have hrun := (Batches.stable_drive hkey hanswers hunions hn visitor.handed_visitRows
      Operation.maxBatches hstart hwatched).answer
    rw [← hgiven] at hrun
    exact hrun
  · have hrun := RowSource.stable_forEach hkey hanswers hunions hn visitor fuel (w := w.watched)
      (r := { batches := { query := q, size := n, place := .after column .null } }) hstart hwatched
    rw [← hgiven] at hrun
    exact hrun

end Batches

/-! ## A table that changes -/

/-- A row with a number. -/
def numbered (id : Int) : Record where
  truth
    | .compare _ .gt (.int last) => if last < id then .yes else .no
    | _ => .yes
  reported := [("id", .int id)]

/-- The order of numbers. -/
def numberRank : Value → Int
  | .int n => n
  | _ => 0

/-- While rows are read, the first is deleted and a last one is inserted. -/
def drifting (step : Nat) : Table :=
  (if step = 0 then [3, 1, 2] else [2, 5, 3]).map numbered

/-- All rows. -/
def everyNumber : Query where
  table := some "t"

/-- An executor whose table drifts with every query. It finds the cursor among the bindings. -/
def driftingStatements : Statements Nat where
  query _ bindings := do
    let step ← get
    set (step + 1)
    let q ← ofResult (everyNumber.afterCursor "id" (bindings.headD .null) 2)
    return { rows := (drifting step).answer numberRank "id" q }
  queryOne _ _ := return none
  execute _ _ := return { rowsAffected := .int 0 }

theorem numbered_cell (id : Int) : (numbered id).row.get (resultName "id") = .int id := by
  have hname : resultName "id" = "id" := by decide +kernel
  rw [hname]
  rfl

theorem numbered_place (id : Int) : (numbered id).row.place numberRank "id" = id := by
  unfold Row.place
  rw [numbered_cell]
  rfl

theorem exists_of_mem_drifting {step : Nat} {r : Record} (h : r ∈ drifting step) :
    ∃ id, r = numbered id := by
  obtain ⟨id, -, hid⟩ := List.mem_map.1 h
  exact ⟨id, hid.symm⟩

theorem drifting_keyColumn : KeyColumn numberRank "id" drifting where
  present := by
    intro step r hr
    obtain ⟨id, rfl⟩ := exists_of_mem_drifting hr
    rw [numbered_cell]
    exact fun hnull => nomatch hnull
  unique := by
    intro step
    have hplaces : (fun r : Record => r.row.place numberRank "id") ∘ numbered = id :=
      funext numbered_place
    unfold drifting
    rw [List.map_map, hplaces, List.map_id]
    split <;> decide
  compared := by
    intro step step' r hr r' hr'
    obtain ⟨id, rfl⟩ := exists_of_mem_drifting hr
    obtain ⟨id', rfl⟩ := exists_of_mem_drifting hr'
    rw [numbered_cell, numbered_place, numbered_place]
    change (if id' < id then Truth.yes else Truth.no) = .yes ↔ id' < id
    split <;> simp_all

theorem driftingStatements_answers :
    driftingStatements.AnswersFrom .mysql numberRank "id" drifting everyNumber 2 := by
  intro last q' s x reading x' hq hunions hs hran hfailure
  have hcursor : s.bindings.headD .null = last := by
    cases last <;> cases hq <;> cases hs <;> rfl
  obtain ⟨_, t, hset, hanswer⟩ := returns_bind.1 (returns_get_bind.1 hran)
  obtain ⟨q'', _, hquery, hend⟩ := returns_bind.1 hanswer
  obtain ⟨hq'', rfl⟩ := returns_ofResult.1 hquery
  obtain ⟨rfl, -⟩ := returns_pure.1 hend
  rw [hcursor, hq] at hq''
  cases hq''
  rfl

def driftingEngine : Engine Nat where
  dialect := .mysql
  statements := driftingStatements

/-- A loop over all rows, which are read two at a time. -/
def driftingRun : Result Bool × World (Recorded Journal Nat) :=
  (do
    let source ← ofResult
      (RowSource.make .mysql {} everyNumber (.batches (some 2) (.after ("id" : String) .null)))
    source.forEach (driftingEngine.watched drifting) (Visitor.watched fun _ => return .null).row
      10 : Run _ Bool).run.run (World.watched { outside := 0 })

/-- The row that was deleted was delivered before, and the one that was inserted is delivered at its
place. Those that were there all the time are delivered once. -/
theorem drifting_stable : Stable numberRank "id" everyNumber true driftingRun
    ∧ driftingRun.1.toOption = some true
    ∧ driftingRun.2.outside.record.delivered.map (Row.place numberRank "id") = [1, 2, 3, 5] := by
  have hstable := ((batches_after_stable driftingEngine {} (fun _ => return .null) everyNumber "id"
    numberRank drifting 2 { outside := 0 } (by decide) rfl drifting_keyColumn
    driftingStatements_answers fun _ => rfl).2 (some 2) rfl).2 10
  exact ⟨hstable, by decide +kernel, by decide +kernel⟩

end SqlQuery
