import SqlQuery.Proofs.CompoundResults
import SqlQuery.Proofs.IdBatches
import SqlQuery.Proofs.Visits

/-!
# Paging over a UNION

A walk over a compound result reads the rows of the branches with every batch, as `Keys.batch` does.
Batches that are handed to a visitor, rows that are handed out one by one, and a loop over the pages
after a cursor all do the same with the executor: they hand the visitor the pages of that walk, one
after the other (`Run.Does`, `Visitor.visitAll`). When they show a row twice, and whether they end,
is therefore what `Keys.walk` says.
-/

namespace SqlQuery

open Effect

/-! ## One batch -/

/-- Reads reach the executor, and a slot for them can be had. -/
structure Engine.Open {σ : Type} (e : Engine σ) (w : World σ) : Prop where
  uncached : e.Uncached w
  ready : w.Ready e.wait

section Runs

variable {σ κ : Type} [LinearOrder κ] {select : σ → String → List Value → List Row}
  {e : Engine σ} {w w' : World σ}

theorem Engine.Open.leaves {s : σ} (h : e.Open w) (hleaves : w.Leaves s w') : e.Open w' where
  uncached hcaching := hleaves.cache.trans (h.uncached hcaching)
  ready := h.ready.of_limiter hleaves.limiter

theorem Engine.returns_store_of_uncached (h : e.Uncached w) (s : Statement) (rows : List Row) :
    (e.store s rows).Returns w () w := by
  obtain ⟨outside, cache, limiter, log, observed⟩ := w
  refine returns_modify.2 ?_
  split
  · next hcaching =>
    obtain rfl : cache = none := h hcaching
    rfl
  · rfl

/-- The rows that the executor answers to a statement, as they are read. -/
def Engine.readRows (e : Engine σ) (s : Statement) : Effect σ (List Row) := do
  match (← e.statements.query s.sql s.bindings).materialize with
  | .ok rows => return rows
  | .error err => throw err

/-- An executor that answers a query as another does reads the same rows, though it may leave another
state. -/
theorem Engine.returns_readRows_of_query {τ : Type} {e' : Engine τ} {s : Statement} {x x' : σ}
    {y : τ} {rows : List Row} (put : σ → τ)
    (hquery : ∀ reading t, (e.statements.query s.sql s.bindings).Returns x reading t →
      (e'.statements.query s.sql s.bindings).Returns y reading (put t))
    (h : (e.readRows s).Returns x rows x') : (e'.readRows s).Returns y rows (put x') := by
  obtain ⟨reading, t, hread, hrows⟩ := returns_bind.1 h
  refine returns_bind.2 ⟨reading, put t, hquery reading t hread, ?_⟩
  cases hmaterial : reading.materialize with
  | error err =>
    rw [hmaterial] at hrows
    exact absurd hrows (not_returns_throw err)
  | ok material =>
    rw [hmaterial] at hrows
    obtain ⟨rfl, rfl⟩ := returns_pure.1 hrows
    exact returns_pure.2 ⟨rfl, rfl⟩

/-- A query is answered with what the executor reads. -/
theorem Engine.returns_get_of_readRows (hopen : e.Open w) {q : Query} {s : Statement}
    (hs : Statement.select e.dialect q = .ok s) {rows : List Row} {x : σ}
    (hrows : (e.readRows s).Returns w.outside rows x) :
    ∃ w', (e.get q).Returns w ⟨rows⟩ w' ∧ w.Leaves x w' := by
  have hlookup : (e.lookup s).Returns w none w := by
    refine returns_get_bind.2 ?_
    split
    · next cache hcaching hcache =>
      rw [hopen.uncached hcaching] at hcache
      cases hcache
    · exact returns_pure.2 ⟨rfl, rfl⟩
  obtain ⟨w₁, hfetch, hleaves⟩ := run_timed (s := s) hopen.ready "select" hrows
  have hstore := Engine.returns_store_of_uncached (hopen.leaves hleaves).uncached s rows
  refine ⟨w₁, ?_, hleaves⟩
  refine returns_bind.2 ⟨s, w, returns_ofResult.2 ⟨hs, rfl⟩, ?_⟩
  refine returns_bind.2 ⟨_, w₁, ?_, returns_pure.2 ⟨rfl, rfl⟩⟩
  refine returns_bind.2 ⟨none, w, hlookup, returns_bind.2 ⟨_, w₁, hfetch, ?_⟩⟩
  exact returns_bind.2 ⟨(), w₁, hstore, returns_pure.2 ⟨rfl, rfl⟩⟩

theorem Engine.returns_get_of_reads (hreads : e.statements.ReadsFrom select) (hopen : e.Open w)
    {q : Query} {s : Statement} (hs : Statement.select e.dialect q = .ok s) :
    ∃ w', (e.get q).Returns w ⟨(select w.outside s.sql s.bindings).map Row.normalize⟩ w'
      ∧ w.Leaves w.outside w' := by
  refine Engine.returns_get_of_readRows hopen hs (returns_bind.2 ⟨_, w.outside, hreads _ _ _, ?_⟩)
  exact returns_pure.2 ⟨rfl, rfl⟩

/-- An engine whose executor serves the queries after a cursor from a store. -/
structure Engine.Serves (e : Engine σ) (select : σ → String → List Value → List Row)
    (rank : Value → κ) (column : String) (S : Store) (q : Query) (rowAt : κ → Row)
    (count : Nat) : Prop where
  reads : e.statements.ReadsFrom select
  named : column ≠ ""
  compiles : q.Compiles e.dialect
  keyed : S.Keyed rank column q rowAt
  answers : S.Answers rank column e.dialect q rowAt select count

variable {rank : Value → κ} {column : String} {S : Store} {q : Query} {rowAt : κ → Row}
  {n : Nat} {cursor : Value} {last : WithBot κ}

/-- The rows after a cursor are one batch of the walk. -/
theorem Engine.Serves.returns_batch (h : e.Serves select rank column S q rowAt n)
    (hopen : e.Open w) (hstands : S.Stands rank column q cursor last) :
    ∃ q' w', q.afterCursor column cursor n = .ok q'
      ∧ (e.get q').Returns w ⟨((S.keys rank column q).batch n last).map rowAt⟩ w'
      ∧ w.Leaves w.outside w' := by
  obtain ⟨q', hq', f, hf⟩ := afterCursor_compiles h.compiles h.named cursor n
  have hs : Statement.select e.dialect q' = .ok (.ofFragment e.dialect f) :=
    Result.bind_eq_ok.2 ⟨f, hf, rfl⟩
  obtain ⟨w', hget, hleaves⟩ := Engine.returns_get_of_reads h.reads hopen hs
  rw [h.answers cursor q' _ w.outside hq' hs, Store.keys_afterCursor h.keyed hstands hq'] at hget
  exact ⟨q', w', hq', hget, hleaves⟩

/-! ## Batches that follow one another -/

/-- Batches after a cursor, with the keys of the batch before. -/
def Batches.following (q : Query) (rowAt : κ → Row) (n : Nat) (column : String) (cursor : Value)
    (previous : Option (List κ)) : Batches where
  query := q
  size := n
  place := .after column cursor
  previous := previous.map (List.map rowAt)

/-- Batches of which the next one is read after a cursor, or of which there is none. -/
inductive Batches.Awaits (rank : Value → κ) (column : String) (S : Store) (q : Query)
    (rowAt : κ → Row) (n : Nat) : Batches → Option (WithBot κ) → Prop
  | start : Awaits rank column S q rowAt n (.following q rowAt n column .null none) (some ⊥)
  | page {cursor : Value} {page : List κ} (hne : page ≠ [])
    (hpage : ∀ k ∈ page, k ∈ (S.keys rank column q).all) :
    Awaits rank column S q rowAt n (.following q rowAt n column cursor (some page))
      (if page.length < n then none else some (endOf page))

theorem Batches.returns_pull_of_get {b next : Batches} {q' : Query} {c : Collection}
    (hunfinished : b.finished = false) (hsize : 0 < b.size)
    (hlast : (b.previous.map b.isLast).getD false = false) (hadvance : b.advance = .ok next)
    (hq' : next.place.batch next.query next.size.toNat = .ok q')
    (hget : (e.get q').Returns w c w') :
    (b.pull e).Returns w
      (if c.rows.isEmpty then none else some c.rows,
        if c.rows.isEmpty then { b with finished := true }
        else { next with previous := some c.rows }) w' := by
  rw [pull_eq hunfinished hsize, hlast]
  refine returns_bind.2 ⟨next, w, returns_ofResult.2 ⟨hadvance, rfl⟩, ?_⟩
  refine returns_bind.2 ⟨q', w, returns_ofResult.2 ⟨hq', rfl⟩, ?_⟩
  refine returns_bind.2 ⟨c, w', hget, ?_⟩
  split <;> exact returns_pure.2 ⟨rfl, rfl⟩

namespace Batches.Awaits

variable {b : Batches} {next : Option (WithBot κ)}

omit [LinearOrder κ] in
theorem unfinished (h : b.Awaits rank column S q rowAt n next) :
    b.finished = false ∧ b.size = n := by
  cases h <;> exact ⟨rfl, rfl⟩

omit [LinearOrder κ] in
/-- The batch before is the last exactly if none is awaited. -/
theorem isLast (h : b.Awaits rank column S q rowAt n next) :
    (b.previous.map b.isLast).getD false = next.isNone := by
  cases h with
  | start => rfl
  | @page cursor page hne hpage =>
    show decide (((page.map rowAt).length : Int) < (n : Int)) = _
    rw [List.length_map]
    by_cases hshort : page.length < n
    · rw [if_pos hshort]
      exact decide_eq_true (by omega)
    · rw [if_neg hshort]
      exact decide_eq_false (by omega)

theorem advance (hkeyed : S.Keyed rank column q rowAt)
    (h : b.Awaits rank column S q rowAt n (some last)) :
    ∃ cursor, S.Stands rank column q cursor last
      ∧ b.advance = .ok (.following q rowAt n column cursor none) := by
  generalize hnext : some last = next at h
  cases h with
  | start =>
    cases hnext
    exact ⟨_, .start, rfl⟩
  | @page cursor page hne hpage =>
    by_cases hshort : page.length < n
    · rw [if_pos hshort] at hnext
      cases hnext
    · rw [if_neg hshort] at hnext
      cases hnext
      obtain ⟨earlier, k, rfl⟩ := (List.eq_nil_or_concat' page).resolve_left hne
      obtain ⟨hstands, hcursor⟩ := Store.stands_of_mem hkeyed (hpage k List.mem_concat_self)
      rw [endOf_concat]
      refine ⟨_, hstands, Result.bind_eq_ok.2 ⟨_, ?_, rfl⟩⟩
      unfold Batches.following BatchPlace.next
      simp only [List.map_append, List.map_cons, List.map_nil, List.getLast?_concat, hcursor]
      rfl

omit [LinearOrder κ] in
theorem returns_pull_none (hn : 0 < n) (h : b.Awaits rank column S q rowAt n none) :
    ∃ b', (b.pull e).Returns w (none, b') w := by
  obtain ⟨hopen, hsize⟩ := h.unfinished
  rw [pull_eq hopen (by omega), h.isLast]
  exact ⟨_, returns_pure.2 ⟨rfl, rfl⟩⟩

/-- What is read next is the next page of the walk, if that has any row. -/
theorem returns_pull (hserves : e.Serves select rank column S q rowAt n) (hn : 0 < n)
    (hopen : e.Open w) (h : b.Awaits rank column S q rowAt n (some last)) {page : List κ}
    (hpage : (S.keys rank column q).page n n last = page) :
    ∃ b' w', w.Leaves w.outside w'
      ∧ (b.pull e).Returns w (if page = [] then none else some (page.map rowAt), b') w'
      ∧ (page ≠ [] →
        b'.Awaits rank column S q rowAt n ((S.keys rank column q).next n n last)) := by
  obtain ⟨hunfinished, hsize⟩ := h.unfinished
  obtain ⟨cursor, hstands, hadvance⟩ := h.advance hserves.keyed
  obtain ⟨q', w', hq', hget, hleaves⟩ := hserves.returns_batch hopen hstands
  have hpull := returns_pull_of_get hunfinished (by omega) h.isLast hadvance hq' hget
  have hmem : ∀ k ∈ page, k ∈ (S.keys rank column q).all := by
    intro k hk
    rw [← hpage] at hk
    exact Keys.mem_all_of_mem_after (Keys.mem_after_of_mem_page hk)
  unfold Keys.next
  rw [hpage]
  rw [Keys.page_self] at hpage
  rw [hpage] at hpull ⊢
  cases page with
  | nil => exact ⟨_, w', hleaves, hpull, fun hne => absurd rfl hne⟩
  | cons k page => exact ⟨_, w', hleaves, hpull, fun hne => .page hne hmem⟩

end Batches.Awaits

/-! ## Whole runs -/

/-- How a run over the pages of a walk comes to its end if the visitor wants all of them. -/
inductive Keys.Comes (K : Keys κ) (size shown fuel : Nat) (next : Option (WithBot κ))
    (err : Error) : Result Bool → Prop
  | finished (h : K.Over size shown fuel next) : Comes K size shown fuel next err (.ok true)
  | endless (h : ∀ k < fuel, ¬K.Over size shown k next) :
    Comes K size shown fuel next err (.error err)

namespace Keys.Comes

variable {K : Keys κ} {size shown fuel : Nat} {next : Option (WithBot κ)} {err : Error}
  {ended : Result Bool}

theorem zero : K.Comes size shown 0 next err (.error err) :=
  .endless fun k hk => absurd hk (Nat.not_lt_zero k)

theorem step (h : K.Comes size shown fuel (K.next size shown last) err ended) :
    K.Comes size shown (fuel + 1) (some last) err ended := by
  cases h with
  | finished h => exact .finished (Keys.over_succ.2 h)
  | endless h =>
    refine .endless fun k hk => ?_
    cases k with
    | zero => exact fun hover => hover
    | succ k => exact fun hover => h k (by omega) (Keys.over_succ.1 hover)

theorem of_last (h : K.next size shown last = none) :
    K.Comes size shown (fuel + 1) (some last) err (.ok true) := by
  have hover : K.Over size shown fuel (K.next size shown last) := by
    rw [h]
    trivial
  exact step (.finished hover)

end Keys.Comes

/-- What a run over pages of keys hands to the visitor. -/
def handed (rowAt : κ → Row) (items : List Row → List Value) (pages : List (List κ)) :
    List Value :=
  pages.flatMap fun page => items (page.map rowAt)

section Drive

variable {visitor : Visitor σ} {visit : List Row → Run σ Bool} {items : List Row → List Value}
  (hvisit : ∀ rows w, Run.Does (visit rows) (visitor.visitAll (.ok true) (items rows)) w)

include hvisit

omit [LinearOrder κ] in
theorem does_visit_page {page : List κ} {pages : List (List κ)} {ended : Result Bool}
    {next : Run σ Bool}
    (hnext : ∀ w', w'.cache = w.cache → w'.limiter = w.limiter →
      Run.Does next (visitor.visitAll ended (handed rowAt items pages)) w') :
    Run.Does (do if ← visit (page.map rowAt) then next else return false)
      (visitor.visitAll ended (handed rowAt items (page :: pages))) w := by
  have hhanded : handed rowAt items (page :: pages)
      = items (page.map rowAt) ++ handed rowAt items pages := rfl
  rw [hhanded, Visitor.visitAll_append]
  refine (hvisit _ w).bind fun more w' hcache hlimiter => ?_
  cases more with
  | false => exact .of_pure false
  | true => exact hnext w' hcache hlimiter

theorem Batches.does_drive (hserves : e.Serves select rank column S q rowAt n) (hn : 0 < n)
    (fuel : Nat) (next : Option (WithBot κ)) :
    ∃ ended, (S.keys rank column q).Comes n n fuel next
        (.foreign .runtime "there is no end to the batches") ended
      ∧ ∀ b w, e.Open w → b.Awaits rank column S q rowAt n next →
        Run.Does (drive e visit fuel b)
          (visitor.visitAll ended
            (handed rowAt items ((S.keys rank column q).rest n n fuel next))) w := by
  -- the walk alone tells how the run ends, so that is said before the batches and the world
  induction fuel generalizing next with
  | zero =>
    refine ⟨_, .zero, fun b w _ _ => ?_⟩
    cases next <;> exact .of_throw _
  | succ fuel ih =>
    cases next with
    | none =>
      refine ⟨_, .finished trivial, fun b w _ hawaits => ?_⟩
      obtain ⟨b', hpull⟩ := hawaits.returns_pull_none hn
      rw [drive]
      exact .after hpull ⟨rfl, rfl, rfl⟩ (.of_pure true)
    | some last =>
      by_cases hpage : (S.keys rank column q).page n n last = []
      · have hnone := Keys.next_eq_none hn (Nat.le_refl n) hpage
        refine ⟨_, .of_last hnone, fun b w hopen hawaits => ?_⟩
        obtain ⟨b', w', hleaves, hpull, -⟩ := hawaits.returns_pull hserves hn hopen hpage
        rw [Keys.rest, Keys.pages_of_empty hpage, drive]
        exact .after hpull hleaves (.of_pure true)
      · obtain ⟨ended, hcomes, hrest⟩ := ih ((S.keys rank column q).next n n last)
        refine ⟨ended, hcomes.step, fun b w hopen hawaits => ?_⟩
        obtain ⟨b', w', hleaves, hpull, hnext⟩ := hawaits.returns_pull hserves hn hopen rfl
        rw [if_neg hpage] at hpull
        rw [Keys.rest_succ hpage, drive]
        refine .after hpull hleaves ?_
        refine does_visit_page hvisit fun w'' hcache hlimiter => ?_
        exact hrest b' w'' ((hopen.leaves hleaves).leaves ⟨rfl, hcache, hlimiter⟩) (hnext hpage)

end Drive

/-! ## Rows one by one -/

section Rows

variable {visitor : Visitor σ}

/-- Why a run over rows comes to its end if the visitor wants all of them. -/
def endOfRows (fuel count : Nat) : Result Bool :=
  if count < fuel then .ok true else .error (.foreign .runtime "there is no end to the rows")

/-- The first values of rows, as many as are handed out. -/
def handedRows (rowAt : κ → Row) (fuel : Nat) (ks : List κ) : List Value :=
  ((ks.take fuel).map rowAt).map .mapping

omit [LinearOrder κ] in
theorem does_visit_row {fuel : Nat} {k : κ} {ks : List κ} {next : Run σ Bool}
    (hnext : ∀ w', w'.cache = w.cache → w'.limiter = w.limiter →
      Run.Does next (visitor.visitAll (endOfRows fuel ks.length) (handedRows rowAt fuel ks)) w') :
    Run.Does (do if ← visitor.row (rowAt k) then next else return false)
      (visitor.visitAll (endOfRows (fuel + 1) (k :: ks).length)
        (handedRows rowAt (fuel + 1) (k :: ks))) w := by
  have hended : endOfRows (fuel + 1) (k :: ks).length = endOfRows fuel ks.length := by
    unfold endOfRows
    simp
  rw [hended]
  refine (visitor.does_wantsMore (.mapping (rowAt k))).bind fun more w' hcache hlimiter => ?_
  cases more with
  | false => exact .of_pure false
  | true => exact hnext w' hcache hlimiter

omit [LinearOrder κ] in
theorem RowSource.returns_pull_none {b b' : Batches} (h : (b.pull e).Returns w (none, b') w') :
    (RowSource.pull e (.batches ⟨b, []⟩)).Returns w (none, .finished) w' :=
  returns_bind.2 ⟨(none, ⟨b', []⟩), w', returns_bind.2 ⟨_, w', h, rfl⟩, rfl⟩

omit [LinearOrder κ] in
theorem RowSource.returns_pull_some {b b' : Batches} {row : Row} {ready : List Row}
    (h : (b.pull e).Returns w (some (row :: ready), b') w') :
    (RowSource.pull e (.batches ⟨b, []⟩)).Returns w (some row, .batches ⟨b', ready⟩) w' :=
  returns_bind.2 ⟨(some row, ⟨b', ready⟩), w', returns_bind.2 ⟨_, w', h, rfl⟩, rfl⟩

/-- Rows of batches that are handed out one by one: those that are ready, and those of the batches
that are still to come. -/
theorem RowSource.does_forEach (hserves : e.Serves select rank column S q rowAt n) (hn : 0 < n)
    (visitor : Visitor σ) (fuel : Nat) {batches : Nat} (hbatches : fuel ≤ batches)
    {next : Option (WithBot κ)} (ready : List κ) {b : Batches} (hopen : e.Open w)
    (hawaits : b.Awaits rank column S q rowAt n next) {ks : List κ}
    (hks : ready ++ ((S.keys rank column q).rest n n batches next).flatten = ks) :
    Run.Does (forEach e visitor.row fuel (.batches ⟨b, ready.map rowAt⟩))
      (visitor.visitAll (endOfRows fuel ks.length) (handedRows rowAt fuel ks)) w := by
  -- a batch has a row at least, so as many batches as rows are enough
  induction fuel generalizing batches next ready b w ks with
  | zero => exact .of_throw _
  | succ fuel ih =>
    subst hks
    rw [forEach]
    cases ready with
    | cons k ready =>
      refine .after (a := (some (rowAt k), .batches ⟨b, ready.map rowAt⟩)) rfl ⟨rfl, rfl, rfl⟩ ?_
      refine does_visit_row fun w' hcache hlimiter => ?_
      exact ih (by omega) ready (hopen.leaves ⟨rfl, hcache, hlimiter⟩) hawaits rfl
    | nil =>
      rw [List.nil_append]
      cases next with
      | none =>
        obtain ⟨b', hpull⟩ := hawaits.returns_pull_none hn
        exact .after (returns_pull_none hpull) ⟨rfl, rfl, rfl⟩ (.of_pure true)
      | some last =>
        obtain ⟨more, rfl⟩ : ∃ more, batches = more + 1 := ⟨batches - 1, by omega⟩
        obtain ⟨b', w', hleaves, hpull, hnext⟩ := hawaits.returns_pull hserves hn hopen rfl
        by_cases hpage : (S.keys rank column q).page n n last = []
        · rw [if_pos hpage] at hpull
          rw [Keys.rest, Keys.pages_of_empty hpage]
          exact .after (returns_pull_none hpull) hleaves (.of_pure true)
        · obtain ⟨k, page, hcons⟩ := List.exists_cons_of_ne_nil hpage
          rw [if_neg hpage, hcons] at hpull
          rw [Keys.rest_succ hpage, hcons]
          refine .after (returns_pull_some hpull) hleaves ?_
          refine does_visit_row fun w'' hcache hlimiter => ?_
          have hopen' := (hopen.leaves hleaves).leaves ⟨rfl, hcache, hlimiter⟩
          exact ih (by omega) page hopen' (hnext hpage) rfl

end Rows

/-! ## Page after page -/

/-- A caller's loop over pages, each after the cursor of the one before, until it breaks off. It may
do anything between two rows. `fuel` bounds the number of pages. -/
def Engine.forEachPage (e : Engine σ) (q : Query) (perPage : Nat) (column : String)
    (visit : Row → Run σ Bool) : Nat → Value → Run σ Bool
  | 0, _ => throw (.foreign .runtime "there is no end to the pages")
  | fuel + 1, cursor => do
    let page ← e.cursorPaginate q perPage cursor column
    if ← Batches.visitRows visit page.data then
      if page.hasMore then forEachPage e q perPage column visit fuel page.nextCursor
      else return true
    else return false

/-- The cursor for the page after one with rows of the result stands at the last of them. -/
theorem cursorAfter_page (hkeyed : S.Keyed rank column q rowAt) {page : List κ}
    (hpage : ∀ k ∈ page, k ∈ (S.keys rank column q).all) (hasMore : Bool) :
    ∃ next, Engine.cursorAfter (page.map rowAt).getLast? column hasMore = .ok next
      ∧ (page ≠ [] → S.Stands rank column q next (endOf page)) := by
  obtain rfl | ⟨earlier, k, rfl⟩ := List.eq_nil_or_concat' page
  · exact ⟨_, rfl, fun hne => absurd rfl hne⟩
  · obtain ⟨hstands, hcursor⟩ := Store.stands_of_mem hkeyed (hpage k List.mem_concat_self)
    rw [endOf_concat, List.map_append, List.map_singleton, List.getLast?_concat]
    refine ⟨_, ?_, fun _ => hstands⟩
    cases hasMore with
    | true => exact hcursor
    | false => rfl

/-- A page after a cursor is a page of the walk. One row more is read to tell whether it is the
last. -/
theorem Engine.Serves.returns_page (hserves : e.Serves select rank column S q rowAt (n + 1))
    (hn : 0 < n) (hopen : e.Open w) (hstands : S.Stands rank column q cursor last) :
    ∃ next w', w.Leaves w.outside w'
      ∧ (e.cursorPaginate q n cursor column).Returns w
        ⟨((S.keys rank column q).page (n + 1) n last).map rowAt, next,
          ((S.keys rank column q).next (n + 1) n last).isSome, n⟩ w'
      ∧ ∀ last', (S.keys rank column q).next (n + 1) n last = some last' →
        S.Stands rank column q next last' := by
  obtain ⟨q', w', hq', hget, hleaves⟩ := hserves.returns_batch hopen hstands
  generalize hK : S.keys rank column q = K at hget ⊢
  have hmore : decide (n < ((K.batch (n + 1) last).map rowAt).length)
      = (K.next (n + 1) n last).isSome := by
    unfold Keys.next
    rw [List.length_map]
    by_cases hshort : (K.batch (n + 1) last).length < n + 1
    · rw [if_pos hshort]
      exact decide_eq_false (by omega)
    · rw [if_neg hshort]
      exact decide_eq_true (by omega)
  have hdata : ((K.batch (n + 1) last).map rowAt).take n = (K.page (n + 1) n last).map rowAt :=
    List.map_take.symm
  have hmem : ∀ k ∈ K.page (n + 1) n last, k ∈ (S.keys rank column q).all := by
    intro k hk
    rw [hK]
    exact Keys.mem_all_of_mem_after (Keys.mem_after_of_mem_page hk)
  obtain ⟨next, hnext, hat⟩ := cursorAfter_page hserves.keyed hmem (K.next (n + 1) n last).isSome
  refine ⟨next, w', hleaves, ?_, ?_⟩
  · refine returns_bind.2 ⟨q', w, returns_ofResult.2 ⟨hq', rfl⟩, ?_⟩
    refine returns_bind.2 ⟨_, w', hget, ?_⟩
    simp only [hmore, hdata]
    exact returns_bind.2 ⟨next, w', returns_ofResult.2 ⟨hnext, rfl⟩, returns_pure.2 ⟨rfl, rfl⟩⟩
  · intro last' hlast
    unfold Keys.next at hlast
    by_cases hshort : (K.batch (n + 1) last).length < n + 1
    · rw [if_pos hshort] at hlast
      cases hlast
    · rw [if_neg hshort] at hlast
      cases hlast
      refine hat fun hnil => hshort ?_
      exact (Keys.batch_eq_nil hn (Nat.le_succ n) hnil).2

theorem Engine.does_forEachPage (hserves : e.Serves select rank column S q rowAt (n + 1))
    (hn : 0 < n) (visitor : Visitor σ) (fuel : Nat) (last : WithBot κ) :
    ∃ ended, (S.keys rank column q).Comes (n + 1) n fuel (some last)
        (.foreign .runtime "there is no end to the pages") ended
      ∧ ∀ cursor w, e.Open w → S.Stands rank column q cursor last →
        Run.Does (e.forEachPage q n column visitor.row fuel cursor)
          (visitor.visitAll ended
            (handed rowAt (List.map .mapping) ((S.keys rank column q).pages (n + 1) n fuel last)))
          w := by
  induction fuel generalizing last with
  | zero =>
    refine ⟨_, .zero, fun cursor w _ _ => ?_⟩
    exact .of_throw _
  | succ fuel ih =>
    have hpages : handed rowAt (List.map .mapping)
          ((S.keys rank column q).pages (n + 1) n (fuel + 1) last)
        = handed rowAt (List.map .mapping) ((S.keys rank column q).page (n + 1) n last
          :: (S.keys rank column q).rest (n + 1) n fuel
            ((S.keys rank column q).next (n + 1) n last)) := by
      by_cases hpage : (S.keys rank column q).page (n + 1) n last = []
      · rw [Keys.pages_of_empty hpage, Keys.next_eq_none hn (Nat.le_succ n) hpage, hpage]
        rfl
      · rw [← Keys.rest_succ hpage]
        rfl
    rw [hpages]
    cases hnext : (S.keys rank column q).next (n + 1) n last with
    | none =>
      refine ⟨_, .of_last hnext, fun cursor w hopen hstands => ?_⟩
      obtain ⟨next, w', hleaves, hpage, -⟩ := hserves.returns_page hn hopen hstands
      rw [hnext] at hpage
      rw [forEachPage]
      refine .after hpage hleaves ?_
      exact does_visit_page (fun rows w => visitor.does_visitRows rows) fun w'' _ _ => .of_pure true
    | some last' =>
      obtain ⟨ended, hcomes, hrest⟩ := ih last'
      rw [← hnext] at hcomes
      refine ⟨ended, hcomes.step, fun cursor w hopen hstands => ?_⟩
      obtain ⟨next, w', hleaves, hpage, hat⟩ := hserves.returns_page hn hopen hstands
      rw [hnext] at hpage
      rw [forEachPage]
      refine .after hpage hleaves ?_
      refine does_visit_page (fun rows w => visitor.does_visitRows rows) fun w'' hcache hlimiter => ?_
      exact hrest next w'' ((hopen.leaves hleaves).leaves ⟨rfl, hcache, hlimiter⟩) (hat last' hnext)

/-! ## All ways to page -/

theorem Store.Keyed.nodup_rows_iff (hkeyed : S.Keyed rank column q rowAt) {size shown fuel : Nat} :
    (((S.keys rank column q).pages size shown fuel ⊥).flatten.map rowAt).Nodup
      ↔ ((S.keys rank column q).pages size shown fuel ⊥).flatten.Nodup := by
  refine ⟨List.Nodup.of_map rowAt, List.Nodup.map_on fun k hk l hl hsame => ?_⟩
  have hplace {k : κ} (hk : k ∈ ((S.keys rank column q).pages size shown fuel ⊥).flatten) :
      (rowAt k).place rank column = k := by
    obtain ⟨r, hr, rfl⟩ := Store.mem_keys_all.1 (Keys.mem_all_of_mem_pages hk)
    rw [hkeyed.unique r hr]
  rw [← hplace hk, ← hplace hl, hsame]

/-- Batches whose rows are handed on, together or one by one, show the pages of a walk. -/
structure Engine.ShowsBatches (e : Engine σ) (settings : Settings) (visitor : Visitor σ)
    (rank : Value → κ) (column : String) (S : Store) (q : Query) (rowAt : κ → Row) (n : Nat)
    (w : World σ) : Prop where
  walk : (S.keys rank column q).Walk n n
  once_iff : ∀ fuel, (((S.keys rank column q).pages n n fuel ⊥).flatten.map rowAt).Nodup
    ↔ ∀ c ∈ (S.keys rank column q).asked n n fuel ⊥, (S.keys rank column q).Clear c
  chunk : ∃ ended, (S.keys rank column q).Comes n n Operation.maxBatches (some ⊥)
      (.foreign .runtime "there is no end to the batches") ended
    ∧ Run.Does ((Operation.chunk n (.after column .null)).run e settings visitor q)
      (do return .bool (← visitor.visitAll ended
        (handed rowAt (fun rows => [.list (rows.map .mapping)])
          ((S.keys rank column q).pages n n Operation.maxBatches ⊥)))) w
  each : ∀ given, batchSize settings given = n →
    ∃ ended, (S.keys rank column q).Comes n n Operation.maxBatches (some ⊥)
      (.foreign .runtime "there is no end to the batches") ended
    ∧ Run.Does ((Operation.each given (.after column .null)).run e settings visitor q)
      (do return .bool (← visitor.visitAll ended
        (handed rowAt (List.map .mapping)
          ((S.keys rank column q).pages n n Operation.maxBatches ⊥)))) w
  rows : ∀ given, batchSize settings given = n → ∀ fuel,
    Run.Does (do
        let source ← ofResult
          (RowSource.make e.dialect settings q (.batches given (.after column .null)))
        source.forEach e visitor.row fuel)
      (visitor.visitAll
        (endOfRows fuel ((S.keys rank column q).pages n n fuel ⊥).flatten.length)
        (handedRows rowAt fuel ((S.keys rank column q).pages n n fuel ⊥).flatten)) w

/-- Pages after a cursor show the pages of a walk that reads one row ahead. -/
structure Engine.ShowsPages (e : Engine σ) (visitor : Visitor σ) (rank : Value → κ)
    (column : String) (S : Store) (q : Query) (rowAt : κ → Row) (perPage : Nat) (w : World σ) :
    Prop where
  walk : (S.keys rank column q).Walk (perPage + 1) perPage
  once_iff : ∀ fuel,
    (((S.keys rank column q).pages (perPage + 1) perPage fuel ⊥).flatten.map rowAt).Nodup
    ↔ ∀ c ∈ (S.keys rank column q).asked (perPage + 1) perPage fuel ⊥,
      (S.keys rank column q).Clear c
  pages : ∀ fuel, ∃ ended, (S.keys rank column q).Comes (perPage + 1) perPage fuel (some ⊥)
      (.foreign .runtime "there is no end to the pages") ended
    ∧ Run.Does (e.forEachPage q perPage column visitor.row fuel .null)
      (visitor.visitAll ended
        (handed rowAt (List.map .mapping)
          ((S.keys rank column q).pages (perPage + 1) perPage fuel ⊥))) w

theorem Engine.Serves.showsBatches (hserves : e.Serves select rank column S q rowAt n)
    (hn : 0 < n) (hopen : e.Open w) (settings : Settings) (visitor : Visitor σ) :
    e.ShowsBatches settings visitor rank column S q rowAt n w := by
  have hwalk : (S.keys rank column q).Walk n n := Keys.walk hn (Nat.le_refl n) (Nat.le_succ n)
  have hstart : Batches.Awaits rank column S q rowAt n (.following q rowAt n column .null none)
      (some ⊥) := .start
  exact {
    walk := hwalk
    once_iff := fun fuel => hserves.keyed.nodup_rows_iff.trans (hwalk.once_iff fuel)
    chunk := by
      obtain ⟨ended, hcomes, hdoes⟩ := Batches.does_drive (fun rows w => visitor.does_batch rows)
        hserves hn Operation.maxBatches (some ⊥)
      refine ⟨ended, hcomes, ?_⟩
      exact (hdoes _ w hopen hstart).bind fun _ _ _ _ => .of_pure _
    each := by
      intro given hgiven
      obtain ⟨ended, hcomes, hdoes⟩ := Batches.does_drive
        (fun rows w => visitor.does_visitRows rows) hserves hn Operation.maxBatches (some ⊥)
      refine ⟨ended, hcomes, ?_⟩
      have hrun := hdoes _ w hopen hstart
      unfold Batches.following at hrun
      rw [← hgiven] at hrun
      exact hrun.bind fun _ _ _ _ => .of_pure _
    rows := by
      intro given hgiven fuel
      have hrun := RowSource.does_forEach hserves hn visitor fuel (Nat.le_refl fuel) [] hopen
        hstart rfl
      unfold Batches.following at hrun
      rw [← hgiven] at hrun
      exact hrun }

theorem Engine.Serves.showsPages {perPage : Nat}
    (hserves : e.Serves select rank column S q rowAt (perPage + 1)) (hone : 0 < perPage)
    (hopen : e.Open w) (visitor : Visitor σ) :
    e.ShowsPages visitor rank column S q rowAt perPage w := by
  have hwalk : (S.keys rank column q).Walk (perPage + 1) perPage :=
    Keys.walk hone (Nat.le_succ perPage) (Nat.le_refl _)
  exact {
    walk := hwalk
    once_iff := fun fuel => hserves.keyed.nodup_rows_iff.trans (hwalk.once_iff fuel)
    pages := by
      intro fuel
      obtain ⟨ended, hcomes, hdoes⟩ := Engine.does_forEachPage hserves hone visitor fuel ⊥
      exact ⟨ended, hcomes, hdoes _ w hopen .start⟩ }

/-- **Paging over a UNION.** All rows that a query after a cursor can return are beyond the cursor
exactly if those of the branches are, for the branches are not bounded by it.

Let an executor answer from a store in which the column is a key of the result, without caching.
Then batches, rows one by one, and pages after a cursor show the pages of a walk over the keys. It
shows a row twice exactly if it asks from a cursor that a key of a branch does not exceed. If it
shows none twice, it ends, and what it has shown is the whole result in order. It ends as well if a
page has more rows than the branches, and if the branches fill a batch it never does. -/
theorem Engine.pages_over_union (e : Engine σ) (settings : Settings) (visitor : Visitor σ)
    (select : σ → String → List Value → List Row) (rank : Value → κ) (column : String) (S : Store)
    (q : Query) (rowAt : κ → Row) (w : World σ) :
    (∀ cursor count q', cursor ≠ .null → q.afterCursor column cursor count = .ok q' →
      ((∀ r, S.Returns q' r → r.truth (.compare column .gt cursor) = .yes)
        ↔ ∀ r ∈ S.branches q.unions, r.truth (.compare column .gt cursor) = .yes))
    ∧ (∀ n, 0 < n → e.Open w → e.Serves select rank column S q rowAt n →
      e.ShowsBatches settings visitor rank column S q rowAt n w)
    ∧ ∀ perPage, 0 < perPage → e.Open w →
      e.Serves select rank column S q rowAt (perPage + 1) →
      e.ShowsPages visitor rank column S q rowAt perPage w := by
  refine ⟨?_, ?_, ?_⟩
  · intro cursor count q' hsome hq'
    exact Store.beyond_iff hq' hsome
  · intro n hn hopen hserves
    exact hserves.showsBatches hn hopen settings visitor
  · intro perPage hone hopen hserves
    exact hserves.showsPages hone hopen visitor

end Runs

/-! ## A branch that fills every batch -/

/-- One row of a main SELECT, and two before it in a branch. -/
def joined : Store where
  main := [numbered 3]
  branches unions := unions.flatMap fun _ => [numbered 1, numbered 2]

def joinedNumbers : Query where
  table := some "t"
  unions := [{ query := { table := some "s" }, all := false }]

/-- The first two rows. The cursor is found among the bindings. -/
def joinedRows (_ : List Value) (_ : String) (bindings : List Value) : List Row :=
  match joinedNumbers.afterCursor ("id" : String) (bindings.headD .null) 2 with
  | .ok q =>
    ((ascending (joined.keys numberRank "id" q).all).take 2).map fun id => (numbered id).row
  | .error _ => []

/-- An executor whose state is what was handed to a visitor. -/
def joinedEngine : Engine (List Value) where
  dialect := .mysql
  statements := {
    query sql bindings := return { rows := joinedRows [] sql bindings }
    queryOne _ _ := return none
    execute _ _ := return { rowsAffected := .int 0 } }

/-- A visitor who keeps what is handed over. -/
def keepAll : Visitor (List Value) := fun v => do
  modify fun kept => kept ++ [v]
  return .null

def joinedStart : World (List Value) := { outside := [] }

theorem joined_numbered {q : Query} {r : Record} (h : joined.Returns q r) :
    ∃ id, r = numbered id := by
  obtain ⟨hmain, -⟩ | hbranch := h
  · exact ⟨3, List.mem_singleton.1 hmain⟩
  · obtain ⟨-, -, hrow⟩ := List.mem_flatMap.1 hbranch
    rcases List.mem_cons.1 hrow with rfl | hrow
    · exact ⟨1, rfl⟩
    · exact ⟨2, List.mem_singleton.1 hrow⟩

theorem joined_keyed :
    joined.Keyed numberRank "id" joinedNumbers fun id => (numbered id).row where
  present := by
    intro r hr
    obtain ⟨id, rfl⟩ := joined_numbered hr
    rw [numbered_cell]
    exact fun hnull => nomatch hnull
  unique := by
    intro r hr
    obtain ⟨id, rfl⟩ := joined_numbered hr
    rw [numbered_place]
  compared := by
    intro r hr r' hr'
    obtain rfl := List.mem_singleton.1 hr
    obtain ⟨id, rfl⟩ := joined_numbered hr'
    rw [numbered_cell, numbered_place, numbered_place]
    change (if id < 3 then Truth.yes else Truth.no) = .yes ↔ id < 3
    split <;> simp_all

theorem joinedEngine_serves :
    joinedEngine.Serves joinedRows numberRank "id" joined joinedNumbers
      (fun id => (numbered id).row) 2 where
  reads _ _ _ := rfl
  named := by decide
  compiles := ⟨_, rfl⟩
  keyed := joined_keyed
  answers := by
    intro cursor q' s x hq hs
    have hcursor : s.bindings.headD .null = cursor := by
      cases cursor <;> cases hq <;> cases hs <;> rfl
    unfold joinedRows
    rw [hcursor, hq]
    exact List.map_map

theorem joinedEngine_open : joinedEngine.Open joinedStart where
  uncached _ := rfl
  ready _ hlimiter := nomatch hlimiter

/-- The pages of numbers are those of a walk, at two rows a batch and at one row a page. -/
theorem joinedNumbers_shown :
    joinedEngine.ShowsBatches {} keepAll numberRank "id" joined joinedNumbers
      (fun id => (numbered id).row) 2 joinedStart
    ∧ joinedEngine.ShowsPages keepAll numberRank "id" joined joinedNumbers
      (fun id => (numbered id).row) 1 joinedStart := by
  obtain ⟨-, hbatches, hpages⟩ := Engine.pages_over_union joinedEngine {} keepAll joinedRows
    numberRank "id" joined joinedNumbers (fun id => (numbered id).row) joinedStart
  exact ⟨hbatches 2 (by decide) joinedEngine_open joinedEngine_serves,
    hpages 1 (by decide) joinedEngine_open joinedEngine_serves⟩

/-- A loop over the rows, six at most. -/
def joinedRun : Result Bool × World (List Value) :=
  (do
    let source ← ofResult
      (RowSource.make .mysql {} joinedNumbers (.batches (some 2) (.after ("id" : String) .null)))
    source.forEach joinedEngine keepAll.row 6 : Run _ Bool).run.run joinedStart

/-- The numbers of rows. -/
def numbersOf (kept : List Value) : List Int :=
  kept.map fun
    | .mapping row => Row.place numberRank "id" row
    | _ => 0

/-- The query after 5 can return the row with 1, and a loop over the rows reads 1 and 2 again and
again. -/
theorem joined_read_again :
    (∃ q', joinedNumbers.afterCursor ("id" : String) (.int 5) 2 = .ok q'
      ∧ joined.Returns q' (numbered 1)
      ∧ (numbered 1).truth (.compare "id" .gt (.int 5)) = .no)
    ∧ joinedRun.1.toOption = none
    ∧ numbersOf joinedRun.2.outside = [1, 2, 1, 2, 1, 2]
    ∧ ∀ fuel, ¬(joined.keys numberRank "id" joinedNumbers).Ends 2 2 fuel ⊥ := by
  refine ⟨⟨_, rfl, .inr List.mem_cons_self, rfl⟩, ?_, ?_, ?_⟩
  · decide +kernel
  · decide +kernel
  · exact Keys.not_ends_of_card_le (by decide +kernel)

end SqlQuery
