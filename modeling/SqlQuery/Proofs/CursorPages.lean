import SqlQuery.Proofs.CompoundPaging

/-!
# Pages after a cursor

A page after a cursor reads one row more than it shows. The row that is read ahead only tells that a
page follows; the cursor for that page is the column of the last row that is shown. So the rows that
were shown are always a `Journal` that is faithful, whatever happens to the table between two pages
(`Engine.returns_page`).
-/

namespace SqlQuery

open Effect Recorded

variable {σ κ : Type} [LinearOrder κ]

/-- The executor answers each query after a cursor from the table that it has then. The table that
it has afterwards may be any other. -/
def Engine.AnswersAfter (e : Engine σ) (rank : Value → κ) (column : String) (table : σ → Table)
    (q : Query) (count : Nat) : Prop :=
  ∀ last q' s x, q.afterCursor column last count = .ok q' → Statement.select e.dialect q' = .ok s →
    ∃ x', (e.readRows s).Returns x (((table x).answer rank column q').map Row.normalize) x'

/-- A caller's walk over pages, each after the cursor of the one before, up to a number of pages or
to the first that none follows. -/
def Engine.cursorPages (e : Engine σ) (q : Query) (perPage : Nat) (column : String) :
    Nat → Value → Run σ (List CursorPage)
  | 0, _ => return []
  | count + 1, cursor => do
    let page ← e.cursorPaginate q perPage cursor column
    if page.hasMore then
      return page :: (← cursorPages e q perPage column count page.nextCursor)
    else return [page]

/-- The journal of a walk that has shown some rows. -/
def Journal.showing (j : Journal) (rows : List Row) : Journal :=
  { j with delivered := rows }

/-- What a page tells of itself. -/
structure CursorPage.Fits (column : String) (perPage : Nat) (p : CursorPage) : Prop where
  size : p.perPage = perPage
  full : p.hasMore = true → p.data.length = perPage
  nextCursor : p.nextCursor = cursorAfter column p.data
  cursor_null : p.nextCursor = .null ↔ p.data = []

variable {rank : Value → κ} {column : String} {table : σ → Table} {q : Query} {e : Engine σ}
  {perPage : Nat}

/-! ## The rows of a page -/

section Rows

variable {t : Table} {last : Value} {n : Nat} {batch : List Row}

/-- The first rows of a batch are a batch. -/
theorem Table.Batch.take (h : t.Batch rank column q last (n + 1) batch) :
    t.Batch rank column q last n (batch.take n) where
  ascending := h.ascending.sublist (List.take_sublist n batch)
  held row hrow := h.held row (List.mem_of_mem_take hrow)
  beyond row hrow := h.beyond row (List.mem_of_mem_take hrow)
  reached := by
    intro r hr hreaches hbeyond hwithin
    obtain hshort | ⟨row, hrow, hle⟩ := hwithin
    · rw [List.length_take] at hshort
      rw [List.take_of_length_le (by omega)]
      exact h.reached r hr hreaches hbeyond (.inl (by omega))
    · have hmem := h.reached r hr hreaches hbeyond (.inr ⟨row, List.mem_of_mem_take hrow, hle⟩)
      rw [← List.take_append_drop n batch] at hmem
      refine (List.mem_append.1 hmem).resolve_right fun hcut => ?_
      -- a row that is cut off stands after every row that is not
      have hascending := h.ascending
      rw [← List.take_append_drop n batch, List.pairwise_append] at hascending
      exact absurd (hascending.2.2 row hrow r.row hcut) (not_lt_of_ge hle)

theorem cursorAfter_append {rows more : List Row} (hne : more ≠ []) :
    cursorAfter column (rows ++ more) = cursorAfter column more := by
  unfold cursorAfter
  rw [List.getLast?_append_of_ne_nil _ hne]

/-- The cursor for the next page is the column of the last row, which is not null. -/
theorem Engine.cursorAfter_eq_ok {rows : List Row}
    (hpresent : ∀ row ∈ rows, row.get (resultName column) ≠ .null) (hasMore : Bool) :
    Engine.cursorAfter rows.getLast? column hasMore = .ok (SqlQuery.cursorAfter column rows)
    ∧ (SqlQuery.cursorAfter column rows = .null ↔ rows = []) := by
  unfold SqlQuery.cursorAfter
  obtain rfl | ⟨earlier, row, rfl⟩ := List.eq_nil_or_concat' rows
  · exact ⟨rfl, iff_of_true rfl rfl⟩
  · have hsome := hpresent row List.mem_concat_self
    rw [List.getLast?_concat]
    refine ⟨?_, iff_of_false hsome (by simp)⟩
    cases hasMore with
    | false => rfl
    | true =>
      show cursorValue row column = _
      unfold cursorValue
      refine Result.bind_eq_ok.2 ⟨_, rfl, ?_⟩
      split
      · next hnull => exact absurd hnull hsome
      · rfl

end Rows

/-- The executor of a watched engine reads the same rows, and the table that they come from is
noted. -/
theorem Engine.returns_readRows_watched {s : Statement} {rows : List Row} {x : σ}
    {r : Recorded Journal σ} (h : (e.readRows s).Returns r.state rows x) :
    ((e.watched table).readRows s).Returns r rows
      { state := x, record := r.record.ask (table r.state) } := by
  let put (y : σ) : Recorded Journal σ :=
    { state := y, record := r.record.ask (table r.state) }
  refine Engine.returns_readRows_of_query put (fun reading y hquery => ?_) h
  exact returns_get_bind.2 (returns_bind.2 ⟨(), _, rfl, run_act hquery⟩)

/-! ## The walk -/

/-- The last of some pages is followed by none. -/
def Ended (pages : List CursorPage) : Prop :=
  ∃ p ∈ pages.getLast?, p.hasMore = false

/-- The pages of a walk that takes up after some rows, and the journal at its end. -/
structure CursorWalk (rank : Value → κ) (column : String) (table : σ → Table) (q : Query)
    (perPage count : Nat) (before : List Row) (pages : List CursorPage) (j : Journal) : Prop where
  fits : ∀ p ∈ pages, p.Fits column perPage
  faithful : (j.showing (before ++ pages.flatMap CursorPage.data)).Faithful rank column table q
  goes_on : ∀ p ∈ pages.dropLast, p.hasMore = true
  ends : pages.length = count ∨ Ended pages
  lasting : Ended pages → ∀ row, j.Lasting q row →
    row ∈ before ++ pages.flatMap CursorPage.data

namespace CursorWalk

variable {count : Nat} {before : List Row} {p : CursorPage} {pages : List CursorPage} {j : Journal}

theorem ended_cons (hmore : p.hasMore = true) : Ended (p :: pages) ↔ Ended pages := by
  unfold Ended
  cases pages with
  | nil => simp [hmore]
  | cons next rest => rw [List.getLast?_cons_cons]

theorem nil (h : (j.showing before).Faithful rank column table q) :
    CursorWalk rank column table q perPage 0 before [] j where
  fits _ hp := nomatch hp
  faithful := by
    rw [List.flatMap_nil, List.append_nil]
    exact h
  goes_on _ hp := nomatch hp
  ends := .inl rfl
  lasting hended := nomatch hended.choose_spec.1

theorem last (hfits : p.Fits column perPage) (hlast : p.hasMore = false)
    (h : (j.showing (before ++ p.data)).Faithful rank column table q)
    (hlasting : ∀ row, j.Lasting q row → row ∈ before ++ p.data) :
    CursorWalk rank column table q perPage (count + 1) before [p] j where
  fits := List.forall_mem_singleton.2 hfits
  faithful := by
    rw [List.flatMap_singleton]
    exact h
  goes_on _ hp := nomatch hp
  ends := .inr ⟨p, rfl, hlast⟩
  lasting _ := by
    rw [List.flatMap_singleton]
    exact hlasting

theorem cons (hfits : p.Fits column perPage) (hmore : p.hasMore = true)
    (h : CursorWalk rank column table q perPage count (before ++ p.data) pages j) :
    CursorWalk rank column table q perPage (count + 1) before (p :: pages) j where
  fits := List.forall_mem_cons.2 ⟨hfits, h.fits⟩
  faithful := by
    rw [List.flatMap_cons, ← List.append_assoc]
    exact h.faithful
  goes_on := by
    cases pages with
    | nil => exact fun _ hp => nomatch hp
    | cons next rest => exact List.forall_mem_cons.2 ⟨hmore, h.goes_on⟩
  ends := by
    rw [ended_cons hmore]
    exact h.ends.imp_left (congrArg (· + 1))
  lasting := by
    rw [ended_cons hmore, List.flatMap_cons, ← List.append_assoc]
    exact h.lasting

end CursorWalk

section Walk

variable {w : World (Recorded Journal σ)} {before : List Row} (hnamed : column ≠ "")
  (hcompiles : q.Compiles e.dialect) (hkey : KeyColumn rank column table)
  (hanswers : e.AnswersAfter rank column table q (perPage + 1))

include hnamed hcompiles hkey hanswers

/-- The rows after a cursor are a batch of the table that the executor has then. -/
theorem Engine.returns_batch (hopen : (e.watched table).Open w)
    (hfaithful : (w.outside.record.showing before).Faithful rank column table q) {cursor : Value}
    (hcursor : SqlQuery.cursorAfter column before = cursor) :
    ∃ q' rows w', q.afterCursor column cursor (perPage + 1) = .ok q'
      ∧ ((e.watched table).get q').Returns w ⟨rows⟩ w' ∧ (e.watched table).Open w'
      ∧ w'.outside.record = w.outside.record.ask (table w.outside.state)
      ∧ (table w.outside.state).Batch rank column q cursor (perPage + 1) rows := by
  obtain ⟨q', hq', f, hf⟩ := afterCursor_compiles hcompiles hnamed cursor (perPage + 1)
  have hs : Statement.select e.dialect q' = .ok (.ofFragment e.dialect f) :=
    Result.bind_eq_ok.2 ⟨f, hf, rfl⟩
  obtain ⟨x, hrows⟩ := hanswers _ _ _ w.outside.state hq' hs
  obtain ⟨w', hget, hleaves⟩ :=
    Engine.returns_get_of_readRows hopen hs (Engine.returns_readRows_watched hrows)
  refine ⟨q', _, w', hq', hget, hopen.leaves hleaves,
    congrArg Recorded.record hleaves.outside, ?_⟩
  refine Table.batch_of_answer (hkey.unique _) (fun hsome r hr => ?_) hq'
  rw [← hcursor] at hsome ⊢
  obtain ⟨s', r', hr', hheld⟩ := hfaithful.cursor_held hsome
  have hcompared := hkey.compared _ s' r hr r' hr'
  unfold Row.place at hcompared ⊢
  rw [hheld] at hcompared
  exact hcompared

/-- A page shows rows that may be delivered after those before, and if none follows, then nothing
is missing. -/
theorem Engine.returns_cursorPage (hopen : (e.watched table).Open w)
    (hfaithful : (w.outside.record.showing before).Faithful rank column table q) {cursor : Value}
    (hcursor : SqlQuery.cursorAfter column before = cursor) :
    ∃ p w', ((e.watched table).cursorPaginate q perPage cursor column).Returns w p w'
      ∧ (e.watched table).Open w' ∧ p.Fits column perPage
      ∧ (w'.outside.record.showing (before ++ p.data)).Faithful rank column table q
      ∧ (p.hasMore = false → ∀ row, w'.outside.record.Lasting q row →
        row ∈ before ++ p.data) := by
  obtain ⟨q', rows, w', hq', hget, hopen', hrecord, hbatch⟩ :=
    Engine.returns_batch hnamed hcompiles hkey hanswers hopen hfaithful hcursor
  have hpresent : ∀ row ∈ rows.take perPage, row.get (resultName column) ≠ .null := by
    intro row hrow
    obtain ⟨r, hr, rfl⟩ := hbatch.held row (List.mem_of_mem_take hrow)
    exact hkey.present _ r hr
  obtain ⟨hnext, hnull⟩ :=
    Engine.cursorAfter_eq_ok hpresent (decide (perPage < rows.length))
  refine ⟨⟨rows.take perPage, SqlQuery.cursorAfter column (rows.take perPage),
    decide (perPage < rows.length), perPage⟩, w', ?_, hopen', ⟨rfl, ?_, rfl, hnull⟩, ?_, ?_⟩
  · refine returns_bind.2 ⟨q', w, returns_ofResult.2 ⟨hq', rfl⟩, ?_⟩
    refine returns_bind.2 ⟨_, w', hget, ?_⟩
    exact returns_bind.2 ⟨_, w', returns_ofResult.2 ⟨hnext, rfl⟩, returns_pure.2 ⟨rfl, rfl⟩⟩
  · intro hmore
    have hlong : perPage < rows.length := of_decide_eq_true hmore
    rw [List.length_take, Nat.min_eq_left hlong.le]
  · rw [← hcursor] at hbatch
    rw [hrecord]
    exact hfaithful.deliver hkey hbatch.take
  · intro hlast row hlasting
    have hshort : ¬perPage < rows.length := of_decide_eq_false hlast
    rw [← hcursor] at hbatch
    rw [hrecord] at hlasting
    rw [List.take_of_length_le (by omega)]
    exact hfaithful.mem_of_lasting hkey hbatch hlasting (.inl (by omega))

/-- Each page takes up after the rows that were shown. -/
theorem Engine.returns_cursorPages (hpos : 0 < perPage) {count : Nat}
    (hopen : (e.watched table).Open w)
    (hfaithful : (w.outside.record.showing before).Faithful rank column table q) {cursor : Value}
    (hcursor : SqlQuery.cursorAfter column before = cursor) :
    ∃ pages w', ((e.watched table).cursorPages q perPage column count cursor).Returns w pages w'
      ∧ CursorWalk rank column table q perPage count before pages w'.outside.record := by
  induction count generalizing w before cursor with
  | zero =>
    exact ⟨[], w, rfl, .nil hfaithful⟩
  | succ count ih =>
    obtain ⟨p, w₁, hp, hopen', hfits, hfaithful', hlast⟩ :=
      Engine.returns_cursorPage hnamed hcompiles hkey hanswers hopen hfaithful hcursor
    rw [cursorPages]
    cases hmore : p.hasMore with
    | false =>
      refine ⟨[p], w₁, returns_bind.2 ⟨p, w₁, hp, ?_⟩, .last hfits hmore hfaithful' (hlast hmore)⟩
      rw [hmore]
      rfl
    | true =>
      have hne : p.data ≠ [] := by
        intro hnil
        have hfull := hfits.full hmore
        rw [hnil] at hfull
        exact absurd hfull.symm (Nat.ne_of_gt hpos)
      have hnext : SqlQuery.cursorAfter column
          (before ++ p.data) = p.nextCursor := by
        rw [hfits.nextCursor]
        exact cursorAfter_append hne
      obtain ⟨pages, w₂, hpages, hwalk⟩ := ih hopen' hfaithful' hnext
      refine ⟨p :: pages, w₂, returns_bind.2 ⟨p, w₁, hp, ?_⟩, .cons hfits hmore hwalk⟩
      rw [hmore]
      exact returns_bind.2 ⟨pages, w₂, hpages, rfl⟩

end Walk

/-- **A walk over pages after a cursor neither loses nor repeats a row.** Let an executor answer the
queries after a cursor from a table that may be another one each time: `table` gives it for every
state of the executor, which it may change as it likes. The column is a key of the tables, by its
values as they are read. Reads are not cached.

A walk over the pages, each after the cursor of the one before, goes on as long as a page has more.
It shows rows in the order of the column, no two at one place. A page that has more is full, and the
cursor for the next is the column of its last row, null if there is none. And when a page has no
more, each row that every page found in its table, where the query reached it, was shown once. -/
theorem Engine.cursorPages_lose_nothing (e : Engine σ) (q : Query) (column : String)
    (rank : Value → κ) (table : σ → Table) (perPage count : Nat) (w : World σ)
    (hpos : 0 < perPage) (hnamed : column ≠ "") (hcompiles : q.Compiles e.dialect)
    (hkey : KeyColumn rank column table)
    (hanswers : e.AnswersAfter rank column table q (perPage + 1)) (hopen : e.Open w) :
    ∃ pages w', ((e.watched table).cursorPages q perPage column count .null).Returns w.watched
        pages w'
      ∧ ((pages.flatMap CursorPage.data).Pairwise
        fun row row' => row.place rank column < row'.place rank column)
      ∧ (∀ p ∈ pages, p.Fits column perPage)
      ∧ (∀ p ∈ pages.dropLast, p.hasMore = true)
      ∧ (pages.length = count ∨ Ended pages)
      ∧ (Ended pages → ∀ row, w'.outside.record.Lasting q row →
        ∃! i : Nat, (pages.flatMap CursorPage.data)[i]? = some row) := by
  have hwatched : (e.watched table).Open w.watched := ⟨hopen.uncached, hopen.ready⟩
  have hstart : (w.watched.outside.record.showing []).Faithful rank column table q := .start
  obtain ⟨pages, w', hpages, hwalk⟩ :
      ∃ pages w', ((e.watched table).cursorPages q perPage column count .null).Returns w.watched
          pages w'
        ∧ CursorWalk rank column table q perPage count [] pages w'.outside.record :=
    Engine.returns_cursorPages hnamed hcompiles hkey hanswers hpos hwatched hstart rfl
  refine ⟨pages, w', hpages, ?_, hwalk.fits, hwalk.goes_on, hwalk.ends, ?_⟩
  · exact hwalk.faithful.ascending
  · intro hended row hlasting
    exact existsUnique_of_mem hwalk.faithful.ascending (hwalk.lasting hended row hlasting)

/-! ## Pages of a table that changes -/

theorem driftingEngine_answers :
    driftingEngine.AnswersAfter numberRank "id" drifting everyNumber 2 := by
  intro last q' s x hq hs
  have hcursor : s.bindings.headD .null = last := by
    cases last <;> cases hq <;> cases hs <;> rfl
  refine ⟨x + 1, returns_bind.2 ⟨{ rows := (drifting x).answer numberRank "id" q' }, x + 1, ?_, rfl⟩⟩
  refine returns_get_bind.2 (returns_bind.2 ⟨(), x + 1, rfl, ?_⟩)
  refine returns_bind.2 ⟨q', x + 1, returns_ofResult.2 ⟨?_, rfl⟩, rfl⟩
  rw [hcursor]
  exact hq

/-- A page of the first table, and three of the second. -/
theorem drifting_pages : 0 < 1 ∧ ∃ pages w',
    ((driftingEngine.watched drifting).cursorPages everyNumber 1 "id" 9 .null).Returns
        (World.watched { outside := 0 }) pages w'
      ∧ ((pages.flatMap CursorPage.data).Pairwise
        fun row row' => row.place numberRank "id" < row'.place numberRank "id")
      ∧ (∀ p ∈ pages, p.Fits "id" 1)
      ∧ (∀ p ∈ pages.dropLast, p.hasMore = true)
      ∧ (pages.length = 9 ∨ Ended pages)
      ∧ (Ended pages → ∀ row, w'.outside.record.Lasting everyNumber row →
        ∃! i : Nat, (pages.flatMap CursorPage.data)[i]? = some row) :=
  ⟨by decide, Engine.cursorPages_lose_nothing driftingEngine everyNumber "id" numberRank drifting 1
    9 { outside := 0 } (by decide) (by decide) ⟨_, rfl⟩ drifting_keyColumn driftingEngine_answers
    ⟨fun _ => rfl, fun _ hlimiter => nomatch hlimiter⟩⟩

/-- Each page shows one row, and the fourth has no more. -/
example : (((driftingEngine.watched drifting).cursorPages everyNumber 1 "id" 9 .null).run.run
    (World.watched { outside := 0 })).1.toOption.map
      (List.map fun p => (p.data.map (Row.place numberRank "id"), p.hasMore))
    = some [([1], true), ([2], true), ([3], true), ([5], false)] := by
  decide +kernel

end SqlQuery
