import SqlQuery.Proofs.FixedResults

/-!
# Pages that are not counted

A page without the number of all rows reads one row more than it shows, and names a next page if
that row is there. A caller who goes on to the next page as long as one is named
(`Engine.simplePages`) sees a fixed result in pages of one size: a page for each block of it, and a
first page also if there are no rows.
-/

namespace SqlQuery

open Effect

/-- The numbers of the rows on a page, as its bounds say. -/
def Page.numbers (p : Page) : List Int :=
  if p.bounds.first = 0 then []
  else (List.range (p.bounds.last - p.bounds.first + 1).toNat).map
    fun (k : Nat) => p.bounds.first + k

/-- A page shows its part of a result of fixed rows. -/
structure Page.Shows (R : List Row) (perPage page : Nat) (p : Page) : Prop where
  data : p.data = block perPage R (page - 1)
  currentPage : p.bounds.currentPage = page
  size : p.bounds.perPage = perPage
  nextPage : p.bounds.nextPage = if page * perPage < R.length then some (page + 1 : Int) else none
  bounds_of_ne : p.data ≠ [] → p.bounds.first = ((page - 1) * perPage + 1 : Nat)
    ∧ p.bounds.last = ((page - 1) * perPage + p.data.length : Nat)
  bounds_of_empty : p.data = [] → p.bounds.first = 0 ∧ p.bounds.last = 0
  not_counted : p.bounds.total = notCounted ∧ p.bounds.lastPage = notCounted

/-- A caller's walk over pages, from one to the next that it names. `fuel` bounds the number of
pages. -/
def Engine.simplePages {σ : Type} (e : Engine σ) (q : Query) (perPage default : Int) :
    Nat → Int → Run σ (List Page)
  | 0, _ => throw (.foreign .runtime "there is no end to the pages")
  | fuel + 1, page => do
    let p ← e.simplePaginate q (.make page (some perPage) default)
    match p.bounds.nextPage with
    | none => return [p]
    | some next => return p :: (← simplePages e q perPage default fuel next)

/-! ## One page -/

section OnePage

variable {page perPage count : Nat}

theorem PageRequest.make_of_pos (hpage : 0 < page) (hpos : 0 < perPage) (default : Int) :
    PageRequest.make page (some perPage) default = ⟨page, perPage⟩ := by
  unfold PageRequest.make PageRequest.sizeOf
  have hfirst : ¬(page : Int) < 1 := by omega
  have hsize : ¬(perPage : Int) < 1 := by omega
  simp only [hfirst, hsize, if_false, Int.toNat_natCast]

/-- The first and the last row of a page, counted from one. -/
theorem PageBounds.rowRange_eq (hpage : 0 < page) : rowRange page perPage count
    = if count = 0 then (0, 0)
      else (↑((page - 1) * perPage + 1), ↑((page - 1) * perPage + count)) := by
  have hbefore : ((page : Int) - 1) * perPage = ((page - 1) * perPage : Nat) := by
    rw [Int.natCast_mul, Int.natCast_pred_of_pos hpage]
  unfold rowRange
  rw [hbefore]
  by_cases hcount : count = 0
  · simp [hcount]
  · have hsome : ¬(count : Int) ≤ 0 := by omega
    rw [if_neg hsome, if_neg hcount, Prod.mk.injEq]
    omega

theorem PageBounds.rowRange_nonneg (hpage : 0 < page) :
    0 ≤ (rowRange page perPage count).1 ∧ 0 ≤ (rowRange page perPage count).2 := by
  rw [rowRange_eq hpage]
  split
  · exact ⟨le_rfl, le_rfl⟩
  · exact ⟨Int.natCast_nonneg _, Int.natCast_nonneg _⟩

/-- The numbers of a page are in their ranges. -/
theorem PageBounds.check_eq_ok {b : PageBounds} (hpage : 1 ≤ b.currentPage) (hsize : 1 ≤ b.perPage)
    (hrows : 0 ≤ b.first ∧ 0 ≤ b.last) (firstField : String) : check firstField b = .ok b := by
  have hleast (field : String) {least n : Int} (h : least ≤ n) : belowLeast field least n = [] :=
    if_neg (not_lt.2 h)
  unfold check
  rw [hleast _ hpage, hleast _ hsize, hleast _ hrows.1, hleast _ hrows.2]
  rfl

theorem PageBounds.uncounted_eq_ok (hpage : 0 < page) (hpos : 0 < perPage) (hasMore : Bool) :
    uncounted page perPage count hasMore = .ok {
      currentPage := page
      nextPage := if hasMore then some (page + 1 : Int) else none
      perPage
      first := (rowRange page perPage count).1
      last := (rowRange page perPage count).2 } := by
  have hfirst : (1 : Int) ≤ page := by omega
  have hsize : (1 : Int) ≤ perPage := by omega
  exact check_eq_ok hfirst hsize (rowRange_nonneg hpage) "from_"

variable {σ : Type} {e : Engine σ} {w : World σ} {q : Query} {R : List Row}

theorem Page.shows_of_uncounted (hpage : 0 < page) {b : PageBounds}
    (hb : PageBounds.uncounted page perPage (block perPage R (page - 1)).length
      (decide (page * perPage < R.length)) = .ok b) (hpos : 0 < perPage) :
    Page.Shows R perPage page ⟨block perPage R (page - 1), b⟩ := by
  rw [PageBounds.uncounted_eq_ok hpage hpos] at hb
  cases hb
  refine ⟨rfl, rfl, rfl, ?_, ?_, ?_, rfl, rfl⟩
  · by_cases hmore : page * perPage < R.length
    · simp [hmore]
    · simp [hmore]
  · intro hne
    show (PageBounds.rowRange ..).1 = _ ∧ (PageBounds.rowRange ..).2 = _
    rw [PageBounds.rowRange_eq hpage, if_neg fun h => hne (List.eq_nil_of_length_eq_zero h)]
    exact ⟨rfl, rfl⟩
  · intro hnil
    show (PageBounds.rowRange ..).1 = _ ∧ (PageBounds.rowRange ..).2 = _
    rw [PageBounds.rowRange_eq hpage, if_pos (List.length_eq_zero_iff.2 hnil)]
    exact ⟨rfl, rfl⟩

/-- A page of a fixed result shows its part of it. -/
theorem Engine.Lists.returns_page (h : e.Lists q (perPage + 1) R) (hopen : e.Open w)
    (hpage : 0 < page) (hpos : 0 < perPage) (default : Int) :
    ∃ p w', (e.simplePaginate q (.make page (some perPage) default)).Returns w p w'
      ∧ p.Shows R perPage page ∧ e.Open w' := by
  rw [PageRequest.make_of_pos hpage hpos]
  obtain ⟨s, hs⟩ := h.written ((page - 1) * perPage)
  obtain ⟨x, hrows⟩ := h.answers _ s w.outside hs
  obtain ⟨w', hget, hleaves⟩ := Engine.returns_get_of_readRows hopen hs hrows
  -- the row that is read ahead is there if the rows up to the page's end are not all
  have hmore : decide (perPage < ((R.drop ((page - 1) * perPage)).take (perPage + 1)).length)
      = decide (page * perPage < R.length) := by
    obtain ⟨before, rfl⟩ : ∃ before, page = before + 1 := ⟨page - 1, by omega⟩
    rw [List.length_take, List.length_drop, Nat.add_sub_cancel, Nat.add_mul, Nat.one_mul]
    exact decide_eq_decide.2 (by omega)
  have hdata : ((R.drop ((page - 1) * perPage)).take (perPage + 1)).take perPage
      = block perPage R (page - 1) := by
    rw [List.take_take, Nat.min_eq_left (Nat.le_succ perPage)]
    rfl
  obtain ⟨b, hb⟩ : ∃ b, PageBounds.uncounted page perPage (block perPage R (page - 1)).length
      (decide (page * perPage < R.length)) = .ok b := ⟨_, PageBounds.uncounted_eq_ok hpage hpos _⟩
  refine ⟨_, w', returns_bind.2 ⟨_, w', hget, ?_⟩, Page.shows_of_uncounted hpage hb hpos,
    hopen.leaves hleaves⟩
  simp only [hmore, hdata]
  exact returns_bind.2 ⟨b, w', returns_ofResult.2 ⟨hb, rfl⟩, returns_pure.2 ⟨rfl, rfl⟩⟩

/-- The numbers of the rows on a page are a block of the numbers of all rows. -/
theorem Page.Shows.numbers {p : Page} (h : p.Shows R perPage page) :
    p.numbers = block perPage ((List.range' 1 R.length).map Nat.cast) (page - 1) := by
  have hblock : block perPage ((List.range' 1 R.length).map (Nat.cast : Nat → Int)) (page - 1)
      = (List.range' ((page - 1) * perPage + 1) p.data.length).map Nat.cast := by
    rw [h.data, length_block]
    unfold block
    rw [← List.map_drop, ← List.map_take, List.drop_range', Nat.mul_one, Nat.add_comm 1]
    exact congrArg _ (List.ext_getElem (by simp) fun i _ _ => by simp)
  rw [hblock]
  unfold Page.numbers
  by_cases hdata : p.data = []
  · rw [if_pos (h.bounds_of_empty hdata).1, hdata]
    rfl
  · obtain ⟨hfirst, hlast⟩ := h.bounds_of_ne hdata
    have hcount : (((page - 1) * perPage + p.data.length : Nat)
        - ((page - 1) * perPage + 1 : Nat) + 1 : Int).toNat = p.data.length := by omega
    rw [hfirst, hlast, hcount, if_neg (by omega), List.range'_eq_map_range, List.map_map]
    exact List.map_congr_left fun k _ => (Int.natCast_add _ k).symm

end OnePage

/-! ## The walk -/

section Walk

variable {σ : Type} {e : Engine σ} {w : World σ} {q : Query} {R : List Row} {perPage : Nat}

/-- The walk from a page on. It goes over the pages of the rows that are left, and over that one
at least. -/
theorem Engine.Lists.returns_pages (h : e.Lists q (perPage + 1) R) (hpos : 0 < perPage)
    (default : Int) {fuel before count : Nat} (hopen : e.Open w)
    (hcount : max 1 ((R.length - before * perPage) ⌈/⌉ perPage) = count) (hfuel : count ≤ fuel) :
    ∃ pages w', (e.simplePages q perPage default fuel ((before + 1 : Nat) : Int)).Returns w pages w'
      ∧ List.Forall₂ (fun page p => p.Shows R perPage page) (List.range' (before + 1) count)
        pages := by
  induction fuel generalizing before count w with
  | zero => omega
  | succ fuel ih =>
    obtain ⟨p, w₁, hp, hshows, hopen'⟩ := h.returns_page hopen (Nat.succ_pos before) hpos default
    have hend : (before + 1) * perPage = before * perPage + perPage := Nat.succ_mul ..
    have hnext := hshows.nextPage
    rw [simplePages]
    by_cases hmore : (before + 1) * perPage < R.length
    · have hrest := ceilDiv_left (k := before) (n := R.length) hpos (by omega)
      have hsome : 0 < (R.length - (before + 1) * perPage) ⌈/⌉ perPage := by
        rw [lt_ceilDiv_iff hpos]
        omega
      obtain ⟨rest, rfl⟩ : ∃ rest, count = rest + 1 := ⟨count - 1, by omega⟩
      obtain ⟨pages, w₂, hpages, hall⟩ :=
        ih hopen' (show max 1 ((R.length - (before + 1) * perPage) ⌈/⌉ perPage) = rest by omega)
          (by omega)
      rw [if_pos hmore] at hnext
      refine ⟨p :: pages, w₂, returns_bind.2 ⟨p, w₁, hp, ?_⟩, .cons hshows hall⟩
      rw [hnext]
      exact returns_bind.2 ⟨pages, w₂, hpages, returns_pure.2 ⟨rfl, rfl⟩⟩
    · have hone : (R.length - before * perPage) ⌈/⌉ perPage ≤ 1 := by
        rw [ceilDiv_le_iff_le_mul hpos]
        omega
      obtain rfl : count = 1 := by omega
      rw [if_neg hmore] at hnext
      refine ⟨[p], w₁, returns_bind.2 ⟨p, w₁, hp, ?_⟩, .cons hshows .nil⟩
      rw [hnext]
      exact returns_pure.2 ⟨rfl, rfl⟩

/-- Blocks that are shown page after page make up the whole if there are enough pages. -/
theorem flatMap_of_blocks {α : Type} {xs : List α} {shown : Page → List α} {count : Nat}
    {pages : List Page} (hpos : 0 < perPage) (hcount : xs.length ⌈/⌉ perPage ≤ count)
    (hall : List.Forall₂ (fun page p => shown p = block perPage xs (page - 1))
      (List.range' 1 count) pages) : pages.flatMap shown = xs := by
  have hshown : pages.map shown = (List.range count).map (block perPage xs) := by
    have hpages : (List.range' 1 count).map (fun page => block perPage xs (page - 1))
        = pages.map shown := by
      rw [← List.forall₂_eq_eq_eq, List.forall₂_map_left_iff, List.forall₂_map_right_iff]
      exact hall.imp fun _ _ h => h.symm
    rw [← hpages, List.range'_eq_map_range, List.map_map]
    exact List.map_congr_left fun k _ => congrArg _ (Nat.add_sub_cancel_left 1 k)
  rw [List.flatMap_def, hshown, ← List.flatMap_def, ← take_eq_flatMap_block]
  refine List.take_of_length_le ?_
  rw [Nat.mul_comm]
  exact (ceilDiv_le_iff_le_mul hpos).1 hcount

end Walk

/-- **Simple pages tile the result.** Let an executor answer with a stretch of one list of rows
whenever it is asked for a number of rows from an offset. Then every page shows its block of the
list and says where it lies. It names a next page exactly if there are rows beyond it, so a page
beyond the end is empty and names none.

A walk from the first page, on to the next as long as one is named, comes to an end after as many
pages as the list has blocks, and after one if the list is empty. The rows on these pages are the
list in its order, and the numbers of the rows, from the first to the last on each page, are those
from one to the length of the list. -/
theorem Engine.simplePages_tile {σ : Type} (e : Engine σ) (q : Query) (R : List Row)
    (perPage : Nat) (default : Int) (w : World σ) (hpos : 0 < perPage) (hopen : e.Open w)
    (hlists : e.Lists q (perPage + 1) R) :
    (∀ page : Nat, 0 < page → ∃ p w',
      (e.simplePaginate q (.make page (some perPage) default)).Returns w p w'
        ∧ p.Shows R perPage page
        ∧ (p.bounds.nextPage.isSome ↔ page * perPage < R.length)
        ∧ (R.length ≤ (page - 1) * perPage → p.data = [] ∧ p.bounds.nextPage = none))
    ∧ ∀ fuel, max 1 (R.length ⌈/⌉ perPage) ≤ fuel → ∃ pages w',
      (e.simplePages q perPage default fuel 1).Returns w pages w'
        ∧ pages.length = max 1 (R.length ⌈/⌉ perPage)
        ∧ pages.flatMap Page.data = R
        ∧ pages.flatMap Page.numbers = (List.range' 1 R.length).map Nat.cast := by
  constructor
  · intro page hpage
    obtain ⟨p, w', hp, hshows, -⟩ := hlists.returns_page hopen hpage hpos default
    refine ⟨p, w', hp, hshows, ?_, fun hbeyond => ⟨?_, ?_⟩⟩
    · rw [hshows.nextPage]
      split <;> simp_all
    · rw [hshows.data, block_eq_nil_iff hpos]
      exact hbeyond
    · have hend : (page - 1) * perPage ≤ page * perPage :=
        Nat.mul_le_mul_right perPage (Nat.sub_le page 1)
      rw [hshows.nextPage, if_neg (by omega)]
  · intro fuel hfuel
    have hcount : max 1 ((R.length - 0 * perPage) ⌈/⌉ perPage)
        = max 1 (R.length ⌈/⌉ perPage) := by
      rw [Nat.zero_mul, Nat.sub_zero]
    obtain ⟨pages, w', hpages, hall⟩ := hlists.returns_pages hpos default hopen hcount hfuel
    refine ⟨pages, w', hpages, ?_, ?_, ?_⟩
    · rw [← hall.length_eq, List.length_range']
    · exact flatMap_of_blocks hpos (le_max_right 1 _) (hall.imp fun _ _ h => h.data)
    · refine flatMap_of_blocks hpos ?_ (hall.imp fun _ _ h => h.numbers)
      rw [List.length_map, List.length_range']
      exact le_max_right 1 _

/-- Three rows fill a page of two and half of another. -/
theorem simplePages_of_three : 0 < 2 ∧ ∃ pages w',
    ((numberedEngine 3 3).simplePages everyNumber 2 15 2 1).Returns { outside := [] } pages w'
      ∧ pages.length = 2
      ∧ pages.flatMap Page.data = numberedRows 3
      ∧ pages.flatMap Page.numbers = [1, 2, 3] := by
  obtain ⟨-, hwalk⟩ := Engine.simplePages_tile (numberedEngine 3 3) everyNumber (numberedRows 3) 2
    15 { outside := [] } (by decide) (numberedEngine_open 3 3)
    (numberedEngine_lists 3 3 ⟨_, rfl⟩ rfl)
  exact ⟨by decide, hwalk 2 (by decide)⟩

end SqlQuery
