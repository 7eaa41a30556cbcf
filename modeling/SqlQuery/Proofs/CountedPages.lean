import SqlQuery.Proofs.SimplePages
import SqlQuery.Proofs.RoundedQuotients

/-!
# Pages that are counted

The number of pages comes out of a quotient that is rounded to a double before it is rounded up.
`Double.KeepsCeiling` says for which totals and page sizes nothing is lost by that. There the next
page is named as it is on a page that is not counted (`Page.Shows.nextPage`); elsewhere some page
names a page with no rows, or leaves out the next one. What a page says of its own rows does not
depend on the number of pages.
-/

namespace SqlQuery

/-! ## The number of pages -/

/-- The number of pages that hold `total` rows, at least one. -/
def exactPages (total perPage : Nat) : Nat :=
  max 1 (total ⌈/⌉ perPage)

section PageCount

variable {total perPage : Nat}

theorem lt_exactPages_iff (hpos : 0 < perPage) {page : Nat} (hpage : 0 < page) :
    page < exactPages total perPage ↔ page * perPage < total := by
  rw [exactPages, lt_max_iff, lt_ceilDiv_iff hpos, or_iff_right (Nat.not_lt.2 hpage)]

theorem exactPages_of_le (hpos : 0 < perPage) (hle : total ≤ perPage) :
    exactPages total perPage = 1 := by
  refine Nat.max_eq_left ((ceilDiv_le_iff_le_mul hpos).2 ?_)
  rwa [Nat.mul_one]

theorem exactPages_of_lt (hpos : 0 < perPage) (hlt : perPage < total) :
    exactPages total perPage = total ⌈/⌉ perPage := by
  have hsome : 1 < total ⌈/⌉ perPage := by rwa [lt_ceilDiv_iff hpos, Nat.one_mul]
  exact Nat.max_eq_right hsome.le

/-- Totals up to the first whole number that is not a double are divided well enough. -/
theorem Double.keepsCeiling_of_le (hpos : 0 < perPage) (hle : perPage ≤ total)
    (hsmall : total ≤ 2 ^ 53) : KeepsCeiling total perPage := by
  have hquotient : total / perPage ≠ 0 := (Nat.div_pos hle hpos).ne'
  have hlow : perPage * 2 ^ (total / perPage).log2 + total % perPage ≤ total := by
    conv_rhs => rw [← Nat.div_add_mod total perPage]
    exact Nat.add_le_add_right (Nat.mul_le_mul_left perPage (Nat.log2_self_le hquotient)) _
  have hscale : 2 ^ (total / perPage).log2 ≤ perPage * 2 ^ (total / perPage).log2 :=
    Nat.le_mul_of_pos_left _ hpos
  have hlog : (total / perPage).log2 ≤ 53 :=
    (Nat.pow_le_pow_iff_right Nat.one_lt_two).1 (by omega)
  unfold KeepsCeiling
  simp only
  generalize (total / perPage).log2 = place at *
  rcases Nat.eq_or_lt_of_le hlog with rfl | hplace
  · obtain rfl : perPage = 1 := by omega
    obtain rfl : total = 2 ^ 53 := by omega
    rw [if_neg (by decide), ceilDiv_one]
    exact pow_dvd_pow 2 (by decide)
  · rw [if_pos (Nat.le_of_lt_succ hplace)]
    rcases Nat.eq_zero_or_pos (total % perPage) with hrest | hrest
    · exact .inl hrest
    · have hpow : 2 ^ (53 - place) * 2 ^ place = 2 ^ 53 := by
        rw [← pow_add, Nat.sub_add_cancel hlog]
      have hbelow : perPage < 2 ^ (53 - place) := by
        refine Nat.lt_of_mul_lt_mul_right (a := 2 ^ place) ?_
        omega
      exact .inr (.inl (hbelow.trans_le (Nat.le_mul_of_pos_left _ hrest)))

/-- The number of pages is right if the quotient is below one or nothing is lost by rounding it. -/
theorem PageBounds.pageCount_eq (hpos : 0 < perPage) (total : Nat) :
    ∃ pages : Nat, 0 < pages
      ∧ pageCount total perPage
        = (if total < (2 ^ 54 - 1) * (perPage * 2 ^ 970) then .ok (pages : Int)
          else .error (.foreign .overflow "integer division result too large for a float"))
      ∧ (pages = exactPages total perPage
        ↔ total < perPage ∨ Double.KeepsCeiling total perPage) := by
  obtain ⟨n, hn, hsmall, hlarge⟩ := Double.ceiling?_quotient? hpos total
  have hzero : ¬(perPage : Int) = 0 := by omega
  refine ⟨max 1 n, Nat.le_max_left 1 n, ?_, ?_⟩
  · generalize (2 ^ 54 - 1) * (perPage * 2 ^ 970) = greatest at *
    unfold pageCount
    rw [if_neg hzero, hn]
    by_cases hfits : total < greatest
    · simp [hfits]
    · simp [hfits]
  · rcases Nat.lt_trichotomy total perPage with hless | rfl | hmore
    · rw [exactPages_of_le hpos hless.le]
      have hfew := hsmall hless
      simp only [hless, true_or, iff_true]
      omega
    · have hkeeps : Double.KeepsCeiling total total := by
        have hwhole : Nat.log2 1 ≤ 52 := by decide
        unfold Double.KeepsCeiling
        simp only [Nat.div_self hpos, Nat.mod_self, if_pos hwhole, true_or]
      rw [exactPages, (hlarge le_rfl).2 hkeeps]
      exact iff_of_true rfl (.inr hkeeps)
    · rw [exactPages_of_lt hpos hmore, or_iff_right (Nat.not_lt.2 hmore.le), ← hlarge hmore.le]
      have hsome : 1 < total ⌈/⌉ perPage := by rwa [lt_ceilDiv_iff hpos, Nat.one_mul]
      omega

end PageCount

/-! ## One page -/

/-- The number of rows on a page. -/
def rowsOn (total perPage page : Nat) : Nat :=
  min perPage (total - (page - 1) * perPage)

/-- What a page says of a result of `rows` rows whose last page is taken to be `pages`. -/
structure PageBounds.Counts (rows perPage pages page : Nat) (b : PageBounds) : Prop where
  currentPage : b.currentPage = page
  size : b.perPage = perPage
  total : b.total = rows
  lastPage : b.lastPage = pages
  nextPage : b.nextPage = if page < pages then some (page + 1 : Int) else none
  rows_of_empty : rowsOn rows perPage page = 0 → b.first = 0 ∧ b.last = 0
  rows_of_some : 0 < rowsOn rows perPage page →
    1 ≤ b.first ∧ b.first ≤ b.last ∧ b.last ≤ rows ∧ b.first = (page - 1) * perPage + 1
      ∧ b.last + 1 = b.first + rowsOn rows perPage page
  rows_of_last : page = exactPages rows perPage → b.last = rows

section OnePage

variable {total perPage pages page : Nat}

/-- The last page shows the rows that are left, and none only if there are none at all. -/
theorem rowsOn_exactPages (hpos : 0 < perPage) :
    (exactPages total perPage - 1) * perPage + rowsOn total perPage (exactPages total perPage)
        = total
      ∧ (rowsOn total perPage (exactPages total perPage) = 0 → total = 0) := by
  obtain ⟨before, hpages⟩ : ∃ before, exactPages total perPage = before + 1 :=
    ⟨_, (Nat.sub_add_cancel (Nat.le_max_left 1 _)).symm⟩
  have hall : ¬(before + 1) * perPage < total :=
    mt (lt_exactPages_iff hpos before.succ_pos).2 (hpages ▸ Nat.lt_irrefl _)
  have hless : before < exactPages total perPage := by omega
  have hbefore : before * perPage ≤ total - 1 := by
    rcases Nat.eq_zero_or_pos before with rfl | hsome
    · omega
    · exact Nat.le_pred_of_lt ((lt_exactPages_iff hpos hsome).1 hless)
  rw [Nat.succ_mul] at hall
  rw [hpages, rowsOn, Nat.add_sub_cancel]
  omega

theorem PageBounds.counted_eq_ok (hpos : 0 < perPage) (hpage : 0 < page)
    (hpages : pageCount total perPage = .ok (pages : Int)) (count : Nat) :
    counted page perPage total count = .ok {
      currentPage := page
      nextPage := if (page : Int) < pages then some (page + 1 : Int) else none
      perPage
      total
      lastPage := pages
      first := (rowRange page perPage count).1
      last := (rowRange page perPage count).2 } := by
  have hfirst : (1 : Int) ≤ page := by omega
  have hsize : (1 : Int) ≤ perPage := by omega
  unfold counted
  rw [hpages]
  exact check_eq_ok hfirst hsize (rowRange_nonneg hpage) "from_"

theorem PageBounds.counts_of_counted (hpos : 0 < perPage) (hpage : 0 < page)
    (hpages : pageCount total perPage = .ok (pages : Int)) :
    ∃ b, counted page perPage total (rowsOn total perPage page) = .ok b
      ∧ b.Counts total perPage pages page := by
  have hbefore : ((page : Int) - 1) * perPage = ((page - 1) * perPage : Nat) := by
    rw [Int.natCast_mul, Int.natCast_pred_of_pos hpage]
  obtain ⟨hlast, hempty⟩ := @rowsOn_exactPages total perPage hpos
  rw [counted_eq_ok hpos hpage hpages, rowRange_eq hpage]
  refine ⟨_, rfl, rfl, rfl, rfl, rfl, ?_, ?_, ?_, ?_⟩
  · simp
  · intro hnone
    simp [hnone]
  · intro hsome
    simp only [if_neg hsome.ne', hbefore]
    unfold rowsOn at *
    omega
  · rintro rfl
    by_cases hnone : rowsOn total perPage (exactPages total perPage) = 0
    · rw [if_pos hnone, hempty hnone]
      rfl
    · simp only [if_neg hnone, hlast]

end OnePage

/-- **What counted pages say of their result.** Below the least total that is rounded beyond the
largest finite double there is one number of pages that every page gives as the last. A page says
truly which rows it shows, none of them beyond the total, and on the last page the last row is the
total. The number of pages is right exactly if every page names the next one as a page that is not
counted does, and that is so exactly if the quotient is below one or nothing is lost by rounding it.
Nothing is lost for totals up to `2 ^ 53`. From that least total on there are no bounds at all. -/
theorem PageBounds.counted_exact_iff (total perPage : Nat) (hpos : 0 < perPage) :
    (total < (2 ^ 54 - 1) * (perPage * 2 ^ 970) → ∃ pages : Nat,
      (∀ page : Nat, 0 < page → ∃ b,
        counted page perPage total (rowsOn total perPage page) = .ok b
          ∧ b.Counts total perPage pages page)
      ∧ (pages = exactPages total perPage ↔ ∀ (page : Nat) (b : PageBounds), 0 < page →
        counted page perPage total (rowsOn total perPage page) = .ok b →
          b.nextPage = if page * perPage < total then some (page + 1 : Int) else none)
      ∧ (pages = exactPages total perPage
        ↔ total < perPage ∨ Double.KeepsCeiling total perPage)
      ∧ (total ≤ 2 ^ 53 → pages = exactPages total perPage))
    ∧ ((2 ^ 54 - 1) * (perPage * 2 ^ 970) ≤ total → ∀ page count : Int,
      counted page perPage total count
        = .error (.foreign .overflow "integer division result too large for a float")) := by
  obtain ⟨pages, hsome, hpages, hexact⟩ := pageCount_eq hpos total
  generalize (2 ^ 54 - 1) * (perPage * 2 ^ 970) = greatest at *
  constructor
  · intro hfits
    rw [if_pos hfits] at hpages
    refine ⟨pages, fun page hpage => counts_of_counted hpos hpage hpages, ⟨?_, ?_⟩, hexact, ?_⟩
    · rintro rfl page b hpage hb
      obtain ⟨b', hb', hcounts⟩ := counts_of_counted hpos hpage hpages
      obtain rfl : b' = b := Except.ok.inj (hb'.symm.trans hb)
      rw [hcounts.nextPage]
      exact if_congr (lt_exactPages_iff hpos hpage) rfl rfl
    · intro hnext
      -- where the numbers differ, the pages up to one of them are beyond the other
      have hiff (page : Nat) (hpage : 0 < page) :
          page < pages ↔ page < exactPages total perPage := by
        obtain ⟨b, hb, hcounts⟩ := counts_of_counted hpos hpage hpages
        have hsame := hcounts.nextPage.symm.trans (hnext page b hpage hb)
        rw [lt_exactPages_iff hpos hpage]
        exact Option.isSome_ite.symm.trans
          ((Bool.eq_iff_iff.1 (congrArg Option.isSome hsame)).trans Option.isSome_ite)
      have hone : 0 < exactPages total perPage := Nat.le_max_left 1 _
      exact Nat.le_antisymm (Nat.not_lt.1 fun h => Nat.lt_irrefl _ ((hiff _ hone).1 h))
        (Nat.not_lt.1 fun h => Nat.lt_irrefl _ ((hiff _ hsome).2 h))
    · intro hsmall
      rcases Nat.lt_or_ge total perPage with hless | hle
      · exact hexact.2 (.inl hless)
      · exact hexact.2 (.inr (Double.keepsCeiling_of_le hpos hle hsmall))
  · intro hlarge page count
    rw [if_neg (Nat.not_lt.2 hlarge)] at hpages
    unfold counted
    rw [hpages]
    rfl

/-- Of 23 rows there are four pages of seven. -/
theorem counted_of_twenty_three : 0 < 7 ∧ ∃ pages : Nat,
    (∀ page : Nat, 0 < page → ∃ b, PageBounds.counted page 7 23 (rowsOn 23 7 page) = .ok b
      ∧ b.Counts 23 7 pages page) ∧ pages = 4 := by
  obtain ⟨hbelow, -⟩ := PageBounds.counted_exact_iff 23 7 (by decide)
  obtain ⟨pages, hcounts, -, -, hsmall⟩ := hbelow (Double.lt_greatest (by decide) 970)
  exact ⟨by decide, pages, hcounts, (hsmall (by decide)).trans (by decide)⟩

/-- The first whole number that is not a double is rounded to the one before. A last page is not
named by the page before it. -/
theorem counted_drops_last_page :
    exactPages 9007199254740993 1 = 9007199254740993
      ∧ rowsOn 9007199254740993 1 9007199254740992 = 1
      ∧ ∃ b, PageBounds.counted 9007199254740992 1 9007199254740993 1 = .ok b
        ∧ b.lastPage = 9007199254740992 ∧ b.nextPage = none := by
  have hpages : exactPages 9007199254740993 1 = 9007199254740993 := by
    rw [exactPages, ceilDiv_one]
    rfl
  exact ⟨hpages, by decide, _, rfl, by decide +kernel, by decide +kernel⟩

end SqlQuery
