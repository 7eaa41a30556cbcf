import Mathlib.Data.Finset.Card
import Mathlib.Data.List.Dedup
import Mathlib.Data.List.Sort
import Mathlib.Order.WithBot

/-!
# Walks after a cursor

A walk reads the keys of a result in batches, each after the last key that was shown. The keys of
the main SELECT are bounded by that cursor. Those of the branches of a UNION are not: they are read
again with every batch.

As long as the walk asks from cursors that lie before all keys of the branches, this makes no
difference, and it shows the keys in order. Once it asks from a cursor that a key of a branch does
not exceed, it shows a key again (`nodup_pages_iff`). It ends if a page has more keys than the
branches have, and if the branches fill a whole batch it never does.
-/

namespace SqlQuery

variable {κ : Type} [LinearOrder κ]

/-- Keys in order, each once. -/
def ascending (ks : List κ) : List κ :=
  ks.dedup.insertionSort (· ≤ ·)

theorem mem_ascending {ks : List κ} {k : κ} : k ∈ ascending ks ↔ k ∈ ks := by
  unfold ascending
  rw [List.mem_insertionSort, List.mem_dedup]

theorem pairwise_ascending (ks : List κ) : (ascending ks).Pairwise (· < ·) := by
  have hle : (ascending ks).Pairwise (· ≤ ·) := List.pairwise_insertionSort _ _
  have hne : (ascending ks).Pairwise (· ≠ ·) :=
    ((List.perm_insertionSort _ _).nodup_iff).2 (List.nodup_dedup ks)
  exact (hle.and hne).imp fun h => lt_of_le_of_ne h.1 h.2

theorem ascending_eq {ks ls : List κ} (hsorted : ls.Pairwise (· < ·))
    (hmem : ∀ k, k ∈ ls ↔ k ∈ ks) : ascending ks = ls := by
  have hnodup (l : List κ) (h : l.Pairwise (· < ·)) : l.Nodup := h.imp ne_of_lt
  have hperm : (ascending ks).Perm ls := by
    refine (List.perm_ext_iff_of_nodup (hnodup _ (pairwise_ascending ks)) (hnodup _ hsorted)).2 ?_
    intro k
    rw [mem_ascending, hmem]
  exact hperm.eq_of_pairwise (fun a b _ _ hab hba => absurd hab (lt_asymm hba))
    (pairwise_ascending ks) hsorted

/-- The keys of the rows of a result: those of its main SELECT, and those of its branches. -/
structure Keys (κ : Type) where
  main : List κ
  branches : List κ

/-- The cursor after a page: its last key, and the start of all if there is none. -/
def endOf (page : List κ) : WithBot κ :=
  page.getLast?

omit [LinearOrder κ] in
theorem endOf_concat (page : List κ) (k : κ) : endOf (page ++ [k]) = k := by
  unfold endOf
  rw [List.getLast?_concat]
  rfl

theorem le_endOf {page : List κ} (h : page.Pairwise (· < ·)) {k : κ} (hk : k ∈ page) :
    (k : WithBot κ) ≤ endOf page := by
  obtain rfl | ⟨earlier, last, rfl⟩ := List.eq_nil_or_concat' page
  · cases hk
  · rw [endOf_concat, WithBot.coe_le_coe]
    obtain hearlier | hlast := List.mem_append.1 hk
    · exact le_of_lt ((List.pairwise_append.1 h).2.2 k hearlier last List.mem_cons_self)
    · exact le_of_eq (List.mem_singleton.1 hlast)

omit [LinearOrder κ] in
theorem endOf_mem {page : List κ} (h : page ≠ []) : ∃ k ∈ page, endOf page = k := by
  obtain rfl | ⟨earlier, last, rfl⟩ := List.eq_nil_or_concat' page
  · exact absurd rfl h
  · exact ⟨last, List.mem_concat_self, endOf_concat earlier last⟩

namespace Keys

variable (K : Keys κ) (size shown : Nat)

def all : List κ :=
  K.main ++ K.branches

/-- The keys that are read after a cursor: the branches are not bounded by it. -/
def after (last : WithBot κ) : Keys κ where
  main := K.main.filter fun k => last < k
  branches := K.branches

def batch (last : WithBot κ) : List κ :=
  (ascending (K.after last).all).take size

/-- The keys of a batch that are shown. -/
def page (last : WithBot κ) : List κ :=
  (K.batch size last).take shown

/-- The pages that are shown, up to a number of batches. A batch that is not full is the last. -/
def pages : Nat → WithBot κ → List (List κ)
  | 0, _ => []
  | fuel + 1, last =>
    let page := K.page size shown last
    if page = [] then []
    else page :: if (K.batch size last).length < size then [] else pages fuel (endOf page)

/-- The cursors that are asked from, up to a number of batches. -/
def asked : Nat → WithBot κ → List (WithBot κ)
  | 0, _ => []
  | fuel + 1, last =>
    last :: if (K.batch size last).length < size then []
      else asked fuel (endOf (K.page size shown last))

/-- One of a number of batches is not full. -/
def Ends : Nat → WithBot κ → Prop
  | 0, _ => False
  | fuel + 1, last =>
    (K.batch size last).length < size ∨ Ends fuel (endOf (K.page size shown last))

instance decidableEnds : ∀ fuel last, Decidable (K.Ends size shown fuel last)
  | 0, _ => .isFalse id
  | fuel + 1, last =>
    have := decidableEnds fuel (endOf (K.page size shown last))
    inferInstanceAs (Decidable (_ ∨ _))

/-- A cursor lies before all keys of the branches. -/
def Clear (last : WithBot κ) : Prop :=
  ∀ k ∈ K.branches, last < k

variable {K size shown} {last : WithBot κ} {k : κ}

/-! ## One batch -/

theorem mem_after : k ∈ (K.after last).all ↔ k ∈ K.main ∧ last < k ∨ k ∈ K.branches := by
  unfold all after
  rw [List.mem_append, List.mem_filter, decide_eq_true_iff]

theorem mem_all_of_mem_after (h : k ∈ (K.after last).all) : k ∈ K.all := by
  unfold all
  obtain ⟨hmain, -⟩ | hbranch := mem_after.1 h
  · exact List.mem_append_left _ hmain
  · exact List.mem_append_right _ hbranch

theorem pairwise_batch : (K.batch size last).Pairwise (· < ·) :=
  (pairwise_ascending _).sublist (List.take_sublist _ _)

theorem pairwise_page : (K.page size shown last).Pairwise (· < ·) :=
  pairwise_batch.sublist (List.take_sublist _ _)

theorem mem_after_of_mem_batch (h : k ∈ K.batch size last) : k ∈ (K.after last).all :=
  mem_ascending.1 (List.mem_of_mem_take h)

theorem mem_after_of_mem_page (h : k ∈ K.page size shown last) : k ∈ (K.after last).all :=
  mem_after_of_mem_batch (List.mem_of_mem_take h)

theorem mem_take_of_le {ks : List κ} (hsorted : ks.Pairwise (· < ·)) {n : Nat} {x : κ}
    (hk : k ∈ ks) (hx : x ∈ ks.take n) (hle : k ≤ x) : k ∈ ks.take n := by
  rw [← List.take_append_drop n ks] at hk hsorted
  obtain hfirst | hother := List.mem_append.1 hk
  · exact hfirst
  · exact absurd ((List.pairwise_append.1 hsorted).2.2 x hx k hother) (not_lt_of_ge hle)

/-- A page leaves out no key before one that it shows. -/
theorem mem_page_of_le {x : κ} (hk : k ∈ (K.after last).all) (hx : x ∈ K.page size shown last)
    (hle : k ≤ x) : k ∈ K.page size shown last := by
  have hbatch : k ∈ K.batch size last :=
    mem_take_of_le (pairwise_ascending _) (mem_ascending.2 hk) (List.mem_of_mem_take hx) hle
  exact mem_take_of_le pairwise_batch hbatch hx hle

theorem mem_batch_of_short (h : (K.batch size last).length < size) (hk : k ∈ (K.after last).all) :
    k ∈ K.batch size last := by
  unfold batch at h ⊢
  rw [List.length_take] at h
  rw [List.take_of_length_le (by omega)]
  exact mem_ascending.2 hk

theorem page_self : K.page size size last = K.batch size last := by
  unfold page batch
  rw [List.take_take, Nat.min_self]

variable (hshown : 0 < shown) (hahead : shown ≤ size) (hone : size ≤ shown + 1)

theorem length_page_of_full (hahead : shown ≤ size) (h : ¬(K.batch size last).length < size) :
    (K.page size shown last).length = shown := by
  unfold page
  rw [List.length_take]
  omega

theorem page_eq_of_short (hone : size ≤ shown + 1) (h : (K.batch size last).length < size) :
    K.page size shown last = K.batch size last := by
  unfold page
  exact List.take_of_length_le (by omega)

include hshown hahead in
theorem batch_eq_nil (h : K.page size shown last = []) :
    K.batch size last = [] ∧ (K.batch size last).length < size := by
  have hbatch : K.batch size last = [] := by
    unfold page at h
    rw [List.take_eq_nil_iff] at h
    exact h.resolve_left (by omega)
  rw [hbatch]
  exact ⟨rfl, by simp only [List.length_nil]; omega⟩

/-! ## What was passed -/

/-- The keys that were shown are all keys up to the cursor, in order. -/
structure Passed (K : Keys κ) (done : List κ) (last : WithBot κ) : Prop where
  sorted : done.Pairwise (· < ·)
  mem_iff : ∀ k, k ∈ done ↔ k ∈ K.all ∧ (k : WithBot κ) ≤ last

theorem Passed.start (K : Keys κ) : K.Passed [] ⊥ where
  sorted := .nil
  mem_iff k := by
    simp

theorem mem_after_of_clear (hclear : K.Clear last) :
    k ∈ (K.after last).all ↔ k ∈ K.all ∧ last < k := by
  rw [mem_after, all, List.mem_append]
  constructor
  · rintro (⟨hmain, hlt⟩ | hbranch)
    · exact ⟨.inl hmain, hlt⟩
    · exact ⟨.inr hbranch, hclear k hbranch⟩
  · rintro ⟨hmain | hbranch, hlt⟩
    · exact .inl ⟨hmain, hlt⟩
    · exact .inr hbranch

variable {done : List κ}

/-- A page after a clear cursor takes up where the keys before it end. -/
theorem Passed.page (h : K.Passed done last) (hclear : K.Clear last)
    (hpage : K.page size shown last ≠ []) :
    K.Passed (done ++ K.page size shown last) (endOf (K.page size shown last)) where
  sorted := by
    refine List.pairwise_append.2 ⟨h.sorted, pairwise_page, fun k hk x hx => ?_⟩
    have hlast := (mem_after_of_clear hclear).1 (mem_after_of_mem_page hx)
    exact WithBot.coe_lt_coe.1 (lt_of_le_of_lt ((h.mem_iff k).1 hk).2 hlast.2)
  mem_iff k := by
    obtain ⟨x, hx, hend⟩ := endOf_mem hpage
    have hbeyond := ((mem_after_of_clear hclear).1 (mem_after_of_mem_page hx)).2
    rw [List.mem_append]
    constructor
    · rintro (hk | hk)
      · obtain ⟨hall, hle⟩ := (h.mem_iff k).1 hk
        rw [hend]
        exact ⟨hall, le_of_lt (lt_of_le_of_lt hle hbeyond)⟩
      · have hall := (mem_after_of_clear hclear).1 (mem_after_of_mem_page hk)
        exact ⟨hall.1, le_endOf pairwise_page hk⟩
    · rintro ⟨hall, hle⟩
      by_cases hold : (k : WithBot κ) ≤ last
      · exact .inl ((h.mem_iff k).2 ⟨hall, hold⟩)
      · have hafter := (mem_after_of_clear hclear).2 ⟨hall, lt_of_not_ge hold⟩
        rw [hend, WithBot.coe_le_coe] at hle
        exact .inr (mem_page_of_le hafter hx hle)

/-- After a cursor that is not clear a key is shown again. -/
theorem Passed.shown_again (h : K.Passed done last) (hclear : ¬K.Clear last)
    (hpage : K.page size shown last ≠ []) : ∃ k ∈ done, k ∈ K.page size shown last := by
  obtain ⟨b, hb, hle⟩ : ∃ b ∈ K.branches, (b : WithBot κ) ≤ last := by
    by_contra hnone
    refine hclear fun b hb => lt_of_not_ge fun hle => hnone ⟨b, hb, hle⟩
  obtain ⟨k, rest, hcons⟩ := List.exists_cons_of_ne_nil hpage
  have hk : k ∈ K.page size shown last := by
    rw [hcons]
    exact List.mem_cons_self
  -- the first key of the page is not beyond `b`, which is read again in any case
  have hfirst : k ≤ b := by
    by_contra hlt
    have hb' := mem_page_of_le (mem_after.2 (.inr hb)) hk (le_of_lt (lt_of_not_ge hlt))
    rw [hcons] at hb'
    have hsorted : (K.page size shown last).Pairwise (· < ·) := pairwise_page
    rw [hcons, List.pairwise_cons] at hsorted
    obtain rfl | hrest := List.mem_cons.1 hb'
    · exact hlt (le_refl _)
    · exact hlt (le_of_lt (hsorted.1 b hrest))
  have hcursor : (k : WithBot κ) ≤ last := (WithBot.coe_le_coe.2 hfirst).trans hle
  have hall : k ∈ K.all := mem_all_of_mem_after (mem_after_of_mem_page hk)
  exact ⟨k, (h.mem_iff k).2 ⟨hall, hcursor⟩, hk⟩

/-! ## Whole walks -/

theorem pages_of_short {fuel : Nat} (hpage : K.page size shown last ≠ [])
    (hshort : (K.batch size last).length < size) :
    K.pages size shown (fuel + 1) last = [K.page size shown last] := by
  rw [pages]
  simp only [hpage, hshort, if_true, if_false]

theorem pages_of_full {fuel : Nat} (hpage : K.page size shown last ≠ [])
    (hfull : ¬(K.batch size last).length < size) :
    K.pages size shown (fuel + 1) last
      = K.page size shown last :: K.pages size shown fuel (endOf (K.page size shown last)) := by
  rw [pages]
  simp only [hpage, hfull, if_false]

theorem pages_of_empty {fuel : Nat} (hpage : K.page size shown last = []) :
    K.pages size shown (fuel + 1) last = [] := by
  rw [pages]
  simp only [hpage, if_true]

theorem asked_of_short {fuel : Nat} (hshort : (K.batch size last).length < size) :
    K.asked size shown (fuel + 1) last = [last] := by
  rw [asked, if_pos hshort]

theorem asked_of_full {fuel : Nat} (hfull : ¬(K.batch size last).length < size) :
    K.asked size shown (fuel + 1) last
      = last :: K.asked size shown fuel (endOf (K.page size shown last)) := by
  rw [asked, if_neg hfull]

section

include hshown hahead

/-- From clear cursors the keys are shown in order, and if the walk ends there is none left. -/
theorem Passed.pages_of_clear (hone : size ≤ shown + 1) (fuel : Nat) (h : K.Passed done last)
    (hclear : ∀ c ∈ K.asked size shown fuel last, K.Clear c) :
    ∃ reached, K.Passed (done ++ (K.pages size shown fuel last).flatten) reached
      ∧ (K.Ends size shown fuel last → ∀ k ∈ K.all, (k : WithBot κ) ≤ reached) := by
  induction fuel generalizing done last with
  | zero =>
    refine ⟨last, ?_, fun hends => hends.elim⟩
    rw [pages, List.flatten_nil, List.append_nil]
    exact h
  | succ fuel ih =>
    have hlast : K.Clear last := by
      rw [asked] at hclear
      exact hclear last List.mem_cons_self
    by_cases hpage : K.page size shown last = []
    · obtain ⟨hbatch, hshort⟩ := batch_eq_nil hshown hahead hpage
      refine ⟨last, ?_, fun _ k hk => ?_⟩
      · rw [pages_of_empty hpage, List.flatten_nil, List.append_nil]
        exact h
      · by_contra hlt
        have hafter := (mem_after_of_clear hlast).2 ⟨hk, lt_of_not_ge hlt⟩
        have hmem := mem_batch_of_short hshort hafter
        rw [hbatch] at hmem
        cases hmem
    · have hnext := h.page hlast hpage
      by_cases hshort : (K.batch size last).length < size
      · refine ⟨endOf (K.page size shown last), ?_, fun _ k hk => ?_⟩
        · rw [pages_of_short hpage hshort, List.flatten_singleton]
          exact hnext
        · by_cases hold : (k : WithBot κ) ≤ last
          · have hdone := (h.mem_iff k).2 ⟨hk, hold⟩
            exact ((hnext.mem_iff k).1 (List.mem_append_left _ hdone)).2
          · have hafter := (mem_after_of_clear hlast).2 ⟨hk, lt_of_not_ge hold⟩
            refine le_endOf pairwise_page ?_
            rw [page_eq_of_short hone hshort]
            exact mem_batch_of_short hshort hafter
      · rw [asked_of_full hshort, List.forall_mem_cons] at hclear
        obtain ⟨reached, hpassed, hall⟩ := ih hnext hclear.2
        refine ⟨reached, ?_, fun hends => hall (hends.resolve_left hshort)⟩
        rw [pages_of_full hpage hshort, List.flatten_cons, ← List.append_assoc]
        exact hpassed

/-- The first cursor that is not clear repeats a key. -/
theorem Passed.not_nodup (fuel : Nat) (h : K.Passed done last)
    (hclear : ∃ c ∈ K.asked size shown fuel last, ¬K.Clear c)
    (hpage : ∀ c, ¬K.Clear c → K.page size shown c ≠ []) :
    ¬(done ++ (K.pages size shown fuel last).flatten).Nodup := by
  induction fuel generalizing done last with
  | zero =>
    obtain ⟨c, hc, -⟩ := hclear
    cases hc
  | succ fuel ih =>
    by_cases hlast : K.Clear last
    · have hshort : ¬(K.batch size last).length < size := by
        intro hshort
        rw [asked_of_short hshort] at hclear
        obtain ⟨c, hc, hunclear⟩ := hclear
        rw [List.mem_singleton] at hc
        exact hunclear (hc ▸ hlast)
      have hne : K.page size shown last ≠ [] := fun hnil =>
        hshort (batch_eq_nil hshown hahead hnil).2
      rw [asked_of_full hshort] at hclear
      obtain ⟨c, hc, hunclear⟩ := hclear
      obtain rfl | hlater := List.mem_cons.1 hc
      · exact absurd hlast hunclear
      · rw [pages_of_full hne hshort, List.flatten_cons, ← List.append_assoc]
        exact ih (h.page hlast hne) ⟨c, hlater, hunclear⟩
    · obtain ⟨k, hdone, hk⟩ := h.shown_again hlast (hpage last hlast)
      have hshown : k ∈ (K.pages size shown (fuel + 1) last).flatten := by
        refine List.mem_flatten.2 ⟨_, ?_, hk⟩
        rw [pages]
        simp only [hpage last hlast, if_false]
        exact List.mem_cons_self
      intro hnodup
      exact (List.disjoint_of_nodup_append hnodup) hdone hshown

/-- **A key is shown twice exactly if the walk asks from a cursor that is not clear.** -/
theorem nodup_pages_iff (hone : size ≤ shown + 1) (fuel : Nat) :
    (K.pages size shown fuel ⊥).flatten.Nodup
      ↔ ∀ c ∈ K.asked size shown fuel ⊥, K.Clear c := by
  constructor
  · intro hnodup c hc
    by_contra hunclear
    refine (Passed.start K).not_nodup hshown hahead fuel ⟨c, hc, hunclear⟩ ?_ hnodup
    -- a cursor is not clear only if there are branches, which every page shows
    intro c hunclear hnil
    have hbatch := (batch_eq_nil hshown hahead hnil).2
    refine hunclear fun b hb => ?_
    have hmem := mem_batch_of_short hbatch (mem_after.2 (.inr hb))
    rw [(batch_eq_nil hshown hahead hnil).1] at hmem
    cases hmem
  · intro hclear
    obtain ⟨reached, hpassed, -⟩ :=
      (Passed.start K).pages_of_clear hshown hahead hone fuel hclear
    exact hpassed.sorted.imp ne_of_lt

/-- What is shown from clear cursors by a walk that ends is the whole result, in order. -/
theorem flatten_pages (hone : size ≤ shown + 1) {fuel : Nat}
    (hclear : ∀ c ∈ K.asked size shown fuel ⊥, K.Clear c) (hends : K.Ends size shown fuel ⊥) :
    (K.pages size shown fuel ⊥).flatten = ascending K.all := by
  obtain ⟨reached, hpassed, hall⟩ :=
    (Passed.start K).pages_of_clear hshown hahead hone fuel hclear
  rw [List.nil_append] at hpassed
  refine (ascending_eq hpassed.sorted fun k => ?_).symm
  rw [hpassed.mem_iff]
  exact and_iff_left_of_imp (hall hends k)

end

/-! ## Where a walk ends -/

include hahead in
theorem exists_beyond (hbranches : K.branches.toFinset.card < shown)
    (hfull : ¬(K.batch size last).length < size) :
    ∃ k ∈ K.main, last < k ∧ (k : WithBot κ) ≤ endOf (K.page size shown last) := by
  have hnodup : (K.page size shown last).Nodup := pairwise_page.imp ne_of_lt
  have hcard : (K.page size shown last).toFinset.card = shown := by
    rw [List.toFinset_card_of_nodup hnodup, length_page_of_full hahead hfull]
  rw [← hcard] at hbranches
  obtain ⟨k, hk, hother⟩ := Finset.exists_mem_notMem_of_card_lt_card hbranches
  rw [List.mem_toFinset] at hk hother
  obtain ⟨hmain, hlt⟩ | hbranch := mem_after.1 (mem_after_of_mem_page hk)
  · exact ⟨k, hmain, hlt, le_endOf pairwise_page hk⟩
  · exact absurd hbranch hother

theorem mem_main_after : k ∈ (K.after last).main.toFinset ↔ k ∈ K.main ∧ last < k := by
  unfold after
  rw [List.mem_toFinset, List.mem_filter, decide_eq_true_iff]

include hahead in
/-- A walk whose pages have more keys than the branches ends: each page leaves fewer keys of the
main SELECT beyond its cursor. -/
theorem ends_of_card_lt (hbranches : K.branches.toFinset.card < shown) (fuel : Nat)
    (hfuel : (K.after last).main.toFinset.card < fuel) : K.Ends size shown fuel last := by
  induction fuel generalizing last with
  | zero => exact absurd hfuel (Nat.not_lt_zero _)
  | succ fuel ih =>
    by_cases hfull : (K.batch size last).length < size
    · exact .inl hfull
    · refine .inr (ih ?_)
      obtain ⟨k, hmain, hlt, hle⟩ := exists_beyond hahead hbranches hfull
      have hless : (K.after (endOf (K.page size shown last))).main.toFinset
          ⊂ (K.after last).main.toFinset := by
        refine Finset.ssubset_iff_subset_ne.2 ⟨?_, ?_⟩
        · intro x hx
          rw [mem_main_after] at hx ⊢
          exact ⟨hx.1, hlt.trans (lt_of_le_of_lt hle hx.2)⟩
        · intro hsame
          have hk := mem_main_after.2 ⟨hmain, hlt⟩
          rw [← hsame, mem_main_after] at hk
          exact absurd hk.2 (not_lt_of_ge hle)
      have hcard := Finset.card_lt_card hless
      omega

theorem mem_all_of_mem_pages {fuel : Nat} (h : k ∈ (K.pages size shown fuel last).flatten) :
    k ∈ K.all := by
  induction fuel generalizing last with
  | zero => cases h
  | succ fuel ih =>
    by_cases hpage : K.page size shown last = []
    · rw [pages_of_empty hpage] at h
      cases h
    · have hfirst (hk : k ∈ K.page size shown last) : k ∈ K.all :=
        mem_all_of_mem_after (mem_after_of_mem_page hk)
      by_cases hshort : (K.batch size last).length < size
      · rw [pages_of_short hpage hshort, List.flatten_singleton] at h
        exact hfirst h
      · rw [pages_of_full hpage hshort, List.flatten_cons] at h
        obtain hk | hk := List.mem_append.1 h
        · exact hfirst hk
        · exact ih hk

include hshown hahead in
theorem le_length_of_not_ends {fuel : Nat} (h : ¬K.Ends size shown fuel last) :
    fuel ≤ (K.pages size shown fuel last).flatten.length := by
  induction fuel generalizing last with
  | zero => exact Nat.zero_le _
  | succ fuel ih =>
    have hfull : ¬(K.batch size last).length < size := fun hshort => h (.inl hshort)
    have hpage : K.page size shown last ≠ [] := fun hnil =>
      hfull (batch_eq_nil hshown hahead hnil).2
    have hlength := length_page_of_full hahead hfull
    have hrest := ih fun hends => h (.inr hends)
    rw [pages_of_full hpage hfull, List.flatten_cons, List.length_append]
    omega

include hshown hahead in
theorem ends_of_nodup {fuel : Nat} (h : (K.pages size shown fuel last).flatten.Nodup)
    (hfuel : K.all.length < fuel) : K.Ends size shown fuel last := by
  by_contra hgoing
  have hlong := le_length_of_not_ends hshown hahead hgoing
  have hfew := h.subperm (fun k hk => mem_all_of_mem_pages hk) |>.length_le
  omega

theorem not_ends_of_card_le (hbranches : size ≤ K.branches.toFinset.card) (fuel : Nat) :
    ¬K.Ends size shown fuel last := by
  induction fuel generalizing last with
  | zero => exact fun hends => hends
  | succ fuel ih =>
    rintro (hshort | hends)
    · have hsub : K.branches.toFinset ⊆ (K.batch size last).toFinset := by
        intro k hk
        rw [List.mem_toFinset] at hk ⊢
        exact mem_batch_of_short hshort (mem_after.2 (.inr hk))
      have hcard := (Finset.card_le_card hsub).trans (List.toFinset_card_le _)
      omega
    · exact ih hends

/-! ## Where a walk stands -/

/-- The cursor after a page, unless its batch was the last. -/
def next (K : Keys κ) (size shown : Nat) (last : WithBot κ) : Option (WithBot κ) :=
  if (K.batch size last).length < size then none else some (endOf (K.page size shown last))

/-- The pages from a cursor on, or none at the end of the walk. -/
def rest (K : Keys κ) (size shown fuel : Nat) : Option (WithBot κ) → List (List κ)
  | none => []
  | some last => K.pages size shown fuel last

/-- At the end of the walk, or at a cursor from which a number of batches leads there. -/
def Over (K : Keys κ) (size shown fuel : Nat) : Option (WithBot κ) → Prop
  | none => True
  | some last => K.Ends size shown fuel last

theorem rest_succ {fuel : Nat} (h : K.page size shown last ≠ []) :
    K.rest size shown (fuel + 1) (some last)
      = K.page size shown last :: K.rest size shown fuel (K.next size shown last) := by
  unfold next
  by_cases hshort : (K.batch size last).length < size
  · rw [if_pos hshort]
    exact pages_of_short h hshort
  · rw [if_neg hshort]
    exact pages_of_full h hshort

theorem over_succ {fuel : Nat} :
    K.Over size shown (fuel + 1) (some last)
      ↔ K.Over size shown fuel (K.next size shown last) := by
  unfold next
  by_cases hshort : (K.batch size last).length < size
  · rw [if_pos hshort]
    exact iff_of_true (.inl hshort) trivial
  · rw [if_neg hshort]
    exact or_iff_right hshort

include hshown hahead in
theorem next_eq_none (h : K.page size shown last = []) : K.next size shown last = none :=
  if_pos (batch_eq_nil hshown hahead h).2

/-- What a walk shows, and whether it ends. -/
structure Walk (K : Keys κ) (size shown : Nat) : Prop where
  once_iff : ∀ fuel, (K.pages size shown fuel ⊥).flatten.Nodup
    ↔ ∀ c ∈ K.asked size shown fuel ⊥, K.Clear c
  whole : ∀ fuel, K.Ends size shown fuel ⊥ → (K.pages size shown fuel ⊥).flatten.Nodup →
    (K.pages size shown fuel ⊥).flatten = ascending K.all
  ends_of_once : ∀ fuel, K.all.length < fuel → (K.pages size shown fuel ⊥).flatten.Nodup →
    K.Ends size shown fuel ⊥
  ends : K.branches.toFinset.card < shown → ∃ fuel, K.Ends size shown fuel ⊥
  endless : size ≤ K.branches.toFinset.card → ∀ fuel, ¬K.Ends size shown fuel ⊥

include hshown hahead hone in
/-- **Walks over a compound result**, where a batch is as large as a page or larger by one. -/
theorem walk : K.Walk size shown where
  once_iff fuel := nodup_pages_iff hshown hahead hone fuel
  whole fuel hends hnodup :=
    flatten_pages hshown hahead hone ((nodup_pages_iff hshown hahead hone fuel).1 hnodup) hends
  ends_of_once _ hfuel hnodup := ends_of_nodup hshown hahead hnodup hfuel
  ends hbranches := ⟨_, ends_of_card_lt hahead hbranches _ (Nat.lt_succ_self _)⟩
  endless hbranches fuel := not_ends_of_card_le hbranches fuel

end Keys

end SqlQuery
