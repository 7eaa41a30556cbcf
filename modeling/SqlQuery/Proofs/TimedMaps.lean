import Mathlib.Algebra.GroupWithZero.Nat
import Mathlib.Data.List.Basic
import Mathlib.Data.List.Induction
import Mathlib.Data.Set.Function
import Mathlib.Order.Defs.Unbundled
import SqlQuery.Layer.Cache
import SqlQuery.Number.Quantity

/-!
# The cache as a timed map

A run of calls on a cache is explained by its history alone: a statement has the rows that were last
set for it, unless it was deleted or the cache was cleared afterwards, and they are fresh for the
time to live. `CacheHistory.Standing` says this without a map, keys or entries.

The cache keeps stale entries until a sweep comes by, so it does not hold what the history says. It
`Mirrors` it: what is in the map stands, and what stands is in the map or had expired by the time of
some call. Since the clock does not run backwards, what had expired by then is not fresh now, and
sweeps can be left out of a run or added to it anywhere.
-/

namespace SqlQuery

/-! ## Calls and histories -/

/-- A call on a cache. -/
inductive CacheCall where
  | get (sql : String) (bindings : List Value)
  | set (sql : String) (bindings : List Value) (rows : List Row)
  | delete (sql : String) (bindings : List Value)
  | clear
  | sweep
  | stats

/-- What a call on a cache answers. -/
inductive CacheReply where
  | rows (answer : Option (List Row))
  | done
  | removed (count : Nat)
  | stats (entries hits misses expired : Nat)

namespace CacheCall

/-- The statement that a call is about. -/
def statement? : CacheCall → Option (String × List Value)
  | get sql bindings | set sql bindings _ | delete sql bindings => some (sql, bindings)
  | clear | sweep | stats => none

def isGet : CacheCall → Bool
  | get .. => true
  | _ => false

def isSweep : CacheCall → Bool
  | sweep => true
  | _ => false

/-- What was set for a statement does not outlast the call. -/
inductive Supersedes (sql : String) (bindings : List Value) : CacheCall → Prop
  | set (rows : List Row) : Supersedes sql bindings (.set sql bindings rows)
  | delete : Supersedes sql bindings (.delete sql bindings)
  | clear : Supersedes sql bindings .clear

end CacheCall

namespace CacheReply

/-- The answer to a lookup. -/
def answer? : CacheReply → Option (Option (List Row))
  | rows answer => some answer
  | _ => none

/-- The number of entries that a sweep removed. -/
def swept : CacheReply → Nat
  | removed count => count
  | _ => 0

end CacheReply

/-- Calls and the times when they were made, the earliest first. -/
abbrev CacheHistory (τ : Type) := List (τ × CacheCall)

variable {τ : Type}

namespace CacheHistory

/-- The statements that the calls are about. -/
def statements (h : CacheHistory τ) : Set (String × List Value) :=
  { s | ∃ call ∈ h, call.2.statement? = some s }

def withoutSweeps (h : CacheHistory τ) : CacheHistory τ :=
  h.filter fun call => !call.2.isSweep

/-- The clock does not run backwards. -/
def Ordered [LE τ] (h : CacheHistory τ) : Prop :=
  h.Pairwise fun call call' => call.1 ≤ call'.1

/-- The rows were set for a statement at a time, and no later call supersedes them. -/
def Standing (h : CacheHistory τ) (sql : String) (bindings : List Value) (time : τ)
    (rows : List Row) : Prop :=
  ∃ before after, h = before ++ (time, .set sql bindings rows) :: after
    ∧ ∀ call ∈ after, ¬ call.2.Supersedes sql bindings

variable {h h' : CacheHistory τ} {now time : τ} {call : CacheCall} {sql : String}
  {bindings : List Value} {rows : List Row}

theorem not_standing_nil : ¬ Standing [] sql bindings time rows := by
  rintro ⟨before, after, hsplit, -⟩
  exact List.append_ne_nil_of_right_ne_nil before (List.cons_ne_nil _ after) hsplit.symm

/-- After one more call, what stands is what the call set, or stood before and outlasts the call. -/
theorem standing_concat :
    Standing (h ++ [(now, call)]) sql bindings time rows
      ↔ (now = time ∧ call = .set sql bindings rows)
        ∨ (h.Standing sql bindings time rows ∧ ¬ call.Supersedes sql bindings) := by
  constructor
  · rintro ⟨before, after, hsplit, hafter⟩
    obtain rfl | ⟨between, last, rfl⟩ := List.eq_nil_or_concat' after
    · obtain ⟨-, hlast⟩ := List.append_inj' hsplit rfl
      cases hlast
      exact .inl ⟨rfl, rfl⟩
    · rw [← List.cons_append, ← List.append_assoc] at hsplit
      obtain ⟨rfl, hlast⟩ := List.append_inj' hsplit rfl
      cases hlast
      refine .inr ⟨⟨before, between, rfl, ?_⟩, hafter (now, call) List.mem_concat_self⟩
      intro earlier hearlier
      exact hafter earlier (List.mem_append_left _ hearlier)
  · rintro (⟨rfl, rfl⟩ | ⟨⟨before, after, rfl, hafter⟩, hlast⟩)
    · exact ⟨h, [], rfl, by simp⟩
    · refine ⟨before, after ++ [(now, call)], by simp, ?_⟩
      intro later hlater
      obtain hlater | hlater := List.mem_append.1 hlater
      · exact hafter later hlater
      · rw [List.mem_singleton.1 hlater]
        exact hlast

@[simp] theorem withoutSweeps_sweep (h : CacheHistory τ) (now : τ) :
    withoutSweeps (h ++ [(now, .sweep)]) = h.withoutSweeps := by
  simp [withoutSweeps, CacheCall.isSweep]

theorem withoutSweeps_concat (h : CacheHistory τ) (now : τ) (hcall : call.isSweep = false) :
    withoutSweeps (h ++ [(now, call)]) = h.withoutSweeps ++ [(now, call)] := by
  simp [withoutSweeps, hcall]

theorem standing_withoutSweeps :
    h.withoutSweeps.Standing sql bindings time rows ↔ h.Standing sql bindings time rows := by
  induction h using List.reverseRecOn with
  | nil => rfl
  | append_singleton h last ih =>
    obtain ⟨now, call⟩ := last
    cases hsweep : call.isSweep with
    | true =>
      obtain rfl : call = .sweep := by cases call <;> first | rfl | cases hsweep
      have houtlasts : ¬ CacheCall.sweep.Supersedes sql bindings := nofun
      simp [standing_concat, ih, houtlasts]
    | false => rw [withoutSweeps_concat h now hsweep, standing_concat, standing_concat, ih]

theorem statements_append (h h' : CacheHistory τ) :
    statements (h ++ h') = h.statements ∪ statements h' := by
  ext s
  simp [statements, or_and_right, exists_or]

theorem statements_withoutSweeps (h : CacheHistory τ) :
    h.withoutSweeps.statements = h.statements := by
  ext s
  constructor
  · rintro ⟨call, hcall, hs⟩
    exact ⟨call, (List.mem_filter.1 hcall).1, hs⟩
  · rintro ⟨⟨now, call⟩, hcall, hs⟩
    refine ⟨(now, call), List.mem_filter.2 ⟨hcall, ?_⟩, hs⟩
    cases call with
    | sweep => cases hs
    | _ => rfl

section Ordered

variable [LE τ]

theorem Ordered.left (ho : Ordered (h ++ h')) : h.Ordered :=
  (List.pairwise_append.1 ho).1

/-- No call of a history is later than the call that follows it. -/
theorem Ordered.le_last (ho : Ordered (h ++ [(now, call)])) : ∀ past ∈ h, past.1 ≤ now :=
  fun past hpast => (List.pairwise_append.1 ho).2.2 past hpast _ (List.mem_singleton_self _)

theorem passed_concat {call : τ × CacheCall} (hpassed : ∃ past ∈ h, time ≤ past.1) :
    ∃ past ∈ h ++ [call], time ≤ past.1 := by
  obtain ⟨past, hpast, hle⟩ := hpassed
  exact ⟨past, List.mem_append_left _ hpast, hle⟩

theorem Ordered.withoutSweeps (ho : h.Ordered) : h.withoutSweeps.Ordered :=
  ho.sublist List.filter_sublist

end Ordered

end CacheHistory

/-! ## Quantities as times -/

theorem Value.Magnitude.le_trans {k m n : Value.Magnitude} (hkm : k.le m = true)
    (hmn : m.le n = true) : k.le n = true := by
  cases k <;> cases m <;> cases n <;> simp_all [Value.Magnitude.le]
  case infinite.infinite.infinite => grind
  case finite.finite.finite => exact Rat.le_trans hkm hmn

namespace Quantity

/-- Not-a-number is in no order with anything, itself included, so the order is not reflexive. It
is transitive, which is what a clock needs. -/
instance : IsTrans Quantity (· ≤ ·) where
  trans a b c hab hbc := by
    change le a c = true
    change le a b = true at hab
    change le b c = true at hbc
    unfold le at *
    cases ha : a.toValue.magnitude? <;> cases hb : b.toValue.magnitude? <;>
      cases hc : c.toValue.magnitude? <;> simp_all
    exact Value.Magnitude.le_trans hab hbc

instance : Std.LawfulOrderLT Quantity where
  lt_iff a b := by
    change lt a b = true ↔ le a b = true ∧ ¬ le b a = true
    simp [lt]

end Quantity

/-! ## Running a cache -/

namespace Cache

open CacheHistory

section Run

variable [LE τ] [LT τ] [Add τ] [DecidableLE τ] [DecidableLT τ]

def call (c : Cache τ) (now : τ) : CacheCall → CacheReply × Cache τ
  | .get sql bindings =>
    let (answer, c) := c.get now sql bindings
    (.rows answer, c)
  | .set sql bindings rows => (.done, c.set now sql bindings rows)
  | .delete sql bindings => (.done, c.delete sql bindings)
  | .clear => (.done, c.clear)
  | .sweep =>
    let (count, c) := c.sweep now
    (.removed count, c)
  | .stats => (.stats c.entries.length c.hits c.misses c.expired, c)

/-- The cache after a run of calls. -/
def after (c : Cache τ) (h : CacheHistory τ) : Cache τ :=
  h.foldl (fun c call => (c.call call.1 call.2).2) c

/-- The replies to a run of calls. -/
def replies (c : Cache τ) : CacheHistory τ → List CacheReply
  | [] => []
  | (now, call) :: h => (c.call now call).1 :: (c.call now call).2.replies h

/-- The answers to the lookups of a run. -/
def answers (c : Cache τ) (h : CacheHistory τ) : List (Option (List Row)) :=
  (c.replies h).filterMap CacheReply.answer?

variable (c : Cache τ) (h h' : CacheHistory τ) (now : τ) (last : CacheCall)

theorem after_concat :
    c.after (h ++ [(now, last)]) = ((c.after h).call now last).2 := by
  simp [after]

theorem replies_append : c.replies (h ++ h') = c.replies h ++ (c.after h).replies h' := by
  induction h generalizing c with
  | nil => rfl
  | cons first h ih => simp [replies, after, ih]

theorem length_replies : (c.replies h).length = h.length := by
  induction h generalizing c with
  | nil => rfl
  | cons first h ih => simp [replies, ih]

/-- The reply to a call is the reply of the cache as the earlier calls left it. -/
theorem replies_at : (c.replies (h ++ (now, last) :: h'))[h.length]?
    = some ((c.after h).call now last).1 := by
  have hlength : (c.replies h).length = h.length := length_replies c h
  rw [replies_append, ← hlength, List.getElem?_append_right (Nat.le_refl _), Nat.sub_self]
  rfl

theorem answers_concat : c.answers (h ++ [(now, last)])
    = c.answers h ++ ((c.after h).call now last).1.answer?.toList := by
  unfold answers
  rw [replies_append, List.filterMap_append]
  cases hanswer : ((c.after h).call now last).1.answer? <;> simp [replies, hanswer]

@[simp] theorem call_ttl : (c.call now last).2.ttl = c.ttl := by
  cases last with
  | get sql bindings =>
    simp only [call, get, getKey]
    split <;> rfl
  | _ => rfl

@[simp] theorem after_ttl : (c.after h).ttl = c.ttl := by
  induction h using List.reverseRecOn with
  | nil => rfl
  | append_singleton h last ih => rw [after_concat, call_ttl, ih]

end Run

/-! ## What a cache mirrors -/

theorem mem_without {key key' : String} {entry : CacheEntry τ}
    {entries : List (String × CacheEntry τ)} :
    (key', entry) ∈ without key entries ↔ (key', entry) ∈ entries ∧ key' ≠ key := by
  unfold without
  simp

theorem lookup_eq_some_of_mem {key : String} {entry : CacheEntry τ}
    {entries : List (String × CacheEntry τ)} (distinct : (entries.map Prod.fst).Nodup)
    (hmem : (key, entry) ∈ entries) : entries.lookup key = some entry := by
  obtain ⟨before, after, rfl⟩ := List.append_of_mem hmem
  refine List.lookup_eq_some_iff.2 ⟨before, after, rfl, ?_⟩
  intro earlier hearlier
  rw [List.map_append, List.nodup_append] at distinct
  have hne : earlier.1 ≠ key :=
    distinct.2.2 _ (List.mem_map_of_mem hearlier) _ (List.mem_map_of_mem List.mem_cons_self)
  exact bne_iff_ne.2 hne.symm

/-- What a sweep reports is the number of entries that are gone after it. -/
theorem sweep_count [LE τ] [DecidableLE τ] (c : Cache τ) (now : τ) :
    (c.sweep now).1 + (c.sweep now).2.entries.length = c.entries.length := by
  have hle : (c.sweep now).2.entries.length ≤ c.entries.length := List.length_filter_le _ _
  exact Nat.sub_add_cancel hle

section Mirrors

variable [LE τ] [Add τ]

/-- What is in a cache stands, as far as it belongs to the statements; and of what stands nothing is
missing but what had expired by the time of some call. -/
structure Mirrors (statements : Set (String × List Value)) (h : CacheHistory τ) (c : Cache τ) :
    Prop where
  distinct : (c.entries.map Prod.fst).Nodup
  stands : ∀ sql bindings entry, (sql, bindings) ∈ statements →
    (cacheKey sql bindings, entry) ∈ c.entries →
    ∃ time, h.Standing sql bindings time entry.rows ∧ entry.expiresAt = time + c.ttl
  held : ∀ sql bindings time rows, (sql, bindings) ∈ statements →
    h.Standing sql bindings time rows →
    (cacheKey sql bindings, ⟨rows, time + c.ttl⟩) ∈ c.entries ∨ ∃ call ∈ h, time + c.ttl ≤ call.1

namespace Mirrors

variable {statements : Set (String × List Value)} {h : CacheHistory τ} {c : Cache τ} {now : τ}
  {sql : String} {bindings : List Value}

theorem empty (ttl : τ) : Mirrors statements [] { ttl } where
  distinct := .nil
  stands _ _ _ _ hentry := nomatch hentry
  held _ _ _ _ _ hstanding := absurd hstanding not_standing_nil

/-- A call that supersedes nothing and sets nothing, and leaves the entries as they are. -/
theorem idle (m : Mirrors statements h c) {last : CacheCall} {c' : Cache τ}
    (hset : ∀ sql bindings rows, last ≠ .set sql bindings rows)
    (hlast : ∀ sql bindings, ¬ last.Supersedes sql bindings)
    (hentries : c'.entries = c.entries) (httl : c'.ttl = c.ttl) :
    Mirrors statements (h ++ [(now, last)]) c' where
  distinct := hentries ▸ m.distinct
  stands sql bindings entry hs hentry := by
    rw [hentries] at hentry
    obtain ⟨time, hstanding, hexpires⟩ := m.stands sql bindings entry hs hentry
    exact ⟨time, standing_concat.2 (.inr ⟨hstanding, hlast sql bindings⟩), httl ▸ hexpires⟩
  held sql bindings time rows hs hstanding := by
    obtain ⟨-, hlast⟩ | ⟨hstanding, -⟩ := standing_concat.1 hstanding
    · exact absurd hlast (hset sql bindings rows)
    · rw [hentries, httl]
      exact (m.held sql bindings time rows hs hstanding).imp_right passed_concat

/-- Forgetting a statement leaves what stands for the others, whose keys are different. -/
theorem delete (m : Mirrors statements h c)
    (apart : Set.InjOn (fun s => cacheKey s.1 s.2) statements)
    (hstatement : (sql, bindings) ∈ statements) :
    Mirrors statements (h ++ [(now, .delete sql bindings)]) (c.delete sql bindings) where
  distinct := m.distinct.sublist (List.filter_sublist.map _)
  stands sql' bindings' entry hs hentry := by
    obtain ⟨hentry, hkey⟩ := mem_without.1 hentry
    obtain ⟨time, hstanding, hexpires⟩ := m.stands sql' bindings' entry hs hentry
    refine ⟨time, standing_concat.2 (.inr ⟨hstanding, ?_⟩), hexpires⟩
    rintro ⟨⟩
    exact hkey rfl
  held sql' bindings' time rows hs hstanding := by
    obtain ⟨-, hlast⟩ | ⟨hstanding, hlast⟩ := standing_concat.1 hstanding
    · cases hlast
    · refine (m.held sql' bindings' time rows hs hstanding).imp (fun hentry => ?_) passed_concat
      refine mem_without.2 ⟨hentry, fun hkey => hlast ?_⟩
      cases apart hs hstatement hkey
      exact .delete

/-- Setting a statement adds its entry to what is left without it. -/
theorem set (m : Mirrors statements h c)
    (apart : Set.InjOn (fun s => cacheKey s.1 s.2) statements)
    (hstatement : (sql, bindings) ∈ statements) (rows : List Row) :
    Mirrors statements (h ++ [(now, .set sql bindings rows)]) (c.set now sql bindings rows) where
  distinct := by
    have hnew : cacheKey sql bindings ∉ (without (cacheKey sql bindings) c.entries).map Prod.fst := by
      intro hmem
      obtain ⟨⟨key, entry⟩, hentry, rfl⟩ := List.mem_map.1 hmem
      exact (mem_without.1 hentry).2 rfl
    exact List.nodup_cons.2 ⟨hnew, m.distinct.sublist (List.filter_sublist.map _)⟩
  stands sql' bindings' entry hs hentry := by
    obtain hnew | hentry := List.mem_cons.1 hentry
    · obtain ⟨hkey, rfl⟩ := Prod.mk.inj hnew
      cases apart hs hstatement hkey
      exact ⟨now, standing_concat.2 (.inl ⟨rfl, rfl⟩), rfl⟩
    · obtain ⟨hentry, hkey⟩ := mem_without.1 hentry
      obtain ⟨time, hstanding, hexpires⟩ := m.stands sql' bindings' entry hs hentry
      refine ⟨time, standing_concat.2 (.inr ⟨hstanding, ?_⟩), hexpires⟩
      rintro ⟨⟩
      exact hkey rfl
  held sql' bindings' time rows' hs hstanding := by
    obtain ⟨rfl, hlast⟩ | ⟨hstanding, hlast⟩ := standing_concat.1 hstanding
    · cases hlast
      exact .inl List.mem_cons_self
    · refine (m.held sql' bindings' time rows' hs hstanding).imp (fun hentry => ?_) passed_concat
      refine List.mem_cons_of_mem _ (mem_without.2 ⟨hentry, fun hkey => hlast ?_⟩)
      cases apart hs hstatement hkey
      exact .set rows

theorem clear (c : Cache τ) : Mirrors statements (h ++ [(now, .clear)]) c.clear where
  distinct := .nil
  stands _ _ _ _ hentry := nomatch hentry
  held sql bindings time rows hs hstanding := by
    obtain ⟨-, hlast⟩ | ⟨-, hlast⟩ := standing_concat.1 hstanding
    · cases hlast
    · exact absurd .clear hlast

/-- A sweep removes only what has expired by now. -/
theorem sweep [DecidableLE τ] (m : Mirrors statements h c) :
    Mirrors statements (h ++ [(now, .sweep)]) (c.sweep now).2 where
  distinct := m.distinct.sublist (List.filter_sublist.map _)
  stands sql bindings entry hs hentry := by
    obtain ⟨time, hstanding, hexpires⟩ :=
      m.stands sql bindings entry hs (List.mem_filter.1 hentry).1
    exact ⟨time, standing_concat.2 (.inr ⟨hstanding, nofun⟩), hexpires⟩
  held sql bindings time rows hs hstanding := by
    obtain ⟨-, hlast⟩ | ⟨hstanding, -⟩ := standing_concat.1 hstanding
    · cases hlast
    · by_cases hexpired : time + c.ttl ≤ now
      · exact .inr ⟨_, List.mem_concat_self, hexpired⟩
      · have hkept : (!decide (time + c.ttl ≤ now)) = true := by simpa using hexpired
        refine (m.held sql bindings time rows hs hstanding).imp (fun hentry => ?_) passed_concat
        exact List.mem_filter.2 ⟨hentry, hkept⟩

/-- A lookup answers what stands and is fresh: what is missing from the map had expired in the past,
so it is not fresh now. -/
theorem fresh?_eq_some [LT τ] [DecidableLT τ] [IsTrans τ (· ≤ ·)] [Std.LawfulOrderLT τ]
    (m : Mirrors statements h c) (past : ∀ call ∈ h, call.1 ≤ now)
    (hstatement : (sql, bindings) ∈ statements) (rows : List Row) :
    c.fresh? now (cacheKey sql bindings) = some rows
      ↔ ∃ time, h.Standing sql bindings time rows ∧ now < time + c.ttl := by
  unfold fresh?
  constructor
  · intro hfresh
    cases hlookup : c.entries.lookup (cacheKey sql bindings) with
    | none => simp [hlookup] at hfresh
    | some entry =>
      simp only [hlookup, Option.ite_none_right_eq_some, Option.some.injEq] at hfresh
      obtain ⟨hahead, rfl⟩ := hfresh
      obtain ⟨before, after, hentries, -⟩ := List.lookup_eq_some_iff.1 hlookup
      have hentry : (cacheKey sql bindings, entry) ∈ c.entries := by
        rw [hentries]
        exact List.mem_append_right _ List.mem_cons_self
      obtain ⟨time, hstanding, hexpires⟩ := m.stands sql bindings entry hstatement hentry
      exact ⟨time, hstanding, hexpires ▸ hahead⟩
  · rintro ⟨time, hstanding, hahead⟩
    obtain hentry | ⟨call, hcall, hexpired⟩ := m.held sql bindings time rows hstatement hstanding
    · simp [lookup_eq_some_of_mem m.distinct hentry, hahead]
    · have hstale : time + c.ttl ≤ now := IsTrans.trans _ _ _ hexpired (past call hcall)
      exact absurd hstale ((Std.LawfulOrderLT.lt_iff _ _).1 hahead).2

end Mirrors

end Mirrors

/-! ## Runs of calls -/

section Runs

variable [LE τ] [LT τ] [Add τ] [DecidableLE τ] [DecidableLT τ]
  {statements : Set (String × List Value)} {h : CacheHistory τ} {c : Cache τ} {now : τ}

@[simp] theorem call_get_reply (sql : String) (bindings : List Value) :
    (c.call now (.get sql bindings)).1 = .rows (c.fresh? now (cacheKey sql bindings)) := by
  simp only [call, get, getKey]
  split <;> simp [*]

/-- Each call keeps the cache a mirror of its history. -/
theorem Mirrors.step (m : Mirrors statements h c)
    (apart : Set.InjOn (fun s => cacheKey s.1 s.2) statements) (last : CacheCall)
    (hlast : ∀ s, last.statement? = some s → s ∈ statements) :
    Mirrors statements (h ++ [(now, last)]) (c.call now last).2 := by
  cases last with
  | get sql bindings =>
    refine m.idle nofun nofun ?_ (call_ttl c now _)
    simp only [call, Cache.get, getKey]
    split <;> rfl
  | set sql bindings rows => exact m.set apart (hlast _ rfl) rows
  | delete sql bindings => exact m.delete apart (hlast _ rfl)
  | clear => exact .clear c
  | sweep => exact m.sweep
  | stats => exact m.idle nofun nofun rfl rfl

theorem mirrors_after (apart : Set.InjOn (fun s => cacheKey s.1 s.2) statements) (ttl : τ)
    (hstatements : h.statements ⊆ statements) : Mirrors statements h (after { ttl } h) := by
  induction h using List.reverseRecOn with
  | nil => exact .empty ttl
  | append_singleton h last ih =>
    rw [statements_append, Set.union_subset_iff] at hstatements
    rw [after_concat]
    exact (ih hstatements.1).step apart last.2
      fun s hs => hstatements.2 ⟨last, List.mem_singleton_self last, hs⟩

theorem fresh?_after [IsTrans τ (· ≤ ·)] [Std.LawfulOrderLT τ] {sql : String}
    {bindings : List Value} (ttl : τ) (ordered : Ordered (h ++ [(now, .get sql bindings)]))
    (apart : Set.InjOn (fun s => cacheKey s.1 s.2)
      (CacheHistory.statements (h ++ [(now, .get sql bindings)]))) (rows : List Row) :
    (after { ttl } h).fresh? now (cacheKey sql bindings) = some rows
      ↔ ∃ time, h.Standing sql bindings time rows ∧ now < time + ttl := by
  have hmirrors : Mirrors (CacheHistory.statements (h ++ [(now, .get sql bindings)])) h
      (after { ttl } h) := by
    refine mirrors_after apart ttl ?_
    rw [statements_append]
    exact Set.subset_union_left
  rw [hmirrors.fresh?_eq_some ordered.le_last ⟨_, List.mem_concat_self, rfl⟩, after_ttl]

/-- A lookup answers the same if nothing was swept away before. -/
theorem fresh?_withoutSweeps [IsTrans τ (· ≤ ·)] [Std.LawfulOrderLT τ] {sql : String}
    {bindings : List Value} (ttl : τ) (ordered : Ordered (h ++ [(now, .get sql bindings)]))
    (apart : Set.InjOn (fun s => cacheKey s.1 s.2)
      (CacheHistory.statements (h ++ [(now, .get sql bindings)]))) :
    (after { ttl } (withoutSweeps h)).fresh? now (cacheKey sql bindings)
      = (after { ttl } h).fresh? now (cacheKey sql bindings) := by
  have hlast : withoutSweeps (h ++ [(now, .get sql bindings)])
      = withoutSweeps h ++ [(now, .get sql bindings)] := withoutSweeps_concat h now rfl
  refine Option.ext fun rows => ?_
  rw [fresh?_after ttl ordered apart rows, fresh?_after ttl (hlast ▸ ordered.withoutSweeps)
    (hlast ▸ statements_withoutSweeps (h ++ _) ▸ apart) rows]
  simp only [standing_withoutSweeps]

/-- Without its sweeps a run answers what it answers with them. -/
theorem answers_withoutSweeps [IsTrans τ (· ≤ ·)] [Std.LawfulOrderLT τ] (ttl : τ)
    (ordered : h.Ordered) (apart : Set.InjOn (fun s => cacheKey s.1 s.2) h.statements) :
    answers { ttl } h.withoutSweeps = answers { ttl } h := by
  induction h using List.reverseRecOn with
  | nil => rfl
  | append_singleton h last ih =>
    obtain ⟨now, call⟩ := last
    have hinit : answers { ttl } (withoutSweeps h) = answers { ttl } h :=
      ih ordered.left (apart.mono (statements_append h _ ▸ Set.subset_union_left))
    rw [answers_concat]
    cases call with
    | get sql bindings =>
      rw [withoutSweeps_concat h now rfl, answers_concat, hinit, call_get_reply, call_get_reply,
        fresh?_withoutSweeps ttl ordered apart]
    | sweep => simpa [call, CacheReply.answer?] using hinit
    | _ => rw [withoutSweeps_concat h now rfl, answers_concat, hinit]; rfl

/-! ### Counters -/

theorem hits_after (c : Cache τ) (h : CacheHistory τ) :
    (c.after h).hits = c.hits + (c.answers h).countP Option.isSome := by
  induction h using List.reverseRecOn with
  | nil => rfl
  | append_singleton h last ih =>
    obtain ⟨now, call⟩ := last
    rw [after_concat, answers_concat, List.countP_append]
    cases call with
    | get sql bindings =>
      cases hfresh : (c.after h).fresh? now (cacheKey sql bindings) <;>
        simp [Cache.call, Cache.get, getKey, hfresh, CacheReply.answer?, ih, Nat.add_assoc]
    | _ => exact ih

theorem lookups_after (c : Cache τ) (h : CacheHistory τ) :
    (c.after h).hits + (c.after h).misses
      = c.hits + c.misses + h.countP fun call => call.2.isGet := by
  induction h using List.reverseRecOn with
  | nil => rfl
  | append_singleton h last ih =>
    obtain ⟨now, call⟩ := last
    rw [after_concat, List.countP_append]
    cases call with
    | get sql bindings =>
      have hget : List.countP (fun call => call.2.isGet) [(now, CacheCall.get sql bindings)] = 1 :=
        rfl
      cases hfresh : (c.after h).fresh? now (cacheKey sql bindings) <;>
        simp only [Cache.call, Cache.get, getKey, hfresh, hget] <;> omega
    | _ => exact ih

theorem expired_after (c : Cache τ) (h : CacheHistory τ) :
    (c.after h).expired = c.expired + ((c.replies h).map CacheReply.swept).sum := by
  induction h using List.reverseRecOn with
  | nil => rfl
  | append_singleton h last ih =>
    obtain ⟨now, call⟩ := last
    rw [after_concat, replies_append, List.map_append, List.sum_append]
    cases call with
    | get sql bindings =>
      cases hfresh : (c.after h).fresh? now (cacheKey sql bindings) <;>
        simp [Cache.call, Cache.get, getKey, hfresh, replies, CacheReply.swept, ih]
    | sweep => simp [Cache.call, Cache.sweep, replies, CacheReply.swept, ih, Nat.add_assoc]
    | _ => exact ih

/-- A cache refines a timed map. At each place of a run a lookup answers the rows that stand for the
statement, if less than the time to live has passed since they were set, and nothing otherwise;
sweeps make no difference to the answers; and the counters say how many lookups answered rows, how
many there were, and how many entries were swept away. -/
theorem refines_timed_map [IsTrans τ (· ≤ ·)] [Std.LawfulOrderLT τ] (ttl : τ)
    (run : CacheHistory τ) (ordered : run.Ordered)
    (apart : Set.InjOn (fun s => cacheKey s.1 s.2) run.statements) :
    (∀ before now sql bindings rest, run = before ++ (now, .get sql bindings) :: rest →
      ∃ answer, (replies { ttl } run)[before.length]? = some (.rows answer)
        ∧ ∀ rows, answer = some rows
          ↔ ∃ time, Standing before sql bindings time rows ∧ now < time + ttl)
    ∧ (∀ other : CacheHistory τ, other.Ordered → other.withoutSweeps = run.withoutSweeps →
      answers { ttl } other = answers { ttl } run)
    ∧ (after { ttl } run).hits = (answers { ttl } run).countP Option.isSome
    ∧ (after { ttl } run).hits + (after { ttl } run).misses = run.countP (fun call => call.2.isGet)
    ∧ (after { ttl } run).expired = ((replies { ttl } run).map CacheReply.swept).sum
    ∧ (∀ before now rest, run = before ++ (now, .sweep) :: rest →
      ∃ count, (replies { ttl } run)[before.length]? = some (.removed count)
        ∧ count + (after { ttl } (before ++ [(now, .sweep)])).entries.length
          = (after { ttl } before).entries.length)
    ∧ (∀ before now rest, run = before ++ (now, .stats) :: rest →
      let c := after { ttl } before
      (replies { ttl } run)[before.length]?
        = some (.stats c.entries.length c.hits c.misses c.expired)) := by
  refine ⟨?lookups, ?sweeps, ?hits, ?total, ?expired, ?swept, ?stats⟩
  case lookups =>
    rintro before now sql bindings rest rfl
    rw [List.append_cons] at ordered apart
    have hreply := replies_at { ttl } before rest now (.get sql bindings)
    rw [call_get_reply] at hreply
    exact ⟨_, hreply, fresh?_after ttl ordered.left
      (apart.mono (statements_append _ rest ▸ Set.subset_union_left))⟩
  case sweeps =>
    intro other hother hsame
    have hapart : Set.InjOn (fun s => cacheKey s.1 s.2) other.statements := by
      rw [← statements_withoutSweeps, hsame, statements_withoutSweeps]
      exact apart
    rw [← answers_withoutSweeps ttl hother hapart, hsame, answers_withoutSweeps ttl ordered apart]
  case hits => simpa using hits_after { ttl } run
  case total => simpa using lookups_after { ttl } run
  case expired => simpa using expired_after { ttl } run
  case swept =>
    rintro before now rest rfl
    refine ⟨_, replies_at _ before rest now .sweep, ?_⟩
    rw [after_concat]
    exact sweep_count (after { ttl } before) now
  case stats =>
    rintro before now rest rfl
    exact replies_at _ before rest now .stats

end Runs

end Cache

/-- A statement is set at 0 and fresh until 10; at 10 it is swept away. -/
def CacheHistory.untilTen : CacheHistory Quantity :=
  [(.int 0, .set "SELECT 1" [] [[("id", .int 1)]]), (.int 9, .get "SELECT 1" []), (.int 10, .sweep),
    (.int 10, .get "SELECT 1" [])]

namespace Cache

open CacheHistory

theorem refines_timed_map_untilTen :
    untilTen.Ordered
    ∧ Set.InjOn (fun s => cacheKey s.1 s.2) untilTen.statements
    ∧ answers { ttl := Quantity.int 10 } untilTen.withoutSweeps
      = answers { ttl := Quantity.int 10 } untilTen
    ∧ (after { ttl := Quantity.int 10 } untilTen).hits
      = (answers { ttl := Quantity.int 10 } untilTen).countP Option.isSome := by
  have hordered : untilTen.Ordered := by
    unfold Ordered untilTen
    decide
  have hapart : Set.InjOn (fun s => cacheKey s.1 s.2) untilTen.statements := by
    have honly : ∀ s ∈ untilTen.statements, s = ("SELECT 1", []) := by
      rintro s ⟨call, hcall, hs⟩
      simp only [untilTen, List.mem_cons, List.not_mem_nil, or_false] at hcall
      rcases hcall with rfl | rfl | rfl | rfl <;> cases hs <;> rfl
    intro s hs s' hs' _
    rw [honly s hs, honly s' hs']
  have hrun := refines_timed_map (Quantity.int 10) untilTen hordered hapart
  exact ⟨hordered, hapart, hrun.2.1 _ hordered.withoutSweeps rfl, hrun.2.2.1⟩

end Cache

end SqlQuery
