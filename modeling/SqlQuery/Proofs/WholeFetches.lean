import SqlQuery.Proofs.CachedReads
import SqlQuery.Session.Scripted

/-!
# Fetches are all or nothing

A call for rows fails, or delivers items that are gone through one after the other. An item need not
be a row, and there may be a failure after the last of them (`Delivery`). So a fetch can fail before
the first row, at any row, and behind the last one.

Whatever the call does, a fetch that has to make it and gets its slot answers every row that was
delivered, or it fails (`Engine.fetch_whole`). The failure tells where it came from: that of the
call itself is wrapped if it is none of the library's own, and that of a row says how many rows were
read before it (`FetchFailure`).
-/

namespace SqlQuery

open Effect

variable {σ : Type}

/-! ## What a call delivers -/

/-- Items in their order, and the failure that comes after them, if there is one. -/
structure Delivery where
  items : List Value
  failure : Option Error := none
  deriving Repr

/-- An item can be read as a row, and this is the row as it is answered. -/
def Value.ReadsAs (item : Value) (row : Row) : Prop :=
  ∃ raw, (Argument.value item).toRow = .ok raw ∧ row = raw.normalize

namespace Delivery

/-- The rows up to where reading breaks off. -/
def reading (h : Delivery) : Reading :=
  .ofItems h.failure h.items

/-- Every item is one of the rows, in their order, and nothing fails after them. -/
structure Reads (h : Delivery) (rows : List Row) : Prop where
  rows : List.Forall₂ Value.ReadsAs h.items rows
  unbroken : h.failure = none

/-- Reading fails when so many items were read as rows. -/
inductive BreaksAt : Delivery → Nat → Error → Prop
  | unreadable {read : List Value} {rows : List Row} {item : Value} {cause : Error}
    (before : List.Forall₂ Value.ReadsAs read rows)
    (unreadable : (Argument.value item).toRow = .error cause)
    (rest : List Value) (failure : Option Error) :
    BreaksAt ⟨read ++ item :: rest, failure⟩ read.length cause
  | raised {read : List Value} {rows : List Row}
    (before : List.Forall₂ Value.ReadsAs read rows) (cause : Error) :
    BreaksAt ⟨read, some cause⟩ read.length cause

/-- Reading comes to its end or breaks off. -/
theorem reads_or_breaksAt (items : List Value) (failure : Option Error) :
    (∃ rows, Reads ⟨items, failure⟩ rows) ∨ ∃ n cause, BreaksAt ⟨items, failure⟩ n cause := by
  induction items with
  | nil =>
    cases failure with
    | none => exact .inl ⟨[], .nil, rfl⟩
    | some cause => exact .inr ⟨0, cause, .raised .nil cause⟩
  | cons item items ih =>
    cases hitem : (Argument.value item).toRow with
    | error cause => exact .inr ⟨0, cause, .unreadable .nil hitem items failure⟩
    | ok raw =>
      have hrow : item.ReadsAs raw.normalize := ⟨raw, hitem, rfl⟩
      rcases ih with ⟨rows, hrows, hunbroken⟩ | ⟨n, cause, hbreaks⟩
      · exact .inl ⟨raw.normalize :: rows, .cons hrow hrows, hunbroken⟩
      · cases hbreaks with
        | unreadable before hunreadable rest =>
          exact .inr ⟨_, cause, .unreadable (.cons hrow before) hunreadable rest _⟩
        | raised before => exact .inr ⟨_, cause, .raised (.cons hrow before) cause⟩

/-- After items that are rows, reading goes on as if it began there. -/
theorem reading_append {read : List Value} {rows : List Row}
    (hread : List.Forall₂ Value.ReadsAs read rows) (items : List Value) (failure : Option Error) :
    (reading ⟨read ++ items, failure⟩).rows.map Row.normalize
        = rows ++ (reading ⟨items, failure⟩).rows.map Row.normalize
      ∧ (reading ⟨read ++ items, failure⟩).failure = (reading ⟨items, failure⟩).failure := by
  induction hread with
  | nil => exact ⟨rfl, rfl⟩
  | @cons item row read rows hitem _ ih =>
    obtain ⟨raw, hraw, rfl⟩ := hitem
    unfold reading at ih ⊢
    rw [List.cons_append, Reading.ofItems, hraw]
    exact ⟨congrArg (raw.normalize :: ·) ih.1, ih.2⟩

theorem Reads.materialize_eq {h : Delivery} {rows : List Row} (hreads : h.Reads rows) :
    h.reading.materialize = .ok rows := by
  obtain ⟨items, failure⟩ := h
  obtain ⟨hitems, rfl⟩ := hreads
  obtain ⟨hrows, hfailure⟩ := reading_append hitems [] none
  rw [List.append_nil] at hrows hfailure
  unfold Reading.materialize
  rw [hfailure, hrows]
  exact congrArg Except.ok (List.append_nil rows)

/-- Where reading breaks off after some rows, so many rows are counted. -/
theorem materialize_append {read : List Value} {rows : List Row}
    (hread : List.Forall₂ Value.ReadsAs read rows) {items : List Value} {failure : Option Error}
    {cause : Error} (hitems : reading ⟨items, failure⟩ = { rows := [], failure := some cause }) :
    (reading ⟨read ++ items, failure⟩).materialize = .error (.rowRead read.length cause) := by
  obtain ⟨hrows, hfailure⟩ := reading_append hread items failure
  rw [hitems] at hrows hfailure
  have hlength := congrArg List.length hrows
  rw [List.length_map, List.map_nil, List.append_nil, ← hread.length_eq] at hlength
  unfold Reading.materialize
  rw [hfailure, hlength]

theorem BreaksAt.materialize_eq {h : Delivery} {n : Nat} {cause : Error}
    (hbreaks : h.BreaksAt n cause) : h.reading.materialize = .error (.rowRead n cause) := by
  cases hbreaks with
  | @unreadable read rows item _ before hunreadable rest failure =>
    refine materialize_append before ?_
    unfold reading
    rw [Reading.ofItems, hunreadable]
  | @raised read rows before =>
    have hend : (reading ⟨read ++ [], some cause⟩).materialize
        = .error (.rowRead read.length cause) := materialize_append before rfl
    rwa [List.append_nil] at hend

/-- **All rows are read if every item is a row and nothing fails.** -/
theorem materialize_eq_ok {h : Delivery} {rows : List Row} :
    h.reading.materialize = .ok rows ↔ h.Reads rows := by
  refine ⟨fun hrows => ?_, Reads.materialize_eq⟩
  obtain ⟨items, failure⟩ := h
  rcases reads_or_breaksAt items failure with ⟨rows', hreads⟩ | ⟨n, cause, hbreaks⟩
  · rw [hreads.materialize_eq] at hrows
    cases hrows
    exact hreads
  · rw [hbreaks.materialize_eq] at hrows
    cases hrows

/-- **Otherwise none are, and the failure says where reading broke off.** -/
theorem materialize_eq_error {h : Delivery} {err : Error} :
    h.reading.materialize = .error err
      ↔ ∃ n cause, err = .rowRead n cause ∧ h.BreaksAt n cause := by
  constructor
  · intro herror
    obtain ⟨items, failure⟩ := h
    rcases reads_or_breaksAt items failure with ⟨rows, hreads⟩ | ⟨n, cause, hbreaks⟩
    · rw [hreads.materialize_eq] at herror
      cases herror
    · rw [hbreaks.materialize_eq] at herror
      cases herror
      exact ⟨n, cause, rfl, hbreaks⟩
  · rintro ⟨n, cause, rfl, hbreaks⟩
    exact hbreaks.materialize_eq

/-- Every reading is one of items that were delivered. -/
theorem exists_reading (r : Reading) : ∃ h : Delivery, h.reading = r := by
  obtain ⟨rows, failure⟩ := r
  refine ⟨⟨rows.map Value.mapping, failure⟩, ?_⟩
  unfold reading
  induction rows with
  | nil => rfl
  | cons row rows ih =>
    simp only at ih
    simp only [List.map_cons, Reading.ofItems, Argument.toRow, Argument.mapping?, ih]

end Delivery

/-! ## How a fetch fails -/

/-- The failures of a fetch, by what the call for its rows did. -/
inductive FetchFailure (s : Statement) (action : String) (call : Result Delivery) : Error → Prop
  /-- The call failed, and not with an error of the library's own. -/
  | execution {cause : Error} (failed : call = .error cause) (foreign : cause.isOwn = false) :
    FetchFailure s action call (.execution action s.sql s.bindings cause)
  /-- The call failed with an error of the library's own. -/
  | own {err : Error} (failed : call = .error err) (own : err.isOwn = true) :
    FetchFailure s action call err
  /-- The call delivered items, and reading them broke off. -/
  | row {h : Delivery} {n : Nat} {cause : Error} (delivered : call = .ok h)
    (breaks : h.BreaksAt n cause) : FetchFailure s action call (.rowRead n cause)

/-- What a fetch answers, by what the call for its rows did. -/
def Delivery.fetched (s : Statement) (action : String) (call : Result Delivery) :
    Result (List Row) :=
  ((call.map Delivery.reading).bind Reading.materialize).mapError (Engine.failureOf s action)

namespace Delivery

variable {s : Statement} {action : String} {call : Result Delivery}

/-- A failure to read a row is reported as it is. -/
theorem fetched_delivery (h : Delivery) : fetched s action (.ok h) = h.reading.materialize := by
  show h.reading.materialize.mapError (Engine.failureOf s action) = _
  unfold Reading.materialize
  split <;> rfl

theorem fetched_failed (cause : Error) :
    fetched s action (.error cause) = .error (Engine.failureOf s action cause) :=
  rfl

theorem fetched_eq_ok {rows : List Row} :
    fetched s action call = .ok rows ↔ ∃ h, call = .ok h ∧ h.Reads rows := by
  constructor
  · intro hrows
    cases call with
    | error err => cases hrows
    | ok h =>
      rw [fetched_delivery] at hrows
      exact ⟨h, rfl, materialize_eq_ok.1 hrows⟩
  · rintro ⟨h, rfl, hreads⟩
    rw [fetched_delivery, hreads.materialize_eq]

theorem fetched_eq_error {err : Error} :
    fetched s action call = .error err ↔ FetchFailure s action call err := by
  constructor
  · intro herror
    cases call with
    | error cause =>
      rw [fetched_failed, Except.error.injEq] at herror
      subst herror
      unfold Engine.failureOf
      split
      · next hown => exact .own rfl hown
      · next hforeign => exact .execution rfl (eq_false_of_ne_true hforeign)
    | ok h =>
      rw [fetched_delivery] at herror
      obtain ⟨n, cause, rfl, hbreaks⟩ := materialize_eq_error.1 herror
      exact .row rfl hbreaks
  · intro hfailure
    cases hfailure with
    | execution hfailed hforeign =>
      rw [hfailed, fetched_failed, Engine.failureOf, hforeign]
      rfl
    | own hfailed hown => rw [hfailed, fetched_failed, Engine.failureOf, if_pos hown]
    | row hdelivered hbreaks => rw [hdelivered, fetched_delivery, hbreaks.materialize_eq]

end Delivery

/-! ## Fetches -/

/-- The limiter, if there is one, has a slot for who waits like this. A limiter never has more slots
free than there are. -/
def World.Grants (wait : Wait) (w : World σ) : Prop :=
  ∀ l ∈ w.limiter, l.free ≤ l.capacity ∧ ∃ taken, l.acquire wait = .ok taken

theorem World.Grants.ready {w : World σ} {wait : Wait} (h : w.Grants wait) : w.Ready wait := by
  intro l hl
  obtain ⟨hfits, taken, hacquire⟩ := h l hl
  exact ⟨taken, hacquire, Limiter.release_acquire hfits hacquire⟩

/-- What the cache of a world holds, whatever it has counted. -/
def World.cacheEntries (w : World σ) : Option (List (String × CacheEntry Quantity)) :=
  w.cache.map Cache.entries

theorem World.Leaves.cacheEntries {w w' : World σ} {t : σ} (h : w.Leaves t w') :
    w'.cacheEntries = w.cacheEntries :=
  congrArg (Option.map Cache.entries) h.cache

namespace Engine

variable {e : Engine σ} {s : Statement} {w : World σ} {action : String} {x : Run σ (List Row)}
  {call : Result Delivery} {t : σ}

/-- The fetches that have to call the executor: those that pass by the cache, and those for which it
has nothing. -/
inductive Fetching (e : Engine σ) (s : Statement) (w : World σ) :
    String → Run σ (List Row) → Prop
  | uncached (action : String) : Fetching e s w action (e.fetch s action)
  | missed (misses : e.held w s = none) : Fetching e s w "select" (e.fetchCached s)

/-- Whatever a call for rows does, it fails or delivers items. -/
theorem exists_call (e : Engine σ) (s : Statement) (w : World σ) : ∃ call t,
    (e.statements.query s.sql s.bindings).run.run w.outside
      = (Except.map Delivery.reading call, t) := by
  rcases (e.statements.query s.sql s.bindings).run.run w.outside with ⟨answer, t⟩
  cases answer with
  | error cause => exact ⟨.error cause, t, rfl⟩
  | ok r =>
    obtain ⟨h, rfl⟩ := Delivery.exists_reading r
    exact ⟨.ok h, t, rfl⟩

theorem run_fetch (hready : w.Ready e.wait) (action : String)
    (hcall : (e.statements.query s.sql s.bindings).run.run w.outside
      = (call.map Delivery.reading, t)) :
    ∃ w', (e.fetch s action).run.run w = (Delivery.fetched s action call, w') ∧ w.Leaves t w' := by
  refine run_timed hready action ?_
  rw [run_bind_ofResult hcall]
  cases call with
  | error err => rfl
  | ok h =>
    have hreading : (ofResult (Except.map Delivery.reading (.ok h)) : Effect σ Reading).Returns t
        h.reading t := returns_ofResult.2 ⟨rfl, rfl⟩
    have hfetched : (Except.map Delivery.reading (.ok h) : Result Reading).bind Reading.materialize
        = h.reading.materialize := rfl
    rw [hreading.run_bind, hfetched]
    cases h.reading.materialize <;> rfl

theorem entries_of_lookup {w' : World σ} {found : Option (List Row)}
    (h : (e.lookup s).Returns w found w') : w'.cacheEntries = w.cacheEntries := by
  have hlookup := returns_get_bind.1 h
  split at hlookup
  · next cache _ hcache =>
    obtain ⟨_, v, hset, hpure⟩ := returns_bind.1 hlookup
    rw [(returns_pure.1 hpure).2, returns_set.1 hset]
    unfold World.cacheEntries
    rw [hcache]
    exact congrArg some (cache.get_entries _ _ _)
  · rw [(returns_pure.1 hlookup).2]

/-- Storing rows changes nothing but the cache. -/
theorem run_store (e : Engine σ) (s : Statement) (rows : List Row) (w : World σ) :
    ∃ w', (e.store s rows).Returns w () w' ∧ w'.outside = w.outside ∧ w'.limiter = w.limiter := by
  refine ⟨_, returns_modify.2 rfl, ?_⟩
  split
  · exact ⟨rfl, rfl⟩
  · exact ⟨rfl, rfl⟩

/-- A fetch whose rows are not in the cache answers what its call comes to. -/
theorem Fetching.run (hfetch : e.Fetching s w action x) (hslot : w.Grants e.wait)
    (hcall : (e.statements.query s.sql s.bindings).run.run w.outside
      = (call.map Delivery.reading, t)) :
    ∃ w', x.run.run w = (Delivery.fetched s action call, w') ∧ w'.outside = t
      ∧ w'.limiter = w.limiter
      ∧ ∀ err, Delivery.fetched s action call = .error err → w'.cacheEntries = w.cacheEntries := by
  cases hfetch with
  | uncached =>
    obtain ⟨w', hrun, hleft⟩ := run_fetch hslot.ready action hcall
    exact ⟨w', hrun, hleft.outside, hleft.limiter, fun _ _ => hleft.cacheEntries⟩
  | missed hmisses =>
    obtain ⟨w₁, hlookup, hlooked⟩ := e.returns_lookup w s
    rw [hmisses] at hlookup
    have hentries := entries_of_lookup hlookup
    rw [← hlooked.outside] at hcall
    obtain ⟨w₂, hrun, hleft⟩ :=
      run_fetch (hslot.ready.of_limiter hlooked.limiter) "select" hcall
    unfold fetchCached
    rw [hlookup.run_bind]
    cases hfetched : Delivery.fetched s "select" call with
    | error err =>
      rw [hfetched] at hrun
      refine ⟨w₂, run_bind_error hrun _, hleft.outside, hleft.limiter.trans hlooked.limiter, ?_⟩
      intro _ _
      exact hleft.cacheEntries.trans hentries
    | ok rows =>
      rw [hfetched] at hrun
      obtain ⟨w₃, hstore, houtside, hlimiter⟩ := e.run_store s rows w₂
      refine ⟨w₃, ?_, houtside.trans hleft.outside, ?_, ?_⟩
      · exact returns_bind.2 ⟨rows, w₂, hrun, returns_bind.2 ⟨(), w₃, hstore, rfl⟩⟩
      · exact hlimiter.trans (hleft.limiter.trans hlooked.limiter)
      · intro _ herror
        cases herror

/-- **A fetch is all or nothing.** Let the cache have nothing for a statement, or be passed by, and
let a slot be had. Whatever the call for the rows does, the fetch comes to an end. It answers rows
exactly if the call delivered items that all are rows and did not fail after them, and then these
rows, each as it is normalised. It fails exactly as `FetchFailure` says: for a failure of the call
with the action, the SQL and the bindings of the statement, or with the failure itself if that is
one of the library's own; and where an item is no row, or there are no more of them by a failure,
with the number of items before it. The limiter is afterwards what it was, and after a failure the
cache holds what it held. -/
theorem fetch_whole (e : Engine σ) (s : Statement) (w : World σ) (hslot : w.Grants e.wait)
    (hcall : (e.statements.query s.sql s.bindings).run.run w.outside
      = (call.map Delivery.reading, t))
    (hfetch : e.Fetching s w action x) :
    ∃ r w', x.run.run w = (r, w')
      ∧ (∀ rows, r = .ok rows ↔ ∃ delivery, call = .ok delivery ∧ delivery.Reads rows)
      ∧ (∀ err, r = .error err ↔ FetchFailure s action call err)
      ∧ w'.outside = t ∧ w'.limiter = w.limiter
      ∧ ∀ err, r = .error err → w'.cacheEntries = w.cacheEntries := by
  obtain ⟨w', hrun, houtside, hlimiter, hentries⟩ := hfetch.run hslot hcall
  refine ⟨_, w', hrun, ?_, ?_, houtside, hlimiter, hentries⟩
  · intro rows
    exact Delivery.fetched_eq_ok
  · intro err
    exact Delivery.fetched_eq_error

/-- An executor whose second item is no row. -/
def oddEngine : Engine Unit where
  dialect := .mysql
  statements := {
    query _ _ := return Delivery.reading ⟨[.mapping [("id", .int 1)], .int 5], none⟩
    queryOne _ _ := return none
    execute _ _ := return { rowsAffected := .int 0 } }

/-- One of two slots is in use, the cache holds nothing, and there is a log. -/
def twoSlots : World Unit where
  outside := ()
  cache := some { ttl := .int 5 }
  limiter := some { capacity := 2, free := 1, inFlight := 1 }
  log := some {}

/-- The row that was read is not answered, and the slot comes back. -/
theorem fetch_oddEngine : ∃ w',
    (oddEngine.fetchCached ⟨"SELECT * FROM t", [], "mysql"⟩).run.run twoSlots
      = (.error (.rowRead 1 (.foreign .type "'int' object is not iterable")), w')
      ∧ w'.limiter = twoSlots.limiter ∧ w'.cacheEntries = some [] := by
  have hslot : twoSlots.Grants oddEngine.wait := by
    intro l hl
    cases hl
    exact ⟨by decide, _, rfl⟩
  have hcall : (oddEngine.statements.query "SELECT * FROM t" []).run.run twoSlots.outside
      = (Except.map Delivery.reading (.ok ⟨[.mapping [("id", .int 1)], .int 5], none⟩), ()) := rfl
  obtain ⟨r, w', hrun, -, herror, -, hlimiter, hentries⟩ :=
    fetch_whole oddEngine ⟨"SELECT * FROM t", [], "mysql"⟩ twoSlots hslot hcall (.missed rfl)
  have hfails : r = .error (.rowRead 1 (.foreign .type "'int' object is not iterable")) :=
    (herror _).2 (.row rfl (.unreadable (.cons ⟨_, rfl, rfl⟩ .nil) rfl [] none))
  rw [hfails] at hrun
  exact ⟨w', hrun, hlimiter, hentries _ hfails⟩

end Engine

end SqlQuery
