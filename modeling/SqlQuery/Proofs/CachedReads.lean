import SqlQuery.Dialect.MySql
import SqlQuery.Proofs.Slots

/-!
# Reads through a cache

Six kinds of reads select rows, get them through the cache, and make their answer of them
(`Operation.run_read`). Where the outcome of a statement depends on nothing but its SQL and its
bindings, an answer is therefore a function of the statement alone, and the cache cannot be told
from its answers.

What can be told is how often the executor is asked. The cache holds for each statement the rows of
its last call that succeeded (`Remembers`), and a failure leaves nothing there. So no call is made
while that call is younger than the time to live, and after a failure there is always one.
-/

namespace SqlQuery

open Effect

variable {σ α β : Type}

/-! ## Reads -/

namespace Operation

/-- The statement whose rows a read is answered from. -/
def readStatement? (d : Dialect) (q : Query) : Operation → Option (Result Statement)
  | get => some (Statement.select d q)
  | first | firstOrFail => some (Statement.select d q.firstOnly)
  | find v key => some do Statement.select d (← q.withKey key v).firstOnly
  | pluck column => some do Statement.select d (← q.column column)
  | value column => some do Statement.select d (← q.column column.text).firstOnly
  | .exists | isAbsent => some (Statement.select d q.presence.firstOnly)
  | _ => none

/-- The answer of a read to the rows of its statement. -/
def readAnswer (q : Query) (rows : List Row) : Operation → Result Answer
  | get => .ok (.rows rows)
  | first => .ok (.row rows.head?)
  | firstOrFail => do return .row (some (← Engine.found q.table .null rows.head?))
  | find v _ => do return .row (some (← Engine.found q.table v rows.head?))
  | pluck column => .ok (.value (.list (Collection.pluck ⟨rows⟩ (resultName column))))
  | value column =>
    match rows.head? with
    | some row => do return .value (row.get (← column.key))
    | none => .ok (.value .null)
  | .exists => .ok (.bool rows.head?.isSome)
  | isAbsent => .ok (.bool !rows.head?.isSome)
  | _ => .ok .null

end Operation

theorem Effect.ofResult_bind (r : Result α) (f : α → Result β) :
    (ofResult (r >>= f) : Effect σ β) = ofResult r >>= fun a => ofResult (f a) := by
  cases r <;> rfl

theorem Effect.ofResult_pure (a : α) : (ofResult (pure a) : Effect σ α) = pure a :=
  rfl

theorem Engine.get_eq (e : Engine σ) (q : Query) : e.get q
    = (ofResult (Statement.select e.dialect q) >>= fun s =>
      e.fetchCached s >>= fun rows => pure ⟨rows⟩) :=
  rfl

theorem Engine.first_eq (e : Engine σ) (q : Query) : e.first q
    = (ofResult (Statement.select e.dialect q.firstOnly) >>= fun s =>
      e.fetchCached s >>= fun rows => pure rows.head?) := by
  simp only [Engine.first, Engine.get_eq, bind_assoc, pure_bind, Collection.first]

/-- **A read is answered from the rows of one statement.** -/
theorem Operation.run_read (e : Engine σ) (settings : Settings) (visitor : Visitor σ) {q : Query}
    {op : Operation} {s : Result Statement} (h : op.readStatement? e.dialect q = some s) :
    op.run e settings visitor q
      = (ofResult s >>= fun s =>
        e.fetchCached s >>= fun rows => ofResult (op.readAnswer q rows)) := by
  cases op with
  | get =>
    cases h
    simp only [Operation.run, Engine.get_eq, bind_assoc, pure_bind]
    rfl
  | first =>
    cases h
    simp only [Operation.run, Engine.first_eq, bind_assoc, pure_bind]
    rfl
  | firstOrFail =>
    cases h
    simp only [Operation.run, Engine.firstOrFail, Engine.first_eq, bind_assoc, pure_bind,
      Operation.readAnswer, ofResult_bind, ofResult_pure]
  | find v key =>
    cases h
    simp only [Operation.run, Engine.find, Engine.first_eq, bind_assoc, pure_bind,
      Operation.readAnswer, ofResult_bind, ofResult_pure]
  | pluck column =>
    cases h
    simp only [Operation.run, Engine.pluck, Engine.get_eq, bind_assoc, pure_bind, ofResult_bind]
    rfl
  | value column =>
    cases h
    simp only [Operation.run, Engine.value, Engine.first_eq, bind_assoc, pure_bind, ofResult_bind]
    refine congrArg _ (funext fun selected => congrArg _ (funext fun s =>
      congrArg _ (funext fun rows => ?_)))
    cases rows with
    | nil => rfl
    | cons row rows =>
      simp only [List.head?_cons, Operation.readAnswer, bind_assoc, pure_bind, ofResult_bind,
        ofResult_pure]
  | «exists» =>
    cases h
    simp only [Operation.run, Engine.exists?, Engine.first_eq, bind_assoc, pure_bind]
    rfl
  | isAbsent =>
    cases h
    simp only [Operation.run, Engine.exists?, Engine.first_eq, bind_assoc, pure_bind]
    rfl
  | _ => cases h

/-! ## Executors whose outcome is a function of the statement -/

/-- The outcome of a query depends on its SQL and its bindings alone. -/
def Statements.Answers (st : Statements σ) (answer : String → List Value → Result Reading) :
    Prop :=
  ∀ sql bindings s, ((st.query sql bindings).run.run s).1 = answer sql bindings

/-- The rows of a statement, or why there are none. -/
def Statement.outcome (answer : String → List Value → Result Reading) (s : Statement) :
    Result (List Row) :=
  (answer s.sql s.bindings).bind Reading.materialize

/-- The same as a read reports it. -/
def Statement.reported (answer : String → List Value → Result Reading) (s : Statement) :
    Result (List Row) :=
  (s.outcome answer).mapError (Engine.failureOf s "select")

namespace Execution

/-- A call for a statement. -/
def IsFor (c : Execution σ) (s : Statement) : Prop :=
  c.sql = s.sql ∧ c.bindings = s.bindings

def Succeeded (c : Execution σ) (s : Statement) : Prop :=
  c.IsFor s ∧ c.failure = none

/-- The last of the calls for a statement that succeeded. -/
def LastSuccess (s : Statement) (calls : List (Execution σ)) (c : Execution σ) : Prop :=
  ∃ before after, calls = before ++ c :: after ∧ c.Succeeded s ∧ ∀ c' ∈ after, ¬c'.Succeeded s

theorem not_lastSuccess_nil {s : Statement} {c : Execution σ} : ¬LastSuccess s [] c := by
  rintro ⟨before, after, hcalls, -⟩
  simp at hcalls

/-- One more call is the last that succeeded if it did, and leaves the last as it was if not. -/
theorem lastSuccess_concat {s : Statement} {calls : List (Execution σ)} {c d : Execution σ} :
    LastSuccess s (calls ++ [d]) c
      ↔ d.Succeeded s ∧ c = d ∨ ¬d.Succeeded s ∧ LastSuccess s calls c := by
  constructor
  · rintro ⟨before, after, hcalls, hc, hafter⟩
    rcases after.eq_nil_or_concat with rfl | ⟨rest, last, rfl⟩
    · obtain ⟨-, hlast⟩ := List.append_inj' hcalls rfl
      obtain rfl := List.singleton_inj.1 hlast
      exact .inl ⟨hc, rfl⟩
    · rw [List.concat_eq_append, ← List.cons_append, ← List.append_assoc] at hcalls
      obtain ⟨hbefore, hlast⟩ := List.append_inj' hcalls rfl
      obtain rfl := List.singleton_inj.1 hlast
      refine .inr ⟨hafter d (by simp), before, rest, hbefore, hc, fun c' hc' => ?_⟩
      exact hafter c' (by simp [hc'])
  · rintro (⟨hd, rfl⟩ | ⟨hd, before, after, rfl, hc, hafter⟩)
    · exact ⟨calls, [], rfl, hd, fun c' hc' => nomatch hc'⟩
    · refine ⟨before, after ++ [d], by simp, hc, fun c' hc' => ?_⟩
      rcases List.mem_append.1 hc' with hold | hnew
      · exact hafter c' hold
      · rwa [List.mem_singleton.1 hnew]

end Execution

/-! ## What a cache holds -/

namespace Cache

variable (c : Cache Quantity) (now : Quantity) (sql : String) (bindings : List Value)

theorem get_entries : (c.get now sql bindings).2.entries = c.entries := by
  unfold Cache.get getKey
  split <;> rfl

theorem lookup_without {key key' : String} (h : key' ≠ key)
    (entries : List (String × CacheEntry Quantity)) :
    (without key entries).lookup key' = entries.lookup key' := by
  induction entries with
  | nil => rfl
  | cons entry entries ih =>
    obtain ⟨name, held⟩ := entry
    unfold without at ih ⊢
    by_cases hname : name = key
    · subst hname
      simp [List.lookup_cons, beq_eq_false_iff_ne.2 h, ih]
    · simp [List.lookup_cons, hname, ih]

theorem lookup_set_same (rows : List Row) :
    (c.set now sql bindings rows).entries.lookup (cacheKey sql bindings)
      = some { rows, expiresAt := now + c.ttl } :=
  List.lookup_cons_self

theorem lookup_set_other (rows : List Row) {key : String} (h : key ≠ cacheKey sql bindings) :
    (c.set now sql bindings rows).entries.lookup key = c.entries.lookup key := by
  unfold Cache.set setKey
  rw [List.lookup_cons, beq_eq_false_iff_ne.2 h]
  exact lookup_without h c.entries

theorem fresh?_eq (key : String) : c.fresh? now key
    = (c.entries.lookup key).bind fun entry =>
      if now < entry.expiresAt then some entry.rows else none := by
  unfold fresh?
  cases c.entries.lookup key <;> rfl

end Cache

/-- Some statements, of which no two have one key. -/
structure Apart (statements : Statement → Prop) : Prop where
  same : ∀ s s', statements s → statements s' →
    cacheKey s.sql s.bindings = cacheKey s'.sql s'.bindings →
    s.sql = s'.sql ∧ s.bindings = s'.bindings

/-- A world whose cache holds what the last calls of statements answered, for as long as they are
fresh, and nothing of statements that failed. -/
structure World.Remembers (e : Engine σ) (answer : String → List Value → Result Reading)
    (statements : Statement → Prop) (before : List (Execution σ)) (w : World (Noted σ))
    (cache : Cache Quantity) (calls : List (Execution σ)) : Prop where
  cached : w.cache = some cache
  record : w.outside.record = before ++ calls
  outcomes : ∀ c ∈ calls, ∀ s, c.IsFor s → c.failure = Result.failure? (s.outcome answer)
  rows : ∀ s, statements s → ∀ entry,
    cache.entries.lookup (cacheKey s.sql s.bindings) = some entry →
    s.outcome answer = .ok entry.rows
  held : ∀ s, statements s → ∀ c, Execution.LastSuccess s calls c → ∃ rows,
    cache.entries.lookup (cacheKey s.sql s.bindings)
      = some { rows, expiresAt := e.clock c.after + cache.ttl }

/-! ## One read -/

section Reads

variable {e : Engine σ} {answer : String → List Value → Result Reading}
  {statements : Statement → Prop} {before : List (Execution σ)} {w : World (Noted σ)}
  {cache : Cache Quantity} {calls : List (Execution σ)} {s : Statement}

namespace World.Remembers

theorem fresh (h : w.Remembers e answer statements before cache calls) (hs : statements s)
    {now : Quantity} {rows : List Row}
    (hfresh : cache.fresh? now (cacheKey s.sql s.bindings) = some rows) :
    s.outcome answer = .ok rows := by
  rw [Cache.fresh?_eq] at hfresh
  obtain ⟨entry, hlookup, hentry⟩ := Option.bind_eq_some_iff.1 hfresh
  split at hentry
  · cases hentry
    exact h.rows s hs entry hlookup
  · cases hentry

/-- As long as the last call that succeeded is young, the cache answers. -/
theorem fresh_of_lastSuccess (h : w.Remembers e answer statements before cache calls)
    (hs : statements s) {c : Execution σ} (hc : Execution.LastSuccess s calls c) {now : Quantity}
    (hyoung : now < e.clock c.after + cache.ttl) :
    (cache.fresh? now (cacheKey s.sql s.bindings)).isSome = true := by
  obtain ⟨rows, hlookup⟩ := h.held s hs c hc
  rw [Cache.fresh?_eq, hlookup, Option.bind_some, if_pos hyoung]
  rfl

/-- A statement that failed is not in the cache. -/
theorem not_fresh_of_failure (h : w.Remembers e answer statements before cache calls)
    (hs : statements s) {c : Execution σ} (hmem : c ∈ calls) (hfor : c.IsFor s)
    (hfailure : c.failure ≠ none) (now : Quantity) :
    cache.fresh? now (cacheKey s.sql s.bindings) = none := by
  cases hfresh : cache.fresh? now (cacheKey s.sql s.bindings) with
  | none => rfl
  | some rows =>
    rw [h.outcomes c hmem s hfor, h.fresh hs hfresh] at hfailure
    exact absurd rfl hfailure

/-- Counting a lookup leaves what is remembered. -/
theorem consulted (h : w.Remembers e answer statements before cache calls) (now : Quantity)
    (s : Statement) : World.Remembers e answer statements before
      { w with cache := some (cache.get now s.sql s.bindings).2 }
      (cache.get now s.sql s.bindings).2 calls where
  cached := rfl
  record := h.record
  outcomes := h.outcomes
  rows := by
    rw [Cache.get_entries]
    exact h.rows
  held := by
    rw [Cache.get_entries, Cache.get_ttl]
    exact h.held

/-- The executor's state does not matter. -/
theorem elapsed (h : w.Remembers e answer statements before cache calls) (f : σ → σ) :
    (w.elapsed f).Remembers e answer statements before cache calls :=
  ⟨h.cached, h.record, h.outcomes, h.rows, h.held⟩

theorem outcomes_called (h : w.Remembers e answer statements before cache calls) (t : σ) :
    ∀ c ∈ calls ++ [⟨s.sql, s.bindings, Result.failure? (s.outcome answer), t⟩], ∀ s',
      c.IsFor s' → c.failure = Result.failure? (s'.outcome answer) := by
  intro c hc s' hfor
  rcases List.mem_append.1 hc with hold | hnew
  · exact h.outcomes c hold s' hfor
  · rw [List.mem_singleton.1 hnew] at hfor ⊢
    unfold Statement.outcome
    rw [← hfor.1, ← hfor.2]

theorem record_called (h : w.Remembers e answer statements before cache calls)
    (failure : Option Error) (t : σ) : (w.called s failure t).outside.record
      = before ++ (calls ++ [⟨s.sql, s.bindings, failure, t⟩]) := by
  rw [← List.append_assoc, ← h.record]
  rfl

/-- After a call that failed the cache holds what it held. -/
theorem failed (h : w.Remembers e answer statements before cache calls) {err : Error}
    (houtcome : s.outcome answer = .error err) (t : σ) :
    (w.called s (some err) t).Remembers e answer statements before cache
      (calls ++ [⟨s.sql, s.bindings, some err, t⟩]) where
  cached := h.cached
  record := h.record_called (some err) t
  outcomes := by
    have hcalled := h.outcomes_called (s := s) t
    rw [houtcome] at hcalled
    exact hcalled
  rows := h.rows
  held := by
    intro s' hs' c hc
    rcases Execution.lastSuccess_concat.1 hc with ⟨⟨-, hnone⟩, -⟩ | ⟨-, hold⟩
    · cases hnone
    · exact h.held s' hs' c hold

/-- After a call that succeeded the cache holds its rows. -/
theorem stored (h : w.Remembers e answer statements before cache calls) (apart : Apart statements)
    (hs : statements s) {rows : List Row} (houtcome : s.outcome answer = .ok rows) (t : σ) :
    World.Remembers e answer statements before
      { w.called s none t with cache := some (cache.set (e.clock t) s.sql s.bindings rows) }
      (cache.set (e.clock t) s.sql s.bindings rows)
      (calls ++ [⟨s.sql, s.bindings, none, t⟩]) where
  cached := rfl
  record := h.record_called none t
  outcomes := by
    have hcalled := h.outcomes_called (s := s) t
    rw [houtcome] at hcalled
    exact hcalled
  rows := by
    intro s' hs' entry hentry
    by_cases hkey : cacheKey s'.sql s'.bindings = cacheKey s.sql s.bindings
    · obtain ⟨hsql, hbindings⟩ := apart.same s' s hs' hs hkey
      rw [hkey, Cache.lookup_set_same] at hentry
      cases hentry
      unfold Statement.outcome at houtcome ⊢
      rw [hsql, hbindings]
      exact houtcome
    · rw [Cache.lookup_set_other _ _ _ _ _ hkey] at hentry
      exact h.rows s' hs' entry hentry
  held := by
    intro s' hs' c hc
    rcases Execution.lastSuccess_concat.1 hc with ⟨⟨hfor, -⟩, rfl⟩ | ⟨hnot, hold⟩
    · refine ⟨rows, ?_⟩
      rw [← hfor.1, ← hfor.2]
      exact cache.lookup_set_same (e.clock t) s.sql s.bindings rows
    · have hkey : cacheKey s'.sql s'.bindings ≠ cacheKey s.sql s.bindings := by
        intro hkey
        obtain ⟨hsql, hbindings⟩ := apart.same s' s hs' hs hkey
        exact hnot ⟨⟨hsql.symm, hbindings.symm⟩, rfl⟩
      rw [Cache.lookup_set_other _ _ _ _ _ hkey]
      exact h.held s' hs' c hold

end World.Remembers

/-- A statement that is fetched where a slot can be had is a call with its outcome. -/
theorem Engine.run_fetch_of_answers (hanswers : e.statements.Answers answer)
    (hready : w.Ready e.wait) (s : Statement) : ∃ t, (e.noting.fetch s "select").run.run w
      = (s.reported answer, w.called s (Result.failure? (s.outcome answer)) t) := by
  rcases hquery : (e.statements.query s.sql s.bindings).run.run w.outside.state with ⟨r, t⟩
  have hr : r = answer s.sql s.bindings := by
    rw [← hanswers s.sql s.bindings w.outside.state, hquery]
  subst hr
  exact ⟨t, run_timed_called _ hready (e.run_fetching s hquery)⟩

/-- Without a cache a read is a call. -/
theorem Engine.run_fetchCached_uncached (hanswers : e.statements.Answers answer)
    (hready : w.Ready e.wait) (hcache : w.cache = none) (s : Statement) :
    ∃ w', (e.noting.fetchCached s).run.run w = (s.reported answer, w') ∧ w'.cache = none
      ∧ w'.limiter = w.limiter := by
  have hlookup : (e.noting.lookup s).Returns w none w := by
    unfold lookup
    refine returns_get_bind.2 ?_
    rw [hcache]
    cases e.noting.caching <;> rfl
  obtain ⟨t, hfetch⟩ := run_fetch_of_answers hanswers hready s
  unfold fetchCached
  rw [hlookup.run_bind]
  unfold Statement.reported at hfetch ⊢
  cases houtcome : s.outcome answer with
  | error err =>
    rw [houtcome] at hfetch
    exact ⟨_, run_bind_error hfetch _, hcache, rfl⟩
  | ok rows =>
    rw [houtcome] at hfetch
    refine ⟨_, Returns.run_bind hfetch _, ?_, ?_⟩
    · show World.cache (if e.noting.caching then _ else _) = none
      split
      · show Option.map _ w.cache = none
        rw [hcache]
        rfl
      · exact hcache
    · show World.limiter (if e.noting.caching then _ else _) = w.limiter
      split <;> rfl

/-- **With a cache a read answers the same**, and makes a call exactly if the cache has nothing
fresh for it. -/
theorem Engine.run_fetchCached_cached (hanswers : e.statements.Answers answer)
    (hcaching : e.caching = true) (hready : w.Ready e.wait) (apart : Apart statements)
    (h : w.Remembers e answer statements before cache calls) (hs : statements s) :
    ∃ w' cache' more, (e.noting.fetchCached s).run.run w = (s.reported answer, w')
      ∧ w'.Remembers e answer statements before cache' (calls ++ more)
      ∧ cache'.ttl = cache.ttl ∧ w'.limiter = w.limiter
      ∧ ((cache.fresh? (e.clock w.outside.state) (cacheKey s.sql s.bindings)).isSome = true
        → more = [])
      ∧ (cache.fresh? (e.clock w.outside.state) (cacheKey s.sql s.bindings) = none
        → ∃ c, more = [c] ∧ c.IsFor s) := by
  let now := e.clock w.outside.state
  let asked := (cache.get now s.sql s.bindings).2
  let v : World (Noted σ) := { w with cache := some asked }
  have hv : v.Remembers e answer statements before asked calls := h.consulted now s
  have hlookup :
      (e.noting.lookup s).Returns w (cache.fresh? now (cacheKey s.sql s.bindings)) v := by
    unfold lookup
    refine returns_get_bind.2 ?_
    rw [h.cached, noting_caching, hcaching, ← Cache.get_fst]
    rfl
  unfold fetchCached Statement.reported
  rw [hlookup.run_bind]
  cases hfresh : cache.fresh? now (cacheKey s.sql s.bindings) with
  | some rows =>
    rw [h.fresh hs hfresh]
    refine ⟨{ v with observed := some s }, asked, [], rfl, ?_, cache.get_ttl _ _ _, rfl,
      fun _ => rfl, fun hnone => nomatch hnone⟩
    rw [List.append_nil]
    exact ⟨hv.cached, hv.record, hv.outcomes, hv.rows, hv.held⟩
  | none =>
    obtain ⟨t, hfetch⟩ := run_fetch_of_answers (w := v) hanswers hready s
    unfold Statement.reported at hfetch
    cases houtcome : s.outcome answer with
    | error err =>
      rw [houtcome] at hfetch
      exact ⟨_, asked, _, run_bind_error hfetch _, hv.failed houtcome t, cache.get_ttl _ _ _, rfl,
        (fun hsome => nomatch hsome), fun _ => ⟨_, rfl, rfl, rfl⟩⟩
    | ok rows =>
      rw [houtcome] at hfetch
      have hstore : (e.noting.store s rows).Returns (v.called s none t) ()
          { v.called s none t with
            cache := some (asked.set (e.clock t) s.sql s.bindings rows) } := by
        refine returns_modify.2 ?_
        rw [noting_caching, if_pos hcaching]
        rfl
      refine ⟨_, _, _, (Returns.run_bind hfetch _).trans (hstore.run_bind _),
        hv.stored apart hs houtcome t, cache.get_ttl _ _ _, rfl, (fun hsome => nomatch hsome),
        fun _ => ⟨_, rfl, rfl, rfl⟩⟩

end Reads

/-! ## Reads one after the other -/

/-- A read, and what becomes of the executor's state before it. -/
structure ReadStep (σ : Type) where
  elapse : σ → σ
  query : Query
  op : Operation

section Runs

variable (e : Engine σ) (settings : Settings) (visitor : Visitor σ)

/-- A read in a world, on an executor that notes its calls. -/
def ReadStep.run (step : ReadStep σ) (w : World (Noted σ)) : Result Answer × World (Noted σ) :=
  (step.op.run e.noting settings visitor.noting step.query).run.run (w.elapsed step.elapse)

/-- The answers to reads one after the other, and the world after them. -/
def Engine.reads : List (ReadStep σ) → World (Noted σ) → List (Result Answer) × World (Noted σ)
  | [], w => ([], w)
  | step :: steps, w =>
    let (r, w) := step.run e settings visitor w
    let (rs, w) := Engine.reads steps w
    (r :: rs, w)

end Runs

/-- The statements of reads. -/
def ReadStep.Selects (d : Dialect) (steps : List (ReadStep σ)) (s : Statement) : Prop :=
  ∃ step ∈ steps, step.op.readStatement? d step.query = some (.ok s)

/-- How a read asks an executor that was called for these calls: not while the last call for its
statement that succeeded is younger than the time to live, and again if a call for it failed. -/
structure ReadStep.AsksAsDue (e : Engine σ) (ttl : Quantity) (calls : List (Execution σ))
    (s : Statement) (w w' : World (Noted σ)) : Prop where
  young : ∀ c, Execution.LastSuccess s calls c → e.clock w.outside.state < e.clock c.after + ttl →
    w'.outside.record = w.outside.record
  failed : ∀ c ∈ calls, c.IsFor s → c.failure ≠ none →
    ∃ d, w'.outside.record = w.outside.record ++ [d] ∧ d.IsFor s

section Runs

variable {e : Engine σ} (settings : Settings) (visitor : Visitor σ)
  {answer : String → List Value → Result Reading} {statements : Statement → Prop}
  {before calls : List (Execution σ)} {w w' : World (Noted σ)} {cache : Cache Quantity}
  {step : ReadStep σ} {s : Statement}

namespace ReadStep

/-- The answer of a read, where statements have these outcomes. -/
def expected (d : Dialect) (answer : String → List Value → Result Reading) (step : ReadStep σ) :
    Result Answer := do
  let s ← (step.op.readStatement? d step.query).getD (.ok ⟨"", [], ""⟩)
  step.op.readAnswer step.query (← s.reported answer)

theorem run_of_fetch (h : step.op.readStatement? e.dialect step.query = some (.ok s))
    (hfetch : (e.noting.fetchCached s).run.run (w.elapsed step.elapse) = (s.reported answer, w')) :
    step.run e settings visitor w = (step.expected e.dialect answer, w') := by
  have hread := Operation.run_read e.noting settings visitor.noting h
  unfold run expected
  rw [hread, h]
  show (e.noting.fetchCached s >>= fun rows =>
      ofResult (step.op.readAnswer step.query rows)).run.run (w.elapsed step.elapse)
    = (s.reported answer >>= fun rows => step.op.readAnswer step.query rows, w')
  rw [run_bind_ofResult hfetch, ← ofResult_bind, run_ofResult]

theorem run_of_error {err : Error}
    (h : step.op.readStatement? e.dialect step.query = some (.error err)) :
    step.run e settings visitor w = (step.expected e.dialect answer, w.elapsed step.elapse) := by
  have hread := Operation.run_read e.noting settings visitor.noting h
  unfold run expected
  rw [hread, h]
  rfl

theorem run_uncached (hanswers : e.statements.Answers answer) (hready : w.Ready e.wait)
    (hcache : w.cache = none)
    (hread : (step.op.readStatement? e.dialect step.query).isSome = true) :
    ∃ w', step.run e settings visitor w = (step.expected e.dialect answer, w') ∧ w'.cache = none
      ∧ w'.limiter = w.limiter := by
  obtain ⟨r, hr⟩ := Option.isSome_iff_exists.1 hread
  cases r with
  | error err => exact ⟨_, run_of_error settings visitor hr, hcache, rfl⟩
  | ok s =>
    obtain ⟨w', hfetch, hkept, hlimiter⟩ :=
      e.run_fetchCached_uncached (w := w.elapsed step.elapse) hanswers hready hcache s
    exact ⟨w', run_of_fetch settings visitor hr hfetch, hkept, hlimiter⟩

theorem run_cached (hanswers : e.statements.Answers answer) (hcaching : e.caching = true)
    (hready : w.Ready e.wait) (apart : Apart statements)
    (h : w.Remembers e answer statements before cache calls)
    (hread : (step.op.readStatement? e.dialect step.query).isSome = true)
    (hstatement : ∀ s, step.op.readStatement? e.dialect step.query = some (.ok s) → statements s) :
    ∃ w' cache' more, step.run e settings visitor w = (step.expected e.dialect answer, w')
      ∧ w'.Remembers e answer statements before cache' (calls ++ more)
      ∧ cache'.ttl = cache.ttl ∧ w'.limiter = w.limiter
      ∧ ∀ s, step.op.readStatement? e.dialect step.query = some (.ok s) →
        AsksAsDue e cache.ttl calls s (w.elapsed step.elapse) w' := by
  obtain ⟨r, hr⟩ := Option.isSome_iff_exists.1 hread
  have helapsed := h.elapsed step.elapse
  cases r with
  | error err =>
    refine ⟨_, cache, [], run_of_error settings visitor hr, ?_, rfl, rfl, fun s hs => ?_⟩
    · rw [List.append_nil]
      exact helapsed
    · rw [hr] at hs
      cases hs
  | ok s =>
    have hs := hstatement s hr
    obtain ⟨w', cache', more, hfetch, hafter, httl, hlimiter, hyoung, hdue⟩ :=
      Engine.run_fetchCached_cached (w := w.elapsed step.elapse) hanswers hcaching hready apart
        helapsed hs
    have hrecord : w'.outside.record = (w.elapsed step.elapse).outside.record ++ more := by
      rw [hafter.record, helapsed.record, List.append_assoc]
    refine ⟨w', cache', more, run_of_fetch settings visitor hr hfetch, hafter, httl, hlimiter, fun s' hs' => ?_⟩
    rw [hr] at hs'
    cases hs'
    constructor
    · intro c hc hless
      rw [hrecord, hyoung (helapsed.fresh_of_lastSuccess hs hc hless), List.append_nil]
    · intro c hc hfor hfailure
      obtain ⟨d, rfl, hd⟩ := hdue (helapsed.not_fresh_of_failure hs hc hfor hfailure _)
      exact ⟨d, hrecord, hd⟩

end ReadStep

/-- Without a cache all reads have the answers that are expected. -/
theorem Engine.reads_uncached (hanswers : e.statements.Answers answer) (hready : w.Ready e.wait)
    (hcache : w.cache = none) (steps : List (ReadStep σ))
    (hreads : ∀ step ∈ steps, (step.op.readStatement? e.dialect step.query).isSome = true) :
    (e.reads settings visitor steps w).1 = steps.map (ReadStep.expected e.dialect answer) := by
  induction steps generalizing w with
  | nil => rfl
  | cons step steps ih =>
    rw [List.forall_mem_cons] at hreads
    obtain ⟨w', hrun, hkept, hlimiter⟩ :=
      ReadStep.run_uncached settings visitor hanswers hready hcache hreads.1
    simp only [reads, hrun, List.map_cons]
    rw [ih (hready.of_limiter hlimiter) hkept hreads.2]

/-- With a cache they have the same, and the cache goes on to remember what was answered. -/
theorem Engine.reads_cached (hanswers : e.statements.Answers answer) (hcaching : e.caching = true)
    (hready : w.Ready e.wait) (apart : Apart statements)
    (h : w.Remembers e answer statements before cache calls) (steps : List (ReadStep σ))
    (hreads : ∀ step ∈ steps, (step.op.readStatement? e.dialect step.query).isSome = true)
    (hstatements : ∀ s, ReadStep.Selects e.dialect steps s → statements s) :
    (e.reads settings visitor steps w).1 = steps.map (ReadStep.expected e.dialect answer)
      ∧ ∃ cache' more, (e.reads settings visitor steps w).2.Remembers e answer statements before
          cache' (calls ++ more)
        ∧ cache'.ttl = cache.ttl ∧ (e.reads settings visitor steps w).2.limiter = w.limiter := by
  induction steps generalizing w cache calls with
  | nil => exact ⟨rfl, cache, [], by rw [List.append_nil]; exact h, rfl, rfl⟩
  | cons step steps ih =>
    rw [List.forall_mem_cons] at hreads
    obtain ⟨w', cache', more, hrun, hafter, httl, hlimiter, -⟩ :=
      ReadStep.run_cached settings visitor hanswers hcaching hready apart h hreads.1
        fun s hs => hstatements s ⟨step, List.mem_cons_self, hs⟩
    obtain ⟨hanswer, cache'', more', hrest, httl', hlimiter'⟩ :=
      ih (hready.of_limiter hlimiter) hafter hreads.2 fun s ⟨step', hmem, hs⟩ =>
        hstatements s ⟨step', List.mem_cons_of_mem _ hmem, hs⟩
    simp only [reads, hrun, List.map_cons]
    refine ⟨by rw [hanswer], cache'', more ++ more', ?_, httl'.trans httl, hlimiter'.trans hlimiter⟩
    rw [← List.append_assoc]
    exact hrest

end Runs

/-- **A cache cannot be told from answers.** Let the outcome of statements depend on their SQL and
their bindings alone, let slots be had, and let a cache with nothing in it, of any time to live, be
put before reads whose statements have keys of their own. Whatever becomes of the time, all reads
are answered as without the cache. The read after them makes no call while the last call for its
statement that succeeded is younger than the time to live, and makes one if a call for it failed. -/
theorem Engine.reads_through_cache (e : Engine σ) (settings : Settings) (visitor : Visitor σ)
    (answer : String → List Value → Result Reading) (hanswers : e.statements.Answers answer)
    (hcaching : e.caching = true) (w : World (Noted σ)) (hready : w.Ready e.wait)
    (cache : Cache Quantity) (hcache : w.cache = some cache) (hempty : cache.entries = [])
    (steps : List (ReadStep σ)) (next : ReadStep σ)
    (hreads : ∀ step ∈ steps ++ [next],
      (step.op.readStatement? e.dialect step.query).isSome = true)
    (apart : Apart (ReadStep.Selects e.dialect (steps ++ [next]))) :
    (e.reads settings visitor (steps ++ [next]) w).1
        = (e.reads settings visitor (steps ++ [next]) { w with cache := none }).1
      ∧ ∃ calls, (e.reads settings visitor steps w).2.outside.record = w.outside.record ++ calls
        ∧ ∀ s, next.op.readStatement? e.dialect next.query = some (.ok s) →
          ReadStep.AsksAsDue e cache.ttl calls s
            ((e.reads settings visitor steps w).2.elapsed next.elapse)
            (next.run e settings visitor (e.reads settings visitor steps w).2).2 := by
  have hstart : w.Remembers e answer (ReadStep.Selects e.dialect (steps ++ [next]))
      w.outside.record cache [] := by
    refine ⟨hcache, by rw [List.append_nil], fun c hc => (nomatch hc), ?_, ?_⟩
    · intro s _ entry hentry
      rw [hempty] at hentry
      cases hentry
    · intro s _ c hc
      exact absurd hc Execution.not_lastSuccess_nil
  refine ⟨?_, ?_⟩
  · rw [reads_uncached settings visitor (w := { w with cache := none }) hanswers hready rfl
      (steps ++ [next]) hreads]
    exact (reads_cached settings visitor hanswers hcaching hready apart hstart (steps ++ [next]) hreads
      fun s hs => hs).1
  · have hread : (next.op.readStatement? e.dialect next.query).isSome = true :=
      hreads next (by simp)
    obtain ⟨-, cache', calls, hafter, httl, hlimiter⟩ :=
      reads_cached settings visitor hanswers hcaching hready apart hstart steps
        (fun step hstep => hreads step (List.mem_append_left _ hstep))
        fun s ⟨step, hmem, hs⟩ => ⟨step, List.mem_append_left _ hmem, hs⟩
    rw [List.nil_append] at hafter
    obtain ⟨w', _, _, hrun, -, -, -, hasks⟩ :=
      ReadStep.run_cached settings visitor hanswers hcaching (hready.of_limiter hlimiter) apart
        hafter hread fun s hs => ⟨next, by simp, hs⟩
    refine ⟨calls, hafter.record, fun s hs => ?_⟩
    rw [hrun, ← httl]
    exact hasks s hs

/-- One table with one row. -/
def oneTable (sql : String) (_ : List Value) : Result Reading :=
  if sql = "SELECT * FROM t" then .ok { rows := [[("id", .int 1)]] }
  else .error (.foreign .runtime "no such table")

/-- An executor with one table. Its state is the time in seconds. -/
def timedEngine : Engine Int where
  dialect := .mysql
  statements := {
    query sql bindings := ofResult (oneTable sql bindings)
    queryOne _ _ := return none
    execute _ _ := return { rowsAffected := .int 0 } }
  clock s := .int s

/-- All rows of the table, some seconds later. -/
def readAfter (seconds : Int) : ReadStep Int where
  elapse s := s + seconds
  query := { table := some "t" }
  op := .get

/-- A world with a cache in which rows are fresh for five seconds. -/
def fiveSeconds : World (Noted Int) :=
  { outside := ⟨0, []⟩, cache := some { ttl := .int 5 } }

/-- The same read three seconds after the first is answered alike, and makes no call. -/
theorem readAfter_three : ∃ w,
    w = (timedEngine.reads {} (fun v => return v) [readAfter 0] fiveSeconds).2
      ∧ w.outside.record.length = 1
      ∧ ((readAfter 3).run timedEngine {} (fun v => return v) w).2.outside.record
        = w.outside.record
      ∧ (timedEngine.reads {} (fun v => return v) [readAfter 0, readAfter 3] fiveSeconds).1
        = (timedEngine.reads {} (fun v => return v) [readAfter 0, readAfter 3]
          { fiveSeconds with cache := none }).1 := by
  have hanswers : timedEngine.statements.Answers oneTable := by
    intro sql bindings s
    exact congrArg Prod.fst (run_ofResult (oneTable sql bindings) s)
  have hone : ∀ s, ReadStep.Selects .mysql [readAfter 0, readAfter 3] s →
      Statement.select .mysql { table := some "t" } = .ok s := by
    rintro s ⟨step, hstep, hs⟩
    rcases List.mem_cons.1 hstep with rfl | hstep
    · exact Option.some.inj hs
    · obtain rfl := List.mem_singleton.1 hstep
      exact Option.some.inj hs
  have apart : Apart (ReadStep.Selects .mysql [readAfter 0, readAfter 3]) := by
    constructor
    intro s s' hs hs' _
    cases (hone s hs).symm.trans (hone s' hs')
    exact ⟨rfl, rfl⟩
  obtain ⟨hsame, calls, hrecord, hasks⟩ := Engine.reads_through_cache timedEngine {}
    (fun v => return v) oneTable hanswers rfl fiveSeconds (fun l hl => nomatch hl) { ttl := .int 5 }
    rfl rfl [readAfter 0] (readAfter 3) (by decide) apart
  have hcalls : [⟨"SELECT * FROM t", [], none, 0⟩] = calls := hrecord
  subst hcalls
  refine ⟨_, rfl, congrArg List.length hrecord, ?_, hsame⟩
  refine (hasks _ rfl).young _ ⟨[], [], rfl, ⟨⟨rfl, rfl⟩, rfl⟩, fun c hc => nomatch hc⟩ ?_
  decide

end SqlQuery
