import SqlQuery.Dialect.MySql
import SqlQuery.Proofs.CommonFlow
import SqlQuery.Proofs.Recording

/-!
# What a cache does to writes

An operation that changes the matching rows, or else inserts one, first reads whether there are any.
With a cache in the world the answer may be older than what the store has, since nothing that is
written takes a result out of the cache again.

`Engine.held` is what the cache answers, and `Engine.response` is what an operation writes after its
read was answered. It depends on the answer only by whether that was empty. So a series of operations
writes the same with a cache as without one exactly as long as no operation is `Misled`: what the
cache holds for its SELECT is empty while the store has rows, or the other way round.
-/

namespace SqlQuery

open Effect Recorded

variable {σ α : Type}

/-! ## Executions in a world that lets them through -/

namespace World

/-- A slot can be taken, and given back again. -/
def Ready (wait : Wait) (w : World σ) : Prop :=
  ∀ limiter ∈ w.limiter, ∃ taken, limiter.acquire wait = .ok taken
    ∧ taken.release = (limiter, .ok ())

/-- A world after an execution that left the executor's state as it is said. -/
structure Leaves (w : World σ) (s : σ) (w' : World σ) : Prop where
  outside : w'.outside = s
  cache : w'.cache = w.cache
  limiter : w'.limiter = w.limiter

/-- A world after a read: what the cache holds may have changed, and how often it was asked. -/
structure Consulted (w w' : World σ) : Prop where
  outside : w'.outside = w.outside
  ttl : w'.cache.map Cache.ttl = w.cache.map Cache.ttl
  limiter : w'.limiter = w.limiter

variable {w w' : World σ} {wait : Wait}

theorem Ready.of_limiter (h : w.Ready wait) (hlimiter : w'.limiter = w.limiter) :
    w'.Ready wait := by
  unfold Ready
  rw [hlimiter]
  exact h

end World

namespace Run

variable {w : World σ}

theorem run_withSlot {wait : Wait} {body : Run σ α} {r : Result α} {s : σ} (hready : w.Ready wait)
    (hbody : ∀ v : World σ, v.outside = w.outside →
      ∃ v', body.run.run v = (r, v') ∧ v.Leaves s v') :
    ∃ w', (withSlot wait body).run.run w = (r, w') ∧ w.Leaves s w' := by
  obtain ⟨outside, cache, limiter, log, observed⟩ := w
  unfold withSlot
  cases limiter with
  | none =>
    obtain ⟨v', hrun, hleaves⟩ := hbody _ rfl
    have htake : (takeSlot wait : Run σ Unit).Returns ⟨outside, cache, none, log, observed⟩ ()
        ⟨outside, cache, none, log, observed⟩ := rfl
    have hgive : (giveSlot : Run σ Unit).Returns v' () v' := by
      refine returns_get_bind.2 ?_
      rw [hleaves.limiter]
      exact returns_pure.2 ⟨rfl, rfl⟩
    rw [htake.run_bind]
    exact ⟨v', run_andThen hrun hgive, hleaves⟩
  | some limiter =>
    obtain ⟨taken, hacquire, hrelease⟩ := hready limiter rfl
    obtain ⟨v', hrun, hleaves⟩ := hbody ⟨outside, cache, some taken, log, observed⟩ rfl
    have htake : (takeSlot wait : Run σ Unit).Returns
        ⟨outside, cache, some limiter, log, observed⟩ ()
        ⟨outside, cache, some taken, log, observed⟩ := by
      refine returns_get_bind.2 (returns_bind.2 ⟨taken, _, returns_ofResult.2 ⟨hacquire, rfl⟩, ?_⟩)
      exact returns_set.2 rfl
    have hgive : (giveSlot : Run σ Unit).Returns v' () { v' with limiter := some limiter } := by
      refine returns_get_bind.2 ?_
      rw [hleaves.limiter]
      simp only [hrelease]
      exact returns_bind.2 ⟨(), _, returns_set.2 rfl, returns_ofResult.2 ⟨rfl, rfl⟩⟩
    rw [htake.run_bind]
    refine ⟨{ v' with limiter := some limiter }, ?_, hleaves.outside, hleaves.cache, rfl⟩
    exact run_andThen hrun hgive

end Run

namespace Engine

open Run

variable {e : Engine σ} {w : World σ} {s : Statement}

/-- Where a slot can be had, an execution is the call of the executor, and its failure is reported
as the statement's. -/
theorem run_timed (hready : w.Ready e.wait) (action : String) {call : Effect σ α} {r : Result α}
    {t : σ} (hcall : call.run.run w.outside = (r, t)) :
    ∃ w', (e.timed s action call).run.run w = (r.mapError (failureOf s action), w')
      ∧ w.Leaves t w' := by
  have hobserve : (observe s : Run σ Unit).Returns w () { w with observed := some s } := rfl
  have hready' : World.Ready e.wait { w with observed := some s } := hready
  have hsame : ∀ w', World.Leaves { w with observed := some s } t w' → w.Leaves t w' :=
    fun _ h => ⟨h.outside, h.cache, h.limiter⟩
  unfold timed
  rw [hobserve.run_bind]
  refine Exists.imp (fun w' => And.imp_right (hsame w')) (run_withSlot hready' fun v hv => ?_)
  have hattempt : (attempt (Run.outside call)).Returns v r { v with outside := t } := by
    refine returns_attempt.2 ?_
    show ((call.run.run v.outside).1, { v with outside := (call.run.run v.outside).2 }) = _
    rw [hv, hcall]
  rw [hattempt.run_bind]
  cases r with
  | ok x => exact ⟨_, rfl, rfl, rfl, rfl⟩
  | error err =>
    by_cases hlogged : isLogged err = true
    · simp only [hlogged, if_true]
      exact ⟨_, rfl, rfl, rfl, rfl⟩
    · simp only [hlogged]
      exact ⟨_, rfl, rfl, rfl, rfl⟩

end Engine

/-! ## Reads -/

/-- A query is answered with the rows that a store has for it, and leaves the store as it is. -/
def Statements.ReadsFrom (st : Statements σ) (select : σ → String → List Value → List Row) :
    Prop :=
  ∀ sql bindings s, (st.query sql bindings).Returns s { rows := select s sql bindings } s

namespace Cache

variable (c : Cache Quantity) (now now' : Quantity) (sql : String) (bindings : List Value)

theorem get_fst : (c.get now sql bindings).1 = c.fresh? now (cacheKey sql bindings) := by
  unfold Cache.get getKey
  split
  · next rows hfresh => exact hfresh.symm
  · next hfresh => exact hfresh.symm

theorem get_ttl : (c.get now sql bindings).2.ttl = c.ttl := by
  unfold Cache.get getKey
  split <;> rfl

theorem fresh?_set (rows : List Row) :
    (c.set now sql bindings rows).fresh? now' (cacheKey sql bindings)
      = if now' < now + c.ttl then some rows else none := by
  unfold fresh? Cache.set setKey
  rw [List.lookup_cons_self]

end Cache

namespace Engine

variable {select : σ → String → List Value → List Row} {e : Engine σ} {w : World σ} {s : Statement}

/-- What the cache of the world answers to a statement. -/
def held (e : Engine σ) (w : World σ) (s : Statement) : Option (List Row) :=
  match e.caching, w.cache with
  | true, some cache => cache.fresh? (e.clock w.outside) (cacheKey s.sql s.bindings)
  | _, _ => none

theorem held_of_uncached (h : w.cache = none) : e.held w s = none := by
  unfold held
  rw [h]
  split
  · next hcache => cases hcache
  · rfl

theorem returns_lookup (e : Engine σ) (w : World σ) (s : Statement) :
    ∃ w', (e.lookup s).Returns w (e.held w s) w' ∧ w.Consulted w' := by
  unfold held
  split
  · next cache hcaching hcache =>
    refine ⟨{ w with cache := some (cache.get (e.clock w.outside) s.sql s.bindings).2 },
      returns_get_bind.2 ?_, rfl, ?_, rfl⟩
    · rw [hcaching, hcache, ← Cache.get_fst]
      exact returns_bind.2 ⟨(), _, returns_set.2 rfl, returns_pure.2 ⟨rfl, rfl⟩⟩
    · rw [hcache]
      exact congrArg some (cache.get_ttl _ _ _)
  · next hnone =>
    refine ⟨w, returns_get_bind.2 ?_, rfl, rfl, rfl⟩
    split
    · next cache hcaching hcache => exact absurd hcache (hnone cache hcaching)
    · exact returns_pure.2 ⟨rfl, rfl⟩

theorem returns_fetch_of_reads (hreads : e.statements.ReadsFrom select) (hready : w.Ready e.wait)
    (s : Statement) (action : String) :
    ∃ w', (e.fetch s action).Returns w ((select w.outside s.sql s.bindings).map Row.normalize) w'
      ∧ w.Leaves w.outside w' := by
  let rows := (select w.outside s.sql s.bindings).map Row.normalize
  refine run_timed (r := .ok rows) hready action ?_
  exact returns_bind.2 ⟨_, _, hreads s.sql s.bindings w.outside, returns_pure.2 ⟨rfl, rfl⟩⟩

/-- A read is answered with what the cache holds, or else with what the store has, and that is in
the cache from then on. -/
theorem returns_fetchCached (hreads : e.statements.ReadsFrom select) (hready : w.Ready e.wait)
    (s : Statement) :
    ∃ w', (e.fetchCached s).Returns w
        ((e.held w s).getD ((select w.outside s.sql s.bindings).map Row.normalize)) w'
      ∧ w.Consulted w'
      ∧ (e.caching = true → e.held w s = none → ∀ c ∈ w'.cache, ∀ now,
        c.fresh? now (cacheKey s.sql s.bindings)
          = if now < e.clock w.outside + c.ttl
            then some ((select w.outside s.sql s.bindings).map Row.normalize) else none) := by
  obtain ⟨w₁, hlookup, hlooked⟩ := e.returns_lookup w s
  cases hheld : e.held w s with
  | some rows =>
    rw [hheld] at hlookup
    refine ⟨{ w₁ with observed := some s }, ?_, ⟨hlooked.outside, hlooked.ttl, hlooked.limiter⟩,
      fun _ hnone => (nomatch hnone)⟩
    exact returns_bind.2 ⟨_, _, hlookup, returns_bind.2 ⟨(), _, rfl, returns_pure.2 ⟨rfl, rfl⟩⟩⟩
  | none =>
    rw [hheld] at hlookup
    obtain ⟨w₂, hfetch, hleft⟩ :=
      returns_fetch_of_reads hreads (hready.of_limiter hlooked.limiter) s "select"
    rw [hlooked.outside] at hfetch hleft
    have hstore : (e.store s ((select w.outside s.sql s.bindings).map Row.normalize)).Returns w₂ ()
        _ := returns_modify.2 rfl
    refine ⟨_, returns_bind.2 ⟨_, _, hlookup, returns_bind.2 ⟨_, _, hfetch, returns_bind.2
      ⟨(), _, hstore, returns_pure.2 ⟨rfl, rfl⟩⟩⟩⟩, ?_, ?_⟩
    · split
      · refine ⟨hleft.outside, ?_, hleft.limiter.trans hlooked.limiter⟩
        rw [← hlooked.ttl, ← hleft.cache, Option.map_map]
        rfl
      · exact ⟨hleft.outside, hleft.cache ▸ hlooked.ttl, hleft.limiter.trans hlooked.limiter⟩
    · intro hcaching _ c hc now
      rw [if_pos hcaching] at hc
      obtain ⟨c₂, -, rfl⟩ := Option.map_eq_some_iff.1 hc
      rw [Cache.fresh?_set, hleft.outside]
      rfl

end Engine

/-! ## Writes -/

/-- The executor's state after statements that answer no rows. -/
def Statements.carryOut (st : Statements σ) (s : σ) (statements : List Statement) : σ :=
  statements.foldl (fun s x => ((st.execute x.sql x.bindings).run.run s).2) s

namespace Engine

variable {e : Engine σ} {w v : World σ} {s : Statement} {q matched : Query}
  {attributes values : Row} {rows : List Row}

/-- What is written after a read of the matching rows has answered: an INSERT if there are none,
else an UPDATE if there are values to set. -/
def response (e : Engine σ) (q matched : Query) (attributes values : Row) (rows : List Row) :
    List Statement :=
  if rows.isEmpty then
    (Statement.insert e.dialect q.table (attributes.update values)).toOption.toList
  else if values.isEmpty then []
  else (Statement.update e.dialect matched values).toOption.toList

theorem leaves_perform (hready : v.Ready e.wait) (r : Result Statement) (action : String) :
    v.Leaves (e.statements.carryOut v.outside r.toOption.toList)
      ((e.perform r action).run.run v).2 := by
  cases r with
  | error err => exact ⟨rfl, rfl, rfl⟩
  | ok x =>
    obtain ⟨w', hrun, hleaves⟩ := run_timed (s := x) hready action (Prod.eta _).symm
    have hperform : ((e.perform (.ok x) action).run.run v).2 = w' := by
      unfold perform
      rw [Returns.run_bind (returns_ofResult.2 ⟨rfl, rfl⟩)]
      exact congrArg Prod.snd hrun
    rw [hperform]
    exact hleaves

/-- An operation writes its response to what its SELECT was answered with. -/
theorem leaves_updateOr (values : Row) (hmatched : q.matching attributes = .ok matched)
    (hselect : Statement.select e.dialect matched.firstOnly = .ok s)
    (hfetch : (e.fetchCached s).Returns w rows v) (hready : v.Ready e.wait) :
    v.Leaves (e.statements.carryOut v.outside (e.response q matched attributes values rows))
      ((e.updateOr q attributes values).run.run w).2 := by
  have hfirst : (e.first matched).Returns w rows.head? v :=
    returns_bind.2 ⟨⟨rows⟩, v, returns_bind.2 ⟨s, w, returns_ofResult.2 ⟨hselect, rfl⟩,
      returns_bind.2 ⟨rows, v, hfetch, returns_pure.2 ⟨rfl, rfl⟩⟩⟩, returns_pure.2 ⟨rfl, rfl⟩⟩
  unfold updateOr response
  rw [Returns.run_bind (returns_ofResult.2 ⟨hmatched, rfl⟩), hfirst.run_bind]
  cases rows with
  | nil =>
    have hinsert := leaves_perform hready
      (Statement.insert e.dialect q.table (attributes.update values)) "insert"
    have hanswer := state_bind_pure (e.insert q (attributes.update values))
      (fun _ => (none : Option Row)) v
    exact hanswer.symm ▸ hinsert
  | cons row rest =>
    cases values with
    | nil => exact ⟨rfl, rfl, rfl⟩
    | cons value values =>
      have hupdate := leaves_perform hready
        (Statement.update e.dialect matched (value :: values)) "update"
      have hchange := state_bind_pure (e.perform (Statement.update e.dialect matched
        (value :: values)) "update") (fun result => result.rowsAffected) v
      have hanswer := state_bind_pure (e.update matched (value :: values)) (fun _ => some row) v
      exact (hanswer.trans hchange).symm ▸ hupdate

/-- Without a SELECT nothing is written. -/
theorem updateOr_of_fault
    (hfault : ∀ matched s, q.matching attributes = .ok matched →
      Statement.select e.dialect matched.firstOnly ≠ .ok s) :
    ((e.updateOr q attributes values).run.run w).2 = w := by
  unfold updateOr
  cases hmatched : q.matching attributes with
  | error err => rfl
  | ok matched =>
    rw [Returns.run_bind (returns_ofResult.2 ⟨rfl, rfl⟩)]
    unfold first get
    cases hselect : Statement.select e.dialect matched.firstOnly with
    | error err => rfl
    | ok s => exact absurd hselect (hfault matched s hmatched)

/-! ### An INSERT is not an UPDATE -/

theorem head_insert {d : Dialect} {table : Option String}
    (h : Statement.insert d table values = .ok s) : s.sql.toList.head? = some 'I' := by
  unfold Statement.insert at h
  split at h
  · exact absurd h Result.reject_ne_ok
  · obtain ⟨f, hf, hs⟩ := Result.bind_eq_ok.1 h
    obtain ⟨x, -, hf⟩ := Result.bind_eq_ok.1 hf
    obtain ⟨name, -, hf⟩ := Result.bind_eq_ok.1 hf
    obtain ⟨lists, -, hf⟩ := Result.bind_eq_ok.1 hf
    cases hf
    cases hs
    show ((("INSERT INTO" ++ " " ++ name ++ _ ++ _ ++ _ : String) ++ _) ++ _ : String).toList.head?
      = _
    simp

theorem head_update {d : Dialect} (h : Statement.update d q values = .ok s) :
    s.sql.toList.head? = some 'U' := by
  unfold Statement.update at h
  split at h
  · cases h
  · obtain ⟨f, hf, hs⟩ := Result.bind_eq_ok.1 h
    obtain ⟨name, -, hf⟩ := Result.bind_eq_ok.1 hf
    obtain ⟨filters, -, hf⟩ := Result.bind_eq_ok.1 hf
    cases hf
    cases hs
    show ((("UPDATE " ++ name ++ " SET " : String) ++ _) ++ _ : String).toList.head? = _
    simp

theorem response_insert
    (hinsert : Statement.insert e.dialect q.table (attributes.update values) = .ok s)
    (hrows : rows.isEmpty = true) :
    (e.response q matched attributes values rows).map (fun x => (x.sql, x.bindings))
      = [(s.sql, s.bindings)] := by
  unfold response
  rw [if_pos hrows, hinsert]
  rfl

theorem response_ne_insert
    (hinsert : Statement.insert e.dialect q.table (attributes.update values) = .ok s)
    (hrows : rows.isEmpty = false) :
    (e.response q matched attributes values rows).map (fun x => (x.sql, x.bindings))
      ≠ [(s.sql, s.bindings)] := by
  unfold response
  rw [hrows]
  simp only [Bool.false_eq_true, if_false]
  split
  · exact (List.cons_ne_nil _ _).symm
  · cases hupdate : Statement.update e.dialect matched values with
    | error err => exact (List.cons_ne_nil _ _).symm
    | ok x =>
      intro hsame
      have hsql : x.sql = s.sql := by
        simpa [Except.toOption] using congrArg (List.map Prod.fst) hsame
      have hhead := head_update hupdate
      rw [hsql, head_insert hinsert] at hhead
      exact absurd hhead (by decide)

end Engine

/-! ## Series of operations -/

/-- The statements that were executed, the first of them first. -/
abbrev Written := List (String × List Value)

/-- Statements that are executed as before, and written down if they answer no rows. -/
def Statements.recording (st : Statements σ) : Statements (Recorded Written σ) where
  query sql bindings := act (st.query sql bindings)
  queryOne sql bindings := act (st.queryOne sql bindings)
  execute sql bindings := do
    write fun written => written ++ [(sql, bindings)]
    act (st.execute sql bindings)

/-- The engine with an executor that writes down what it executes. -/
def Engine.recording (e : Engine σ) : Engine (Recorded Written σ) where
  dialect := e.dialect
  statements := e.statements.recording
  caching := e.caching
  wait := e.wait
  clock r := e.clock r.state

namespace Statements

variable {st : Statements σ} {select : σ → String → List Value → List Row}

theorem ReadsFrom.recording (h : st.ReadsFrom select) :
    st.recording.ReadsFrom fun r sql bindings => select r.state sql bindings := by
  intro sql bindings r
  show (act (st.query sql bindings)).Returns r _ r
  exact returns_onPart.2 ⟨r.state, h sql bindings r.state, rfl⟩

theorem carryOut_recording (st : Statements σ) (r : Recorded Written σ)
    (statements : List Statement) :
    st.recording.carryOut r statements
      = ⟨st.carryOut r.state statements,
        r.record ++ statements.map fun x => (x.sql, x.bindings)⟩ := by
  induction statements generalizing r with
  | nil => simp [carryOut]
  | cons x rest ih =>
    have hexecute : ((st.recording.execute x.sql x.bindings).run.run r).2
        = ⟨((st.execute x.sql x.bindings).run.run r.state).2, r.record ++ [(x.sql, x.bindings)]⟩ :=
      rfl
    unfold carryOut at ih ⊢
    rw [List.foldl_cons, List.foldl_cons, hexecute, ih, List.map_cons, List.append_assoc]
    rfl

end Statements

/-- A call of one of the two operations that change the rows with some attributes or insert one, and
what happens to the executor's state before it: time passes, and others write. -/
structure Upkeep (σ : Type) where
  meanwhile : σ → σ := id
  query : Query
  attributes : Row
  values : Row
  /-- Whether the row is answered, and not only whether it was inserted. -/
  creates : Bool := false

namespace Upkeep

variable {u : Upkeep σ} {e : Engine σ} {w : World (Recorded Written σ)} {matched : Query}
  {s : Statement} {select : σ → String → List Value → List Row}

def perform (u : Upkeep σ) (e : Engine (Recorded Written σ)) : Run (Recorded Written σ) Unit := do
  if u.creates then
    let _ ← e.updateOrCreate u.query u.attributes u.values
  else
    let _ ← e.updateOrInsert u.query u.attributes u.values

/-- The world in which an operation begins, with nothing written yet. -/
def begin (u : Upkeep σ) (w : World (Recorded Written σ)) : World (Recorded Written σ) :=
  { w with outside := ⟨u.meanwhile w.outside.state, []⟩ }

/-- The world that an operation leaves. -/
def finish (u : Upkeep σ) (e : Engine σ) (w : World (Recorded Written σ)) :
    World (Recorded Written σ) :=
  ((u.perform e.recording).run.run (u.begin w)).2

/-- What the SELECT of an operation is answered with: what the cache holds, or else what the store
has. -/
def answer (u : Upkeep σ) (e : Engine σ) (select : σ → String → List Value → List Row)
    (w : World (Recorded Written σ)) (s : Statement) : List Row :=
  (e.recording.held (u.begin w) s).getD
    ((select (u.meanwhile w.outside.state) s.sql s.bindings).map Row.normalize)

/-- What an operation writes if its SELECT is answered with these rows. -/
def plan (u : Upkeep σ) (e : Engine σ) (rows : Statement → List Row) : List Statement :=
  match u.query.matching u.attributes with
  | .error _ => []
  | .ok matched =>
    match Statement.select e.dialect matched.firstOnly with
    | .error _ => []
    | .ok s => e.response u.query matched u.attributes u.values (rows s)

theorem finish_eq (u : Upkeep σ) (e : Engine σ) (w : World (Recorded Written σ)) :
    u.finish e w
      = ((e.recording.updateOr u.query u.attributes u.values).run.run (u.begin w)).2 := by
  unfold finish perform
  cases u.creates with
  | true =>
    refine (state_bind_of_pure fun _ => ⟨(), rfl⟩).trans ?_
    rw [Engine.updateOrCreate_eq]
    refine state_bind_of_pure fun row => ?_
    cases row with
    | some row => exact ⟨_, rfl⟩
    | none => exact ⟨_, rfl⟩
  | false =>
    refine (state_bind_of_pure fun _ => ⟨(), rfl⟩).trans ?_
    rw [Engine.updateOrInsert_eq]
    exact state_bind_of_pure fun _ => ⟨_, rfl⟩

/-- An operation reads, and what it writes then is all that happens to the executor's state. -/
theorem finish_of_select (hreads : e.statements.ReadsFrom select) (hready : w.Ready e.wait)
    (hmatched : u.query.matching u.attributes = .ok matched)
    (hselect : Statement.select e.dialect matched.firstOnly = .ok s) :
    ∃ v, (u.begin w).Consulted v
      ∧ (e.caching = true → e.recording.held (u.begin w) s = none → ∀ c ∈ v.cache, ∀ now,
        c.fresh? now (cacheKey s.sql s.bindings)
          = if now < e.clock (u.meanwhile w.outside.state) + c.ttl
            then some (u.answer e select w s) else none)
      ∧ v.Leaves (e.recording.statements.carryOut (u.begin w).outside
          (e.response u.query matched u.attributes u.values (u.answer e select w s)))
        (u.finish e w) := by
  have hbegin : (u.begin w).Ready e.recording.wait := hready
  obtain ⟨v, hfetch, hread, hkept⟩ := Engine.returns_fetchCached hreads.recording hbegin s
  have hleaves := Engine.leaves_updateOr (e := e.recording) u.values hmatched hselect hfetch
    (hbegin.of_limiter hread.limiter)
  rw [← finish_eq, hread.outside] at hleaves
  refine ⟨v, hread, fun hcaching hheld c hc now => ?_, hleaves⟩
  unfold answer
  rw [hkept hcaching hheld c hc now, hheld]
  rfl

/-- What an operation writes is its plan for what it was answered. -/
theorem finish_outside (hreads : e.statements.ReadsFrom select) (hready : w.Ready e.wait) :
    (u.finish e w).outside
        = ⟨e.statements.carryOut (u.meanwhile w.outside.state) (u.plan e (u.answer e select w)),
          (u.plan e (u.answer e select w)).map fun x => (x.sql, x.bindings)⟩
      ∧ (u.finish e w).limiter = w.limiter
      ∧ (u.finish e w).cache.map Cache.ttl = w.cache.map Cache.ttl := by
  unfold plan
  cases hmatched : u.query.matching u.attributes with
  | error err =>
    rw [finish_eq, Engine.updateOr_of_fault fun matched s h => by rw [hmatched] at h; cases h]
    exact ⟨rfl, rfl, rfl⟩
  | ok matched =>
    cases hselect : Statement.select e.dialect matched.firstOnly with
    | error err =>
      rw [finish_eq, Engine.updateOr_of_fault fun matched' s h h' => by
        rw [hmatched] at h
        cases h
        cases hselect.symm.trans h']
      simp only [hselect]
      exact ⟨rfl, rfl, rfl⟩
    | ok s =>
      obtain ⟨v, hread, -, hleaves⟩ := finish_of_select hreads hready hmatched hselect
      refine ⟨?_, hleaves.limiter.trans hread.limiter, ?_⟩
      · rw [hleaves.outside]
        simp only [hselect]
        exact Statements.carryOut_recording e.statements _ _
      · rw [hleaves.cache, hread.ttl]
        rfl

/-- What is planned depends on the rows only by whether there are any. -/
theorem plan_congr {rows rows' : Statement → List Row}
    (h : ∀ matched s, u.query.matching u.attributes = .ok matched →
      Statement.select e.dialect matched.firstOnly = .ok s → (rows s).isEmpty = (rows' s).isEmpty) :
    u.plan e rows = u.plan e rows' := by
  unfold plan
  cases hmatched : u.query.matching u.attributes with
  | error err => rfl
  | ok matched =>
    cases hselect : Statement.select e.dialect matched.firstOnly with
    | error err => simp only [hselect]
    | ok s =>
      simp only [hselect, Engine.response]
      rw [h matched s hmatched hselect]

/-- Where an INSERT can be made, rows that are missing are told from rows that are there. -/
theorem plan_ne {rows rows' : Statement → List Row} {x : Statement}
    (hmatched : u.query.matching u.attributes = .ok matched)
    (hselect : Statement.select e.dialect matched.firstOnly = .ok s)
    (hinsert : Statement.insert e.dialect u.query.table (u.attributes.update u.values) = .ok x)
    (hne : (rows s).isEmpty ≠ (rows' s).isEmpty) :
    (u.plan e rows).map (fun x => (x.sql, x.bindings))
      ≠ (u.plan e rows').map fun x => (x.sql, x.bindings) := by
  unfold plan
  simp only [hmatched, hselect]
  cases hrows : (rows s).isEmpty with
  | true =>
    have hrows' : (rows' s).isEmpty = false := by simpa [hrows] using hne
    rw [Engine.response_insert hinsert hrows]
    exact (Engine.response_ne_insert hinsert hrows').symm
  | false =>
    have hrows' : (rows' s).isEmpty = true := by simpa [hrows] using hne
    rw [Engine.response_insert hinsert hrows']
    exact Engine.response_ne_insert hinsert hrows

theorem answer_of_uncached (h : w.cache = none) : u.answer e select w s
    = (select (u.meanwhile w.outside.state) s.sql s.bindings).map Row.normalize := by
  have hheld : e.recording.held (u.begin w) s = none := Engine.held_of_uncached h
  unfold answer
  rw [hheld]
  rfl

theorem answer_of_held {rows : List Row} (h : e.recording.held (u.begin w) s = some rows) :
    u.answer e select w s = rows := by
  unfold answer
  rw [h]
  rfl

end Upkeep

namespace Engine

variable {select : σ → String → List Value → List Row} {e : Engine σ}
  {w w' : World (Recorded Written σ)}

/-- What each of a series of operations writes. -/
def writes (e : Engine σ) : World (Recorded Written σ) → List (Upkeep σ) → List Written
  | _, [] => []
  | w, u :: us => (u.finish e w).outside.record :: e.writes (u.finish e w) us

/-- For the SELECT of an operation the cache holds an empty result while the store has rows, or the
other way round. -/
def Misled (e : Engine σ) (select : σ → String → List Value → List Row)
    (w : World (Recorded Written σ)) (u : Upkeep σ) : Prop :=
  ∃ matched s rows, u.query.matching u.attributes = .ok matched
    ∧ Statement.select e.dialect matched.firstOnly = .ok s
    ∧ e.recording.held (u.begin w) s = some rows
    ∧ rows.isEmpty ≠ (select (u.meanwhile w.outside.state) s.sql s.bindings).isEmpty

/-- None of a series of operations is misled by the cache. -/
def NeverMisled (e : Engine σ) (select : σ → String → List Value → List Row) :
    World (Recorded Written σ) → List (Upkeep σ) → Prop
  | _, [] => True
  | w, u :: us => ¬ e.Misled select w u ∧ e.NeverMisled select (u.finish e w) us

/-- What an operation writes whose SELECT is answered with nothing is its INSERT. -/
theorem record_finish_of_none {u : Upkeep σ} {matched : Query} {s x : Statement}
    (hreads : e.statements.ReadsFrom select) (hready : w.Ready e.wait)
    (hmatched : u.query.matching u.attributes = .ok matched)
    (hselect : Statement.select e.dialect matched.firstOnly = .ok s)
    (hinsert : Statement.insert e.dialect u.query.table (u.attributes.update u.values) = .ok x)
    (hnone : u.answer e select w s = []) :
    (u.finish e w).outside.record = [(x.sql, x.bindings)] := by
  rw [(Upkeep.finish_outside hreads hready).1]
  unfold Upkeep.plan
  simp only [hmatched, hselect, hnone]
  exact response_insert hinsert rfl

/-- **The same operation inserts twice** if it found nothing, kept this in the cache, and is called
again before that expires: whatever the store has by then. -/
theorem writes_twice {u : Upkeep σ} {matched : Query} {s x : Statement} {c : Cache Quantity}
    {meanwhile : σ → σ} (hreads : e.statements.ReadsFrom select) (hready : w.Ready e.wait)
    (hmatched : u.query.matching u.attributes = .ok matched)
    (hselect : Statement.select e.dialect matched.firstOnly = .ok s)
    (hinsert : Statement.insert e.dialect u.query.table (u.attributes.update u.values) = .ok x)
    (hcaching : e.caching = true) (hcache : w.cache = some c)
    (hheld : e.recording.held (u.begin w) s = none)
    (hnone : select (u.meanwhile w.outside.state) s.sql s.bindings = [])
    (hsoon : e.clock (meanwhile (u.finish e w).outside.state)
      < e.clock (u.meanwhile w.outside.state) + c.ttl) :
    e.writes w [u, { u with meanwhile }]
      = [[(x.sql, x.bindings)], [(x.sql, x.bindings)]] := by
  have hanswer : u.answer e select w s = [] := by
    unfold Upkeep.answer
    rw [hheld, hnone]
    rfl
  obtain ⟨v, hread, hkept, hleaves⟩ := Upkeep.finish_of_select hreads hready hmatched hselect
  have httl : v.cache.map Cache.ttl = some c.ttl := by
    rw [hread.ttl]
    exact congrArg (Option.map Cache.ttl) hcache
  obtain ⟨c', hc', httl'⟩ := Option.map_eq_some_iff.1 httl
  have hfresh : e.recording.held (Upkeep.begin { u with meanwhile } (u.finish e w)) s
      = some [] := by
    have hcache' : (u.finish e w).cache = some c' := hleaves.cache.trans hc'
    unfold held Upkeep.begin
    simp only [hcache', show e.recording.caching = true from hcaching]
    refine (hkept hcaching hheld c' hc' _).trans ?_
    rw [httl', hanswer]
    exact if_pos hsoon
  have hfinish := Upkeep.finish_outside (u := u) hreads hready
  unfold writes writes writes
  rw [record_finish_of_none hreads hready hmatched hselect hinsert hanswer,
    record_finish_of_none (u := { u with meanwhile }) hreads (hready.of_limiter hfinish.2.1)
      hmatched hselect hinsert (Upkeep.answer_of_held hfresh)]

/-- The two series go side by side: the stores are the same before each operation, as long as none
was misled. -/
theorem writes_eq_iff_of_uncached (hreads : e.statements.ReadsFrom select) (us : List (Upkeep σ))
    (hinsert : ∀ u ∈ us, ∃ x,
      Statement.insert e.dialect u.query.table (u.attributes.update u.values) = .ok x)
    (hready : w.Ready e.wait) (hstate : w'.outside.state = w.outside.state)
    (hlimiter : w'.limiter = w.limiter) (huncached : w'.cache = none) :
    e.writes w us = e.writes w' us ↔ e.NeverMisled select w us := by
  induction us generalizing w w' with
  | nil => simp [writes, NeverMisled]
  | cons u us ih =>
    obtain ⟨houtside, hlimits, -⟩ := Upkeep.finish_outside (u := u) hreads hready
    obtain ⟨houtside', hlimits', hcache'⟩ :=
      Upkeep.finish_outside (u := u) hreads (hready.of_limiter hlimiter)
    have hanswer' : ∀ s, u.answer e select w' s
        = (select (u.meanwhile w.outside.state) s.sql s.bindings).map Row.normalize :=
      fun s => hstate ▸ Upkeep.answer_of_uncached huncached
    unfold writes NeverMisled
    rw [List.cons.injEq, houtside, houtside']
    by_cases hmisled : e.Misled select w u
    · refine iff_of_false (fun hsame => ?_) fun hnever => hnever.1 hmisled
      obtain ⟨matched, s, rows, hmatched, hselect, hheld, hne⟩ := hmisled
      obtain ⟨x, hx⟩ := hinsert u List.mem_cons_self
      refine Upkeep.plan_ne hmatched hselect hx ?_ hsame.1
      rw [Upkeep.answer_of_held hheld, hanswer' s, List.isEmpty_map]
      exact hne
    · have hplan : u.plan e (u.answer e select w) = u.plan e (u.answer e select w') := by
        refine Upkeep.plan_congr fun matched s hmatched hselect => ?_
        rw [hanswer' s, List.isEmpty_map]
        cases hheld : e.recording.held (u.begin w) s with
        | none =>
          unfold Upkeep.answer
          rw [hheld]
          exact List.isEmpty_map
        | some rows =>
          rw [Upkeep.answer_of_held hheld]
          by_contra hne
          exact hmisled ⟨matched, s, rows, hmatched, hselect, hheld, hne⟩
      have hstates : (u.finish e w').outside.state = (u.finish e w).outside.state := by
        rw [houtside, houtside', hplan, hstate]
      have hlimiters : (u.finish e w').limiter = (u.finish e w).limiter := by
        rw [hlimits, hlimits', hlimiter]
      have hnone : (u.finish e w').cache = none := by
        rw [huncached] at hcache'
        exact Option.map_eq_none_iff.1 hcache'
      rw [ih (fun u hu => hinsert u (List.mem_cons_of_mem _ hu)) (hready.of_limiter hlimits) hstates
        hlimiters hnone, hplan]
      simp [hmisled]

/-- **A cache changes what is written exactly when an operation is misled by it.** The executor is a
store that answers a query with the rows that it has; what its INSERT and UPDATE do is left open, and
so is what happens between two operations. -/
theorem writes_uncached_iff (hreads : e.statements.ReadsFrom select) (hready : w.Ready e.wait)
    (us : List (Upkeep σ))
    (hinsert : ∀ u ∈ us, ∃ x,
      Statement.insert e.dialect u.query.table (u.attributes.update u.values) = .ok x) :
    e.writes w us = e.writes { w with cache := none } us ↔ e.NeverMisled select w us :=
  writes_eq_iff_of_uncached hreads us hinsert hready rfl rfl rfl

end Engine

/-! ### A table of users -/

/-- The SELECT and the INSERT for the users with an address. -/
def userSelect : String := "SELECT * FROM users WHERE email = ? LIMIT 1"

def userInsert : String := "INSERT INTO users (email) VALUES (?)"

/-- The first of the users with an address. -/
def userRows (emails : List String) (sql : String) (bindings : List Value) : List Row :=
  match bindings with
  | [.text email] =>
    if sql = userSelect ∧ email ∈ emails then [[("email", .text email)]] else []
  | _ => []

/-- A table of users with one column. -/
def userStatements : Statements (List String) where
  query sql bindings := do return { rows := userRows (← get) sql bindings }
  queryOne sql bindings := do return (userRows (← get) sql bindings).head?
  execute sql bindings := do
    match bindings with
    | [.text email] =>
      if sql = userInsert then modify fun emails => emails ++ [email]
      return { rowsAffected := .int 1 }
    | _ => return { rowsAffected := .int 0 }

def userEngine : Engine (List String) where
  dialect := .mysql
  statements := userStatements

/-- Inserts a user who is not there yet. -/
def register : Upkeep (List String) where
  query := { table := some "users" }
  attributes := [("email", .text "ada@example.org")]
  values := []

/-- No users, and a cache that holds nothing. -/
def nobody : World (Recorded Written (List String)) where
  outside := ⟨[], []⟩
  cache := some { ttl := .int 300 }

theorem nobody_ready : nobody.Ready userEngine.wait :=
  fun _ hlimiter => nomatch hlimiter

theorem userStatements_readsFrom : userStatements.ReadsFrom userRows :=
  fun _ _ _ => rfl

theorem register_insert : Statement.insert userEngine.dialect register.query.table
    (register.attributes.update register.values)
      = .ok ⟨userInsert, [.text "ada@example.org"], "mysql"⟩ :=
  rfl

/-- Once, the user is inserted with the cache as without it. -/
theorem register_never_misled :
    userStatements.ReadsFrom userRows
    ∧ nobody.Ready userEngine.wait
    ∧ (∀ u ∈ [register], ∃ x, Statement.insert userEngine.dialect u.query.table
      (u.attributes.update u.values) = .ok x)
    ∧ userEngine.NeverMisled userRows nobody [register]
    ∧ userEngine.writes nobody [register]
      = userEngine.writes { nobody with cache := none } [register] := by
  have hinsert : ∀ u ∈ [register], ∃ x, Statement.insert userEngine.dialect u.query.table
      (u.attributes.update u.values) = .ok x := by
    intro u hu
    rw [List.mem_singleton.1 hu]
    exact ⟨_, register_insert⟩
  have hnever : userEngine.NeverMisled userRows nobody [register] := by
    refine ⟨?_, trivial⟩
    rintro ⟨matched, s, rows, -, -, hheld, -⟩
    cases hheld
  exact ⟨userStatements_readsFrom, nobody_ready, hinsert, hnever,
    (Engine.writes_uncached_iff userStatements_readsFrom nobody_ready [register] hinsert).2 hnever⟩

/-- Twice, the cache still holds that there is no such user, and the user is inserted again. -/
theorem register_inserted_twice :
    userEngine.writes nobody [register, register]
      = [[(userInsert, [.text "ada@example.org"])], [(userInsert, [.text "ada@example.org"])]]
    ∧ userEngine.writes { nobody with cache := none } [register, register]
      = [[(userInsert, [.text "ada@example.org"])], []] := by
  have hselect : ∃ matched, register.query.matching register.attributes = .ok matched
      ∧ Statement.select userEngine.dialect matched.firstOnly
        = .ok ⟨userSelect, [.text "ada@example.org"], "mysql"⟩ := ⟨_, rfl, rfl⟩
  obtain ⟨matched, hmatched, hselect⟩ := hselect
  refine ⟨?_, rfl⟩
  exact Engine.writes_twice (u := register) userStatements_readsFrom nobody_ready hmatched
    hselect register_insert rfl rfl rfl rfl (by decide)

end SqlQuery
