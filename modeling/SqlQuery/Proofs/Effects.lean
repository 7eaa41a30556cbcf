import SqlQuery.Execution.Read
import SqlQuery.Proofs.Results

/-!
# Effects, step by step

An effect of several steps succeeds only if each step does, and each begins where the one before it
left the state. `Effect.Returns` says that an effect succeeds, with its answer and the state that it
leaves. `Effect.Keeps` says that a property of the state is still there afterwards, also if the
effect fails. For both there is one lemma for each way to build an effect.

The layers around an execution leave the executor's state and the cache to the statement that is
executed, so an execution that succeeds is a statement that the executor ran.
-/

namespace SqlQuery

variable {σ τ α β : Type}

/-- From a state an effect succeeds with an answer, and leaves another state. -/
def Effect.Returns (x : Effect σ α) (s : σ) (a : α) (s' : σ) : Prop :=
  x.run.run s = (.ok a, s')

namespace Effect

variable {x : Effect σ α} {s s' : σ} {a b : α}

theorem returns_pure : (pure b : Effect σ α).Returns s a s' ↔ a = b ∧ s' = s := by
  constructor
  · intro h
    cases h
    exact ⟨rfl, rfl⟩
  · rintro ⟨rfl, rfl⟩
    rfl

theorem not_returns_throw (e : Error) : ¬ (throw e : Effect σ α).Returns s a s' :=
  fun h => nomatch h

/-- The second of two steps begins where the first left the state, unless that failed. -/
theorem run_bind (x : Effect σ α) (f : α → Effect σ β) (s : σ) :
    (∃ e t, x.run.run s = (.error e, t) ∧ (x >>= f).run.run s = (.error e, t))
      ∨ ∃ a t, x.Returns s a t ∧ (x >>= f).run.run s = (f a).run.run t := by
  unfold Returns
  rw [ExceptT.run_bind, StateT.run_bind]
  rcases x.run.run s with ⟨answer, t⟩
  cases answer with
  | error e => exact .inl ⟨e, t, rfl, rfl⟩
  | ok a => exact .inr ⟨a, t, rfl, rfl⟩

/-- What holds of the outcome of two steps: the first fails, or the second goes on. -/
theorem run_bind_elim {M : Result β × σ → Prop} {f : α → Effect σ β}
    (herror : ∀ e t, x.run.run s = (.error e, t) → M (.error e, t))
    (hok : ∀ a t, x.Returns s a t → M ((f a).run.run t)) : M ((x >>= f).run.run s) := by
  obtain ⟨e, t, hrun, hbind⟩ | ⟨a, t, hrun, hbind⟩ := run_bind x f s
  · rw [hbind]
    exact herror e t hrun
  · rw [hbind]
    exact hok a t hrun

theorem returns_bind {f : α → Effect σ β} {b : β} :
    (x >>= f).Returns s b s' ↔ ∃ a t, x.Returns s a t ∧ (f a).Returns t b s' := by
  constructor
  · intro h
    unfold Returns at h
    obtain ⟨e, t, -, hrun⟩ | ⟨a, t, hx, hrun⟩ := run_bind x f s
    · rw [hrun] at h
      cases h
    · rw [hrun] at h
      exact ⟨a, t, hx, h⟩
  · rintro ⟨a, t, hx, hf⟩
    unfold Returns at hx ⊢
    rw [ExceptT.run_bind, StateT.run_bind, hx]
    exact hf

/-- What follows an effect that succeeds is run where it left the state. -/
theorem Returns.run_bind (h : x.Returns s a s') (f : α → Effect σ β) :
    (x >>= f).run.run s = (f a).run.run s' := by
  unfold Returns at h
  rw [ExceptT.run_bind, StateT.run_bind, h]
  rfl

theorem run_bind_congr {y : Effect σ α} (h : x.run.run s = y.run.run s) (f : α → Effect σ β) :
    (x >>= f).run.run s = (y >>= f).run.run s := by
  rw [ExceptT.run_bind, ExceptT.run_bind, StateT.run_bind, StateT.run_bind, h]

/-- Of an effect what follows it knows the result and the state. -/
theorem run_bind_ofResult {r : Result α} (h : x.run.run s = (r, s')) (f : α → Effect σ β) :
    (x >>= f).run.run s = (ofResult r >>= f).run.run s' := by
  rw [ExceptT.run_bind, StateT.run_bind, h]
  cases r <;> rfl

theorem returns_ofResult {r : Result α} :
    (ofResult r : Effect σ α).Returns s a s' ↔ r = .ok a ∧ s' = s := by
  cases r with
  | error e => exact ⟨fun h => (nomatch h), fun h => (nomatch h.1)⟩
  | ok b =>
    refine returns_pure.trans (and_congr_left' ?_)
    exact ⟨fun h => h ▸ rfl, fun h => (Except.ok.inj h).symm⟩

theorem run_ofResult (r : Result α) (s : σ) : (ofResult r : Effect σ α).run.run s = (r, s) := by
  cases r <;> rfl

theorem lift_eq_ofResult (r : Result α) : (liftM r : Effect σ α) = ofResult r := by
  cases r <;> rfl

/-- What is done next may depend on the state. -/
theorem run_get_bind (f : σ → Effect σ α) (s : σ) : (get >>= f).run.run s = (f s).run.run s :=
  rfl

theorem returns_get_bind {f : σ → Effect σ α} :
    (get >>= f).Returns s a s' ↔ (f s).Returns s a s' :=
  Iff.rfl

theorem returns_set {t : σ} {u : Unit} : (set t : Effect σ Unit).Returns s u s' ↔ s' = t := by
  constructor
  · intro h
    cases h
    rfl
  · rintro rfl
    rfl

theorem returns_modify {f : σ → σ} {u : Unit} :
    (modify f : Effect σ Unit).Returns s u s' ↔ s' = f s := by
  constructor
  · intro h
    cases h
    rfl
  · rintro rfl
    rfl

theorem run_attempt (x : Effect σ α) (s : σ) :
    (attempt x).run.run s = (.ok (x.run.run s).1, (x.run.run s).2) :=
  rfl

/-- An attempt succeeds in any case. -/
theorem returns_attempt {r : Result α} :
    (attempt x).Returns s r s' ↔ x.run.run s = (r, s') := by
  unfold Returns
  show (Except.ok (x.run.run s).1, (x.run.run s).2) = (Except.ok r, s') ↔ _
  rw [Prod.ext_iff, Prod.ext_iff, Except.ok.injEq]

theorem returns_andThen {after : Effect σ Unit} :
    (x.andThen after).Returns s a s' ↔ ∃ t, x.Returns s a t ∧ after.Returns t () s' := by
  unfold andThen
  simp only [returns_bind, returns_attempt, returns_ofResult]
  constructor
  · rintro ⟨r, t, hx, ⟨⟩, _, hafter, rfl, rfl⟩
    exact ⟨t, hx, hafter⟩
  · rintro ⟨t, hx, hafter⟩
    exact ⟨.ok a, t, hx, (), s', hafter, rfl, rfl⟩

/-- What takes place after an effect and succeeds leaves the effect's result as it is. -/
theorem run_andThen {after : Effect σ Unit} {r : Result α} {t : σ} (hx : x.run.run s = (r, s'))
    (hafter : after.Returns s' () t) : (x.andThen after).run.run s = (r, t) := by
  unfold andThen
  rw [(returns_attempt.2 hx).run_bind, hafter.run_bind]
  cases r <;> rfl

/-- A failure is passed over by what was to follow. -/
theorem run_bind_error {e : Error} (h : x.run.run s = (.error e, s')) (f : α → Effect σ β) :
    (x >>= f).run.run s = (.error e, s') := by
  rw [ExceptT.run_bind, StateT.run_bind, h]
  rfl

/-- Of effects one after the other that fail, those before the one that fails succeed. -/
theorem forM_error {f : α → Effect σ Unit} {xs : List α} {e : Error}
    (h : (xs.forM f).run.run s = (.error e, s')) : ∃ done x rest t, xs = done ++ x :: rest
      ∧ (done.forM f).Returns s () t ∧ (f x).run.run t = (.error e, s') := by
  induction xs generalizing s with
  | nil => cases h
  | cons y ys ih =>
    obtain ⟨e', t, hrun, hbind⟩ | ⟨_, t, hrun, hbind⟩ := run_bind (f y) (fun _ => ys.forM f) s
    · cases hbind.symm.trans h
      exact ⟨[], y, ys, s, rfl, rfl, hrun⟩
    · obtain ⟨done, x, rest, u, rfl, hdone, hx⟩ := ih (hbind.symm.trans h)
      exact ⟨y :: done, x, rest, u, rfl, returns_bind.2 ⟨(), t, hrun, hdone⟩, hx⟩

theorem forM_append (f : α → Effect σ Unit) (xs ys : List α) :
    (xs ++ ys).forM f = (xs.forM f >>= fun _ => ys.forM f) :=
  List.forM_append

theorem Returns.tryCatch (h : x.Returns s a s') (handle : Error → Effect σ α) :
    (tryCatch x handle).Returns s a s' := by
  unfold Returns at h ⊢
  change (ExceptT.tryCatch x handle).run.run s = _
  rw [ExceptT.tryCatch, ExceptT.run_mk, StateT.run_bind]
  erw [h]
  rfl

/-- A handler takes over where an effect failed. -/
theorem run_tryCatch_error {e : Error} (h : x.run.run s = (.error e, s'))
    (handle : Error → Effect σ α) :
    (tryCatch x handle).run.run s = (handle e).run.run s' := by
  change (ExceptT.tryCatch x handle).run.run s = _
  rw [ExceptT.tryCatch, ExceptT.run_mk, StateT.run_bind]
  erw [h]
  rfl

/-- What is answered at the end makes no difference to the state. -/
theorem state_bind_pure (x : Effect σ α) (f : α → β) (s : σ) :
    ((x >>= fun a => pure (f a)).run.run s).2 = (x.run.run s).2 := by
  obtain ⟨e, t, hrun, hbind⟩ | ⟨a, t, hrun, hbind⟩ := run_bind x (fun a => pure (f a)) s
  · rw [hbind, hrun]
  · rw [hbind, hrun]
    rfl

/-- What is answered at the end may be made in different ways. -/
theorem state_bind_of_pure {f : α → Effect σ β} (hf : ∀ a, ∃ b, f a = pure b) :
    ((x >>= f).run.run s).2 = (x.run.run s).2 := by
  obtain ⟨e, t, hrun, hbind⟩ | ⟨a, t, hrun, hbind⟩ := Effect.run_bind x f s
  · rw [hbind, hrun]
  · obtain ⟨b, hb⟩ := hf a
    rw [hbind, hrun, hb]
    rfl

/-- An effect on a part of a state ends as it does on the part alone. -/
theorem run_onPart {part : τ → σ} {put : σ → τ → τ} {t : τ} {r : Result α} {p : σ}
    (h : x.run.run (part t) = (r, p)) : (x.onPart part put).run.run t = (r, put p t) := by
  change ((x.run.run (part t)).1, put (x.run.run (part t)).2 t) = _
  rw [h]

/-- An effect on a part of a state leaves that part as it leaves the whole. -/
theorem returns_onPart {part : τ → σ} {put : σ → τ → τ} {t t' : τ} :
    (x.onPart part put).Returns t a t' ↔ ∃ p, x.Returns (part t) a p ∧ t' = put p t := by
  unfold Returns
  show ((x.run.run (part t)).1, put (x.run.run (part t)).2 t) = (Except.ok a, t') ↔ _
  constructor
  · intro h
    obtain ⟨hanswer, hstate⟩ := Prod.mk.inj h
    exact ⟨_, Prod.ext hanswer rfl, hstate.symm⟩
  · rintro ⟨p, hx, rfl⟩
    rw [hx]

end Effect

/-! ## What an effect keeps -/

/-- An effect after which a property of the state holds if it held before, also if it fails. -/
def Effect.Keeps (I : σ → Prop) (x : Effect σ α) : Prop :=
  ∀ s, I s → I (x.run.run s).2

namespace Effect.Keeps

variable {I : σ → Prop} {x : Effect σ α}

/-- What is kept holds however an effect ends. -/
theorem of_run {s s' : σ} {r : Result α} (h : Keeps I x) (hx : x.run.run s = (r, s'))
    (hs : I s) : I s' := by
  have hafter := h s hs
  rw [hx] at hafter
  exact hafter

/-- What is kept holds after an effect that succeeds. -/
theorem of_returns {s s' : σ} {a : α} (h : Keeps I x) (hx : x.Returns s a s') (hs : I s) :
    I s' :=
  h.of_run hx hs

theorem of_pure (a : α) : Keeps I (pure a : Effect σ α) :=
  fun _ hs => hs

theorem of_throw (e : Error) : Keeps I (throw e : Effect σ α) :=
  fun _ hs => hs

/-- What follows an effect may use what the effect answered. -/
theorem bind_returns {f : α → Effect σ β} (hx : Keeps I x)
    (hf : ∀ s a t, x.Returns s a t → Keeps I (f a)) : Keeps I (x >>= f) := by
  intro s hs
  have hafter := hx s hs
  obtain ⟨e, t, hrun, hbind⟩ | ⟨a, t, hrun, hbind⟩ := run_bind x f s
  · rw [hbind]
    rw [hrun] at hafter
    exact hafter
  · rw [hbind]
    rw [hrun] at hafter
    exact hf s a t hrun t hafter

theorem bind {f : α → Effect σ β} (hx : Keeps I x) (hf : ∀ a, Keeps I (f a)) :
    Keeps I (x >>= f) :=
  hx.bind_returns fun _ a _ _ => hf a

/-- What follows an effect that succeeds may change what the effect keeps. -/
theorem bind_last {J : σ → Prop} {f : α → Effect σ β} (hx : Keeps I x) (hweak : ∀ s, I s → J s)
    (hf : ∀ a s, I s → J ((f a).run.run s).2) {s : σ} (hs : I s) :
    J ((x >>= f).run.run s).2 := by
  have hafter := hx s hs
  obtain ⟨e, t, hrun, hbind⟩ | ⟨a, t, hrun, hbind⟩ := run_bind x f s
  · rw [hrun] at hafter
    rw [hbind]
    exact hweak t hafter
  · rw [hrun] at hafter
    rw [hbind]
    exact hf a t hafter

/-- What holds after an effect holds after what follows it and keeps it. -/
theorem holds_bind {f : α → Effect σ β} {s : σ} (hx : I (x.run.run s).2)
    (hf : ∀ a, Keeps I (f a)) : I ((x >>= f).run.run s).2 := by
  obtain ⟨e, t, hrun, hbind⟩ | ⟨a, t, hrun, hbind⟩ := run_bind x f s
  · rw [hbind]
    rwa [hrun] at hx
  · rw [hbind]
    rw [hrun] at hx
    exact hf a t hx

theorem of_result (r : Result α) : Keeps I (Effect.ofResult r : Effect σ α) := by
  cases r with
  | ok a => exact of_pure a
  | error e => exact of_throw e

/-- What follows a result that is known to be right. -/
theorem bind_result {r : Result α} {f : α → Effect σ β} (hf : ∀ a, r = .ok a → Keeps I (f a)) :
    Keeps I (Effect.ofResult r >>= f) := by
  cases r with
  | ok a => exact hf a rfl
  | error e => exact fun _ hs => hs

/-- What is done next may depend on the state. -/
theorem get_bind {f : σ → Effect σ β} (hf : ∀ s, Keeps I (f s)) : Keeps I (get >>= f) :=
  fun s hs => hf s s hs

theorem attempt (hx : Keeps I x) : Keeps I (Effect.attempt x) := by
  intro s hs
  exact hx s hs

theorem tryCatch {handle : Error → Effect σ α} (hx : Keeps I x)
    (hhandle : ∀ e, Keeps I (handle e)) : Keeps I (tryCatch x handle) := by
  intro s hs
  rcases hrun : x.run.run s with ⟨answer, t⟩
  have ht : I t := hx.of_run hrun hs
  cases answer with
  | ok a =>
    rw [Returns.tryCatch hrun handle]
    exact ht
  | error e =>
    rw [run_tryCatch_error hrun handle]
    exact hhandle e t ht

/-- What takes place after an effect takes place also if the effect fails. -/
theorem andThen {after : Effect σ Unit} (hx : Keeps I x) (hafter : Keeps I after) :
    Keeps I (x.andThen after) :=
  hx.attempt.bind fun _ => hafter.bind fun _ => of_result _

end Effect.Keeps

/-! ## Layers -/

/-- Two worlds in which the executor's state and the cache are the same. -/
structure World.SameData (w w' : World σ) : Prop where
  outside : w'.outside = w.outside
  cache : w'.cache = w.cache

namespace World.SameData

variable {w w' w'' : World σ}

theorem refl (w : World σ) : SameData w w :=
  ⟨rfl, rfl⟩

theorem trans (h : SameData w w') (h' : SameData w' w'') : SameData w w'' :=
  ⟨h'.outside.trans h.outside, h'.cache.trans h.cache⟩

end World.SameData

namespace Run

open Effect

variable {w w' : World σ} {u : Unit} {a : α}

theorem returns_outside {x : Effect σ α} (h : (outside x).Returns w a w') :
    x.Returns w.outside a w'.outside ∧ w'.cache = w.cache := by
  obtain ⟨s, hx, rfl⟩ := returns_onPart.1 h
  exact ⟨hx, rfl⟩

theorem sameData_of_observe {s : Statement} (h : (observe s).Returns w u w') :
    w.SameData w' := by
  rw [returns_modify.1 h]
  exact ⟨rfl, rfl⟩

theorem sameData_of_record {s : Statement} {error : Option Error}
    (h : (record s error).Returns w u w') : w.SameData w' := by
  rw [returns_modify.1 h]
  exact ⟨rfl, rfl⟩

theorem sameData_of_takeSlot {wait : Wait} (h : (takeSlot wait).Returns w u w') :
    w.SameData w' := by
  have hslot := returns_get_bind.1 h
  split at hslot
  · rw [(returns_pure.1 hslot).2]
    exact .refl w
  · obtain ⟨limiter, _, hacquire, hset⟩ := returns_bind.1 hslot
    rw [(returns_ofResult.1 hacquire).2] at hset
    rw [returns_set.1 hset]
    exact ⟨rfl, rfl⟩

theorem sameData_of_giveSlot (h : giveSlot.Returns w u w') : w.SameData w' := by
  have hslot := returns_get_bind.1 h
  split at hslot
  · rw [(returns_pure.1 hslot).2]
    exact .refl w
  · obtain ⟨_, _, hset, houtcome⟩ := returns_bind.1 hslot
    rw [(returns_ofResult.1 houtcome).2, returns_set.1 hset]
    exact ⟨rfl, rfl⟩

theorem returns_withSlot {wait : Wait} {body : Run σ α}
    (h : (withSlot wait body).Returns w a w') :
    ∃ v v', w.SameData v ∧ body.Returns v a v' ∧ v'.SameData w' := by
  obtain ⟨_, v, htake, h⟩ := returns_bind.1 h
  obtain ⟨v', hbody, hgive⟩ := returns_andThen.1 h
  exact ⟨v, v', sameData_of_takeSlot htake, hbody, sameData_of_giveSlot hgive⟩

end Run

/-! ## Executions -/

namespace Engine

open Effect

variable {e : Engine σ} {w w' : World σ} {s : Statement}

/-- An execution that succeeds is a call of the executor that does. -/
theorem returns_timed {action : String} {call : Effect σ α} {a : α}
    (h : (e.timed s action call).Returns w a w') :
    call.Returns w.outside a w'.outside ∧ w'.cache = w.cache := by
  obtain ⟨_, observed, hobserve, h⟩ := returns_bind.1 h
  obtain ⟨v, v', hbefore, h, hafter⟩ := Run.returns_withSlot h
  obtain ⟨r, ran, hcall, h⟩ := returns_bind.1 h
  cases r with
  | error err =>
    by_cases hlogged : isLogged err = true
    · simp only [hlogged, if_true] at h
      obtain ⟨_, _, -, h⟩ := returns_bind.1 h
      exact absurd h (not_returns_throw _)
    · simp only [hlogged] at h
      exact absurd h (not_returns_throw _)
  | ok x =>
    obtain ⟨_, recorded, hrecord, h⟩ := returns_bind.1 h
    obtain ⟨rfl, rfl⟩ := returns_pure.1 h
    obtain ⟨hcall, hcache⟩ := Run.returns_outside (returns_attempt.1 hcall)
    have before := (Run.sameData_of_observe hobserve).trans hbefore
    have after := (Run.sameData_of_record hrecord).trans hafter
    rw [before.outside, ← after.outside] at hcall
    exact ⟨hcall, after.cache.trans (hcache.trans before.cache)⟩

theorem returns_run {action : String} {result : ExecResult}
    (h : (e.run s action).Returns w result w') :
    (e.statements.execute s.sql s.bindings).Returns w.outside result w'.outside :=
  (returns_timed h).1

theorem returns_fetchOne {action : String} {row : Option Row}
    (h : (e.fetchOne s action).Returns w row w') :
    ∃ reported, (e.statements.queryOne s.sql s.bindings).Returns w.outside reported w'.outside := by
  obtain ⟨reported, _, hquery, h⟩ := returns_bind.1 (returns_timed h).1
  rw [(returns_pure.1 h).2]
  exact ⟨reported, hquery⟩

theorem returns_fetch {action : String} {rows : List Row}
    (h : (e.fetch s action).Returns w rows w') :
    (∃ reading, (e.statements.query s.sql s.bindings).Returns w.outside reading w'.outside
      ∧ reading.failure = none ∧ rows = reading.rows.map Row.normalize)
    ∧ w'.cache = w.cache := by
  obtain ⟨hcall, hcache⟩ := returns_timed h
  obtain ⟨reading, s', hquery, hanswer⟩ := returns_bind.1 hcall
  refine ⟨⟨reading, ?_⟩, hcache⟩
  unfold Reading.materialize at hanswer
  cases hfailure : reading.failure with
  | none =>
    rw [hfailure] at hanswer
    obtain ⟨hrows, hstate⟩ := returns_pure.1 hanswer
    rw [hstate]
    exact ⟨hquery, rfl, hrows⟩
  | some cause =>
    rw [hfailure] at hanswer
    exact absurd hanswer (not_returns_throw _)

/-- Reads are not answered from a cache. -/
def Uncached (e : Engine σ) (w : World σ) : Prop :=
  e.caching = true → w.cache = none

theorem returns_lookup_of_uncached {found : Option (List Row)} (huncached : e.Uncached w)
    (h : (e.lookup s).Returns w found w') : found = none ∧ w' = w := by
  have hlookup := returns_get_bind.1 h
  split at hlookup
  · next cache hcaching hcache =>
    rw [huncached hcaching] at hcache
    cases hcache
  · exact returns_pure.1 hlookup

/-- Without a cache, all rows of a query are those that the executor reads for its SELECT. -/
theorem returns_get {q : Query} {c : Collection} (huncached : e.Uncached w)
    (h : (e.get q).Returns w c w') :
    (∃ s reading, Statement.select e.dialect q = .ok s
      ∧ (e.statements.query s.sql s.bindings).Returns w.outside reading w'.outside
      ∧ reading.failure = none ∧ c.rows = reading.rows.map Row.normalize)
    ∧ e.Uncached w' := by
  obtain ⟨s, w₁, hs, hget⟩ := returns_bind.1 h
  obtain ⟨hselect, rfl⟩ := returns_ofResult.1 hs
  obtain ⟨rows, w₂, hcached, hanswer⟩ := returns_bind.1 hget
  obtain ⟨rfl, rfl⟩ := returns_pure.1 hanswer
  obtain ⟨found, w₃, hlookup, hrows⟩ := returns_bind.1 hcached
  obtain ⟨rfl, rfl⟩ := returns_lookup_of_uncached huncached hlookup
  obtain ⟨fetched, w₄, hfetch, hstored⟩ := returns_bind.1 hrows
  obtain ⟨_, w₅, hstore, hend⟩ := returns_bind.1 hstored
  obtain ⟨rfl, rfl⟩ := returns_pure.1 hend
  obtain ⟨⟨reading, hquery, hfailure, hread⟩, hcache⟩ := returns_fetch hfetch
  have hstate := returns_modify.1 hstore
  have houtside : w'.outside = w₄.outside := by
    rw [hstate]
    split <;> rfl
  rw [houtside]
  refine ⟨⟨s, reading, hselect, hquery, hfailure, hread⟩, ?_⟩
  intro hcaching
  rw [hstate, if_pos hcaching]
  simp only [hcache, huncached hcaching, Option.map_none]

end Engine

end SqlQuery
