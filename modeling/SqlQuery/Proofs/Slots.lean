import SqlQuery.Proofs.CachedWrites
import SqlQuery.Proofs.Calls

/-!
# Execution slots

A limiter that nobody gives a slot to that was not taken (`Limiter.Holds`) counts the slots in use.
An execution takes one and gives it back, however it ends, so a composition of executions leaves the
limiter as it was.

What a limit does to a composition is said by comparison with the same composition without a limit
(`Composes.slotted`). If a slot can be had, there is no difference. If none can be had, there is
none either for a composition that makes no call; any other one ends at its first call with the
reason why no slot could be had, and that call is not made.
-/

namespace SqlQuery

open Effect

variable {σ α β : Type}

/-! ## Limiters -/

namespace Limiter

variable {l l' : Limiter} {wait : Wait} {capacity held : Nat}

/-- So many slots are in use, all others are free, and that is what is reported. -/
structure Holds (l : Limiter) (capacity held : Nat) : Prop where
  capacity_eq : l.capacity = capacity
  free_add : l.free + held = capacity
  inFlight_eq : l.inFlight = held

theorem Holds.fits (h : l.Holds capacity held) : l.free ≤ l.capacity := by
  have hcapacity := h.capacity_eq
  have hfree := h.free_add
  omega

theorem holds_of_make {m : Int} (h : make m = .ok l) : 1 ≤ m ∧ l.Holds m.toNat 0 := by
  unfold make at h
  split at h
  · cases h
  · cases h
    exact ⟨by omega, rfl, rfl, rfl⟩

/-- A slot that is taken was free. -/
theorem acquire_eq_ok (h : l.acquire wait = .ok l') :
    0 < l.free ∧ l' = { l with free := l.free - 1, inFlight := l.inFlight + 1 } := by
  unfold acquire at h
  split at h
  · cases h
  · split at h
    · cases h
    · split at h
      · cases h
      · next hover =>
        cases h
        simp only [Bool.or_eq_true, decide_eq_true_eq, not_or] at hover
        exact ⟨Nat.pos_of_ne_zero hover.2, rfl⟩

/-- A wait that can begin fails by ending. -/
theorem acquire_eq_error {err : Error} (hwait : wait.fault = none)
    (h : l.acquire wait = .error err) : ∃ reason, err = .cancelled reason := by
  unfold acquire at h
  rw [hwait] at h
  simp only at h
  split at h
  · cases h
    exact ⟨_, rfl⟩
  · split at h
    · cases h
      exact ⟨_, rfl⟩
    · cases h

/-- A wait for a slot that nobody gives back ends with its time. -/
theorem acquire_of_full (hfault : wait.fault = none) (hwait : wait.cancelled = false)
    (hfull : l.free = 0) : l.acquire wait = .error (.cancelled .timedOut) := by
  simp [Limiter.acquire, hfault, hwait, hfull]

theorem Holds.acquire (h : l.Holds capacity held) (hacquire : l.acquire wait = .ok l') :
    l'.Holds capacity (held + 1) := by
  obtain ⟨hfree, rfl⟩ := acquire_eq_ok hacquire
  have hadd := h.free_add
  refine ⟨h.capacity_eq, ?_, ?_⟩
  · show l.free - 1 + (held + 1) = capacity
    omega
  · show l.inFlight + 1 = _
    rw [h.inFlight_eq]
    norm_cast

theorem Holds.release (h : l.Holds capacity (held + 1)) :
    ∃ l', l.release = (l', .ok ()) ∧ l'.Holds capacity held := by
  have hadd := h.free_add
  have hcapacity := h.capacity_eq
  have hfree : l.free < l.capacity := by omega
  refine ⟨{ l with free := l.free + 1, inFlight := l.inFlight - 1 }, ?_, h.capacity_eq, ?_, ?_⟩
  · unfold Limiter.release
    rw [if_pos hfree]
  · show l.free + 1 + held = capacity
    omega
  · show l.inFlight - 1 = held
    rw [h.inFlight_eq]
    push_cast
    omega

/-- A slot that was taken and is given back leaves the limiter as it was. -/
theorem release_acquire (hfits : l.free ≤ l.capacity) (h : l.acquire wait = .ok l') :
    l'.release = (l, .ok ()) := by
  obtain ⟨hfree, rfl⟩ := acquire_eq_ok h
  obtain ⟨capacity, free, inFlight⟩ := l
  simp only at hfits hfree
  have hless : free - 1 < capacity := by omega
  have hback : free - 1 + 1 = free := by omega
  simp [release, hless, hback]

end Limiter

/-! ## Worlds with another limit -/

namespace World

/-- A world with another limit, or with none. -/
def limited (w : World σ) (l : Option Limiter) : World σ :=
  { w with limiter := l }

@[simp] theorem limited_limited (w : World σ) (k l : Option Limiter) :
    (w.limited k).limited l = w.limited l := rfl

theorem limited_of_eq {w : World σ} {l : Option Limiter} (h : w.limiter = l) : w.limited l = w := by
  subst h
  rfl

theorem ready_of_unlimited {w : World σ} (h : w.limiter = none) (wait : Wait) : w.Ready wait := by
  intro l hl
  rw [h] at hl
  cases hl

theorem ready_of_acquire {w : World σ} {l taken : Limiter} {wait : Wait}
    (hfits : l.free ≤ l.capacity) (h : l.acquire wait = .ok taken) :
    (w.limited (some l)).Ready wait := by
  intro l' hl'
  cases hl'
  exact ⟨taken, h, Limiter.release_acquire hfits h⟩

/-- A world after a call for a statement, with the entry of the call in the log. -/
def logged (w : World (Noted σ)) (s : Statement) (failure : Option Error) (t : σ) :
    World (Noted σ) :=
  { w with
    outside := w.outside.called s failure t
    log := w.log.map fun log =>
      log.extend (loggedEntries [(⟨s.sql, s.bindings, failure, t⟩ : Execution σ)]) }

/-- The same, where the statement was observed. -/
def called (w : World (Noted σ)) (s : Statement) (failure : Option Error) (t : σ) :
    World (Noted σ) :=
  logged { w with observed := some s } s failure t

end World

namespace Run

variable {w : World σ} {wait : Wait} {l l' : Limiter}

theorem run_takeSlot (hlimiter : w.limiter = some l) (h : l.acquire wait = .ok l') :
    (takeSlot wait : Run σ Unit).run.run w = (.ok (), w.limited (some l')) := by
  unfold takeSlot
  rw [run_get_bind, hlimiter]
  simp only [h]
  rfl

theorem run_giveSlot (hlimiter : w.limiter = some l) (h : l.release = (l', .ok ())) :
    (giveSlot : Run σ Unit).run.run w = (.ok (), w.limited (some l')) := by
  unfold giveSlot
  rw [run_get_bind, hlimiter]
  simp only [h]
  rfl

/-- A body that leaves the limiter alone runs in a slot as it would without. -/
theorem run_withSlot_of_ready (hready : w.Ready wait) {body : Run σ α} {r : Result α}
    {w' : World σ}
    (hbody : ∀ l, body.run.run (w.limited l) = (r, w'.limited l)) :
    (withSlot wait body).run.run w = (r, w'.limited w.limiter) := by
  obtain ⟨outside, cache, limiter, log, observed⟩ := w
  unfold withSlot
  cases limiter with
  | none =>
    have htake : (takeSlot wait : Run σ Unit).Returns ⟨outside, cache, none, log, observed⟩ ()
        ⟨outside, cache, none, log, observed⟩ := rfl
    have hgive : (giveSlot : Run σ Unit).Returns (w'.limited none) () (w'.limited none) := rfl
    rw [htake.run_bind]
    exact run_andThen (hbody none) hgive
  | some l =>
    obtain ⟨taken, hacquire, hrelease⟩ := hready l rfl
    have htake : (takeSlot wait : Run σ Unit).Returns ⟨outside, cache, some l, log, observed⟩ ()
        ⟨outside, cache, some taken, log, observed⟩ := run_takeSlot rfl hacquire
    have hgive : (giveSlot : Run σ Unit).Returns (w'.limited (some taken)) ()
        (w'.limited (some l)) := run_giveSlot rfl hrelease
    rw [htake.run_bind]
    exact run_andThen (hbody (some taken)) hgive

/-- Without a slot nothing is run. -/
theorem run_takeSlot_refused {err : Error} (hlimiter : w.limiter = some l)
    (h : l.acquire wait = .error err) :
    (takeSlot wait : Run σ Unit).run.run w = (.error err, w) := by
  unfold takeSlot
  rw [run_get_bind, hlimiter]
  simp only [h]
  rfl

end Run

/-! ## Executions -/

namespace Engine

variable {s : Statement} {action : String} {w : World (Noted σ)}

/-- A call is logged when it ends. -/
theorem run_logging (action : String) {call : Effect (Noted σ) α} {r : Result α} {t : σ}
    (hcall : call.run.run w.outside = (r, w.outside.called s (Result.failure? r) t)) :
    (do
      match ← attempt (Run.outside call) with
      | .ok x =>
        Run.record s none
        return x
      | .error err =>
        if isLogged err then Run.record s (some err)
        throw (failureOf s action err) : Run (Noted σ) α).run.run w
      = (r.mapError (failureOf s action), w.logged s (Result.failure? r) t) := by
  have hattempt : (attempt (Run.outside call)).Returns w r
      { w with outside := w.outside.called s (Result.failure? r) t } :=
    returns_attempt.2 (run_onPart hcall)
  rw [hattempt.run_bind]
  cases r with
  | ok x => rfl
  | error err =>
    unfold World.logged
    cases hlogged : isLogged err with
    | true =>
      simp only [hlogged, if_true, Result.failure?_error,
        loggedEntries_logged (c := ⟨s.sql, s.bindings, some err, t⟩) hlogged]
      rfl
    | false =>
      simp only [hlogged, Result.failure?_error,
        loggedEntries_unlogged (c := ⟨s.sql, s.bindings, some err, t⟩) hlogged]
      cases w.log <;> rfl

/-- Where a slot can be had, an execution is its call. -/
theorem run_timed_called (action : String) {e : Engine (Noted σ)} (hready : w.Ready e.wait)
    {call : Effect (Noted σ) α} {r : Result α} {t : σ}
    (hcall : call.run.run w.outside = (r, w.outside.called s (Result.failure? r) t)) :
    (e.timed s action call).run.run w
      = (r.mapError (failureOf s action), w.called s (Result.failure? r) t) := by
  have hobserve : (Run.observe s : Run (Noted σ) Unit).Returns w () { w with observed := some s } :=
    rfl
  have hready' : World.Ready e.wait { w with observed := some s } := hready
  have hsame : w.called s (Result.failure? r) t
      = (w.called s (Result.failure? r) t).limited w.limiter := rfl
  unfold timed
  rw [hobserve.run_bind, hsame]
  exact Run.run_withSlot_of_ready hready' fun l => run_logging action hcall

theorem run_timed_refused {e : Engine (Noted σ)} {l : Limiter} {err : Error}
    (hlimiter : w.limiter = some l) (h : l.acquire e.wait = .error err)
    (call : Effect (Noted σ) α) :
    (e.timed s action call).run.run w = (.error err, { w with observed := some s }) := by
  have hobserve : (Run.observe s : Run (Noted σ) Unit).Returns w () { w with observed := some s } :=
    rfl
  unfold timed Run.withSlot
  rw [hobserve.run_bind]
  exact run_bind_error (Run.run_takeSlot_refused (w := { w with observed := some s }) hlimiter h) _

end Engine

/-! ## Compositions under a limit -/

/-- How a computation goes under a limit, by comparison with how it goes without: it goes alike, or
it makes a call without the limit and is refused at it. -/
inductive Slotted (l : Limiter) (wait : Wait) (x : Run (Noted σ) α) (w : World (Noted σ)) : Prop
  | alike {r : Result α} {v : World (Noted σ)} (unlimited : x.run.run w = (r, v))
      (limiter : v.limiter = none)
      (limited : x.run.run (w.limited (some l)) = (r, v.limited (some l)))
      (allowed : v.outside.record = w.outside.record ∨ ∃ taken, l.acquire wait = .ok taken)
  | refused {r : Result α} {v w' : World (Noted σ)} {err : Error}
      (unlimited : x.run.run w = (r, v)) (limiter : v.limiter = none)
      (calls : w.outside.record.length < v.outside.record.length)
      (denied : l.acquire wait = .error err)
      (limited : x.run.run (w.limited (some l)) = (.error err, w'))
      (kept : w'.limiter = some l) (uncalled : w'.outside.record = w.outside.record)

namespace Slotted

variable {l : Limiter} {wait : Wait} {w : World (Noted σ)} {x : Run (Noted σ) α}

/-- A step that does not look at the limiter and makes no call. -/
theorem of_step {r : Result α} {v : World (Noted σ)} (hrun : x.run.run w = (r, v))
    (hlimiter : v.limiter = none)
    (hlimited : x.run.run (w.limited (some l)) = (r, v.limited (some l)))
    (hrecord : v.outside.record = w.outside.record) : Slotted l wait x w :=
  .alike hrun hlimiter hlimited (.inl hrecord)

/-- An execution whose call is one for its statement. -/
theorem of_timed {e : Engine (Noted σ)} {s : Statement} {action : String}
    {call : Effect (Noted σ) α} (hcall : Calls s call) (hfits : l.free ≤ l.capacity)
    (hw : w.limiter = none) : Slotted l e.wait (e.timed s action call) w := by
  obtain ⟨r, t, hrun⟩ := hcall w.outside
  have hunlimited := Engine.run_timed_called action (World.ready_of_unlimited hw e.wait) hrun
  cases hacquire : l.acquire e.wait with
  | ok taken =>
    refine .alike hunlimited hw ?_ (.inr ⟨taken, hacquire⟩)
    exact Engine.run_timed_called action (World.ready_of_acquire hfits hacquire) hrun
  | error err =>
    refine .refused hunlimited hw ?_ hacquire (Engine.run_timed_refused rfl hacquire call) rfl rfl
    simp [World.called, World.logged]

theorem bind {f : α → Run (Noted σ) β} (hx : Slotted l wait x w)
    (hf : ∀ a v, v.limiter = none → Slotted l wait (f a) v) : Slotted l wait (x >>= f) w := by
  cases hx with
  | @alike r v unlimited limiter limited allowed =>
    cases r with
    | error err =>
      exact .alike (run_bind_error unlimited f) limiter (run_bind_error limited f) allowed
    | ok a =>
      have hfirst := Returns.run_bind unlimited f
      have hlimited := Returns.run_bind limited f
      cases hf a v limiter with
      | alike unlimited' limiter' limited' allowed' =>
        refine .alike (hfirst.trans unlimited') limiter' (hlimited.trans limited') ?_
        rcases allowed with hrecord | htaken
        · rcases allowed' with hrecord' | htaken
          · exact .inl (hrecord'.trans hrecord)
          · exact .inr htaken
        · exact .inr htaken
      | refused unlimited' limiter' calls' denied limited' kept uncalled =>
        rcases allowed with hrecord | ⟨taken, htaken⟩
        · rw [hrecord] at calls' uncalled
          exact .refused (hfirst.trans unlimited') limiter' calls' denied
            (hlimited.trans limited') kept uncalled
        · rw [htaken] at denied
          cases denied
  | @refused r v w' err unlimited limiter calls denied limited kept uncalled =>
    have hlimited := run_bind_error limited f
    cases r with
    | error err =>
      exact .refused (run_bind_error unlimited f) limiter calls denied hlimited kept uncalled
    | ok a =>
      have hfirst := Returns.run_bind unlimited f
      cases hf a v limiter with
      | alike unlimited' limiter' limited' allowed' =>
        rcases allowed' with hrecord' | ⟨taken, htaken⟩
        · rw [← hrecord'] at calls
          exact .refused (hfirst.trans unlimited') limiter' calls denied hlimited kept uncalled
        · rw [htaken] at denied
          cases denied
      | refused unlimited' limiter' calls' =>
        exact .refused (hfirst.trans unlimited') limiter' (Nat.lt_trans calls calls') denied
          hlimited kept uncalled

end Slotted

/-- **Under a limit a composition goes as without one, or is refused at its first call.** -/
theorem Engine.Composes.slotted {e : Engine σ} {visitor : Visitor σ} {x : Run (Noted σ) α}
    (hx : e.noting.Composes visitor.noting x) {l : Limiter} (hfits : l.free ≤ l.capacity)
    {w : World (Noted σ)} (hw : w.limiter = none) : Slotted l e.wait x w := by
  induction hx generalizing w with
  | result r => exact .of_step (run_ofResult r w) hw (run_ofResult r _) rfl
  | bind _ _ hx hf => exact (hx hw).bind fun a v hv => hf a hv
  | observe s => exact .of_step rfl hw rfl rfl
  | lookup s =>
    obtain ⟨outside, cache, limiter, log, observed⟩ := w
    cases hw
    unfold Engine.lookup
    cases cache <;> cases e.noting.caching <;> exact .of_step rfl rfl rfl rfl
  | store s rows =>
    obtain ⟨outside, cache, limiter, log, observed⟩ := w
    cases hw
    unfold Engine.store
    cases e.noting.caching <;> exact .of_step rfl rfl rfl rfl
  | fetch s action => exact .of_timed (e := e.noting) (Engine.calls_fetch e s) hfits hw
  | fetchOne s action => exact .of_timed (e := e.noting) (Engine.calls_fetchOne e s) hfits hw
  | run s action => exact .of_timed (e := e.noting) (Engine.calls_run e s) hfits hw
  | visit v => exact .of_step rfl hw rfl rfl

end SqlQuery
