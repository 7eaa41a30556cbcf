import SqlQuery.Dialect.MySql
import SqlQuery.Proofs.Slots

/-!
# Engines in one world

Any number of engines work in a world and share its limiter. They are asked for operations and for
single statements, and they hand out streams, which are opened, advanced row by row, and closed, in
any order and with anything else in between (`Move`). What is counted of a stream is what its reader
has seen of it: whether it has yielded a row, and whether it is at an end.

A step takes exactly the slots that it has to hold afterwards (`Traffic.Sound.step`). So after any
moves the limiter has as many slots in use as there are streams that have yielded and are not at an
end (`Traffic.slots_accounted`).
-/

namespace SqlQuery

open Effect

variable {σ α : Type}

/-! ## Requests, streams and moves -/

/-- What an engine can be asked for: an operation on a query, or a statement. -/
inductive Job (σ : Type) where
  | operate (settings : Settings) (visitor : Visitor σ) (q : Query) (op : Operation)
  | read (s : Statement)
  | fetch (s : Statement) (action : String)
  | fetchOne (s : Statement) (action : String)
  | execute (s : Statement) (action : String)

/-- What is asked for, on an executor that notes its calls. -/
def Job.runOn (e : Engine σ) : Job σ → Run (Noted σ) Answer
  | operate settings visitor q op => op.run e.noting settings visitor.noting q
  | read s => do return .rows (← e.noting.fetchCached s)
  | fetch s action => do return .rows (← e.noting.fetch s action)
  | fetchOne s action => do return .row (← e.noting.fetchOne s action)
  | execute s action => do return .executed (← e.noting.run s action)

theorem Job.composes (e : Engine σ) (job : Job σ) :
    ∃ visitor : Visitor σ, e.noting.Composes visitor.noting (job.runOn e) := by
  cases job with
  | operate settings visitor q op =>
    exact ⟨visitor, Operation.composes e.noting settings visitor.noting q op⟩
  | read s => exact ⟨fun v => pure v, .bind (.fetchCached s) fun _ => .pure _⟩
  | fetch s action => exact ⟨fun v => pure v, .bind (.fetch s action) fun _ => .pure _⟩
  | fetchOne s action => exact ⟨fun v => pure v, .bind (.fetchOne s action) fun _ => .pure _⟩
  | execute s action => exact ⟨fun v => pure v, .bind (.run s action) fun _ => .pure _⟩

/-- A stream of an engine, and what its reader has seen of it. -/
structure Opened (σ : Type) where
  engine : Engine σ
  stream : Stream
  /-- It has yielded a row. -/
  yielded : Bool := false
  /-- It is exhausted, or has failed, or was closed. -/
  ended : Bool := false

namespace Opened

/-- A stream after it was asked for its next row. -/
def after (c : Opened σ) (r : Result (Option Row × Stream)) : Opened σ :=
  match r with
  | .ok (some _, stream) => { c with stream, yielded := true }
  | .ok (none, stream) => { c with stream, ended := true }
  | .error _ => { c with stream := .finished, ended := true }

def closed (c : Opened σ) : Opened σ :=
  { c with stream := .finished, ended := true }

/-- It has yielded a row, and there may be more. -/
def isSuspended (c : Opened σ) : Bool :=
  c.yielded && !c.ended

end Opened

/-- A world of engines, with the streams that were opened in it. -/
structure Traffic (σ : Type) where
  world : World (Noted σ)
  streams : List (Opened σ) := []
  /-- The calls that were made for jobs. -/
  asked : List (Execution σ) := []

/-- What can happen next. -/
inductive Move (σ : Type) where
  | ask (e : Engine σ) (job : Job σ)
  | stream (e : Engine σ) (s : Statement)
  | advance (i : Nat)
  | close (i : Nat)
  /-- The state of the executor and the cache become what they may. -/
  | elapse (state : σ → σ) (cache : Option (Cache Quantity) → Option (Cache Quantity))

namespace Traffic

/-- The number of streams that have yielded a row and are not at an end. -/
def suspended (t : Traffic σ) : Nat :=
  t.streams.countP Opened.isSuspended

/-- One move: whether it fails, and what comes of it. -/
def step (t : Traffic σ) : Move σ → Option Error × Traffic σ
  | .ask e job =>
    let (r, world) := (job.runOn e).run.run t.world
    (Result.failure? r, { t with
      world, asked := t.asked ++ world.outside.record.drop t.world.outside.record.length })
  | .stream e s => (none, { t with
      streams := t.streams ++ [{ engine := e, stream := .waiting s }] })
  | .advance i =>
    match t.streams[i]? with
    | none => (none, t)
    | some c =>
      let (r, world) := (c.stream.pull c.engine.noting).run.run t.world
      (Result.failure? r, { t with world, streams := t.streams.set i (c.after r) })
  | .close i =>
    match t.streams[i]? with
    | none => (none, t)
    | some c =>
      let (r, world) := c.stream.close.run.run t.world
      (Result.failure? r, { t with world, streams := t.streams.set i c.closed })
  | .elapse state cache =>
    (none, { t with world := { t.world.elapsed state with cache := cache t.world.cache } })

section Step

variable {t : Traffic σ} {i : Nat} {c : Opened σ} {w' : World (Noted σ)}

theorem step_advance {r : Result (Option Row × Stream)} (hc : t.streams[i]? = some c)
    (hrun : (c.stream.pull c.engine.noting).run.run t.world = (r, w')) :
    t.step (.advance i)
      = (Result.failure? r, { t with world := w', streams := t.streams.set i (c.after r) }) := by
  simp only [step, hc, hrun]

theorem step_close {r : Result Unit} (hc : t.streams[i]? = some c)
    (hrun : c.stream.close.run.run t.world = (r, w')) :
    t.step (.close i)
      = (Result.failure? r, { t with world := w', streams := t.streams.set i c.closed }) := by
  simp only [step, hc, hrun]

/-- A stream that was never opened is neither advanced nor closed. -/
theorem step_absent (hc : t.streams[i]? = none) :
    t.step (.advance i) = (none, t) ∧ t.step (.close i) = (none, t) := by
  simp only [step, hc, and_self]

end Step

/-- Moves one after the other. -/
def run (t : Traffic σ) (moves : List (Move σ)) : Traffic σ :=
  moves.foldl (fun t m => (t.step m).2) t

/-- What every move keeps, a run keeps. -/
theorem run_keeps {I : Traffic σ → Prop} (hstep : ∀ t m, I t → I (t.step m).2) {t : Traffic σ}
    (moves : List (Move σ)) (ht : I t) : I (t.run moves) := by
  induction moves generalizing t with
  | nil => exact ht
  | cons m moves ih => exact ih (hstep t m ht)

end Traffic

/-! ## The slot of a stream -/

namespace Stream

/-- The number of slots that a stream holds. -/
def held : Stream → Nat
  | reading .. => 1
  | waiting _ | finished => 0

/-- What a stream can answer: a row, or its end, or a failure. A slot is held for a row only. -/
inductive Advances (c : Stream) : Result (Option Row × Stream) → Nat → Prop
  | row (more : c ≠ finished) (row : Row) (index : Nat) (rest : Reading) :
    Advances c (.ok (some row, reading index rest)) 1
  | exhausted : Advances c (.ok (none, finished)) 0
  | failed (err : Error) : Advances c (.error err) 0

variable {l : Limiter} {capacity others : Nat}

/-- Of a reading that holds a slot there is a row more, or the slot is given back. -/
theorem run_read {w : World σ} (hlimiter : w.limiter = some l)
    (hl : l.Holds capacity (others + 1)) {c : Stream} (hmore : c ≠ finished) (index : Nat)
    (rest : Reading) :
    ∃ r l' n, (read index rest : Run σ _).run.run w = (r, w.limited (some l'))
      ∧ c.Advances r n ∧ l'.Holds capacity (others + n) := by
  obtain ⟨rows, failure⟩ := rest
  cases rows with
  | cons row rows =>
    refine ⟨.ok (some row.normalize, reading (index + 1) ⟨rows, failure⟩), l, 1, ?_,
      .row hmore _ _ _, hl⟩
    rw [World.limited_of_eq hlimiter]
    rfl
  | nil =>
    obtain ⟨l', hrelease, hl'⟩ := hl.release
    have hgive := Run.run_giveSlot hlimiter hrelease
    cases failure with
    | none => exact ⟨.ok (none, finished), l', 0, Returns.run_bind hgive _, .exhausted, hl'⟩
    | some cause =>
      exact ⟨.error (.rowRead index cause), l', 0, Returns.run_bind hgive _, .failed _, hl'⟩

/-- A statement that was run for a stream holds a slot, and one that was not holds none. -/
theorem run_start {w : World (Noted σ)} (e : Engine σ) (hlimiter : w.limiter = some l)
    (hl : l.Holds capacity others) (s : Statement) :
    ∃ r w' l', (start e.noting s).run.run w = (r, w') ∧ w'.limiter = some l'
      ∧ l'.Holds capacity (others + match r with | .ok _ => 1 | .error _ => 0) := by
  let noted : World (Noted σ) := { w with observed := some s }
  have hobserve : (Run.observe s : Run (Noted σ) Unit).Returns w () noted := rfl
  unfold start
  rw [hobserve.run_bind]
  cases hacquire : l.acquire e.noting.wait with
  | error err =>
    have hrefused := Run.run_takeSlot_refused (w := noted) hlimiter hacquire
    exact ⟨.error err, noted, l, run_bind_error hrefused _, hlimiter, hl⟩
  | ok taken =>
    have htaken := hl.acquire hacquire
    have htake := Run.run_takeSlot (w := noted) hlimiter hacquire
    rcases hquery : (e.noting.statements.query s.sql s.bindings).run.run w.outside with ⟨r, n⟩
    let ran : World (Noted σ) := { noted with outside := n, limiter := some taken }
    have hattempt : (attempt (Run.outside (e.noting.statements.query s.sql s.bindings))).Returns
        (noted.limited (some taken)) r ran := returns_attempt.2 (run_onPart hquery)
    rw [Returns.run_bind htake, hattempt.run_bind]
    cases r with
    | ok reading => exact ⟨.ok reading, ran, taken, rfl, rfl, htaken⟩
    | error err =>
      obtain ⟨l', hrelease, hl'⟩ := htaken.release
      have hgive := Run.run_giveSlot (w := ran) rfl hrelease
      exact ⟨.error _, ran.limited (some l'), l', Returns.run_bind hgive _, rfl, hl'⟩

/-- **A stream holds a slot exactly as long as it may have more rows.** -/
theorem run_pull {w : World (Noted σ)} (e : Engine σ) (hlimiter : w.limiter = some l) (c : Stream)
    (hl : l.Holds capacity (others + c.held)) :
    ∃ r w' l' n, (c.pull e.noting).run.run w = (r, w') ∧ w'.limiter = some l'
      ∧ c.Advances r n ∧ l'.Holds capacity (others + n) := by
  cases c with
  | finished => exact ⟨_, w, l, 0, rfl, hlimiter, .exhausted, hl⟩
  | reading index rest =>
    obtain ⟨r, l', n, hrun, hr, hl'⟩ :=
      run_read hlimiter hl (c := reading index rest) (fun h => nomatch h) index rest
    exact ⟨r, _, l', n, hrun, rfl, hr, hl'⟩
  | waiting s =>
    obtain ⟨started, v, l₁, hstart, hv, hl₁⟩ := run_start e hlimiter hl s
    cases started with
    | error err => exact ⟨_, v, l₁, 0, run_bind_error hstart _, hv, .failed err, hl₁⟩
    | ok reading =>
      obtain ⟨r, l', n, hrun, hr, hl'⟩ :=
        run_read hv hl₁ (c := waiting s) (fun h => nomatch h) 0 reading
      exact ⟨r, _, l', n, (Returns.run_bind hstart _).trans hrun, rfl, hr, hl'⟩

/-- A stream that has not begun does not begin without a slot. -/
theorem run_pull_refused {w : World (Noted σ)} {e : Engine σ} (hlimiter : w.limiter = some l)
    {err : Error} (h : l.acquire e.wait = .error err) (s : Statement) :
    ((waiting s).pull e.noting).run.run w = (.error err, { w with observed := some s }) := by
  have hobserve : (Run.observe s : Run (Noted σ) Unit).Returns w () { w with observed := some s } :=
    rfl
  have hrefused := Run.run_takeSlot_refused (w := { w with observed := some s }) hlimiter h
  unfold pull start
  refine run_bind_error ?_ _
  rw [hobserve.run_bind]
  exact run_bind_error hrefused _

theorem run_close {w : World σ} (hlimiter : w.limiter = some l) (c : Stream)
    (hl : l.Holds capacity (others + c.held)) :
    ∃ l', (c.close : Run σ Unit).run.run w = (.ok (), w.limited (some l'))
      ∧ l'.Holds capacity others := by
  cases c with
  | reading index rest =>
    obtain ⟨l', hrelease, hl'⟩ := hl.release
    exact ⟨l', Run.run_giveSlot hlimiter hrelease, hl'⟩
  | waiting s => exact ⟨l, by rw [World.limited_of_eq hlimiter]; rfl, hl⟩
  | finished => exact ⟨l, by rw [World.limited_of_eq hlimiter]; rfl, hl⟩

end Stream

/-! ## Slots in use -/

namespace Opened

/-- What was seen of a stream tells how far it has come. -/
def Sound (c : Opened σ) : Prop :=
  match c.stream with
  | .waiting _ => c.yielded = false ∧ c.ended = false
  | .reading .. => c.yielded = true ∧ c.ended = false
  | .finished => c.ended = true

variable {c : Opened σ} {r : Result (Option Row × Stream)} {n : Nat}

theorem Sound.held_eq (h : c.Sound) : c.stream.held = if c.isSuspended then 1 else 0 := by
  obtain ⟨engine, stream, yielded, ended⟩ := c
  unfold Sound at h
  cases stream <;> simp_all [isSuspended, Stream.held]

theorem Sound.after (h : c.Sound) (hr : c.stream.Advances r n) :
    (c.after r).Sound ∧ n = if (c.after r).isSuspended then 1 else 0 := by
  obtain ⟨engine, stream, yielded, ended⟩ := c
  unfold Sound at h
  cases hr with
  | row more row index rest =>
    cases stream <;> simp_all [Opened.after, Sound, isSuspended]
  | exhausted => simp [Opened.after, Sound, isSuspended]
  | failed err => simp [Opened.after, Sound, isSuspended]

theorem closed_sound (c : Opened σ) : c.closed.Sound :=
  rfl

theorem closed_isSuspended (c : Opened σ) : c.closed.isSuspended = false := by
  simp [closed, isSuspended]

end Opened

/-- One element is counted apart from the others, before and after it is replaced. -/
theorem countP_set_apart {p : α → Bool} {xs : List α} {i : Nat} {x : α} (h : xs[i]? = some x) :
    ∃ others, xs.countP p = others + (if p x then 1 else 0)
      ∧ ∀ y, (xs.set i y).countP p = others + if p y then 1 else 0 := by
  obtain ⟨hi, rfl⟩ := List.getElem?_eq_some_iff.1 h
  have hle := List.boole_getElem_le_countP (p := p) hi
  refine ⟨xs.countP p - if p xs[i] = true then 1 else 0, by omega, fun y => ?_⟩
  exact List.countP_set hi

/-- A job leaves the limiter as it was. -/
theorem Job.keeps_limiter {e : Engine σ} {l : Limiter} (job : Job σ) (hfits : l.free ≤ l.capacity)
    {w : World (Noted σ)} (hw : w.limiter = some l) :
    ((job.runOn e).run.run w).2.limiter = some l := by
  obtain ⟨visitor, hcomposes⟩ := job.composes e
  rw [← World.limited_of_eq hw, ← World.limited_limited w none]
  cases hcomposes.slotted hfits (w := w.limited none) rfl with
  | alike unlimited limiter limited allowed =>
    rw [limited]
    rfl
  | refused unlimited limiter calls denied limited kept uncalled =>
    rw [limited]
    exact kept

namespace Traffic

variable {t : Traffic σ} {capacity : Nat}

/-- The slots in use are those of the streams that have yielded a row and are not at an end. -/
structure Sound (t : Traffic σ) (capacity : Nat) : Prop where
  limiter : ∃ l, t.world.limiter = some l ∧ l.Holds capacity t.suspended
  streams : ∀ c ∈ t.streams, c.Sound

/-- The slots of the others, and the one of a stream if it holds one. -/
theorem Sound.apart (h : t.Sound capacity) {i : Nat} {c : Opened σ} (hc : t.streams[i]? = some c) :
    ∃ l others, t.world.limiter = some l ∧ l.Holds capacity (others + c.stream.held)
      ∧ ∀ c', (t.streams.set i c').countP Opened.isSuspended
        = others + if c'.isSuspended then 1 else 0 := by
  obtain ⟨l, hlimiter, hl⟩ := h.limiter
  obtain ⟨others, hcount, hset⟩ := countP_set_apart (p := Opened.isSuspended) hc
  refine ⟨l, others, hlimiter, ?_, hset⟩
  rw [(h.streams c (List.mem_of_getElem? hc)).held_eq, ← hcount]
  exact hl

theorem Sound.set (h : t.Sound capacity) {i : Nat} {c : Opened σ} (hc : c.Sound) :
    ∀ c' ∈ t.streams.set i c, c'.Sound := by
  intro c' hc'
  rcases List.mem_or_eq_of_mem_set hc' with hmem | rfl
  · exact h.streams c' hmem
  · exact hc

/-- **Every move leaves as many slots in use as there are suspended streams.** -/
theorem Sound.step (h : t.Sound capacity) (m : Move σ) : (t.step m).2.Sound capacity := by
  cases m with
  | ask e job =>
    obtain ⟨l, hlimiter, hl⟩ := h.limiter
    exact ⟨⟨l, job.keeps_limiter hl.fits hlimiter, hl⟩, h.streams⟩
  | stream e s =>
    obtain ⟨l, hlimiter, hl⟩ := h.limiter
    refine ⟨⟨l, hlimiter, ?_⟩, ?_⟩
    · simpa [Traffic.step, suspended, Opened.isSuspended] using hl
    · intro c hc
      rcases List.mem_append.1 hc with hold | hnew
      · exact h.streams c hold
      · rw [List.mem_singleton.1 hnew]
        exact ⟨rfl, rfl⟩
  | advance i =>
    cases hc : t.streams[i]? with
    | none =>
      rw [(step_absent hc).1]
      exact h
    | some c =>
      obtain ⟨l, others, hlimiter, hl, hset⟩ := h.apart hc
      obtain ⟨r, w', l', n, hrun, hw', hr, hl'⟩ := c.stream.run_pull c.engine hlimiter hl
      obtain ⟨hsound, hn⟩ := (h.streams c (List.mem_of_getElem? hc)).after hr
      rw [step_advance hc hrun]
      refine ⟨⟨l', hw', ?_⟩, h.set hsound⟩
      unfold suspended
      rw [hset, ← hn]
      exact hl'
  | close i =>
    cases hc : t.streams[i]? with
    | none =>
      rw [(step_absent hc).2]
      exact h
    | some c =>
      obtain ⟨l, others, hlimiter, hl, hset⟩ := h.apart hc
      obtain ⟨l', hrun, hl'⟩ := Stream.run_close hlimiter c.stream hl
      rw [step_close hc hrun]
      refine ⟨⟨l', rfl, ?_⟩, h.set c.closed_sound⟩
      unfold suspended
      rw [hset, c.closed_isSuspended]
      exact hl'
  | elapse state cache => exact ⟨h.limiter, h.streams⟩

/-! ## Requests without a slot -/

/-- A move needs a slot, and would wait for it like this: a job that makes a call where nothing
limits it, or a stream that has not begun. -/
def NeedsSlot (t : Traffic σ) (wait : Wait) : Move σ → Prop
  | .ask e job => wait = e.wait
    ∧ ((job.runOn e).run.run (t.world.limited none)).2.outside.record ≠ t.world.outside.record
  | .advance i => ∃ c s, t.streams[i]? = some c ∧ c.stream = .waiting s ∧ wait = c.engine.wait
  | .stream .. | .close _ | .elapse .. => False

/-- A move that gets no slot fails with the reason, makes no call and leaves the slots alone. -/
structure Refused (t : Traffic σ) (m : Move σ) (err : Error) : Prop where
  fails : (t.step m).1 = some err
  uncalled : (t.step m).2.world.outside.record = t.world.outside.record
  kept : (t.step m).2.world.limiter = t.world.limiter

theorem refused_of_acquire {l : Limiter} {wait : Wait} {m : Move σ} {err : Error}
    (hlimiter : t.world.limiter = some l) (hfits : l.free ≤ l.capacity)
    (hneeds : t.NeedsSlot wait m) (hdenied : l.acquire wait = .error err) : t.Refused m err := by
  cases m with
  | ask e job =>
    obtain ⟨rfl, hcalls⟩ := hneeds
    obtain ⟨visitor, hcomposes⟩ := job.composes e
    have hlimited : (t.world.limited none).limited (some l) = t.world :=
      World.limited_of_eq hlimiter
    cases hcomposes.slotted hfits (w := t.world.limited none) rfl with
    | alike unlimited limiter limited allowed =>
      rcases allowed with hrecord | ⟨taken, htaken⟩
      · rw [unlimited] at hcalls
        exact absurd hrecord hcalls
      · rw [hdenied] at htaken
        cases htaken
    | refused unlimited limiter calls denied limited kept uncalled =>
      rw [hlimited] at limited
      cases hdenied.symm.trans denied
      constructor
      · simp only [Traffic.step, limited, Result.failure?_error]
      · simp only [Traffic.step, limited]
        exact uncalled
      · simp only [Traffic.step, limited]
        exact kept.trans hlimiter.symm
  | advance i =>
    obtain ⟨c, s, hc, hwaiting, rfl⟩ := hneeds
    have hrefused := Stream.run_pull_refused hlimiter hdenied s
    rw [← hwaiting] at hrefused
    have hstep := step_advance hc hrefused
    exact ⟨by rw [hstep]; rfl, by rw [hstep], by rw [hstep]⟩
  | stream e s => exact hneeds.elim
  | close i => exact hneeds.elim
  | elapse state cache => exact hneeds.elim

end Traffic

/-- A wait that can begin and has a limit. -/
def Wait.Bounded (wait : Wait) : Prop :=
  wait.fault = none ∧ wait.timeout.isSome = true

/-- **Slots are neither leaked nor given twice.** Let any engines share a limiter, and let any moves
be made, whatever the executor does. Then the limiter reports as many slots in use as there are
streams that have yielded a row and are not at an end, none to all of its slots. A move that needs a
slot and gets none in its time is cancelled, makes no call, and leaves the slots as they were. -/
theorem Traffic.slots_accounted (m : Int) (l : Limiter) (hmake : Limiter.make m = .ok l)
    (w : World (Noted σ)) (hw : w.limiter = some l) (moves : List (Move σ)) :
    ∃ l', (run { world := w } moves).world.limiter = some l'
      ∧ l'.inFlight = (run { world := w } moves).suspended
      ∧ 0 ≤ l'.inFlight ∧ l'.inFlight ≤ m
      ∧ ∀ move wait err, wait.Bounded → (run { world := w } moves).NeedsSlot wait move →
        l'.acquire wait = .error err →
        (∃ reason, err = .cancelled reason) ∧ (run { world := w } moves).Refused move err := by
  obtain ⟨hone, hl⟩ := Limiter.holds_of_make hmake
  have hstart : Sound (σ := σ) { world := w } m.toNat := ⟨⟨l, hw, hl⟩, fun c hc => nomatch hc⟩
  have hrun := run_keeps (I := fun t => t.Sound m.toNat) (fun t move h => h.step move) moves hstart
  obtain ⟨l', hlimiter, hl'⟩ := hrun.limiter
  have hinFlight := hl'.inFlight_eq
  have hadd := hl'.free_add
  refine ⟨l', hlimiter, hinFlight, by omega, by omega, ?_⟩
  intro move wait err hwait hneeds hdenied
  exact ⟨Limiter.acquire_eq_error hwait.1 hdenied,
    refused_of_acquire hlimiter hl'.fits hneeds hdenied⟩

/-- An engine whose executor has two rows for every statement, and which waits a second. -/
def twoRows : Engine Unit where
  dialect := .mysql
  statements := {
    query _ _ := return { rows := [[("id", .int 1)], [("id", .int 2)]] }
    queryOne _ _ := return none
    execute _ _ := return { rowsAffected := .int 0 } }
  wait := { timeout := some (.ofInt 1) }

/-- A world with one slot, in which a stream has yielded its first row. -/
def oneSuspended : Traffic Unit :=
  Traffic.run
    { world := { outside := ⟨(), []⟩, limiter := some { capacity := 1, free := 1 } } }
    [.stream twoRows { sql := "SELECT * FROM t", bindings := [], dialect := "mysql" }, .advance 0]

/-- All rows of a table, asked for while the stream is suspended. -/
def secondRead : Move Unit :=
  .ask twoRows (.operate {} (fun v => return v) { table := some "s" } .get)

/-- The stream has the one slot, and the read beside it is cancelled. -/
theorem secondRead_cancelled : oneSuspended.suspended = 1
    ∧ oneSuspended.NeedsSlot twoRows.wait secondRead
    ∧ oneSuspended.Refused secondRead (.cancelled .timedOut) := by
  have hneeds : oneSuspended.NeedsSlot twoRows.wait secondRead := by
    refine ⟨rfl, fun hsame => ?_⟩
    have hlength := congrArg List.length hsame
    exact absurd hlength (by decide +kernel)
  obtain ⟨l, hl, hsuspended, -, -, hrefused⟩ := Traffic.slots_accounted 1
    { capacity := 1, free := 1 } rfl
    { outside := ⟨(), []⟩, limiter := some { capacity := 1, free := 1 } } rfl
    [.stream twoRows { sql := "SELECT * FROM t", bindings := [], dialect := "mysql" }, .advance 0]
  have htaken : oneSuspended.world.limiter = some { capacity := 1, free := 0, inFlight := 1 } := by
    decide +kernel
  cases htaken.symm.trans hl
  refine ⟨Int.ofNat.inj hsuspended.symm, hneeds, ?_⟩
  exact (hrefused secondRead twoRows.wait _ ⟨rfl, rfl⟩ hneeds
    (Limiter.acquire_of_full rfl rfl rfl)).2

end SqlQuery
