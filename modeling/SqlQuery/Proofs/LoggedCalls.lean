import SqlQuery.Proofs.Traffic

/-!
# Calls and the query log

What a job has called is in the query log, call by call and in order, with the failure of the call
or of the reading of its rows (`Composes.accounts`). Two kinds of calls are not: a failure of the
library's own is passed on before anything is logged, unless it is the failure of a row; and the one
call of a stream is never logged, whether the stream is read to its end or not.

`Traffic.log_accounts` says this of any moves: the log is extended by the entries of the jobs'
calls, and the calls that it misses are those of streams, one for each at most.
-/

namespace SqlQuery

open Effect

variable {σ α : Type}

/-! ## What a slot leaves alone -/

/-- A property of worlds that does not depend on the limiter. -/
def World.IgnoresLimiter (I : World σ → Prop) : Prop :=
  ∀ w l, I w → I (w.limited l)

namespace World.IgnoresLimiter

variable {I : World σ → Prop}

theorem takeSlot (hI : IgnoresLimiter I) (wait : Wait) :
    Keeps I (Run.takeSlot wait : Run σ Unit) := by
  intro w hw
  cases hlimiter : w.limiter with
  | none =>
    unfold Run.takeSlot
    rw [run_get_bind, hlimiter]
    exact hw
  | some l =>
    cases hacquire : l.acquire wait with
    | error err =>
      rw [Run.run_takeSlot_refused hlimiter hacquire]
      exact hw
    | ok taken =>
      rw [Run.run_takeSlot hlimiter hacquire]
      exact hI w (some taken) hw

theorem giveSlot (hI : IgnoresLimiter I) : Keeps I (Run.giveSlot : Run σ Unit) := by
  intro w hw
  unfold Run.giveSlot
  rw [run_get_bind]
  cases w.limiter with
  | none => exact hw
  | some l =>
    rcases hrelease : l.release with ⟨l', outcome⟩
    simp only [hrelease]
    cases outcome with
    | ok done => exact hI w (some l') hw
    | error err => exact hI w (some l') hw

/-- What a body keeps, it keeps in a slot. -/
theorem withSlot (hI : IgnoresLimiter I) (wait : Wait) {body : Run σ α} (hbody : Keeps I body) :
    Keeps I (Run.withSlot wait body) :=
  (hI.takeSlot wait).bind fun _ => hbody.andThen hI.giveSlot

end World.IgnoresLimiter

/-! ## Jobs -/

/-- Calls were made since the record and the log were these, and they are what was logged. -/
def World.Accounts (record : List (Execution σ)) (log : Option QueryLog) (w : World (Noted σ)) :
    Prop :=
  ∃ calls, w.outside.record = record ++ calls
    ∧ w.log = log.map fun log => log.extend (loggedEntries calls)

namespace World.Accounts

variable {record : List (Execution σ)} {log : Option QueryLog}

theorem refl (w : World (Noted σ)) : w.Accounts w.outside.record w.log := by
  refine ⟨[], by simp, ?_⟩
  cases w.log <;> rfl

theorem ignoresLimiter : IgnoresLimiter (Accounts record log) :=
  fun _ _ hw => hw

/-- One more call is accounted for if its entry is added to the log. -/
theorem logged {w : World (Noted σ)} (h : w.Accounts record log) (s : Statement)
    (failure : Option Error) (t : σ) : (w.logged s failure t).Accounts record log := by
  obtain ⟨calls, hrecord, hlog⟩ := h
  refine ⟨calls ++ [⟨s.sql, s.bindings, failure, t⟩], ?_, ?_⟩
  · simp [World.logged, hrecord]
  · simp only [World.logged, hlog, loggedEntries_append, QueryLog.extend_append]
    cases log <;> rfl

end World.Accounts

/-- A statement that is run is accounted for, whether a slot can be had or not. -/
theorem Engine.timed_accounts {record : List (Execution σ)} {log : Option QueryLog}
    {e : Engine (Noted σ)} {s : Statement} {action : String} {call : Effect (Noted σ) α}
    (hcall : Calls s call) :
    Keeps (World.Accounts record log) (e.timed s action call) := by
  refine Keeps.bind (fun w hw => hw) fun _ => ?_
  refine World.Accounts.ignoresLimiter.withSlot e.wait fun w hw => ?_
  obtain ⟨r, t, hrun⟩ := hcall w.outside
  have hstate := congrArg Prod.snd (Engine.run_logging action hrun)
  exact (congrArg (World.Accounts record log) hstate).mpr (hw.logged s (Result.failure? r) t)

/-- **Every call of a composition is accounted for.** -/
theorem Engine.Composes.accounts {record : List (Execution σ)} {log : Option QueryLog}
    {e : Engine σ} {visitor : Visitor σ} {x : Run (Noted σ) α} (hx : e.noting.Composes visitor.noting x) :
    Keeps (World.Accounts record log) x := by
  refine hx.keeps (fun s w hw => hw) (fun s w hw => ?_) (fun s rows w hw => ?_) ?_ ?_ ?_
    (fun v w hw => hw)
  · unfold Engine.lookup
    rw [run_get_bind]
    split
    · exact hw
    · exact hw
  · unfold Engine.store
    cases e.noting.caching
    · exact hw
    · exact hw
  · exact fun s action => Engine.timed_accounts (Engine.calls_fetch e s)
  · exact fun s action => Engine.timed_accounts (Engine.calls_fetchOne e s)
  · exact fun s action => Engine.timed_accounts (Engine.calls_run e s)

/-- What a job has called is what was logged. -/
theorem Job.accounts (e : Engine σ) (job : Job σ) (w : World (Noted σ)) :
    ((job.runOn e).run.run w).2.Accounts w.outside.record w.log := by
  obtain ⟨visitor, hcomposes⟩ := job.composes e
  exact hcomposes.accounts w (.refl w)

/-! ## Streams -/

/-- At most so many calls were made since the record was this, and the log is as it was. -/
def World.Unlogged (record : List (Execution σ)) (log : Option QueryLog) (count : Nat)
    (w : World (Noted σ)) : Prop :=
  ∃ calls, w.outside.record = record ++ calls ∧ calls.length ≤ count ∧ w.log = log

namespace World.Unlogged

variable {record : List (Execution σ)} {log : Option QueryLog} {count : Nat}

theorem refl (w : World (Noted σ)) : w.Unlogged w.outside.record w.log 0 :=
  ⟨[], by simp, Nat.le_refl 0, rfl⟩

theorem ignoresLimiter : IgnoresLimiter (Unlogged record log count) :=
  fun _ _ hw => hw

theorem weaken {w : World (Noted σ)} (h : w.Unlogged record log count) :
    w.Unlogged record log (count + 1) := by
  obtain ⟨calls, hrecord, hlength, hlog⟩ := h
  exact ⟨calls, hrecord, by omega, hlog⟩

theorem called {w : World (Noted σ)} (h : w.Unlogged record log count) {n : Noted σ}
    {c : Execution σ} (hn : n.record = w.outside.record ++ [c]) :
    World.Unlogged record log (count + 1) { w with outside := n } := by
  obtain ⟨calls, hrecord, hlength, hlog⟩ := h
  refine ⟨calls ++ [c], ?_, ?_, hlog⟩
  · rw [← List.append_assoc, ← hrecord]
    exact hn
  · rw [List.length_append]
    exact Nat.add_le_add_right hlength 1

end World.Unlogged

namespace Stream

variable {record : List (Execution σ)} {log : Option QueryLog} {count : Nat}

/-- A stream has its call still to make. -/
def isDue : Stream → Bool
  | waiting _ => true
  | reading .. | finished => false

theorem read_unlogged (index : Nat) (rest : Reading) :
    Keeps (World.Unlogged record log count) (read index rest : Run (Noted σ) _) := by
  obtain ⟨rows, failure⟩ := rest
  have hgive : Keeps (World.Unlogged record log count) (Run.giveSlot : Run (Noted σ) Unit) :=
    World.Unlogged.ignoresLimiter.giveSlot
  cases rows with
  | cons row rows => exact .of_pure _
  | nil =>
    cases failure with
    | none => exact hgive.bind fun _ => .of_pure _
    | some cause => exact hgive.bind fun _ => .of_throw _

theorem close_unlogged (c : Stream) :
    Keeps (World.Unlogged record log count) (c.close : Run (Noted σ) Unit) := by
  cases c with
  | reading index rest => exact World.Unlogged.ignoresLimiter.giveSlot
  | waiting s => exact .of_pure ()
  | finished => exact .of_pure ()

theorem start_unlogged (e : Engine σ) (s : Statement) {w : World (Noted σ)}
    (hw : w.Unlogged record log count) :
    ((start e.noting s).run.run w).2.Unlogged record log (count + 1) := by
  have hobserve : Keeps (World.Unlogged record log count) (Run.observe s) := fun v hv => hv
  unfold start
  refine hobserve.bind_last (fun v hv => hv.weaken) (fun _ v hv => ?_) hw
  have htake : Keeps (World.Unlogged record log count) (Run.takeSlot e.noting.wait) :=
    World.Unlogged.ignoresLimiter.takeSlot _
  refine htake.bind_last (fun v hv => hv.weaken) (fun _ v hv => ?_) hv
  obtain ⟨r, n, c, hquery, hrecord⟩ := e.query_noted s v.outside
  have hattempt : (attempt (Run.outside (e.noting.statements.query s.sql s.bindings))).Returns v r
      { v with outside := n } := returns_attempt.2 (run_onPart hquery)
  have hcalled : World.Unlogged record log (count + 1) { v with outside := n } := hv.called hrecord
  rw [hattempt.run_bind]
  cases r with
  | ok reading => exact hcalled
  | error err =>
    have hgive : Keeps (World.Unlogged record log (count + 1))
        (Run.giveSlot : Run (Noted σ) Unit) :=
      World.Unlogged.ignoresLimiter.giveSlot
    exact hgive.bind (fun _ => .of_throw _) _ hcalled

/-- A stream makes its one call when it begins, and logs nothing. -/
theorem pull_unlogged (e : Engine σ) (c : Stream) (w : World (Noted σ)) :
    ((c.pull e.noting).run.run w).2.Unlogged w.outside.record w.log
      (if c.isDue then 1 else 0) := by
  cases c with
  | finished => exact .refl w
  | reading index rest => exact read_unlogged index rest w (.refl w)
  | waiting s =>
    have hstart := start_unlogged e s (.refl w)
    refine run_bind_elim (M := fun p => World.Unlogged w.outside.record w.log 1 p.2) ?_ ?_
    · intro err v hrun
      rw [hrun] at hstart
      exact hstart
    · intro reading v hrun
      unfold Returns at hrun
      rw [hrun] at hstart
      exact read_unlogged 0 reading v hstart

/-- A stream that has begun makes no more calls. -/
theorem isDue_of_read {index : Nat} {rest : Reading} {row : Option Row} {c' : Stream}
    {w w' : World (Noted σ)} (h : (read index rest : Run (Noted σ) _).Returns w (row, c') w') :
    c'.isDue = false := by
  obtain ⟨rows, failure⟩ := rest
  cases rows with
  | cons row rows =>
    cases (returns_pure.1 h).1
    rfl
  | nil =>
    cases failure with
    | none =>
      obtain ⟨_, _, _, hend⟩ := returns_bind.1 h
      cases (returns_pure.1 hend).1
      rfl
    | some cause =>
      obtain ⟨_, _, _, hend⟩ := returns_bind.1 h
      exact absurd hend (not_returns_throw _)

theorem isDue_of_pull {e : Engine σ} {c c' : Stream} {row : Option Row} {w w' : World (Noted σ)}
    (h : (c.pull e.noting).Returns w (row, c') w') : c'.isDue = false := by
  cases c with
  | finished =>
    cases (returns_pure.1 h).1
    rfl
  | reading index rest => exact isDue_of_read h
  | waiting s =>
    obtain ⟨reading, v, _, hread⟩ := returns_bind.1 h
    exact isDue_of_read hread

end Stream

/-! ## Any moves -/

namespace Traffic

/-- The log is extended by the entries of the jobs' calls. The other calls are those of streams that
have begun, one for each at most. -/
structure Logs (w : World (Noted σ)) (t : Traffic σ) : Prop where
  calls : ∃ calls, t.world.outside.record = w.outside.record ++ calls ∧ t.asked.Sublist calls
    ∧ calls.length + t.streams.countP (fun c => c.stream.isDue) ≤ t.asked.length + t.streams.length
  log : t.world.log = w.log.map fun log => log.extend (loggedEntries t.asked)

variable {w : World (Noted σ)} {t : Traffic σ}

theorem Logs.start (w : World (Noted σ)) : Logs w { world := w } := by
  refine ⟨⟨[], by simp, .slnil, by simp⟩, ?_⟩
  show w.log = _
  cases w.log <;> rfl

/-- A stream makes a call that is not logged, if it was due. -/
theorem Logs.stream (h : t.Logs w) {i : Nat} {c c' : Opened σ} (hc : t.streams[i]? = some c)
    {w' : World (Noted σ)}
    (hw' : w'.Unlogged t.world.outside.record t.world.log (if c.stream.isDue then 1 else 0))
    (hc' : c'.stream.isDue = false) :
    Logs w { t with world := w', streams := t.streams.set i c' } := by
  obtain ⟨calls, hrecord, hsublist, hlength⟩ := h.calls
  obtain ⟨more, hmore, hcount, hlog⟩ := hw'
  obtain ⟨others, hold, hnew⟩ := countP_set_apart (p := fun c : Opened σ => c.stream.isDue) hc
  refine ⟨⟨calls ++ more, ?_, hsublist.trans (List.sublist_append_left ..), ?_⟩, ?_⟩
  · rw [← List.append_assoc, ← hrecord]
    exact hmore
  · rw [hold] at hlength
    simp only [List.length_append, List.length_set, hnew c', hc']
    simp only [Bool.false_eq_true, if_false]
    omega
  · exact hlog.trans h.log

theorem Logs.step (h : t.Logs w) (m : Move σ) : Logs w (t.step m).2 := by
  cases m with
  | ask e job =>
    obtain ⟨calls, hrecord, hsublist, hlength⟩ := h.calls
    obtain ⟨more, hmore, hlog⟩ := job.accounts e t.world
    have hasked : (t.step (.ask e job)).2.asked = t.asked ++ more := by
      show t.asked ++ List.drop _ ((job.runOn e).run.run t.world).2.outside.record = _
      rw [hmore, List.drop_left]
    refine ⟨⟨calls ++ more, ?_, ?_, ?_⟩, ?_⟩
    · rw [← List.append_assoc, ← hrecord]
      exact hmore
    · rw [hasked]
      exact hsublist.append (List.Sublist.refl more)
    · rw [hasked]
      simp only [List.length_append]
      show calls.length + more.length + t.streams.countP _ ≤ _ + t.streams.length
      omega
    · rw [hasked, loggedEntries_append]
      refine hlog.trans ?_
      rw [h.log]
      cases w.log with
      | none => rfl
      | some log => exact congrArg some (QueryLog.extend_append log _ _).symm
  | stream e s =>
    obtain ⟨calls, hrecord, hsublist, hlength⟩ := h.calls
    refine ⟨⟨calls, hrecord, hsublist, ?_⟩, h.log⟩
    have hdue : ([{ engine := e, stream := .waiting s }] : List (Opened σ)).countP
        (fun c => c.stream.isDue) = 1 := rfl
    simp only [Traffic.step, List.countP_append, List.length_append, hdue, List.length_singleton]
    omega
  | advance i =>
    cases hc : t.streams[i]? with
    | none =>
      rw [(step_absent hc).1]
      exact h
    | some c =>
      rcases hrun : (c.stream.pull c.engine.noting).run.run t.world with ⟨r, w'⟩
      have hw' := c.stream.pull_unlogged c.engine t.world
      rw [hrun] at hw'
      rw [step_advance hc hrun]
      refine h.stream hc hw' ?_
      cases r with
      | error err => rfl
      | ok answer =>
        obtain ⟨row, c'⟩ := answer
        cases row <;> exact Stream.isDue_of_pull hrun
  | close i =>
    cases hc : t.streams[i]? with
    | none =>
      rw [(step_absent hc).2]
      exact h
    | some c =>
      rcases hrun : c.stream.close.run.run t.world with ⟨r, w'⟩
      have hw' := c.stream.close_unlogged t.world (.refl t.world)
      rw [hrun] at hw'
      obtain ⟨more, hmore, hcount, hlog⟩ := hw'
      rw [step_close hc hrun]
      exact h.stream hc ⟨more, hmore, by omega, hlog⟩ rfl
  | elapse state cache => exact ⟨h.calls, h.log⟩

end Traffic

/-- **What is in the query log.** Let any moves be made in a world with a log, whatever the executor
does. Then the log is extended by the entries of the calls that were made for jobs, one for each
call and in their order: the SQL, the bindings, and the failure of the call or of its rows, if there
was one. Calls that fail with an error of the library's own have no entry, unless a row failed. The
calls that were not made for jobs are those of streams, at most one for each, and have no entry.

So if there are no streams and no failures of the library's own, and the log has room, then all
calls are in it. -/
theorem Traffic.log_accounts (w : World (Noted σ)) (log : QueryLog) (hlog : w.log = some log)
    (moves : List (Move σ)) :
    ∃ calls, (run { world := w } moves).world.outside.record = w.outside.record ++ calls
      ∧ (run { world := w } moves).asked.Sublist calls
      ∧ calls.length
        ≤ (run { world := w } moves).asked.length + (run { world := w } moves).streams.length
      ∧ (run { world := w } moves).world.log
        = some (log.extend (loggedEntries (run { world := w } moves).asked))
      ∧ (log.HasRoom (loggedEntries (run { world := w } moves).asked).length →
        (log.extend (loggedEntries (run { world := w } moves).asked)).entries
          = log.entries ++ loggedEntries (run { world := w } moves).asked)
      ∧ ((run { world := w } moves).streams = [] → (∀ c ∈ calls, c.isLogged = true) →
        log.HasRoom calls.length →
        (log.extend (loggedEntries (run { world := w } moves).asked)).entries
          = log.entries ++ calls.map Execution.entry) := by
  have hrun := run_keeps (I := Logs w) (fun t m h => h.step m) moves (Logs.start w)
  obtain ⟨⟨calls, hrecord, hsublist, hlength⟩, hextended⟩ := hrun
  refine ⟨calls, hrecord, hsublist, by omega, ?_, QueryLog.entries_extend, ?_⟩
  · rw [hextended, hlog]
    rfl
  · intro hstreams hlogged hroom
    rw [hstreams] at hlength
    have hall : (run { world := w } moves).asked = calls :=
      hsublist.eq_of_length_le (by simpa using hlength)
    rw [hall, loggedEntries_of_all hlogged]
    exact QueryLog.entries_extend (by simpa using hroom)

/-- A world with a log in which nothing was run. -/
def nothingLogged : World (Noted Unit) :=
  { outside := ⟨(), []⟩, log := some {} }

/-- A read of all rows has its entry. -/
theorem secondRead_logged : ∃ log,
    (Traffic.run { world := nothingLogged } [secondRead]).world.log = some log
    ∧ log.entries = [{ sql := .text "SELECT * FROM s", bindings := []
                       duration := .double (.zero false), error := none }] := by
  obtain ⟨calls, -, -, -, hlog, hroom, -⟩ :=
    Traffic.log_accounts nothingLogged {} rfl [secondRead]
  have hone : QueryLog.HasRoom {} (loggedEntries
      (Traffic.run { world := nothingLogged } [secondRead]).asked).length := by
    intro n hn
    cases hn
    decide +kernel
  exact ⟨_, hlog, (hroom hone).trans rfl⟩

/-- Every statement fails with an error of the library's own. -/
def alwaysRefusing : Engine Unit where
  dialect := .mysql
  statements := {
    query _ _ := throw (.transaction (.other "closed"))
    queryOne _ _ := throw (.transaction (.other "closed"))
    execute _ _ := throw (.transaction (.other "closed")) }

/-- A stream that is read to its end makes a call that has no entry in the log, and so does a read
that fails with an error of the library's own. -/
theorem consumed_stream_unlogged :
    (∃ t, t = Traffic.run { world := nothingLogged } [
        .stream twoRows { sql := "SELECT * FROM t", bindings := [], dialect := "mysql" },
        .advance 0, .advance 0, .advance 0]
      ∧ t.streams.all Opened.ended = true
      ∧ t.world.outside.record.map Execution.sql = ["SELECT * FROM t"]
      ∧ t.world.log.map QueryLog.entries = some [])
    ∧ ∃ t, t = Traffic.run { world := nothingLogged } [
        .ask alwaysRefusing (.operate {} (fun v => return v) { table := some "t" } .get)]
      ∧ t.asked.map Execution.sql = ["SELECT * FROM t"]
      ∧ t.asked.all (fun c => c.failure.isSome) = true
      ∧ t.world.log.map QueryLog.entries = some [] := by
  refine ⟨⟨_, rfl, ?_, ?_, rfl⟩, _, rfl, ?_, ?_, rfl⟩
  · decide +kernel
  · decide +kernel
  · decide +kernel
  · decide +kernel

end SqlQuery
