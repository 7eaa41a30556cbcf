import SqlQuery.Proofs.CachedWrites
import SqlQuery.Proofs.LoggedCalls

/-!
# Two operations that do the same

`updateOrInsert` and `updateOrCreate` look for a row with some attributes, and then change the rows
that have them or insert one. They are written apart, and have to stay in step in each of the ways in
which they can go: nothing is read, nothing is to be set, a statement is refused or fails, or it is
executed.

`Engine.Course` lists these ways once, with the calls of each on the executor. Both operations take
the same one (`Engine.upserts_alike`): their calls are the same, call by call, with the same failure
at the same call, and of what was found each makes the answer that it is to give.
-/

namespace SqlQuery

open Effect

variable {σ α : Type}

/-! ## Rows with other values -/

/-- A row that is updated has the values it is updated with, and else its own. -/
theorem Row.lookup_update {row other : Row} (h : (Row.columns other).Nodup) (k : String) :
    (Row.update row other).lookup k = (other.lookup k).or (row.lookup k) := by
  induction other generalizing row with
  | nil => rfl
  | cons entry rest ih =>
    obtain ⟨j, v⟩ := entry
    obtain ⟨hnew, hrest⟩ := List.nodup_cons.1 h
    have hupdate : Row.update row ((j, v) :: rest) = Row.update (Row.set row j v) rest := rfl
    rw [hupdate, ih hrest]
    by_cases hk : k = j
    · subst hk
      have absent : rest.lookup k = none := by
        rw [List.lookup_eq_none_iff]
        intro p hp
        have hne : k ≠ p.1 := by
          rintro rfl
          exact hnew (List.mem_map.2 ⟨p, hp, rfl⟩)
        exact bne_iff_ne.2 hne
      rw [absent, Row.lookup_set_self, List.lookup_cons_self]
      rfl
    · rw [Row.lookup_set_of_ne _ hk, List.lookup_cons, beq_eq_false_iff_ne.2 hk]

/-! ## One statement -/

/-- What takes place after an effect may fail, and then in place of the effect. -/
theorem Effect.run_andThen_elim {M : Result α × σ → Prop} {x : Effect σ α} {after : Effect σ Unit}
    {r : Result α} {s s' : σ} (hx : x.run.run s = (r, s'))
    (herror : ∀ e t, after.run.run s' = (.error e, t) → M (.error e, t))
    (hok : ∀ t, after.Returns s' () t → M (r, t)) : M ((x.andThen after).run.run s) := by
  unfold andThen
  rw [(returns_attempt.2 hx).run_bind]
  refine run_bind_elim herror fun _ t hafter => ?_
  rw [run_ofResult]
  exact hok t hafter

/-- A call is the execution of a statement. -/
def Execution.Runs (c : Execution σ) (s : Statement) : Prop :=
  c.sql = s.sql ∧ c.bindings = s.bindings

/-- What comes of a statement that is run: it gets no slot, or it is called. -/
inductive World.Ran (w : World (Noted σ)) (s : Statement) : Result α → World (Noted σ) → Prop
  | refused (err : Error) {w' : World (Noted σ)} (uncalled : w'.outside.record = w.outside.record) :
    Ran w s (.error err) w'
  | called (r : Result α) {w' : World (Noted σ)} {c : Execution σ} (runs : c.Runs s)
    (record : w'.outside.record = w.outside.record ++ [c]) : Ran w s r w'

/-- At most one call was made since the record was this, and it was of the statement. -/
def World.CalledOnce (record : List (Execution σ)) (s : Statement) (w : World (Noted σ)) : Prop :=
  ∃ calls, w.outside.record = record ++ calls ∧ calls.length ≤ 1 ∧ ∀ c ∈ calls, c.Runs s

namespace World

variable {record : List (Execution σ)} {s : Statement} {w w' : World (Noted σ)}

theorem calledOnce_of_eq (h : w'.outside.record = w.outside.record) :
    w'.CalledOnce w.outside.record s := by
  refine ⟨[], ?_, Nat.zero_le 1, fun _ hc => (nomatch hc)⟩
  rw [List.append_nil]
  exact h

theorem Ran.calledOnce {r : Result α} (h : w.Ran s r w') : w'.CalledOnce w.outside.record s := by
  cases h with
  | refused err uncalled => exact calledOnce_of_eq uncalled
  | @called _ _ c runs record =>
    refine ⟨[c], record, Nat.le_refl 1, fun c' hc => ?_⟩
    rw [List.mem_singleton.1 hc]
    exact runs

theorem ignoresLimiter_record (record : List (Execution σ)) :
    IgnoresLimiter fun w : World (Noted σ) => w.outside.record = record :=
  fun _ _ h => h

end World

namespace Engine

variable {s : Statement} {w w' : World (Noted σ)}

/-- A statement that is run is called once, or not at all if there is no slot for it. -/
theorem ran_timed (e : Engine (Noted σ)) (action : String) {call : Effect (Noted σ) α}
    (hcall : Calls s call) (w : World (Noted σ)) :
    w.Ran s ((e.timed s action call).run.run w).1 ((e.timed s action call).run.run w).2 := by
  have hobserve : (Run.observe s : Run (Noted σ) Unit).Returns w () { w with observed := some s } :=
    rfl
  unfold timed
  rw [hobserve.run_bind]
  have htaken := (World.ignoresLimiter_record w.outside.record).takeSlot e.wait
    { w with observed := some s } rfl
  refine run_bind_elim (M := fun p => w.Ran s p.1 p.2) (fun err v hrun => ?_) fun _ v htake => ?_
  · rw [hrun] at htaken
    exact .refused err htaken
  · have hv : v.outside.record = w.outside.record := by
      unfold Returns at htake
      rw [htake] at htaken
      exact htaken
    obtain ⟨r, t, hrun⟩ := hcall v.outside
    have hgiven := (World.ignoresLimiter_record
      (w.outside.record ++ [⟨s.sql, s.bindings, Result.failure? r, t⟩])).giveSlot
      (v.logged s (Result.failure? r) t) (congrArg (· ++ _) hv)
    refine run_andThen_elim (M := fun p => w.Ran s p.1 p.2) (run_logging action hrun)
      (fun err u hgive => ?_) fun u hgive => ?_
    · rw [hgive] at hgiven
      exact .called _ ⟨rfl, rfl⟩ hgiven
    · unfold Returns at hgive
      rw [hgive] at hgiven
      exact .called _ ⟨rfl, rfl⟩ hgiven

variable (e : Engine σ)

theorem uncalled_lookup (w : World (Noted σ)) :
    ((e.noting.lookup s).run.run w).2.outside.record = w.outside.record := by
  unfold lookup
  rw [run_get_bind]
  split
  · rfl
  · rfl

theorem uncalled_store (rows : List Row) (w : World (Noted σ)) :
    ((e.noting.store s rows).run.run w).2.outside.record = w.outside.record := by
  unfold store
  cases e.noting.caching
  · rfl
  · rfl

/-- Rows that may be in the cache are asked for by one call, or by none. -/
theorem calledOnce_fetchCached (w : World (Noted σ)) :
    ((e.noting.fetchCached s).run.run w).2.CalledOnce w.outside.record s := by
  have hlookup := e.uncalled_lookup (s := s) w
  refine run_bind_elim (M := fun p => World.CalledOnce w.outside.record s p.2) (fun err v hrun => ?_)
    fun found v hreturns => ?_
  · rw [hrun] at hlookup
    exact World.calledOnce_of_eq hlookup
  · unfold Returns at hreturns
    rw [hreturns] at hlookup
    cases found with
    | some rows => exact World.calledOnce_of_eq hlookup
    | none =>
      have hstore (rows : List Row) : Keeps (World.CalledOnce w.outside.record s)
          (e.noting.store s rows) := by
        rintro u ⟨calls, hrecord, hcalls⟩
        exact ⟨calls, (e.uncalled_store rows u).trans hrecord, hcalls⟩
      have hfetch := (ran_timed e.noting "select" (e.calls_fetch s) v).calledOnce
      rw [← hlookup]
      rw [← hlookup] at hstore
      exact Keeps.holds_bind hfetch fun rows => (hstore rows).bind fun _ => .of_pure _

/-- The first row of a query is asked for by one call of its SELECT, or by none. -/
theorem calledOnce_first {q : Query} (hs : Statement.select e.dialect q.firstOnly = .ok s)
    (w : World (Noted σ)) :
    ((e.noting.first q).run.run w).2.CalledOnce w.outside.record s := by
  have hselect : (ofResult (Statement.select e.noting.dialect q.firstOnly) :
      Run (Noted σ) Statement).Returns w s w := returns_ofResult.2 ⟨hs, rfl⟩
  unfold first
  rw [state_bind_pure]
  unfold get
  rw [hselect.run_bind, state_bind_pure]
  exact e.calledOnce_fetchCached w

/-- Where the SELECT cannot be written nothing is called. -/
theorem run_first_of_fault {q : Query} {err : Error}
    (hs : Statement.select e.dialect q.firstOnly = .error err) (w : World (Noted σ)) :
    (e.noting.first q).run.run w = (.error err, w) := by
  have hselect : (ofResult (Statement.select e.noting.dialect q.firstOnly) :
      Run (Noted σ) Statement).run.run w = (.error err, w) := by
    show (ofResult (Statement.select e.dialect q.firstOnly) : Run (Noted σ) Statement).run.run w = _
    rw [hs]
    rfl
  unfold first get
  exact run_bind_error (run_bind_error hselect _) _

/-- What comes of a statement that changes rows: it is not executed, or it is called. -/
inductive Performs (r : Result Statement) : Result ExecResult → List (Execution σ) → Prop
  | refused (err : Error) : Performs r (.error err) []
  | called (result : Result ExecResult) {s : Statement} {c : Execution σ} (written : r = .ok s)
    (runs : c.Runs s) : Performs r result [c]

theorem performs (r : Result Statement) (action : String) (w : World (Noted σ)) :
    ∃ result calls w', (e.noting.perform r action).run.run w = (result, w')
      ∧ w'.outside.record = w.outside.record ++ calls ∧ Performs r result calls := by
  cases r with
  | error err => exact ⟨.error err, [], w, rfl, (List.append_nil _).symm, .refused err⟩
  | ok s =>
    have hwritten : (ofResult (.ok s) : Run (Noted σ) Statement).Returns w s w := rfl
    have hran := ran_timed e.noting action (e.calls_run s) w
    unfold perform
    rw [hwritten.run_bind]
    unfold run
    rcases hrun : (e.noting.timed s action (e.noting.statements.execute s.sql s.bindings)).run.run w
      with ⟨result, w'⟩
    rw [hrun] at hran
    cases hran with
    | refused err uncalled =>
      exact ⟨_, [], w', rfl, uncalled.trans (List.append_nil _).symm, .refused err⟩
    | called result runs record => exact ⟨result, _, w', rfl, record, .called result rfl runs⟩

theorem Performs.length_le {r : Result Statement} {result : Result ExecResult}
    {calls : List (Execution σ)} (h : Performs r result calls) : calls.length ≤ 1 := by
  cases h with
  | refused err => exact Nat.zero_le 1
  | called result written runs => exact Nat.le_refl 1

theorem Performs.runs {r : Result Statement} {result : Result ExecResult}
    {calls : List (Execution σ)} (h : Performs r result calls) :
    ∀ c ∈ calls, ∃ s, r = .ok s ∧ c.Runs s := by
  intro c hc
  cases h with
  | refused err => cases hc
  | @called _ s c' written runs =>
    rw [List.mem_singleton.1 hc]
    exact ⟨s, written, runs⟩

/-- What succeeds was called. -/
theorem Performs.exists_call {r : Result Statement} {result : ExecResult}
    {calls : List (Execution σ)} (h : Performs r (.ok result) calls) :
    ∃ c ∈ calls, ∃ s, r = .ok s ∧ c.Runs s := by
  cases h with
  | @called _ s c written runs => exact ⟨c, List.mem_singleton_self c, s, written, runs⟩

/-! ## One operation -/

section Course

variable (q matched : Query) (attributes values : Row)

/-- What an operation does about what it found, and what it then has to answer with: the row that it
found, or nothing. -/
inductive Responds : Option Row → Result (Option Row) → List (Execution σ) → Prop
  /-- There is nothing to set on the rows. -/
  | kept (row : Row) (nothing : values = []) : Responds (some row) (.ok (some row)) []
  | updated (row : Row) (something : values ≠ []) {result : Result ExecResult}
    {calls : List (Execution σ)}
    (performed : Performs (Statement.update e.dialect matched values) result calls) :
    Responds (some row) (result.map fun _ => some row) calls
  | inserted {result : Result ExecResult} {calls : List (Execution σ)}
    (performed : Performs (Statement.insert e.dialect q.table (attributes.update values)) result
      calls) : Responds none (result.map fun _ => none) calls

/-- At most one call is made to look for the rows that match. -/
def Looks (lookups : List (Execution σ)) : Prop :=
  lookups.length ≤ 1
    ∧ ∀ c ∈ lookups, ∃ s, Statement.select e.dialect matched.firstOnly = .ok s ∧ c.Runs s

/-- The ways in which an operation can go from a world: what it has to answer with, its calls to
look, and its calls to write. -/
inductive Course (w : World (Noted σ)) :
    Result (Option Row) → List (Execution σ) → List (Execution σ) → Prop
  | unmatched {err : Error} (unmatched : q.matching attributes = .error err) :
    Course w (.error err) [] []
  | unread {matched : Query} {lookups : List (Execution σ)} (err : Error)
    (matching : q.matching attributes = .ok matched) (looks : e.Looks matched lookups) :
    Course w (.error err) lookups []
  | responds {matched : Query} {found : Option Row} {v : World (Noted σ)} {r : Result (Option Row)}
    {lookups writes : List (Execution σ)} (matching : q.matching attributes = .ok matched)
    (looks : e.Looks matched lookups) (reads : (e.noting.first matched).Returns w found v)
    (looked : v.outside.record = w.outside.record ++ lookups)
    (response : e.Responds q matched attributes values found r writes) : Course w r lookups writes

end Course

variable {q matched : Query} {attributes values : Row}

variable (q matched attributes values) in
/-- After it has looked, an operation responds. -/
theorem run_response (found : Option Row) (v : World (Noted σ)) :
    ∃ r writes w', (match found with
        | some row => do
          if !values.isEmpty then
            let _ ← e.noting.update matched values
          return some row
        | none => do
          let _ ← e.noting.insert q (attributes.update values)
          return none : Run (Noted σ) (Option Row)).run.run v = (r, w')
      ∧ w'.outside.record = v.outside.record ++ writes
      ∧ e.Responds q matched attributes values found r writes := by
  -- what follows a statement only says what is answered if the statement succeeds
  have answer {x : Run (Noted σ) ExecResult} {result : Result ExecResult} {w' : World (Noted σ)}
      (found : Option Row) (h : x.run.run v = (result, w')) :
      (x >>= fun _ => pure found).run.run v = (result.map fun _ => found, w') := by
    rw [run_bind_ofResult h]
    cases result <;> rfl
  cases found with
  | none =>
    obtain ⟨result, calls, w', hrun, hrecord, hperforms⟩ :=
      e.performs (Statement.insert e.dialect q.table (attributes.update values)) "insert" v
    exact ⟨_, calls, w', answer none hrun, hrecord, .inserted hperforms⟩
  | some row =>
    cases values with
    | nil => exact ⟨_, [], v, rfl, (List.append_nil _).symm, .kept row rfl⟩
    | cons value rest =>
      obtain ⟨result, calls, w', hrun, hrecord, hperforms⟩ :=
        e.performs (Statement.update e.dialect matched (value :: rest)) "update" v
      refine ⟨_, calls, w', ?_, hrecord, .updated row (List.cons_ne_nil value rest) hperforms⟩
      simp only [List.isEmpty_cons, Bool.not_false, if_true]
      unfold update change
      rw [bind_assoc]
      exact answer (some row) hrun

variable (q attributes values) in
/-- **An operation takes one of the courses**, and makes the calls of it. -/
theorem updateOr_course (w : World (Noted σ)) : ∃ r lookups writes w',
    (e.noting.updateOr q attributes values).run.run w = (r, w')
      ∧ w'.outside.record = w.outside.record ++ (lookups ++ writes)
      ∧ e.Course q attributes values w r lookups writes := by
  unfold updateOr
  cases hmatching : q.matching attributes with
  | error err => exact ⟨.error err, [], [], w, rfl, (List.append_nil _).symm, .unmatched hmatching⟩
  | ok matched =>
    have hmatched : (ofResult (.ok matched) : Run (Noted σ) Query).Returns w matched w := rfl
    rw [hmatched.run_bind]
    have looks : ∃ lookups, ((e.noting.first matched).run.run w).2.outside.record
        = w.outside.record ++ lookups ∧ e.Looks matched lookups := by
      cases hselect : Statement.select e.dialect matched.firstOnly with
      | error err =>
        refine ⟨[], ?_, Nat.zero_le 1, fun _ hc => (nomatch hc)⟩
        rw [e.run_first_of_fault hselect, List.append_nil]
      | ok s =>
        obtain ⟨calls, hrecord, hlength, hruns⟩ := e.calledOnce_first hselect w
        exact ⟨calls, hrecord, hlength, fun c hc => ⟨s, hselect, hruns c hc⟩⟩
    obtain ⟨lookups, hlooked, hlooks⟩ := looks
    obtain ⟨err, v, hrun, hbind⟩ | ⟨found, v, hreturns, hbind⟩ :=
      run_bind (e.noting.first matched) _ w
    · rw [hrun] at hlooked
      exact ⟨_, lookups, [], v, hbind, hlooked.trans (by rw [List.append_nil]),
        .unread err hmatching hlooks⟩
    · have hv : v.outside.record = w.outside.record ++ lookups := by
        unfold Returns at hreturns
        rw [hreturns] at hlooked
        exact hlooked
      obtain ⟨r, writes, w', hresponse, hrecord, hresponds⟩ :=
        e.run_response q matched attributes values found v
      refine ⟨r, lookups, writes, w', hbind.trans ?_, ?_,
        .responds hmatching hlooks hreturns hv hresponds⟩
      · cases found <;> exact hresponse
      · rw [hrecord, hv, List.append_assoc]

/-- The statements that insert and those that update are told apart by their texts. -/
theorem insert_ne_update {d : Dialect} {table : Option String} {row : Row} {s x : Statement}
    (hs : Statement.update d q values = .ok s) (hx : Statement.insert d table row = .ok x) :
    s.sql ≠ x.sql := by
  intro h
  have first := head_update hs
  rw [h, head_insert hx] at first
  exact absurd first (by decide)

/-- The two operations run the common flow and make their answers of what it answers. -/
theorem run_operations {w w' : World (Noted σ)} {r : Result (Option Row)}
    (h : (e.noting.updateOr q attributes values).run.run w = (r, w')) :
    (e.noting.updateOrInsert q attributes values).run.run w = (r.map Option.isNone, w')
      ∧ (e.noting.updateOrCreate q attributes values).run.run w
        = (r.map fun found => (found.getD attributes).update values, w') := by
  rw [updateOrInsert_eq, updateOrCreate_eq, run_bind_ofResult h, run_bind_ofResult h]
  cases r with
  | error err => exact ⟨rfl, rfl⟩
  | ok found => cases found <;> exact ⟨rfl, rfl⟩

/-- **Two operations that do the same.** Whatever the executor answers, `updateOrInsert` and
`updateOrCreate` leave the same world, in which the same calls were made with the same failures, and
fail with the same error. At most one call looks for the rows that match and at most one writes: an
INSERT only if none was found, and an UPDATE only if one was and there is something to set. If they
succeed, the first answers whether a row was inserted, and the second the row that was found, or else
the attributes, with the values in place of its own. -/
theorem upserts_alike (hvalues : (Row.columns values).Nodup) (w : World (Noted σ)) :
    ∃ (r : Result (Option Row)) (lookups writes : List (Execution σ)) (w' : World (Noted σ)),
      (e.noting.updateOrInsert q attributes values).run.run w = (r.map Option.isNone, w')
      ∧ (e.noting.updateOrCreate q attributes values).run.run w
        = (r.map fun found => (found.getD attributes).update values, w')
      ∧ w'.outside.record = w.outside.record ++ (lookups ++ writes)
      ∧ lookups.length ≤ 1 ∧ writes.length ≤ 1
      ∧ (∀ c ∈ lookups, ∃ matched s, q.matching attributes = .ok matched
        ∧ Statement.select e.dialect matched.firstOnly = .ok s ∧ c.Runs s)
      ∧ (∀ c ∈ writes, ∃ matched found v, q.matching attributes = .ok matched
        ∧ (e.noting.first matched).Returns w found v
        ∧ v.outside.record = w.outside.record ++ lookups
        ∧ (found = none ∧ (∃ s, Statement.insert e.dialect q.table (attributes.update values) = .ok s
            ∧ c.Runs s)
          ∨ found ≠ none ∧ values ≠ [] ∧ ∃ s, Statement.update e.dialect matched values = .ok s
            ∧ c.Runs s))
      ∧ ∀ found, r = .ok found →
        (∃ matched v, q.matching attributes = .ok matched
          ∧ (e.noting.first matched).Returns w found v)
        ∧ (found.isNone = true ↔ ∃ c ∈ writes, ∃ s,
          Statement.insert e.dialect q.table (attributes.update values) = .ok s ∧ c.Runs s)
        ∧ ∀ k, ((found.getD attributes).update values).lookup k
          = (values.lookup k).or ((found.getD attributes).lookup k) := by
  obtain ⟨r, lookups, writes, w', hrun, hrecord, hcourse⟩ :=
    e.updateOr_course q attributes values w
  obtain ⟨hinsert, hcreate⟩ := e.run_operations hrun
  refine ⟨r, lookups, writes, w', hinsert, hcreate, hrecord, ?_⟩
  cases hcourse with
  | unmatched hmatching =>
    exact ⟨Nat.zero_le 1, Nat.zero_le 1, fun _ hc => (nomatch hc), fun _ hc => (nomatch hc),
      fun _ h => nomatch h⟩
  | unread err hmatching hlooks =>
    refine ⟨hlooks.1, Nat.zero_le 1, fun c hc => ?_, fun _ hc => (nomatch hc), fun _ h => nomatch h⟩
    obtain ⟨s, hs, hc⟩ := hlooks.2 c hc
    exact ⟨_, s, hmatching, hs, hc⟩
  | @responds matched found v _ _ _ hmatching hlooks hreads hlooked hresponse =>
    have looked : ∀ c ∈ lookups, ∃ matched s, q.matching attributes = .ok matched
        ∧ Statement.select e.dialect matched.firstOnly = .ok s ∧ c.Runs s := by
      intro c hc
      obtain ⟨s, hs, hc⟩ := hlooks.2 c hc
      exact ⟨_, s, hmatching, hs, hc⟩
    have answered (found : Option Row) (k : String) :
        ((found.getD attributes).update values).lookup k
          = (values.lookup k).or ((found.getD attributes).lookup k) :=
      Row.lookup_update hvalues k
    cases hresponse with
    | kept row nothing =>
      refine ⟨hlooks.1, Nat.zero_le 1, looked, fun _ hc => (nomatch hc), fun found' h => ?_⟩
      cases h
      refine ⟨⟨matched, v, hmatching, hreads⟩, ?_, answered _⟩
      exact iff_of_false Bool.false_ne_true fun ⟨_, hc, _⟩ => nomatch hc
    | @updated row something result calls performed =>
      refine ⟨hlooks.1, performed.length_le, looked, fun c hc => ?_, fun found' h => ?_⟩
      · exact ⟨matched, some row, v, hmatching, hreads, hlooked,
          .inr ⟨Option.some_ne_none row, something, performed.runs c hc⟩⟩
      · obtain ⟨result, -, rfl⟩ := Result.map_eq_ok.1 h
        refine ⟨⟨matched, v, hmatching, hreads⟩, ?_, answered _⟩
        refine iff_of_false Bool.false_ne_true ?_
        rintro ⟨c, hc, x, hx, hruns⟩
        obtain ⟨s, hs, hruns'⟩ := performed.runs c hc
        exact insert_ne_update hs hx (hruns'.1.symm.trans hruns.1)
    | @inserted result calls performed =>
      refine ⟨hlooks.1, performed.length_le, looked, fun c hc => ?_, fun found' h => ?_⟩
      · exact ⟨matched, none, v, hmatching, hreads, hlooked, .inl ⟨rfl, performed.runs c hc⟩⟩
      · obtain ⟨result, rfl, rfl⟩ := Result.map_eq_ok.1 h
        exact ⟨⟨matched, v, hmatching, hreads⟩, iff_of_true rfl performed.exists_call, answered _⟩

end Engine

/-! ### A user who is there -/

/-- A table of users with one user. -/
def oneUser : World (Noted (List String)) where
  outside := ⟨["ada@example.org"], []⟩

/-- The user is found and renamed, and answered with the new name. -/
theorem oneUser_renamed : (Row.columns [("name", .text "Ada")]).Nodup ∧ ∃ w',
    (userEngine.noting.updateOrInsert register.query register.attributes
      [("name", .text "Ada")]).run.run oneUser = (.ok false, w')
    ∧ (userEngine.noting.updateOrCreate register.query register.attributes
        [("name", .text "Ada")]).run.run oneUser
      = (.ok [("email", .text "ada@example.org"), ("name", .text "Ada")], w')
    ∧ w'.outside.record.map Execution.sql
      = [userSelect, "UPDATE users SET name = ? WHERE email = ?"] := by
  have hcolumns : (Row.columns [("name", .text "Ada")]).Nodup := by decide
  obtain ⟨r, lookups, writes, w', hinsert, hcreate, -⟩ :=
    @Engine.upserts_alike _ userEngine register.query register.attributes _ hcolumns oneUser
  have inserted : r.map Option.isNone = .ok false := congrArg Prod.fst hinsert.symm
  have created : r.map (fun found => Row.update (found.getD register.attributes)
      [("name", .text "Ada")])
      = .ok [("email", .text "ada@example.org"), ("name", .text "Ada")] :=
    congrArg Prod.fst hcreate.symm
  have left : w' = ((userEngine.noting.updateOrInsert register.query register.attributes
      [("name", .text "Ada")]).run.run oneUser).2 := congrArg Prod.snd hinsert.symm
  rw [inserted] at hinsert
  rw [created] at hcreate
  refine ⟨hcolumns, w', hinsert, hcreate, ?_⟩
  rw [left]
  rfl

end SqlQuery
