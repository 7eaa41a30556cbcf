import SqlQuery.Proofs.Compositions
import SqlQuery.Proofs.Recording

/-!
# Calls of an executor

An executor is noting if it keeps a record of the calls that are made on it, in the order in which
they end (`Statements.noting`). It answers as before and nothing looks at the record, so whatever an
engine does on a noting executor it does on the executor itself.

A statement that an engine runs is one call, or none if no slot is given (`Calls`).
-/

namespace SqlQuery

open Effect

variable {σ α β : Type}

/-- Why a computation failed, if it did. -/
def Result.failure? (r : Result α) : Option Error :=
  match r with
  | .ok _ => none
  | .error e => some e

@[simp] theorem Result.failure?_error (e : Error) :
    Result.failure? (.error e : Result α) = some e := rfl

/-- An execution: one call of an executor. -/
structure Execution (σ : Type) where
  sql : String
  bindings : List Value
  /-- Why the call or the reading of its rows failed, if it did. -/
  failure : Option Error
  /-- The state of the executor after it. -/
  after : σ

/-- A state with the calls that were made on it, oldest first. -/
abbrev Noted (σ : Type) := Recorded (List (Execution σ)) σ

/-- The state after one more call. -/
def Recorded.called (n : Noted σ) (s : Statement) (failure : Option Error) (t : σ) : Noted σ where
  state := t
  record := n.record ++ [⟨s.sql, s.bindings, failure, t⟩]

@[simp] theorem Recorded.called_record (n : Noted σ) (s : Statement) (failure : Option Error)
    (t : σ) : (n.called s failure t).record = n.record ++ [⟨s.sql, s.bindings, failure, t⟩] := rfl

/-! ## Executors that note their calls -/

/-- An action of an executor that is noted as a call. -/
def Effect.noted (sql : String) (bindings : List Value) (failure : Result α → Option Error)
    (x : Effect σ α) : Effect (Noted σ) α := do
  let r ← attempt (Recorded.act x)
  modify fun n => { n with record := n.record ++ [⟨sql, bindings, failure r, n.state⟩] }
  ofResult r

/-- An action that is noted ends as it would alone. -/
theorem Effect.run_noted (sql : String) (bindings : List Value)
    (failure : Result α → Option Error) {x : Effect σ α} {n : Noted σ} {r : Result α} {t : σ}
    (hx : x.run.run n.state = (r, t)) : (noted sql bindings failure x).run.run n
      = (r, { state := t, record := n.record ++ [⟨sql, bindings, failure r, t⟩] }) := by
  unfold noted
  rw [(returns_attempt.2 (Recorded.run_act hx)).run_bind]
  cases r <;> rfl

/-- Statements that note each call. A call for rows fails as well if they cannot be read. -/
def Statements.noting (st : Statements σ) : Statements (Noted σ) where
  query sql bindings :=
    noted sql bindings (fun r => Result.failure? (r.bind Reading.materialize))
      (st.query sql bindings)
  queryOne sql bindings := noted sql bindings Result.failure? (st.queryOne sql bindings)
  execute sql bindings := noted sql bindings Result.failure? (st.execute sql bindings)

/-- An engine whose executor notes each call. -/
def Engine.noting (e : Engine σ) : Engine (Noted σ) where
  dialect := e.dialect
  statements := e.statements.noting
  caching := e.caching
  wait := e.wait
  clock n := e.clock n.state

@[simp] theorem Engine.noting_caching (e : Engine σ) : e.noting.caching = e.caching := rfl

/-- A world in which the executor's state became another by itself. -/
def World.elapsed (w : World (Noted σ)) (f : σ → σ) : World (Noted σ) :=
  { w with outside := { w.outside with state := f w.outside.state } }

/-- Visitors work on the state, and what they do is no call. -/
def Visitor.noting (visitor : Visitor σ) : Visitor (Noted σ) :=
  fun v => Recorded.act (visitor v)

/-! ## Statements are one call -/

/-- An effect that is one call for a statement: the call fails as the effect does. -/
def Effect.Calls (s : Statement) (x : Effect (Noted σ) α) : Prop :=
  ∀ n, ∃ r t, x.run.run n = (r, n.called s (Result.failure? r) t)

section Calls

variable (e : Engine σ) (s : Statement)

/-- A query is one call, whatever is done with its rows. -/
theorem Engine.query_noted (n : Noted σ) : ∃ r n' c,
    (e.noting.statements.query s.sql s.bindings).run.run n = (r, n')
      ∧ n'.record = n.record ++ [c] := by
  rcases hquery : (e.statements.query s.sql s.bindings).run.run n.state with ⟨r, t⟩
  exact ⟨r, _, _, run_noted _ _ _ hquery, rfl⟩

/-- A query whose rows are read is one call, and fails if the rows cannot be read. -/
theorem Engine.run_fetching {n : Noted σ} {r : Result Reading} {t : σ}
    (hquery : (e.statements.query s.sql s.bindings).run.run n.state = (r, t)) :
    (do
      match (← e.noting.statements.query s.sql s.bindings).materialize with
      | .ok rows => return rows
      | .error err => throw err : Effect (Noted σ) (List Row)).run.run n
      = (r.bind Reading.materialize,
        n.called s (Result.failure? (r.bind Reading.materialize)) t) := by
  have hnoted := run_noted s.sql s.bindings
    (fun r => Result.failure? (r.bind Reading.materialize)) hquery
  cases r with
  | error err => exact run_bind_error hnoted _
  | ok reading =>
    refine (Returns.run_bind hnoted _).trans ?_
    simp only [Except.bind]
    cases reading.materialize <;> rfl

theorem Engine.calls_fetch : Calls s (do
    match (← e.noting.statements.query s.sql s.bindings).materialize with
    | .ok rows => return rows
    | .error err => throw err : Effect (Noted σ) (List Row)) := by
  intro n
  rcases hquery : (e.statements.query s.sql s.bindings).run.run n.state with ⟨r, t⟩
  exact ⟨_, t, e.run_fetching s hquery⟩

theorem Engine.calls_fetchOne : Calls s (do
    return (← e.noting.statements.queryOne s.sql s.bindings).map Row.normalize :
      Effect (Noted σ) (Option Row)) := by
  intro n
  rcases hquery : (e.statements.queryOne s.sql s.bindings).run.run n.state with ⟨r, t⟩
  have hnoted := run_noted s.sql s.bindings Result.failure? hquery
  cases r with
  | error err => exact ⟨.error err, t, run_bind_error hnoted _⟩
  | ok row => exact ⟨.ok (row.map Row.normalize), t, Returns.run_bind hnoted _⟩

theorem Engine.calls_run : Calls s (e.noting.statements.execute s.sql s.bindings) := by
  intro n
  rcases hexecute : (e.statements.execute s.sql s.bindings).run.run n.state with ⟨r, t⟩
  exact ⟨r, t, run_noted _ _ _ hexecute⟩

end Calls

/-! ## What is logged of a call -/

/-- Failures of the library's own are not logged, unless they are failures of a row. -/
def Execution.isLogged (c : Execution σ) : Bool :=
  c.failure.all Engine.isLogged

/-- The entry of a call. Durations are not measured. -/
def Execution.entry (c : Execution σ) : LogEntry where
  sql := .text c.sql
  bindings := c.bindings
  duration := .double (.zero false)
  error := c.failure.map Error.inspect

/-- The entries of calls, in their order. -/
def loggedEntries (calls : List (Execution σ)) : List LogEntry :=
  (calls.filter Execution.isLogged).map Execution.entry

@[simp] theorem loggedEntries_append (cs ds : List (Execution σ)) :
    loggedEntries (cs ++ ds) = loggedEntries cs ++ loggedEntries ds := by
  simp [loggedEntries]

theorem loggedEntries_logged {c : Execution σ} (h : c.isLogged = true) :
    loggedEntries [c] = [c.entry] := by
  simp [loggedEntries, h]

theorem loggedEntries_unlogged {c : Execution σ} (h : c.isLogged = false) :
    loggedEntries [c] = [] := by
  simp [loggedEntries, h]

theorem loggedEntries_of_all {calls : List (Execution σ)} (h : ∀ c ∈ calls, c.isLogged = true) :
    loggedEntries calls = calls.map Execution.entry := by
  rw [loggedEntries, List.filter_eq_self.2 h]

namespace QueryLog

/-- A log after more executions. -/
def extend (log : QueryLog) (entries : List LogEntry) : QueryLog :=
  entries.foldl record log

@[simp] theorem extend_nil (log : QueryLog) : log.extend [] = log := rfl

theorem extend_append (log : QueryLog) (xs ys : List LogEntry) :
    log.extend (xs ++ ys) = (log.extend xs).extend ys :=
  List.foldl_append

/-- There is room for a number of executions more. -/
def HasRoom (log : QueryLog) (count : Nat) : Prop :=
  ∀ n ∈ log.capacity, log.entries.length + count ≤ n

theorem entries_record {log : QueryLog} {x : LogEntry} (h : log.HasRoom 1) :
    (log.record x).entries = log.entries ++ [x] := by
  unfold record
  cases hcapacity : log.capacity with
  | none => rfl
  | some n =>
    have hn := h n hcapacity
    simp only [List.length_append, List.length_singleton]
    rw [Nat.sub_eq_zero_of_le hn, List.drop_zero]

/-- A log with room for them keeps all executions in their order. -/
theorem entries_extend {log : QueryLog} {xs : List LogEntry} (h : log.HasRoom xs.length) :
    (log.extend xs).entries = log.entries ++ xs := by
  induction xs generalizing log with
  | nil => simp
  | cons x xs ih =>
    have hone : log.HasRoom 1 := by
      intro n hn
      have hall := h n hn
      simp only [List.length_cons] at hall
      omega
    have hrest : (log.record x).HasRoom xs.length := by
      intro n hn
      have hall := h n hn
      rw [entries_record hone]
      simp only [List.length_cons, List.length_append, List.length_nil] at hall ⊢
      omega
    show ((log.record x).extend xs).entries = _
    rw [ih hrest, entries_record hone]
    simp

end QueryLog

end SqlQuery
