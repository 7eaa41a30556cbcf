import SqlQuery.Proofs.CompoundPaging
import SqlQuery.Proofs.Recording

/-!
# Histories of calls and visits

An executor and a visitor can be observed: they do what they do, and beside their state a history is
kept of the statements that reached the executor and of the values that the visitor was handed, with
its answers (`Engine.observed`, `Visitor.observed`). Nothing looks at the history.

A visitor hears a list of values if it is handed one after the other until it wants no more or fails
(`Hears`).
-/

namespace SqlQuery

open Effect Recorded

/-- Something that happens outside an engine. -/
inductive Event where
  /-- A statement reaches the executor. -/
  | call (sql : String) (bindings : List Value)
  /-- A visitor is handed a value and answers. -/
  | visit (v : Value) (answer : Result Value)

namespace Event

/-- The statements of a history. -/
def calls (events : List Event) : List (String × List Value) :=
  events.filterMap fun
    | call sql bindings => some (sql, bindings)
    | visit .. => none

/-- The visits of a history. -/
def visits (events : List Event) : List (Value × Result Value) :=
  events.filterMap fun
    | call .. => none
    | visit v answer => some (v, answer)

variable (events more : List Event)

@[simp] theorem calls_append : calls (events ++ more) = calls events ++ calls more :=
  List.filterMap_append

@[simp] theorem visits_append : visits (events ++ more) = visits events ++ visits more :=
  List.filterMap_append

@[simp] theorem calls_call (sql : String) (bindings : List Value) :
    calls (call sql bindings :: events) = (sql, bindings) :: calls events := rfl

@[simp] theorem visits_call (sql : String) (bindings : List Value) :
    visits (call sql bindings :: events) = visits events := rfl

@[simp] theorem calls_visit (v : Value) (answer : Result Value) :
    calls (visit v answer :: events) = calls events := rfl

@[simp] theorem visits_visit (v : Value) (answer : Result Value) :
    visits (visit v answer :: events) = (v, answer) :: visits events := rfl

end Event

/-! ## Observers -/

/-- A state with the history of what happened. -/
abbrev Observed (σ : Type) := Recorded (List Event) σ

variable {σ α : Type}

/-- An action that is an event. -/
def Effect.entered (event : Result α → Event) (x : Effect σ α) : Effect (Observed σ) α := do
  let r ← attempt (act x)
  write (· ++ [event r])
  ofResult r

/-- An action that is entered ends as it would alone. -/
theorem Effect.run_entered (event : Result α → Event) {x : Effect σ α} {o : Observed σ}
    {r : Result α} {t : σ} (hx : x.run.run o.state = (r, t)) :
    (x.entered event).run.run o = (r, { state := t, record := o.record ++ [event r] }) := by
  unfold entered
  rw [(returns_attempt.2 (run_act hx)).run_bind]
  cases r <;> rfl

def Statements.observed (st : Statements σ) : Statements (Observed σ) where
  query sql bindings := (st.query sql bindings).entered fun _ => .call sql bindings
  queryOne sql bindings := (st.queryOne sql bindings).entered fun _ => .call sql bindings
  execute sql bindings := (st.execute sql bindings).entered fun _ => .call sql bindings

def Engine.observed (e : Engine σ) : Engine (Observed σ) where
  dialect := e.dialect
  statements := e.statements.observed
  caching := e.caching
  wait := e.wait
  clock o := e.clock o.state

def Visitor.observed (visitor : Visitor σ) : Visitor (Observed σ) :=
  fun v => (visitor v).entered (.visit v)

/-- Between two worlds some events happened, and the engine keeps what it had. -/
structure World.Goes (w : World (Observed σ)) (events : List Event) (w' : World (Observed σ)) :
    Prop where
  record : w'.outside.record = w.outside.record ++ events
  cache : w'.cache = w.cache
  limiter : w'.limiter = w.limiter

namespace World.Goes

variable {w w' w'' : World (Observed σ)} {events more : List Event}

theorem refl (w : World (Observed σ)) : w.Goes [] w where
  record := (List.append_nil _).symm
  cache := rfl
  limiter := rfl

theorem trans (h : w.Goes events w') (h' : w'.Goes more w'') : w.Goes (events ++ more) w'' where
  record := by rw [h'.record, h.record, List.append_assoc]
  cache := h'.cache.trans h.cache
  limiter := h'.limiter.trans h.limiter

theorem leaves (h : w.Goes events w') : w.Leaves w'.outside w' where
  outside := rfl
  cache := h.cache
  limiter := h.limiter

end World.Goes

section Reads

variable {e : Engine σ} {w : World (Observed σ)} {s : Statement} {rows : List Row} {t : σ}

/-- An observed executor answers a statement with the same rows. -/
theorem Engine.returns_readRows_observed {o : Observed σ}
    (h : (e.readRows s).Returns o.state rows t) : (e.observed.readRows s).Returns o rows
      { state := t, record := o.record ++ [.call s.sql s.bindings] } := by
  let put (y : σ) : Observed σ :=
    { state := y, record := o.record ++ [.call s.sql s.bindings] }
  exact Engine.returns_readRows_of_query put
    (fun _ _ hquery => Effect.run_entered _ hquery) h

/-- A query is one call. -/
theorem Engine.returns_get_observed (hopen : e.observed.Open w) {q : Query}
    (hs : Statement.select e.dialect q = .ok s)
    (hrows : (e.readRows s).Returns w.outside.state rows t) :
    ∃ w', (e.observed.get q).Returns w ⟨rows⟩ w' ∧ w.Goes [.call s.sql s.bindings] w' := by
  obtain ⟨w', hget, hleaves⟩ :=
    Engine.returns_get_of_readRows hopen hs (Engine.returns_readRows_observed hrows)
  exact ⟨w', hget, congrArg Recorded.record hleaves.outside, hleaves.cache, hleaves.limiter⟩

end Reads

/-! ## Values that are heard -/

/-- A visitor is handed values, one after the other, until it answers no or fails. The visits are
what it was handed, and the outcome is what a loop over the values answers. -/
inductive Hears : List Value → List (Value × Result Value) → Result Bool → Prop
  | all : Hears [] [] (.ok true)
  | more {v answer : Value} {vs : List Value} {visits : List (Value × Result Value)}
    {outcome : Result Bool} (hmore : answer ≠ .bool false) (hrest : Hears vs visits outcome) :
    Hears (v :: vs) ((v, .ok answer) :: visits) outcome
  | no (v : Value) (vs : List Value) : Hears (v :: vs) [(v, .ok (.bool false))] (.ok false)
  | fails (v : Value) (vs : List Value) (err : Error) :
    Hears (v :: vs) [(v, .error err)] (.error err)

namespace Hears

variable {vs more : List Value} {visits later : List (Value × Result Value)}
  {outcome : Result Bool}

/-- The values that were handed over are the first of those there are. -/
theorem values (h : Hears vs visits outcome) : visits.map Prod.fst = vs.take visits.length := by
  induction h with
  | all => rfl
  | more hmore hrest ih => exact congrArg _ ih
  | no v vs => rfl
  | fails v vs err => rfl

theorem length_le (h : Hears vs visits outcome) : visits.length ≤ vs.length := by
  have hvalues := congrArg List.length h.values
  rw [List.length_map, List.length_take] at hvalues
  omega

/-- A visitor who never wants to stop is handed all values. -/
theorem length_of_true (h : Hears vs visits (.ok true)) : visits.length = vs.length := by
  generalize htrue : (.ok true : Result Bool) = outcome at h
  induction h with
  | all => rfl
  | more hmore hrest ih => exact congrArg _ (ih htrue)
  | no v vs => cases htrue
  | fails v vs err => cases htrue

/-- Only a visit can end a loop early. -/
theorem length_pos (h : Hears vs visits outcome) (hstop : outcome ≠ .ok true) :
    0 < visits.length := by
  cases h with
  | all => exact absurd rfl hstop
  | more hmore hrest => exact Nat.succ_pos _
  | no v vs => exact Nat.one_pos
  | fails v vs err => exact Nat.one_pos

theorem append (h : Hears vs visits (.ok true)) (hmore : Hears more later outcome) :
    Hears (vs ++ more) (visits ++ later) outcome := by
  generalize htrue : (.ok true : Result Bool) = answer at h
  induction h with
  | all => exact hmore
  | more hwants hrest ih => exact .more hwants (ih htrue)
  | no v vs => cases htrue
  | fails v vs err => cases htrue

theorem append_of_stop (h : Hears vs visits outcome) (hstop : outcome ≠ .ok true) :
    Hears (vs ++ more) visits outcome := by
  induction h with
  | all => exact absurd rfl hstop
  | more hwants hrest ih => exact .more hwants (ih hstop)
  | no v vs => exact .no v _
  | fails v vs err => exact .fails v _ err

end Hears

/-- In any world a run hands values to a visitor, and makes no calls. -/
def Run.HandsOver (x : Run (Observed σ) Bool) (vs : List Value) : Prop :=
  ∀ w, ∃ outcome events w', x.run.run w = (outcome, w') ∧ w.Goes events w'
    ∧ Event.calls events = [] ∧ Hears vs (Event.visits events) outcome

namespace Run.HandsOver

variable {x : Run (Observed σ) Bool} {vs more : List Value}

theorem nil : Run.HandsOver (pure true : Run (Observed σ) Bool) [] :=
  fun w => ⟨.ok true, [], w, rfl, .refl w, rfl, .all⟩

/-- After a run that did not end early, more values are handed over. -/
theorem andThen {next : Run (Observed σ) Bool} (h : Run.HandsOver x vs)
    (hnext : Run.HandsOver next more) :
    Run.HandsOver (do if ← x then next else return false) (vs ++ more) := by
  intro w
  obtain ⟨outcome, events, w₁, hrun, hgoes, hcalls, hears⟩ := h w
  cases outcome with
  | error err =>
    exact ⟨_, events, w₁, run_bind_error hrun _, hgoes, hcalls,
      hears.append_of_stop fun htrue => nomatch htrue⟩
  | ok wants =>
    cases wants with
    | false =>
      exact ⟨_, events, w₁, Returns.run_bind hrun _, hgoes, hcalls,
        hears.append_of_stop fun htrue => nomatch htrue⟩
    | true =>
      obtain ⟨outcome, later, w₂, hrun', hgoes', hcalls', hears'⟩ := hnext w₁
      refine ⟨outcome, events ++ later, w₂, (Returns.run_bind hrun _).trans hrun',
        hgoes.trans hgoes', ?_, ?_⟩
      · rw [Event.calls_append, hcalls, hcalls']
        rfl
      · rw [Event.visits_append]
        exact hears.append hears'

variable (visitor : Visitor σ)

theorem wantsMore (v : Value) : Run.HandsOver (visitor.observed.wantsMore v) [v] := by
  intro w
  rcases hanswer : (visitor v).run.run w.outside.state with ⟨r, t⟩
  let w' : World (Observed σ) :=
    { w with outside := { state := t, record := w.outside.record ++ [.visit v r] } }
  have hvisit : (Run.outside (visitor.observed v)).run.run w = (r, w') :=
    run_onPart (Effect.run_entered (.visit v) hanswer)
  have hgoes : w.Goes [.visit v r] w' := ⟨rfl, rfl, rfl⟩
  cases r with
  | error err => exact ⟨_, _, w', run_bind_error hvisit _, hgoes, rfl, .fails v [] err⟩
  | ok answer =>
    have hrun : (visitor.observed.wantsMore v).run.run w = _ := Returns.run_bind hvisit _
    by_cases hno : answer = .bool false
    · subst hno
      exact ⟨_, _, w', hrun, hgoes, rfl, .no v []⟩
    · refine ⟨.ok true, _, w', hrun.trans ?_, hgoes, rfl, .more hno .all⟩
      split
      · exact absurd rfl hno
      · rfl

theorem batch (rows : List Row) :
    Run.HandsOver (visitor.observed.batch rows) [.list (rows.map .mapping)] :=
  wantsMore visitor _

theorem visitRows (rows : List Row) :
    Run.HandsOver (Batches.visitRows visitor.observed.row rows) (rows.map .mapping) := by
  induction rows with
  | nil => exact .nil
  | cons row rows ih => exact (wantsMore visitor (.mapping row)).andThen ih

end Run.HandsOver

end SqlQuery
