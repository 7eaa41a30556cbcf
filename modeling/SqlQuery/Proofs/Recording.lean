import SqlQuery.Adapter.Connection
import SqlQuery.Adapter.Pool
import SqlQuery.Proofs.Effects

/-!
# States with a record beside them

What happened to a state that nothing is known of is written into a record beside it. An effect on
the state is carried out as before (`Recorded.act`) and leaves the record alone; the record is
written where it is said to be (`Recorded.write`), and nothing ever looks at it.

A connection whose driver writes an entry for each statement that it executes (`RecordsBy`) has that
entry after a statement, unless the statement failed before it was executed.
-/

namespace SqlQuery

/-- A state and a record of what happened to it. -/
structure Recorded (ρ σ : Type) where
  state : σ
  record : ρ

namespace Recorded

open Effect

variable {ρ σ α : Type}

/-- An effect on the state. -/
def act (x : Effect σ α) : Effect (Recorded ρ σ) α :=
  x.onPart Recorded.state fun state r => { r with state }

/-- Writes into the record. -/
def write (f : ρ → ρ) : Effect (Recorded ρ σ) Unit :=
  modify fun r => { r with record := f r.record }

/-- A statement whose rows are fetched from the state. -/
def executed (x : Executed σ) : Executed (Recorded ρ σ) where
  columns := x.columns
  fetches := x.fetches.map act
  fetchEnd := act x.fetchEnd
  rowCount := x.rowCount
  lastRowId := x.lastRowId

/-- Executes a statement and then writes its entry. -/
def enter (x : Effect σ (Executed σ)) (f : ρ → ρ) :
    Effect (Recorded ρ σ) (Executed (Recorded ρ σ)) := do
  let y ← act x
  write f
  return executed y

variable {k : ρ} {x : Effect σ α} {s s' : Recorded ρ σ} {a : α}

theorem act_keeps : Keeps (fun r => r.record = k) (act x) :=
  fun _ hr => hr

theorem run_act {answer : Result α} {t : σ} (h : x.run.run s.state = (answer, t)) :
    (act x : Effect (Recorded ρ σ) α).run.run s = (answer, { s with state := t }) :=
  run_onPart h

theorem returns_act (h : (act x).Returns s a s') :
    x.Returns s.state a s'.state ∧ s'.record = s.record := by
  obtain ⟨p, hx, rfl⟩ := returns_onPart.1 h
  exact ⟨hx, rfl⟩

theorem record_of_act (h : (act x).Returns s a s') : s'.record = s.record :=
  (returns_act h).2

theorem record_of_write {f : ρ → ρ} {u : Unit} (h : (write f).Returns s u s') :
    s'.record = f s.record := by
  rw [returns_modify.1 h]

theorem returns_enter {x : Effect σ (Executed σ)} {f : ρ → ρ} {y : Executed (Recorded ρ σ)}
    (h : (enter x f).Returns s y s') : s'.record = f s.record ∧ ∃ z, y = executed z := by
  obtain ⟨z, t, hx, h⟩ := returns_bind.1 h
  obtain ⟨_, u, hwrite, h⟩ := returns_bind.1 h
  obtain ⟨rfl, rfl⟩ := returns_pure.1 h
  rw [record_of_write hwrite, record_of_act hx]
  exact ⟨rfl, z, rfl⟩

theorem record_of_enter_error {x : Effect σ (Executed σ)} {f : ρ → ρ} {e : Error}
    (h : (enter x f).run.run s = (.error e, s')) : s'.record = s.record := by
  let M : Result (Executed (Recorded ρ σ)) × Recorded ρ σ → Prop := fun (answer, t) =>
    (∃ e, answer = .error e) → t.record = s.record
  have hM : M ((enter x f).run.run s) := by
    refine run_bind_elim (fun e t hx _ => act_keeps.of_run hx rfl) ?_
    rintro y t - ⟨e, he⟩
    cases he
  rw [h] at hM
  exact hM ⟨e, rfl⟩

/-! ## Fetching rows -/

section Fetching

variable (y : Executed σ)

theorem readAll_keeps (fetches : List (Effect σ (List Value))) :
    Keeps (fun r => r.record = k) ((executed y).readAll (fetches.map act)) := by
  induction fetches with
  | nil =>
    refine (Keeps.attempt act_keeps).bind fun answer => ?_
    cases answer with
    | ok => exact .of_pure _
    | error e => exact .of_pure _
  | cons fetch rest ih =>
    refine (Keeps.attempt act_keeps).bind fun answer => ?_
    cases answer with
    | ok values => exact ih.bind fun _ => .of_pure _
    | error e => exact .of_pure _

theorem readFirst_keeps : Keeps (fun r => r.record = k) (executed y).readFirst := by
  obtain ⟨columns, fetches, fetchEnd, rowCount, lastRowId⟩ := y
  cases fetches with
  | nil => exact act_keeps.bind fun _ => .of_pure none
  | cons fetch rest => exact act_keeps.bind fun _ => .of_pure _

end Fetching

end Recorded

/-! ## Statements of a connection -/

open Effect Recorded

variable {ρ δ α : Type}

/-- Of the calls that run a statement, only one that executes it writes into the record. -/
structure CursorDriver.RecordsBy (d : CursorDriver (Recorded ρ δ))
    (add : String → List Value → ρ → ρ) : Prop where
  openCursor : ∀ k, Keeps (fun r => r.record = k) d.openCursor
  closeCursor : ∀ k, Keeps (fun r => r.record = k) d.closeCursor
  executed : ∀ {sql bindings r x r'}, (d.execute sql bindings).Returns r x r' →
    r'.record = add sql bindings r.record ∧ ∃ y, x = Recorded.executed y
  failed : ∀ {sql bindings r e r'}, (d.execute sql bindings).run.run r = (.error e, r') →
    r'.record = r.record

namespace Connection

variable {d : CursorDriver (Recorded ρ δ)} {add : String → List Value → ρ → ρ} {sql : String}
  {bindings : List Value}

/-- Executing a statement ends with a new entry and rows beside the record, or fails and leaves the
record alone. -/
theorem run_openStatement (hd : d.RecordsBy add) {r s : Recorded ρ δ}
    {answer : Result (Executed (Recorded ρ δ))}
    (h : (openStatement d sql bindings).run.run r = (answer, s)) :
    match answer with
    | .ok x => s.record = add sql bindings r.record ∧ ∃ y, x = Recorded.executed y
    | .error _ => s.record = r.record := by
  let M : Result (Executed (Recorded ρ δ)) × Recorded ρ δ → Prop := fun (answer, s) =>
    match answer with
    | .ok x => s.record = add sql bindings r.record ∧ ∃ y, x = Recorded.executed y
    | .error _ => s.record = r.record
  suffices hM : M ((openStatement d sql bindings).run.run r) by
    rw [h] at hM
    cases answer <;> exact hM
  unfold openStatement
  refine run_bind_elim (fun e t hcursor => (hd.openCursor _).of_run hcursor rfl) ?_
  intro _ t hcursor
  have hopened : t.record = r.record := (hd.openCursor _).of_returns hcursor rfl
  rcases hexecute : (d.execute sql bindings).run.run t with ⟨executed, u⟩
  rw [(returns_attempt.2 hexecute).run_bind]
  cases executed with
  | ok x =>
    have hadded := hd.executed hexecute
    rw [hopened] at hadded
    exact hadded
  | error e =>
    have hfailed : u.record = r.record := (hd.failed hexecute).trans hopened
    refine run_bind_elim (fun e t hclose => (hd.closeCursor _).of_run hclose hfailed) ?_
    intro _ v hclose
    exact (hd.closeCursor _).of_returns hclose hfailed

/-- A statement is recorded once it is executed, and fails if it is not. -/
theorem run_withStatement (hd : d.RecordsBy add)
    {use : Executed (Recorded ρ δ) → Effect (Recorded ρ δ) α}
    {c c' : Connection (Recorded ρ δ)} {answer : Result α}
    (h : (withStatement d sql bindings use).run.run c = (answer, c'))
    (huse : ∀ (y : Executed δ) k, Keeps (fun r => r.record = k) (use (Recorded.executed y))) :
    c'.inTransaction = c.inTransaction ∧ c'.finished = c.finished
      ∧ (c'.driver.record = add sql bindings c.driver.record
        ∨ c'.driver.record = c.driver.record ∧ ∃ e, answer = .error e) := by
  let M : Result α × Recorded ρ δ → Prop := fun (answer, r) =>
    r.record = add sql bindings c.driver.record
      ∨ r.record = c.driver.record ∧ ∃ e, answer = .error e
  have hM : M ((openStatement d sql bindings >>= fun x => (use x).andThen d.closeCursor :
      Effect (Recorded ρ δ) α).run.run c.driver) := by
    refine run_bind_elim (fun e t hopen => .inr ⟨run_openStatement hd hopen, e, rfl⟩) ?_
    intro x t hopen
    obtain ⟨hadded, y, rfl⟩ := run_openStatement hd hopen
    exact .inl (((huse y _).andThen (hd.closeCursor _)) t hadded)
  cases h
  exact ⟨rfl, rfl, hM⟩

end Connection

end SqlQuery
