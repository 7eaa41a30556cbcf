import SqlQuery.Proofs.CommonFlow
import SqlQuery.Proofs.Effects

/-!
# What an engine sends

An executor is a state of its own that nothing is known of, so what an engine sends to it is said
through an invariant: a property of the executor's state that each of some statements keeps, however
it is run, is kept by an operation that sends no other statement. The layers around an execution
never touch that state.
-/

namespace SqlQuery

variable {σ α β : Type}

/-! ## Layers -/

/-- A computation in a world that keeps a property of the executor's state. -/
def Run.Keeps (I : σ → Prop) (x : Run σ α) : Prop :=
  Effect.Keeps (fun w => I w.outside) x

namespace Run

variable {I : σ → Prop}

theorem outside_keeps {x : Effect σ α} (hx : x.Keeps I) : Keeps I (outside x) := by
  intro w hw
  exact hx w.outside hw

theorem observe_keeps (s : Statement) : Keeps I (observe s) :=
  fun _ hw => hw

theorem record_keeps (s : Statement) (error : Option Error) : Keeps I (record s error) :=
  fun _ hw => hw

/-- A world in which another part is replaced. -/
theorem set_keeps {w : World σ} (hw : I w.outside) : Keeps I (set w : Run σ Unit) :=
  fun _ _ => hw

/-- What is done next may depend on the world. -/
theorem get_bind_keeps {f : World σ → Run σ α} (hf : ∀ w, I w.outside → Keeps I (f w)) :
    Keeps I (get >>= f) := by
  intro w hw
  exact hf w hw w hw

theorem takeSlot_keeps (wait : Wait) : Keeps I (takeSlot wait : Run σ Unit) := by
  refine get_bind_keeps fun w hw => ?_
  cases w.limiter with
  | none => exact .of_pure ()
  | some limiter => exact Effect.Keeps.bind_result fun _ _ => set_keeps hw

theorem giveSlot_keeps : Keeps I (giveSlot : Run σ Unit) := by
  refine get_bind_keeps fun w hw => ?_
  cases w.limiter with
  | none => exact .of_pure ()
  | some limiter => exact Effect.Keeps.bind (set_keeps hw) fun _ => .of_result _

theorem withSlot_keeps {wait : Wait} {body : Run σ α} (hbody : Keeps I body) :
    Keeps I (withSlot wait body) :=
  (takeSlot_keeps wait).bind fun _ => hbody.andThen giveSlot_keeps

end Run

/-! ## Executions -/

/-- Running a statement, in any of the three ways, keeps a property of the executor's state. -/
structure Statements.Keep (st : Statements σ) (I : σ → Prop) (s : Statement) : Prop where
  query : (st.query s.sql s.bindings).Keeps I
  queryOne : (st.queryOne s.sql s.bindings).Keeps I
  execute : (st.execute s.sql s.bindings).Keeps I

namespace Engine

open Effect

variable {I : σ → Prop} {e : Engine σ} {s : Statement}

theorem timed_keeps (s : Statement) (action : String) {call : Effect σ α} (hcall : call.Keeps I) :
    Run.Keeps I (e.timed s action call) := by
  refine (Run.observe_keeps s).bind fun _ => Run.withSlot_keeps ?_
  refine (Run.outside_keeps hcall).attempt.bind fun answer => ?_
  cases answer with
  | ok x => exact (Run.record_keeps s none).bind fun _ => .of_pure x
  | error err =>
    by_cases hlogged : isLogged err
    · simp only [hlogged, if_true]
      exact (Run.record_keeps s (some err)).bind fun _ => .of_throw _
    · simp only [hlogged]
      exact .of_throw _

theorem fetch_keeps (action : String) (hs : e.statements.Keep I s) :
    Run.Keeps I (e.fetch s action) := by
  refine timed_keeps s action (hs.query.bind fun reading => ?_)
  cases reading.materialize with
  | ok rows => exact .of_pure rows
  | error err => exact .of_throw err

theorem lookup_keeps (s : Statement) : Run.Keeps I (e.lookup s) := by
  refine Run.get_bind_keeps fun w hw => ?_
  split
  · exact Effect.Keeps.bind (Run.set_keeps hw) fun _ => .of_pure _
  · exact .of_pure none

theorem store_keeps (s : Statement) (rows : List Row) : Run.Keeps I (e.store s rows) := by
  intro w hw
  show I (if e.caching then _ else _ : World σ).outside
  split <;> exact hw

/-- A read sends its statement, or nothing if the cache has the rows. -/
theorem fetchCached_keeps (hs : e.statements.Keep I s) : Run.Keeps I (e.fetchCached s) := by
  refine Effect.Keeps.bind (lookup_keeps s) fun cached => ?_
  cases cached with
  | some rows => exact (Run.observe_keeps s).bind fun _ => .of_pure rows
  | none =>
    exact (fetch_keeps "select" hs).bind fun rows =>
      (store_keeps s rows).bind fun _ => .of_pure rows

theorem get_keeps {q : Query}
    (h : ∀ s, Statement.select e.dialect q = .ok s → e.statements.Keep I s) :
    Run.Keeps I (e.get q) :=
  Effect.Keeps.bind_result fun s hs => (fetchCached_keeps (h s hs)).bind fun _ => .of_pure _

end Engine

end SqlQuery
