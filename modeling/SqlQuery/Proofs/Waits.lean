import SqlQuery.Execution.Operation
import SqlQuery.Proofs.Effects

/-!
# How reads wait for a slot

Without a limit on the executions at once nobody waits, and how an engine would wait makes no
difference. With one, a caller who has given up waits for nothing: the first statement of a read is
not run.
-/

namespace SqlQuery

open Effect

variable {σ α β : Type}

/-- Two effects that do the same on the states of a kind, and leave such a state. -/
def Effect.SameOn (I : σ → Prop) (x y : Effect σ α) : Prop :=
  ∀ s, I s → x.run.run s = y.run.run s ∧ I (x.run.run s).2

namespace Effect.SameOn

variable {I : σ → Prop} {x y : Effect σ α}

theorem of_keeps (hx : Keeps I x) : SameOn I x x :=
  fun s hs => ⟨rfl, hx s hs⟩

theorem bind {f g : α → Effect σ β} (hx : SameOn I x y) (hf : ∀ a, SameOn I (f a) (g a)) :
    SameOn I (x >>= f) (y >>= g) := by
  intro s hs
  obtain ⟨hsame, hkept⟩ := hx s hs
  obtain ⟨e, t, hrun, hbind⟩ | ⟨a, t, hrun, hbind⟩ := run_bind x f s
  · rw [hrun] at hkept
    rw [hbind, run_bind_error (hsame.symm.trans hrun) g]
    exact ⟨rfl, hkept⟩
  · have hy : y.Returns s a t := hsame.symm.trans hrun
    have hrest := hf a t (by rw [hrun] at hkept; exact hkept)
    rw [hbind, hy.run_bind]
    exact hrest

/-- What follows is the same on both sides. -/
theorem then_keeps {f : α → Effect σ β} (hx : SameOn I x y) (hf : ∀ a, Keeps I (f a)) :
    SameOn I (x >>= f) (y >>= f) :=
  hx.bind fun a => of_keeps (hf a)

end Effect.SameOn

/-! ## Without a limit -/

/-- Nothing limits how many statements run at once. -/
def World.Unlimited (w : World σ) : Prop :=
  w.limiter = none

namespace Run

open World

theorem takeSlot_unlimited {w : World σ} (hw : w.Unlimited) (wait : Wait) :
    (takeSlot wait : Run σ Unit).run.run w = (.ok (), w) := by
  unfold takeSlot
  rw [run_get_bind, hw]
  rfl

theorem giveSlot_unlimited : Effect.Keeps Unlimited (giveSlot : Run σ Unit) := by
  intro w hw
  unfold giveSlot
  rw [run_get_bind, hw]
  exact hw

theorem withSlot_unlimited {body : Run σ α} (hbody : Effect.Keeps Unlimited body)
    (wait wait' : Wait) : SameOn Unlimited (withSlot wait body) (withSlot wait' body) := by
  intro w hw
  have hrun : ∀ wait, (withSlot wait body).run.run w = (body.andThen giveSlot).run.run w :=
    fun wait => Returns.run_bind (takeSlot_unlimited hw wait) _
  rw [hrun, hrun]
  exact ⟨rfl, hbody.andThen giveSlot_unlimited w hw⟩

end Run

namespace Engine

open World Run

variable (e : Engine σ) (wait : Wait) {s : Statement} {q : Query}

/-- An engine that waits in another way. -/
def waiting : Engine σ :=
  { e with wait }

theorem timed_waiting (action : String) (call : Effect σ α) :
    SameOn Unlimited ((e.waiting wait).timed s action call) (e.timed s action call) := by
  refine (SameOn.of_keeps fun _ hw => hw).bind fun _ => withSlot_unlimited ?_ _ _
  refine Keeps.bind (fun _ hw => hw) fun answer => ?_
  cases answer with
  | ok x => exact Keeps.bind (fun _ hw => hw) fun _ => .of_pure x
  | error err =>
    by_cases hlogged : isLogged err = true
    · simp only [hlogged, if_true]
      exact Keeps.bind (fun _ hw => hw) fun _ => .of_throw _
    · simp only [hlogged]
      exact .of_throw _

theorem fetch_waiting (s : Statement) (action : String) :
    SameOn Unlimited ((e.waiting wait).fetch s action) (e.fetch s action) :=
  timed_waiting e wait action _

theorem lookup_unlimited (s : Statement) : Keeps Unlimited (e.lookup s) := by
  intro w hw
  unfold lookup
  rw [run_get_bind]
  split
  · exact hw
  · exact hw

theorem store_unlimited (s : Statement) (rows : List Row) : Keeps Unlimited (e.store s rows) := by
  intro w hw
  change World.Unlimited (if e.caching then _ else w)
  split
  · exact hw
  · exact hw

theorem fetchCached_waiting (s : Statement) :
    SameOn Unlimited ((e.waiting wait).fetchCached s) (e.fetchCached s) := by
  refine (SameOn.of_keeps (e.lookup_unlimited s)).bind fun found => ?_
  cases found with
  | some rows => exact .of_keeps fun _ hw => hw
  | none =>
    refine (e.fetch_waiting wait s _).bind fun rows => ?_
    exact .of_keeps ((e.store_unlimited s rows).bind fun _ => .of_pure rows)

theorem get_waiting (q : Query) : SameOn Unlimited ((e.waiting wait).get q) (e.get q) := by
  refine (SameOn.of_keeps (.of_result (Statement.select e.dialect q))).bind fun s => ?_
  exact (e.fetchCached_waiting wait s).then_keeps fun _ => .of_pure _

theorem aggregate_waiting (q : Query) (fn : Aggregate) (column : ColumnName) :
    SameOn Unlimited ((e.waiting wait).aggregate q fn column) (e.aggregate q fn column) := by
  refine (SameOn.of_keeps (.of_result (q.aggregateStatement e.dialect fn column))).bind fun s => ?_
  exact (e.fetch_waiting wait s _).then_keeps fun _ => .of_result _

theorem paginate_waiting (q : Query) (r : PageRequest) :
    SameOn Unlimited ((e.waiting wait).paginate q r) (e.paginate q r) := by
  refine (e.aggregate_waiting wait q.counting .count _).bind fun total => ?_
  refine (e.get_waiting wait _).then_keeps fun rows => ?_
  exact (Keeps.of_result _).bind fun _ => .of_pure _

theorem paginateOf_waiting (q : Query) (n : PageNumbers) :
    SameOn Unlimited ((e.waiting wait).paginateOf q n) (e.paginateOf q n) := by
  refine (e.aggregate_waiting wait q.counting .count _).bind fun total => ?_
  refine (SameOn.of_keeps (.of_result _)).bind fun page => ?_
  refine (e.get_waiting wait _).then_keeps fun rows => ?_
  exact (Keeps.of_result _).bind fun _ => .of_pure _

end Engine

/-! ## A caller who has given up -/

/-- Nobody waits for a slot any more, and what is read comes from the executor. -/
structure Engine.GivenUp (e : Engine σ) (w : World σ) : Prop where
  fault : e.wait.fault = none
  cancelled : e.wait.cancelled = true
  limited : ∃ limiter, w.limiter = some limiter
  uncached : e.Uncached w

namespace Engine.GivenUp

variable {e : Engine σ} {w : World σ} {s : Statement} {q : Query}

theorem run_takeSlot (h : e.GivenUp w) :
    (Run.takeSlot e.wait : Run σ Unit).run.run w = (.error (.cancelled .signalled), w) := by
  obtain ⟨limiter, hlimiter⟩ := h.limited
  have hacquire : limiter.acquire e.wait = .error (.cancelled .signalled) := by
    unfold Limiter.acquire
    rw [h.fault]
    simp only [h.cancelled, if_true]
  unfold Run.takeSlot
  rw [run_get_bind, hlimiter]
  simp only [hacquire]
  rfl

theorem run_fetch (h : e.GivenUp w) (s : Statement) (action : String) :
    (e.fetch s action).run.run w
      = (.error (.cancelled .signalled), { w with observed := some s }) := by
  have hobserved : e.GivenUp { w with observed := some s } :=
    ⟨h.fault, h.cancelled, h.limited, h.uncached⟩
  exact run_bind_error (hobserved.run_takeSlot) _

theorem run_lookup (h : e.GivenUp w) (s : Statement) : (e.lookup s).Returns w none w := by
  refine returns_get_bind.2 ?_
  cases hcaching : e.caching with
  | false => exact returns_pure.2 ⟨rfl, rfl⟩
  | true =>
    rw [h.uncached hcaching]
    exact returns_pure.2 ⟨rfl, rfl⟩

theorem run_get (h : e.GivenUp w) (hs : Statement.select e.dialect q = .ok s) :
    (e.get q).run.run w = (.error (.cancelled .signalled), { w with observed := some s }) := by
  have hselect : (ofResult (Statement.select e.dialect q)).Returns w s w :=
    returns_ofResult.2 ⟨hs, rfl⟩
  unfold Engine.get fetchCached
  rw [hselect.run_bind]
  refine run_bind_error ?_ _
  rw [(h.run_lookup s).run_bind]
  exact run_bind_error (h.run_fetch s "select") _

theorem run_aggregate (h : e.GivenUp w) {fn : Aggregate} {column : ColumnName}
    (hs : q.aggregateStatement e.dialect fn column = .ok s) :
    (e.aggregate q fn column).run.run w
      = (.error (.cancelled .signalled), { w with observed := some s }) := by
  have hstatement : (ofResult (q.aggregateStatement e.dialect fn column)).Returns w s w :=
    returns_ofResult.2 ⟨hs, rfl⟩
  unfold Engine.aggregate
  rw [hstatement.run_bind]
  exact run_bind_error (h.run_fetch s _) _

end Engine.GivenUp

/-! ## Reads -/

namespace Operation

/-- The first statement of a read for its rows, for an aggregate or for a page that is counted. -/
def opening (d : Dialect) (q : Query) : Operation → Option (Result Statement)
  | get => some (Statement.select d q)
  | first => some (Statement.select d q.firstOnly)
  | aggregate fn column => some (q.aggregateStatement d fn column)
  | paginate .. | paginateOf .. => some (q.counting.aggregateStatement d .count ("*" : String))
  | _ => none

variable {e : Engine σ} {settings : Settings} {visitor : Visitor σ} {q : Query} {op : Operation}

/-- **Without a limit a read is the same, however its engine waits.** -/
theorem run_waiting (hop : (op.opening e.dialect q).isSome = true) (wait : Wait) :
    SameOn World.Unlimited (op.run (e.waiting wait) settings visitor q)
      (op.run e settings visitor q) := by
  cases op with
  | get => exact (e.get_waiting wait q).then_keeps fun _ => .of_pure _
  | first =>
    have hfirst := (e.get_waiting wait q.firstOnly).then_keeps fun c => .of_pure c.first
    exact hfirst.then_keeps fun _ => .of_pure _
  | aggregate fn column =>
    exact (e.aggregate_waiting wait q fn column).then_keeps fun _ => .of_pure _
  | paginate page perPage => exact (e.paginate_waiting wait q _).then_keeps fun _ => .of_pure _
  | paginateOf page perPage => exact (e.paginateOf_waiting wait q _).then_keeps fun _ => .of_pure _
  | _ => cases hop

/-- **A read of a caller who has given up ends before its first statement is run.** -/
theorem run_givenUp {w : World σ} (h : e.GivenUp w) {s : Statement}
    (hop : op.opening e.dialect q = some (.ok s)) :
    (op.run e settings visitor q).run.run w
      = (.error (.cancelled .signalled), { w with observed := some s }) := by
  cases op with
  | get => exact run_bind_error (h.run_get (Option.some.inj hop)) _
  | first =>
    have hget := h.run_get (Option.some.inj hop)
    exact run_bind_error (run_bind_error hget _) _
  | aggregate fn column => exact run_bind_error (h.run_aggregate (Option.some.inj hop)) _
  | paginate page perPage =>
    have htotal := h.run_aggregate (Option.some.inj hop)
    exact run_bind_error (run_bind_error htotal _) _
  | paginateOf page perPage =>
    have htotal := h.run_aggregate (Option.some.inj hop)
    exact run_bind_error (run_bind_error htotal _) _
  | _ => cases hop

end Operation

end SqlQuery
