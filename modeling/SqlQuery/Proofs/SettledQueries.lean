import SqlQuery.Session
import SqlQuery.Proofs.ScopeHistories

/-!
# Queries with their scopes applied

A statement of a builder, and each operation that runs its query, begins by applying the pending
scopes. If nothing is pending after that, it makes no difference that some of them do so twice: the
statement is the same when it is asked for again, and however an operation takes up the query, the
query is the same.
-/

namespace SqlQuery

open Effect

/-- A builder once a statement of it is written, which it keeps if it is asked to. -/
def Builder.noting (b : Builder) (s : Statement) : Builder :=
  if b.debug then { b with lastDebug := some s } else b

namespace Builder

variable (b : Builder) (s : Statement)

theorem alike_noting : b.Alike (b.noting s) := by
  unfold noting
  split <;> exact ⟨rfl, rfl, rfl, rfl⟩

theorem pending_noting : (b.noting s).pending = b.pending := by
  unfold noting
  split <;> rfl

theorem noting_noting : (b.noting s).noting s = b.noting s := by
  cases hdebug : b.debug <;> simp [noting, hdebug]

end Builder

namespace Workspace

variable {w w' : Workspace} {id : BuilderId}

/-- Names are names of builders, and every builder is on a query that exists. -/
structure Sound (w : Workspace) : Prop where
  names : ∀ p ∈ w.names, p.2 < w.builders.length
  filed : w.Filed

/-- A scope ran on a builder between two workspaces, and what it added stayed. -/
def AppliedBetween (w w' : Workspace) (id : BuilderId) (scope : Argument) : Prop :=
  ∃ before after, w.Grows before ∧ after.Grows w'
    ∧ ∃ fuel, (call (step fuel) id scope).Returns before () after

namespace Sound

/-- An empty book on a workspace. -/
theorem booked (hw : w.Sound) : Booking.Sound { state := w, record := {} } where
  names p hp := ⟨hw.names p hp, List.not_mem_nil⟩
  groups _ hid := absurd hid List.not_mem_nil
  filed := hw.filed

theorem of_booked {r : Booked} (hr : Booking.Sound r) : r.state.Sound where
  names p hp := (hr.names p hp).lt
  filed := hr.filed

/-- Whether or not the scopes of a builder can all be applied, nothing is taken away. -/
theorem settle (hw : w.Sound) (hid : id < w.builders.length) {answer : Result Unit}
    (h : (Workspace.settle id).run.run w = (answer, w')) : w.Grows w' ∧ w'.Sound := by
  obtain ⟨answer', r', news, -, hplain, hmoves, -⟩ :=
    Booking.settle_mirrors hw.booked ⟨hid, List.not_mem_nil⟩
  cases hplain.symm.trans h
  exact ⟨hmoves.grows, .of_booked (hmoves.sound hw.booked)⟩

/-- Once the scopes of a builder are applied, each that was pending ran. -/
theorem applied (hw : w.Sound) (hid : id < w.builders.length)
    (h : (Workspace.settle id).Returns w () w') :
    ∀ scope ∈ w.pendingAt id, AppliedBetween w w' id scope := by
  intro scope hscope
  obtain ⟨answer, r', news, -, hplain, hmoves, hok⟩ :=
    Booking.settle_mirrors hw.booked ⟨hid, List.not_mem_nil⟩
  cases hplain.symm.trans h
  have hsettled : ⟨id, w, r'.state⟩ ∈ r'.record.settlements := (hok () rfl).2
  rw [hmoves.record, ScopeBook.nil_append] at hsettled
  obtain ⟨before, after, he, hbefore, hafter⟩ := (hmoves.settlements _ hsettled).2 scope hscope
  obtain ⟨-, -, -, htrue⟩ := hmoves.events _ he before after rfl
  exact ⟨before, after, hbefore, hafter, htrue⟩

end Sound

/-- A builder in its own place. -/
theorem set_same {b : Builder} (hb : w.builders[id]? = some b) :
    { w with builders := w.builders.set id b } = w := by
  obtain ⟨hlt, rfl⟩ := List.getElem?_eq_some_iff.1 hb
  rw [List.set_getElem_self]

/-- Where nothing is pending nothing is applied. -/
theorem settle_of_none {b : Builder} (hb : w.builders[id]? = some b) (hnone : b.pending = []) :
    (settle id).Returns w () w := by
  have hset : (setBuilder id { b with pending := [] }).Returns w () w := by
    have hsame : ({ b with pending := [] } : Builder) = b := by
      rw [← hnone]
    rw [hsame]
    exact returns_modify.2 (set_same hb).symm
  refine returns_get_bind.2 (returns_bind.2 ⟨b, w, returns_builder.2 ⟨hb, rfl⟩, ?_⟩)
  refine returns_bind.2 ⟨(), w, hset, ?_⟩
  rw [hnone]
  exact returns_pure.2 ⟨rfl, rfl⟩

/-- What is written is the statement of the query as it is. -/
theorem written_of {b : Builder} {q : Query} {s : Statement} (hb : w.builders[id]? = some b)
    (hq : w.queryAt id = some q) (hs : Statement.select b.dialect q = .ok s) :
    (written id).Returns w s { w with builders := w.builders.set id (b.noting s) } := by
  refine returns_bind.2 ⟨b, w, returns_builder.2 ⟨hb, rfl⟩, ?_⟩
  refine returns_bind.2 ⟨q, w, returns_queryOf.2 ⟨hq, rfl⟩, ?_⟩
  refine returns_bind.2 ⟨s, w, ?_, ?_⟩
  · rw [lift_eq_ofResult]
    exact returns_ofResult.2 ⟨hs, rfl⟩
  · unfold Builder.noting
    by_cases hdebug : b.debug = true
    · rw [if_pos hdebug, if_pos hdebug]
      exact returns_bind.2 ⟨(), _, returns_modify.2 rfl, returns_pure.2 ⟨rfl, rfl⟩⟩
    · rw [if_neg hdebug, if_neg hdebug, set_same hb]
      exact returns_pure.2 ⟨rfl, rfl⟩

theorem returns_written {s : Statement} (h : (written id).Returns w s w') :
    ∃ b q, w.builders[id]? = some b ∧ w.queryAt id = some q ∧ Statement.select b.dialect q = .ok s
      ∧ w' = { w with builders := w.builders.set id (b.noting s) } := by
  obtain ⟨b, v, hb, h₁⟩ := returns_bind.1 h
  obtain ⟨hb, rfl⟩ := returns_builder.1 hb
  obtain ⟨q, u, hq, h₂⟩ := returns_bind.1 h₁
  obtain ⟨hq, rfl⟩ := returns_queryOf.1 hq
  obtain ⟨t, _, hs, -⟩ := returns_bind.1 h₂
  rw [lift_eq_ofResult] at hs
  obtain ⟨hselect, -⟩ := returns_ofResult.1 hs
  cases (written_of hb hq hselect).symm.trans h
  exact ⟨b, q, hb, hq, hselect, rfl⟩

/-- A statement that was written is written again, and nothing else happens. -/
theorem written_again {s : Statement} (h : (written id).Returns w s w') :
    (written id).Returns w' s w' := by
  obtain ⟨b, q, hb, hq, hs, hw⟩ := returns_written h
  obtain ⟨hlt, -⟩ := List.getElem?_eq_some_iff.1 hb
  have halike := b.alike_noting s
  have hnoted : w'.builders[id]? = some (b.noting s) := by
    rw [hw]
    exact List.getElem?_set_self hlt
  have hquery : w'.queryAt id = some q := by
    rw [hw, queryAt_set hb halike]
    exact hq
  have hselect : Statement.select (b.noting s).dialect q = .ok s := by
    rw [halike.dialect]
    exact hs
  have hagain := written_of hnoted hquery hselect
  rw [b.noting_noting s, set_same hnoted] at hagain
  exact hagain

/-- **A statement is the same when it is asked for again**, if no scope is pending after the first.
-/
theorem toSql_again {s : Statement} (h : (toSql id).Returns w s w')
    (hnone : w'.pendingAt id = []) : (toSql id).Returns w' s w' := by
  obtain ⟨_, w₁, -, hwritten⟩ := returns_bind.1 h
  have hagain := written_again hwritten
  obtain ⟨b, q, hb, -⟩ := returns_written hagain
  rw [pendingAt_of_getElem? hb] at hnone
  exact returns_bind.2 ⟨(), w', settle_of_none hb hnone, hagain⟩

end Workspace

/-! ## Operations -/

namespace Session

open Workspace

variable {s s' : Session} {id : BuilderId} {b : Builder} {q : Query}

theorem returns_work {α : Type} {x : Work α} {a : α} :
    (work x).Returns s a s' ↔ ∃ w, x.Returns s.workspace a w ∧ s' = { s with workspace := w } :=
  returns_onPart

theorem returns_handleAt {i : Nat} {h : Handle} :
    (handleAt i).Returns s h s' ↔ s.handles[i]? = some h ∧ s' = s := by
  refine returns_get_bind.trans ?_
  cases hfound : s.handles[i]? with
  | none => exact ⟨fun h => (nomatch h), fun h => (nomatch h.1)⟩
  | some j =>
    refine returns_pure.trans (and_congr_left' ?_)
    exact ⟨fun h => h ▸ rfl, fun h => (Option.some.inj h).symm⟩

/-- A builder has an engine if it has a handle. -/
theorem returns_builderEngine {e : Engine Script} :
    (builderEngine b).Returns s e s' ↔ ∃ i h, b.handle = some i ∧ s.handles[i]? = some h
      ∧ e = s.engineOf h (s.waitOf b) ∧ s' = s := by
  unfold builderEngine
  cases hhandle : b.handle with
  | none => exact ⟨fun h => (nomatch h), fun ⟨_, _, h, _⟩ => (nomatch h)⟩
  | some i =>
    constructor
    · intro h
      have h := returns_get_bind.1 h
      obtain ⟨handle, t, hhandle, h⟩ := returns_bind.1 h
      obtain ⟨hfound, rfl⟩ := returns_handleAt.1 hhandle
      have h := returns_get_bind.1 h
      obtain ⟨rfl, rfl⟩ := returns_pure.1 h
      exact ⟨i, handle, rfl, hfound, rfl, rfl⟩
    · rintro ⟨_, handle, ⟨⟩, hfound, rfl, rfl⟩
      refine returns_get_bind.2 (returns_bind.2 ⟨handle, s', returns_handleAt.2 ⟨hfound, rfl⟩, ?_⟩)
      exact returns_get_bind.2 (returns_pure.2 ⟨rfl, rfl⟩)

theorem returns_work_builder :
    (work (builder id)).Returns s b s' ↔ s.workspace.builders[id]? = some b ∧ s' = s := by
  refine returns_work.trans ⟨?_, ?_⟩
  · rintro ⟨w, hbuilder, rfl⟩
    obtain ⟨hb, rfl⟩ := returns_builder.1 hbuilder
    exact ⟨hb, rfl⟩
  · rintro ⟨hb, rfl⟩
    exact ⟨_, returns_builder.2 ⟨hb, rfl⟩, rfl⟩

/-- The options of a builder that has a handle, where its scopes can be applied. -/
theorem returns_settled :
    (settled id).Returns s b s' ↔ ∃ b₀ i h w, s.workspace.builders[id]? = some b₀
      ∧ b₀.handle = some i ∧ s.handles[i]? = some h ∧ (settle id).Returns s.workspace () w
      ∧ w.builders[id]? = some b ∧ s' = { s with workspace := w } := by
  constructor
  · intro h
    obtain ⟨b₀, _, hfirst, h₁⟩ := returns_bind.1 h
    obtain ⟨hb₀, rfl⟩ := returns_work_builder.1 hfirst
    obtain ⟨e, _, hengine, h₂⟩ := returns_bind.1 h₁
    obtain ⟨i, handle, hhandle, hfound, -, rfl⟩ := returns_builderEngine.1 hengine
    obtain ⟨_, _, hwork, h₃⟩ := returns_bind.1 h₂
    obtain ⟨w, hsettle, rfl⟩ := returns_work.1 hwork
    obtain ⟨hb, rfl⟩ := returns_work_builder.1 h₃
    exact ⟨b₀, i, handle, w, hb₀, hhandle, hfound, hsettle, hb, rfl⟩
  · rintro ⟨b₀, i, handle, w, hb₀, hhandle, hfound, hsettle, hb, rfl⟩
    refine returns_bind.2 ⟨b₀, s, returns_work_builder.2 ⟨hb₀, rfl⟩, ?_⟩
    refine returns_bind.2 ⟨_, s,
      returns_builderEngine.2 ⟨i, handle, hhandle, hfound, rfl, rfl⟩, ?_⟩
    refine returns_bind.2 ⟨(), _, returns_work.2 ⟨w, hsettle, rfl⟩, ?_⟩
    exact returns_work_builder.2 ⟨hb, rfl⟩

/-- Where nothing is pending any more, a builder is settled as it is. -/
theorem settled_again (hs : s.workspace.Sound) (h : (settled id).Returns s b s')
    (hnone : b.pending = []) : (settled id).Returns s' b s' := by
  obtain ⟨b₀, i, handle, w, hb₀, hhandle, hfound, hsettle, hb, rfl⟩ := returns_settled.1 h
  obtain ⟨hlt, -⟩ := List.getElem?_eq_some_iff.1 hb₀
  obtain ⟨b', hb', halike⟩ := (hs.settle hlt hsettle).1.builders hb₀
  cases hb.symm.trans hb'
  exact returns_settled.2 ⟨b, i, handle, w, hb, halike.handle.trans hhandle, hfound,
    settle_of_none hb hnone, hb, rfl⟩

theorem run_copyOf {w : Workspace} (hq : w.queryAt id = some q) :
    (copyOf id).run.run w = (q.copy, w) := by
  have hquery : (queryOf id).Returns w q w := returns_queryOf.2 ⟨hq, rfl⟩
  unfold copyOf
  rw [hquery.run_bind]
  cases q.copy <;> rfl

theorem run_snapshot {w : Workspace} (hsettle : (settle id).Returns s.workspace () w)
    (hq : w.queryAt id = some q) :
    (snapshot id).run.run s = (q.copy, { s with workspace := w }) := by
  have htaken : (settle id >>= fun _ => copyOf id).run.run s.workspace = (q.copy, w) := by
    rw [hsettle.run_bind]
    exact run_copyOf hq
  unfold snapshot
  exact run_onPart htaken

/-- A copy of the query of a builder where nothing is pending. -/
theorem run_snapshot_of_none (hb : s.workspace.builders[id]? = some b) (hnone : b.pending = [])
    (hq : s.workspace.queryAt id = some q) : (snapshot id).run.run s = (q.copy, s) :=
  run_snapshot (settle_of_none hb hnone) hq

/-- What is done with a query once it is taken up. -/
def runOn (id : BuilderId) (b : Builder) (q : Query) (op : Result Operation) : Play Answer := do
  runOperation id b (← builderEngine b) q (← ofResult op)

/-- The rows of a query once it is taken up. -/
def rowsOn (id : BuilderId) (b : Builder) (q : Query) (form : Result Supply) : Play OpenRows := do
  let form ← ofResult form
  let source ← ofResult (RowSource.make b.dialect b.settings q form)
  return { source, builder := id, options := b }

end Session

/-- The query that an operation runs. -/
def Approach.taken (approach : Approach) (q : Query) : Result Query :=
  match approach with
  | .inPlace => .ok q
  | _ => q.copy

/-- The options that an operation runs with. -/
def Approach.options (approach : Approach) (b : Builder) : Builder :=
  match approach with
  | .beside => { b with cancelEvent := .null }
  | _ => b

namespace Session

open Workspace

variable {s s' : Session} {id : BuilderId} {b : Builder} {q : Query}

/-- **However an operation takes up the query of a builder, it is the query with the scopes
applied**, if nothing is pending once they are. -/
theorem run_operate (hs : s.workspace.Sound) (h : (settled id).Returns s b s')
    (hnone : b.pending = []) (hq : s'.workspace.queryAt id = some q) (approach : Approach)
    (op : Result Operation) :
    (operate id approach op).run.run s
      = (do runOn id (approach.options b) (← ofResult (approach.taken q)) op).run.run s' := by
  obtain ⟨b₀, i, handle, w, -, -, -, hsettle, hb, hs'⟩ := returns_settled.1 h
  have hb' : s'.workspace.builders[id]? = some b := by
    rw [hs']
    exact hb
  have hquery : w.queryAt id = some q := by
    rw [hs'] at hq
    exact hq
  let rest (options : Builder) (q : Query) : Play Answer := runOn id options q op
  cases approach with
  | inPlace =>
    have htaken : (work (queryOf id)).Returns s' q s' :=
      returns_work.2 ⟨_, returns_queryOf.2 ⟨hq, rfl⟩, rfl⟩
    change (settled id >>= fun options => work (queryOf id) >>= rest options).run.run s = _
    rw [h.run_bind, htaken.run_bind]
    rfl
  | onCopy =>
    have htaken : (work (copyOf id)).run.run s' = (q.copy, s') := run_onPart (run_copyOf hq)
    change (settled id >>= fun options => work (copyOf id) >>= rest options).run.run s = _
    rw [h.run_bind, run_bind_ofResult htaken]
    rfl
  | onSnapshot =>
    have htaken := run_snapshot_of_none hb' hnone hq
    change (settled id >>= fun options => snapshot id >>= rest options).run.run s = _
    rw [h.run_bind, run_bind_ofResult htaken]
    rfl
  | beside =>
    have htaken := run_snapshot hsettle hquery
    rw [← hs'] at htaken
    have hagain := settled_again hs h hnone
    change (snapshot id >>= fun q => settled id >>= fun options =>
      rest { options with cancelEvent := .null } q).run.run s = _
    rw [run_bind_ofResult htaken]
    cases hcopy : q.copy with
    | error e =>
      unfold Approach.taken
      rw [hcopy]
      rfl
    | ok q' =>
      unfold Approach.taken
      change (settled id >>= _ : Play Answer).run.run s' = _
      rw [hagain.run_bind, hcopy]
      rfl

/-- Rows that are handed out one by one are those of the same query. -/
theorem run_supply (h : (settled id).Returns s b s') (hnone : b.pending = [])
    (hq : s'.workspace.queryAt id = some q) (form : Result Supply) :
    (supply id form).run.run s = (do rowsOn id b (← ofResult q.copy) form).run.run s' := by
  obtain ⟨_, _, _, w, -, -, -, -, hb, hs'⟩ := returns_settled.1 h
  have hb' : s'.workspace.builders[id]? = some b := by
    rw [hs']
    exact hb
  have htaken := run_snapshot_of_none hb' hnone hq
  change (settled id >>= fun options => snapshot id >>= fun q => rowsOn id options q form).run.run s
    = _
  rw [h.run_bind, run_bind_ofResult htaken]

/-! ### What operations leave alone -/

theorem builder_keeps {J : Workspace → Prop} : Keeps J (builder id) := by
  intro w hw
  unfold builder
  rw [run_get_bind]
  cases w.builders[id]? <;> exact hw

theorem execute_keeps {α : Type} {J : Workspace → Prop} (x : Run Script α) :
    Keeps (fun s => J s.workspace) (execute x) :=
  fun _ hs => hs

theorem work_keeps {α : Type} {J : Workspace → Prop} {x : Work α} (hx : Keeps J x) :
    Keeps (fun s => J s.workspace) (work x) :=
  fun s hs => hx s.workspace hs

theorem handleAt_keeps (I : Session → Prop) (i : Nat) : Keeps I (handleAt i) := by
  refine .get_bind fun s => ?_
  cases s.handles[i]? with
  | none => exact .of_throw _
  | some h => exact .of_pure h

theorem builderEngine_keeps (I : Session → Prop) (b : Builder) : Keeps I (builderEngine b) := by
  unfold builderEngine
  cases b.handle with
  | none => exact .of_throw _
  | some i =>
    exact .get_bind fun _ => (handleAt_keeps I i).bind fun _ => .get_bind fun _ => .of_pure _

/-- What is observed keeps what it keeps unobserved, if that survives the builder's noting of a
statement. -/
theorem observed_keeps {α : Type} {J : Workspace → Prop} {x : Play α}
    (hnote : ∀ statement, Keeps J
      (builder id >>= fun b => setBuilder id { b with lastDebug := some statement }))
    (hx : Keeps (fun s => J s.workspace) x) :
    Keeps (fun s => J s.workspace) (observed id b x) := by
  refine Keeps.bind (fun s hs => hs) fun _ => hx.attempt.bind fun result => ?_
  by_cases hdebug : b.debug = true
  · rw [if_pos hdebug]
    refine .get_bind fun s => ?_
    cases s.world.observed with
    | none => exact .of_result result
    | some statement => exact (work_keeps (hnote statement)).bind fun _ => .of_result result
  · rw [if_neg hdebug]
    exact .of_result result

/-- An operation leaves the builders' queries and scopes alone. -/
theorem runOn_keeps (j : BuilderId) {p : Query} (op : Result Operation) :
    Keeps (fun s => s.workspace.queryAt j = some p ∧ s.workspace.pendingAt j = [])
      (runOn id b q op) := by
  let J : Workspace → Prop := fun w => w.queryAt j = some p ∧ w.pendingAt j = []
  have hnote : ∀ statement, Keeps J
      (builder id >>= fun b => setBuilder id { b with lastDebug := some statement }) := by
    intro statement w hw
    refine run_bind_elim (M := fun outcome => J outcome.2) (fun e t hrun => ?_) fun c t hc => ?_
    · exact builder_keeps.of_run hrun hw
    · obtain ⟨hc, rfl⟩ := returns_builder.1 hc
      have halike : c.Alike { c with lastDebug := some statement } := ⟨rfl, rfl, rfl, rfl⟩
      have hquiet := Quiet.set hc halike rfl
      exact ⟨(queryAt_set hc halike j).trans hw.1, (hquiet.pending j).trans hw.2⟩
  refine (builderEngine_keeps _ b).bind fun e => (Keeps.of_result op).bind fun op => ?_
  exact observed_keeps hnote (execute_keeps (J := J) _)

end Session

end SqlQuery
