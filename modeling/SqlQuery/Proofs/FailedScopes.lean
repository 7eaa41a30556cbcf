import SqlQuery.Proofs.AppliedScopes

/-!
# Scopes that fail

The scopes of a builder are no longer pending once the first of them runs. If one fails, then it and
all after it are forgotten: the failure, the workspace that is left and all that comes later are as
if those after it had never been registered.
-/

namespace SqlQuery

open Effect

namespace Workspace

variable {w w' : Workspace} {id : BuilderId} {b : Builder}

/-- A workspace in which a builder has other scopes. -/
def putScopes (w : Workspace) (id : BuilderId) (b : Builder) (scopes : List Argument) : Workspace :=
  { w with builders := w.builders.set id { b with pending := scopes } }

theorem getElem?_putScopes (hb : w.builders[id]? = some b) (scopes : List Argument) :
    (w.putScopes id b scopes).builders[id]? = some { b with pending := scopes } := by
  obtain ⟨hlt, -⟩ := List.getElem?_eq_some_iff.1 hb
  exact List.getElem?_set_self hlt

theorem putScopes_putScopes (w : Workspace) (id : BuilderId) (b : Builder)
    (scopes scopes' : List Argument) :
    (w.putScopes id b scopes).putScopes id { b with pending := scopes } scopes'
      = w.putScopes id b scopes' := by
  unfold putScopes
  rw [List.set_set]

theorem putScopes_pending (hb : w.builders[id]? = some b) : w.putScopes id b b.pending = w :=
  set_same hb

theorem Sound.putScopes (hw : w.Sound) (hb : w.builders[id]? = some b) (scopes : List Argument) :
    (w.putScopes id b scopes).Sound := by
  have hgrows : w.Grows (w.putScopes id b scopes) := Grows.set hb ⟨rfl, rfl, rfl, rfl⟩
  exact ⟨fun p hp => Nat.lt_of_lt_of_le (hw.names p hp) hgrows.builders_length_le,
    hgrows.filed hw.filed⟩

/-- The pending scopes are taken from their builder and run one after the other. -/
theorem run_settle (hb : w.builders[id]? = some b) :
    (settle id).run.run w
      = (b.pending.forM (call (step (w.fuelFor 0)) id)).run.run (w.putScopes id b []) :=
  (run_get_bind _ w).trans
    (Booking.Follows.run_applyScopes (r := { state := w, record := {} }) _ (Booking.step 0) hb).2

/-- More fuel than there are steps makes no difference to scopes. -/
theorem run_scopes_eq (hw : w.Sound) (hid : id < w.builders.length) {scopes : List Argument}
    {fuel fuel' : Nat} (h : w.weight + sizeOfScopes scopes ≤ fuel)
    (h' : w.weight + sizeOfScopes scopes ≤ fuel') :
    (scopes.forM (call (step fuel) id)).run.run w
      = (scopes.forM (call (step fuel') id)).run.run w := by
  have hopen : Booking.Open { state := w, record := {} } id := ⟨hid, List.not_mem_nil⟩
  obtain ⟨answer, r, _, hbooked, hplain, -⟩ :=
    (Booking.follows_step h (Nat.le_refl _)).drain (m := 0) hw.booked hopen (Nat.le_refl _)
  obtain ⟨answer', r', _, hbooked', hplain', -⟩ :=
    (Booking.follows_step h' (Nat.le_refl _)).drain (m := 0) hw.booked hopen (Nat.le_refl _)
  cases hbooked.symm.trans hbooked'
  exact hplain.trans hplain'.symm

theorem weight_putScopes (hb : w.builders[id]? = some b) (scopes : List Argument) :
    (w.putScopes id b scopes).weight = (w.putScopes id b []).weight + sizeOfScopes scopes := by
  have hcleared : (w.putScopes id b []).builders
      = (w.putScopes id b scopes).builders.set id { b with pending := [] } := by
    unfold putScopes
    rw [List.set_set]
  have hweight := weight_set hcleared (getElem?_putScopes hb scopes)
  rw [sizeOfScopes_nil] at hweight
  exact hweight.symm

/-- Scopes of a builder fail at one of them. Those before it ran, and with any others after it they
fail in the same way and leave the same workspace. -/
theorem settle_error (hw : w.Sound) (hb : w.builders[id]? = some b) {e : Error}
    (h : (settle id).run.run w = (.error e, w')) : ∃ done f rest, b.pending = done ++ f :: rest
      ∧ (∀ scope ∈ done, w.AppliedBetween w' id scope)
      ∧ (∃ v fuel, (call (step fuel) id f).run.run v = (.error e, w'))
      ∧ ∀ later, (settle id).run.run (w.putScopes id b (done ++ f :: later)) = (.error e, w') := by
  rw [run_settle hb] at h
  obtain ⟨done, f, rest, v, hpending, hdone, hf⟩ := forM_error h
  obtain ⟨hlt, -⟩ := List.getElem?_eq_some_iff.1 hb
  have hgrows : w.Grows (w.putScopes id b []) := Grows.set hb ⟨rfl, rfl, rfl, rfl⟩
  have hcleared : (w.putScopes id b []).Sound := hw.putScopes hb []
  have hlt' : id < (w.putScopes id b []).builders.length :=
    Nat.lt_of_lt_of_le hlt hgrows.builders_length_le
  -- what is left of the fuel is enough for all scopes up to the one that fails
  have hfuel : ∀ later, (w.putScopes id b []).weight + sizeOfScopes (done ++ [f])
      ≤ (w.putScopes id b (done ++ f :: later)).fuelFor 0 := by
    intro later
    rw [fuelFor_eq, weight_putScopes hb (done ++ f :: later)]
    simp only [sizeOfScopes_append, sizeOfScopes_cons, sizeOfScopes_nil]
    omega
  have hw_eq : w.putScopes id b (done ++ f :: rest) = w := by
    rw [← hpending]
    exact putScopes_pending hb
  have hfirst := hfuel rest
  rw [hw_eq] at hfirst
  refine ⟨done, f, rest, hpending, ?_, ⟨v, _, hf⟩, fun later => ?_⟩
  · have hfollows := Booking.follows_step hfirst (Nat.le_refl _)
    have hopen : Booking.Open { state := w.putScopes id b [], record := {} } id :=
      ⟨hlt', List.not_mem_nil⟩
    have hsize : (w.putScopes id b []).weight + sizeOfScopes done + sizeOfScope f
        ≤ (w.putScopes id b []).weight + sizeOfScopes (done ++ [f]) := by
      simp only [sizeOfScopes_append, sizeOfScopes_cons, sizeOfScopes_nil]
      omega
    obtain ⟨_, r₁, news, -, hplain, hmoves, -, hok⟩ := hfollows.drain hcleared.booked hopen hsize
    cases hplain.symm.trans hdone
    obtain ⟨-, hleft, hran⟩ := hok () rfl
    obtain ⟨_, r₂, _, -, hplain', hmoves', -⟩ :=
      hfollows.call (m := 0) id f (hmoves.sound hcleared.booked) hleft
    cases hplain'.symm.trans hf
    intro scope hscope
    obtain ⟨before, after, he, hbefore, hafter⟩ := hran scope hscope
    obtain ⟨-, -, -, htrue⟩ := hmoves.events _ he before after rfl
    exact ⟨before, after, hgrows.trans hbefore, hafter.trans hmoves'.grows, htrue⟩
  · have huntil : ((done ++ [f]).forM (call (step (w.fuelFor 0)) id)).run.run (w.putScopes id b [])
        = (.error e, w') := by
      rw [forM_append, hdone.run_bind]
      exact run_bind_error hf _
    rw [run_settle (getElem?_putScopes hb _), putScopes_putScopes, List.append_cons, forM_append]
    refine run_bind_error ?_ _
    rw [← List.append_cons, run_scopes_eq hcleared hlt' (hfuel later) hfirst]
    exact huntil

/-- Whatever is pending after scopes failed was registered since they were taken up. -/
theorem pending_of_settle_error (hw : w.Sound) (hb : w.builders[id]? = some b) {e : Error}
    (h : (settle id).run.run w = (.error e, w')) :
    ∃ r, (Booking.settle id).run.run { state := w, record := {} } = (.error e, r) ∧ r.state = w'
      ∧ (w'.pendingAt id : Multiset Argument) ≤ r.record.registered id := by
  have hfuel : (w.putScopes id b []).weight + sizeOfScopes b.pending ≤ w.fuelFor 0 := by
    have hweight := weight_putScopes hb b.pending
    rw [putScopes_pending hb] at hweight
    rw [fuelFor_eq]
    omega
  have hcleared : (w.putScopes id b []).Sound := hw.putScopes hb []
  have hopen : Booking.Open { state := w.putScopes id b [], record := {} } id := by
    obtain ⟨hlt, -⟩ := List.getElem?_eq_some_iff.1 (getElem?_putScopes hb [])
    exact ⟨hlt, List.not_mem_nil⟩
  obtain ⟨answer, r, news, hdrain, hplain, hmoves, hended, -⟩ :=
    (Booking.follows_step hfuel hfuel).drain (m := 0) hcleared.booked hopen (Nat.le_refl _)
  rw [run_settle hb] at h
  cases hplain.symm.trans h
  refine ⟨r, ?_, rfl, ?_⟩
  · refine (run_get_bind _ _).trans ?_
    rw [(Booking.Follows.run_applyScopes (r := { state := w, record := {} })
      (step (w.fuelFor 0)) _ hb).1]
    exact run_bind_error hdrain _
  · have hbalance := hmoves.balance id
    have hnone : (w.putScopes id b []).pendingAt id = [] :=
      pendingAt_of_getElem? (getElem?_putScopes hb [])
    rw [ScopeBook.owing_self] at hbalance
    change (b.pending : Multiset Argument)
      + ((w.putScopes id b []).pendingAt id : Multiset Argument) + news.registered id = _
      at hbalance
    rw [hnone, Multiset.coe_nil, add_zero] at hbalance
    rw [hmoves.record, ScopeBook.nil_append]
    refine le_of_add_le_add_left (a := (b.pending : Multiset Argument)) ?_
    rw [hbalance]
    exact add_le_add_left hended _

end Workspace

namespace Session

open Workspace

variable {s : Session} {id : BuilderId} {b : Builder} {w' : Workspace} {e : Error}

/-- Whatever is asked of a builder fails, and nothing is run. -/
structure Fails (s : Session) (id : BuilderId) (e : Error) (w' : Workspace) : Prop where
  statement : (toSql id).run.run s.workspace = (.error e, w')
  beside : ∀ op, (operate id .beside op).run.run s = (.error e, { s with workspace := w' })
  /-- With a handle it is the same. -/
  operation : ∀ b i h, s.workspace.builders[id]? = some b → b.handle = some i →
    s.handles[i]? = some h → ∀ approach op,
      (operate id approach op).run.run s = (.error e, { s with workspace := w' })
  rows : ∀ b i h, s.workspace.builders[id]? = some b → b.handle = some i →
    s.handles[i]? = some h → ∀ form,
      (supply id form).run.run s = (.error e, { s with workspace := w' })

theorem fails_of_settle_error (h : (settle id).run.run s.workspace = (.error e, w')) :
    s.Fails id e w' := by
  have hsnapshot : (snapshot id).run.run s = (.error e, { s with workspace := w' }) := by
    unfold snapshot
    exact run_onPart (run_bind_error h _)
  have hsettled : ∀ b i handle, s.workspace.builders[id]? = some b → b.handle = some i →
      s.handles[i]? = some handle →
      (settled id).run.run s = (.error e, { s with workspace := w' }) := by
    intro b i handle hb hhandle hfound
    have hbuilder : (work (builder id)).Returns s b s := returns_work_builder.2 ⟨hb, rfl⟩
    have hengine := returns_builderEngine.2 ⟨i, handle, hhandle, hfound, rfl, rfl⟩
    unfold settled
    rw [hbuilder.run_bind, hengine.run_bind]
    exact run_bind_error (run_onPart h) _
  refine ⟨run_bind_error h _, fun op => run_bind_error hsnapshot _, ?_, ?_⟩
  · intro b i handle hb hhandle hfound approach op
    have hfailed := hsettled b i handle hb hhandle hfound
    cases approach with
    | beside => exact run_bind_error hsnapshot _
    | _ => exact run_bind_error hfailed _
  · intro b i handle hb hhandle hfound form
    exact run_bind_error (hsettled b i handle hb hhandle hfound) _

/-- **A scope that fails and all scopes after it are forgotten.** Those before it ran, and what is
pending afterwards was registered meanwhile. Nothing is run, and the session that is left, so all
that follows, is the same with any other scopes after the one that failed. -/
theorem failed_scopes_forgotten (hs : s.workspace.Sound)
    (hb : s.workspace.builders[id]? = some b)
    (h : (settle id).run.run s.workspace = (.error e, w')) :
    ∃ done f rest, b.pending = done ++ f :: rest
      ∧ (∀ scope ∈ done, s.workspace.AppliedBetween w' id scope)
      ∧ (∃ v fuel, (call (step fuel) id f).run.run v = (.error e, w'))
      ∧ (∃ r, (Booking.settle id).run.run { state := s.workspace, record := {} } = (.error e, r)
        ∧ r.state = w' ∧ (w'.pendingAt id : Multiset Argument) ≤ r.record.registered id)
      ∧ s.Fails id e w'
      ∧ ∀ later,
        Fails { s with workspace := s.workspace.putScopes id b (done ++ f :: later) } id e w' := by
  obtain ⟨done, f, rest, hpending, hdone, hf, hlater⟩ := settle_error hs hb h
  exact ⟨done, f, rest, hpending, hdone, hf, pending_of_settle_error hs hb h,
    fails_of_settle_error h, fun later => fails_of_settle_error (hlater later)⟩

/-- A session with a builder whose first scope fails. -/
def withFailing (scopes : List Argument) : Session where
  workspace := withPending (.routine [.mk .filter [some (.value (.text "a")), none, none,
    some (.word (.connective .and))]] :: scopes)
  world := { outside := {} }
  handles := [{ dialect := .mysql, settings := {} }]

theorem first_forgets_others : ∃ e w', ∀ later, Fails (withFailing later) 0 e w' := by
  have hs : (withFailing []).workspace.Sound := by
    refine ⟨fun p hp => absurd hp List.not_mem_nil, fun b hb => ?_⟩
    rw [List.mem_singleton.1 hb]
    exact Nat.one_pos
  have hfails : ((settle 0).run.run (withFailing []).workspace).1.toOption.isNone = true := by
    decide +kernel
  rcases hrun : (settle 0).run.run (withFailing []).workspace with ⟨answer, w'⟩
  rw [hrun] at hfails
  cases answer with
  | ok u => cases hfails
  | error e =>
    obtain ⟨done, f, rest, hpending, -, -, -, -, hlater⟩ :=
      failed_scopes_forgotten (s := withFailing []) hs rfl hrun
    cases done with
    | nil =>
      cases hpending
      exact ⟨e, w', hlater⟩
    | cons first more =>
      have hlength := congrArg List.length hpending
      simp only [List.length_append, List.length_cons] at hlength
      change 1 = _ at hlength
      omega

theorem delete_after_failed_scope :
    let first :=
      (operate 0 .inPlace (.ok .delete)).run.run (withFailing [.routine [isOne "tenant"]])
    let second := (operate 0 .inPlace (.ok .delete)).run.run first.2
    first.1.toOption.isNone ∧ first.2.world.outside.calls.length = 0 ∧ second.1.toOption.isSome
      ∧ second.2.world.outside.calls.map (fun c => c.statement.map Prod.fst)
        = [some "DELETE FROM t"] := by
  decide +kernel

end Session

end SqlQuery
