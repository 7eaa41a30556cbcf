import SqlQuery.Proofs.SettledQueries

/-!
# Scopes are applied once

Of all scopes that were registered in a history, the book says which ran. Each did once at most, and
those that were pending did so before their builder's statement was written or its query was run.
What a scope registers while it runs is left for the next time, and what is registered on the
builder of a group is never applied, so two statements in a row may differ.
-/

namespace SqlQuery

open Effect

namespace Workspace

/-- How the statements and the operations of a builder take up its query. -/
structure TakesUp (w : Workspace) (id : BuilderId) : Prop where
  /-- A statement is written of the query once the pending scopes are applied to it. The clauses
  that the query ever had are in the statement, those that a scope added among them. -/
  statement : ∀ s w', (toSql id).Returns w s w' → ∃ w₁ b q,
    (∀ scope ∈ w.pendingAt id, w.AppliedBetween w₁ id scope)
      ∧ (∀ (v : Workspace) p, v.Grows w₁ → v.queryAt id = some p → p.ExtendedBy q)
      ∧ w₁.builders[id]? = some b ∧ w₁.queryAt id = some q ∧ Statement.select b.dialect q = .ok s
      ∧ w'.pendingAt id = w₁.pendingAt id
  again : ∀ s w', (toSql id).Returns w s w' → w'.pendingAt id = [] → (toSql id).Returns w' s w'
  /-- Operations begin in the same way. -/
  settled : ∀ (s s' : Session) b, s.workspace = w → (Session.settled id).Returns s b s' →
    s'.workspace.builders[id]? = some b
      ∧ ∀ scope ∈ w.pendingAt id, w.AppliedBetween s'.workspace id scope
  /-- If nothing is pending then, they run that query in whichever way they take it up, and so does
  each operation that follows. -/
  operation : ∀ (s s' : Session) b q, s.workspace = w → (Session.settled id).Returns s b s' →
    b.pending = [] → s'.workspace.queryAt id = some q → ∀ approach op,
      (Session.operate id approach op).run.run s
        = (do Session.runOn id (approach.options b) (← ofResult (approach.taken q)) op).run.run s'
      ∧ ((Session.operate id approach op).run.run s).2.workspace.queryAt id = some q
      ∧ ((Session.operate id approach op).run.run s).2.workspace.pendingAt id = []
  rows : ∀ (s s' : Session) b q, s.workspace = w → (Session.settled id).Returns s b s' →
    b.pending = [] → s'.workspace.queryAt id = some q → ∀ form,
      (Session.supply id form).run.run s
        = (do Session.rowsOn id b (← ofResult q.copy) form).run.run s'

theorem Sound.takesUp {w : Workspace} (hw : w.Sound) {id : BuilderId}
    (hid : id < w.builders.length) : w.TakesUp id where
  statement s w' h := by
    obtain ⟨_, w₁, hsettle, hwritten⟩ := returns_bind.1 h
    obtain ⟨b, q, hb, hq, hs, hw'⟩ := returns_written hwritten
    refine ⟨w₁, b, q, hw.applied hid hsettle, fun v p hgrows hp => ?_, hb, hq, hs, ?_⟩
    · obtain ⟨q', hq', hext⟩ := hgrows.queryAt hp
      cases hq.symm.trans hq'
      exact hext
    · rw [hw']
      exact (Quiet.set hb (b.alike_noting s) (b.pending_noting s)).pending id
  again _ _ h := toSql_again h
  settled s s' b hs h := by
    subst hs
    obtain ⟨_, _, _, w, -, -, -, hsettle, hb, rfl⟩ := Session.returns_settled.1 h
    exact ⟨hb, hw.applied hid hsettle⟩
  operation s s' b q hs h hnone hq approach op := by
    subst hs
    have hrun := Session.run_operate hw h hnone hq approach op
    obtain ⟨_, _, _, w, -, -, -, -, hb, hs'⟩ := Session.returns_settled.1 h
    have hpending : s'.workspace.pendingAt id = [] := by
      rw [hs']
      exact (pendingAt_of_getElem? hb).trans hnone
    rw [hrun]
    have hkeeps : Keeps (fun s => s.workspace.queryAt id = some q ∧ s.workspace.pendingAt id = [])
        (do Session.runOn id (approach.options b) (← ofResult (approach.taken q)) op) :=
      (Keeps.of_result _).bind fun _ => Session.runOn_keeps id op
    have hafter := hkeeps s' ⟨hq, hpending⟩
    exact ⟨rfl, hafter⟩
  rows s s' b q hs h hnone hq form := Session.run_supply h hnone hq form

end Workspace

namespace Holder

open Booking

/-- **Each scope that was registered on a builder ran once, was lost once or is still pending**, and
those of a group's builder are all pending. So the scopes of a builder all ran exactly if none was
lost and none is pending, and they ran before its query was taken up. -/
theorem scopes_accounted (registry : Registry) (now : Moment) (calls : List BuilderCall) :
    let h := (fresh registry now).run BuilderCall.book calls
    h.plain = (fresh registry now).plain.run BuilderCall.carryOut calls
      ∧ Accounted h.state
      ∧ (∀ id, h.state.record.ran id = h.state.record.registered id
        ↔ h.state.record.lost id = 0 ∧ h.state.state.pendingAt id = [])
      ∧ ∀ id ∈ h.given, h.state.state.TakesUp id := by
  intro h
  obtain ⟨hkept, hplain⟩ := run_book (kept_fresh registry now) calls
  have haccounted : Accounted h.state := hkept.accounted
  refine ⟨hplain, haccounted, fun id => ?_, fun id hid => ?_⟩
  · rw [haccounted.balance id, add_assoc, left_eq_add,
      add_eq_zero_iff_of_nonneg (Multiset.zero_le _) (Multiset.zero_le _), Multiset.coe_eq_zero]
  · exact (Workspace.Sound.of_booked hkept.sound).takesUp (hkept.given id hid).lt

end Holder

namespace Workspace

/-- A builder with scopes that are pending. -/
def withPending (scopes : List Argument) : Workspace where
  queries := [{ table := "t" }]
  builders := [{ query := 0, dialect := .mysql, handle := some 0, pending := scopes }]

def isOne (column : String) : Step :=
  .mk .filter [some (.value (.text column)), some (.value (.int 1)), none,
    some (.word (.connective .and))]

/-- A routine that adds a clause and registers a scope that adds another. -/
def addingScope : Routine :=
  [isOne "a", .mk .scope [some (.routine [isOne "tenant"])]]

/-- The statement of a builder, and the statement after that. -/
def statements (id : BuilderId) : Work (String × String) := do
  return ((← toSql id).sql, (← toSql id).sql)

/-- A scope that a scope registered is missing in the first statement, and one that the routine of a
group registered is missing in both. -/
theorem added_scope_is_late :
    ((statements 0).run.run (withPending [.routine addingScope])).1.toOption
        = some ("SELECT * FROM t WHERE a = ?", "SELECT * FROM t WHERE a = ? AND tenant = ?")
      ∧ ((do
          Workspace.run 0 (.mk .filter [some (.routine addingScope), none, none,
            some (.word (.connective .and))])
          statements 0 : Work _).run.run (withPending [])).1.toOption
        = some ("SELECT * FROM t WHERE (a = ?)", "SELECT * FROM t WHERE (a = ?)") := by
  decide +kernel

end Workspace

end SqlQuery
