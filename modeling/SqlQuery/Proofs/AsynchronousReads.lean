import SqlQuery.Proofs.FailedScopes
import SqlQuery.Proofs.Waits

/-!
# Reads beside the caller

The asynchronous methods run what the methods of the same names run, on a copy of the query that is
taken at once. They differ in one thing by design: the builder's cancel event is for calls that wait
in the caller's place, and a call beside the caller is given up with its task. The time to wait is
for both.

So the two answer alike, and leave the executor, the cache, the limit and the log alike, unless the
event is set and there is a limit on the executions at once. Then the first gives up before any
statement is run, and the second runs as without the event.
-/

namespace SqlQuery

open Effect

namespace Wait

variable {timeout signal : Argument} {isSet : Bool}

/-- A signal that was not given is as good as none. -/
theorem of_unset (h : signalOf signal isSet = .ok false) :
    of timeout signal isSet = of timeout .null isSet := by
  have hnull : signalOf .null isSet = .ok false := rfl
  unfold of
  rw [h, hnull]

theorem of_set {t : Option Double} (ht : secondsOf timeout = .ok t)
    (h : signalOf signal isSet = .ok true) :
    of timeout signal isSet = { timeout := t, cancelled := true } := by
  unfold of
  rw [h, ht]
  rfl

end Wait

namespace Session

open Workspace

variable {s : Session} {id : BuilderId} {b : Builder} {q : Query} {α : Type}

/-- A builder has a handle that exists. -/
def Attached (s : Session) (b : Builder) : Prop :=
  ∃ i h, b.handle = some i ∧ s.handles[i]? = some h

/-! ## Running a query that is taken up -/

/-- What is observed may be done in another way. -/
theorem run_observed_congr {x y : Play α}
    (h : ∀ t : Session, t.world.limiter = s.world.limiter → x.run.run t = y.run.run t) :
    (observed id b x).run.run s = (observed id b y).run.run s := by
  let t : Session := { s with world := { s.world with observed := none } }
  have hclear : (modify fun s : Session =>
      { s with world := { s.world with observed := none } } : Play Unit).Returns s () t := rfl
  have hsame : (attempt x).run.run t = (attempt y).run.run t := by
    rw [run_attempt, run_attempt, h t rfl]
  unfold observed
  rw [hclear.run_bind, hclear.run_bind]
  exact run_bind_congr hsame _

theorem run_execute {x : Run Script α} {r : Result α} {w : World Script}
    (h : x.run.run s.world = (r, w)) :
    (execute x).run.run s = (r, { s with world := w }) := by
  unfold execute
  exact run_onPart h

/-- How a builder waits plays no part in what it notes. -/
theorem observed_without_event (x : Play α) :
    observed id { b with cancelEvent := .null } x = observed id b x :=
  rfl

theorem run_runOn {e : Engine Script} (hengine : (builderEngine b).Returns s e s) (o : Operation) :
    (runOn id b q (.ok o)).run.run s
      = (observed id b (execute (o.run e b.settings Script.visit q))).run.run s := by
  have hop : (ofResult (.ok o)).Returns s o s := returns_ofResult.2 ⟨rfl, rfl⟩
  unfold runOn
  rw [hengine.run_bind, hop.run_bind]
  unfold runOperation
  rfl

/-- A read without its builder's event, where that would not end the wait. -/
theorem run_runOn_without_event (hattached : s.Attached b) {op : Result Operation}
    (hop : ∀ o d, op = .ok o → (o.opening d q).isSome = true)
    (hevent : s.world.limiter = none
      ∨ Wait.signalOf b.cancelEvent s.workspace.eventIsSet = .ok false) :
    (runOn id { b with cancelEvent := .null } q op).run.run s = (runOn id b q op).run.run s := by
  obtain ⟨i, handle, hhandle, hfound⟩ := hattached
  let b' : Builder := { b with cancelEvent := .null }
  have hengine : (builderEngine b).Returns s (s.engineOf handle (s.waitOf b)) s :=
    returns_builderEngine.2 ⟨i, handle, hhandle, hfound, rfl, rfl⟩
  have hengine' : (builderEngine b').Returns s (s.engineOf handle (s.waitOf b')) s :=
    returns_builderEngine.2 ⟨i, handle, hhandle, hfound, rfl, rfl⟩
  cases op with
  | error err =>
    have hfails : (ofResult (.error err) : Play Operation).run.run s = (.error err, s) := rfl
    unfold runOn
    rw [hengine.run_bind, hengine'.run_bind, run_bind_error hfails, run_bind_error hfails]
  | ok o =>
    rw [run_runOn hengine, run_runOn hengine', observed_without_event]
    refine run_observed_congr fun t ht => ?_
    have hrun : (o.run (s.engineOf handle (s.waitOf b')) b.settings Script.visit q).run.run t.world
        = (o.run (s.engineOf handle (s.waitOf b)) b.settings Script.visit q).run.run t.world := by
      rcases hevent with hnone | hunset
      · have hwait : s.engineOf handle (s.waitOf b')
            = (s.engineOf handle (s.waitOf b)).waiting (s.waitOf b') := rfl
        rw [hwait]
        exact (Operation.run_waiting (hop o _ rfl) _ t.world (ht.trans hnone)).1
      · have hwait : s.waitOf b = s.waitOf b' := Wait.of_unset hunset
        rw [hwait]
    rcases hplain : (o.run (s.engineOf handle (s.waitOf b)) b.settings Script.visit q).run.run
      t.world with ⟨answer, w⟩
    exact (run_execute (hrun.trans hplain)).trans (run_execute hplain).symm

/-- What is observed ends as it does unobserved, but for the statement that the builder notes. -/
theorem run_observed {x : Play α} {r : Result α} {t : Session} {c : Builder}
    (h : x.run.run { s with world := { s.world with observed := none } } = (r, t))
    (hc : t.workspace.builders[id]? = some c) :
    ∃ w, (observed id b x).run.run s = (r, { t with workspace := w }) := by
  have hclear : (modify fun s : Session =>
      { s with world := { s.world with observed := none } } : Play Unit).Returns s ()
        { s with world := { s.world with observed := none } } := rfl
  unfold observed
  rw [hclear.run_bind, (returns_attempt.2 h).run_bind]
  by_cases hdebug : b.debug = true
  · rw [if_pos hdebug, run_get_bind]
    cases t.world.observed with
    | none =>
      refine ⟨t.workspace, ?_⟩
      cases r <;> rfl
    | some statement =>
      let w : Workspace := { t.workspace with
        builders := t.workspace.builders.set id { c with lastDebug := some statement } }
      have hnote : (work do
          setBuilder id { ← builder id with lastDebug := some statement }).Returns t ()
          { t with workspace := w } :=
        returns_work.2 ⟨w, returns_bind.2 ⟨c, _, returns_builder.2 ⟨hc, rfl⟩, rfl⟩, rfl⟩
      refine ⟨w, (hnote.run_bind _).trans ?_⟩
      cases r <;> rfl
  · rw [if_neg hdebug]
    refine ⟨t.workspace, ?_⟩
    cases r <;> rfl

/-- A read whose caller has given up ends before its first statement is run. -/
theorem run_runOn_givenUp {h : Handle} {statement : Statement} {o : Operation} {c : Builder}
    (hhandle : ∃ i, b.handle = some i ∧ s.handles[i]? = some h)
    (hgiven : (s.engineOf h (s.waitOf b)).GivenUp s.world)
    (hop : o.opening h.dialect q = some (.ok statement))
    (hc : s.workspace.builders[id]? = some c) :
    ∃ w, (runOn id b q (.ok o)).run.run s = (.error (.cancelled .signalled),
      { s with workspace := w, world := { s.world with observed := some statement } }) := by
  obtain ⟨i, hhandle, hfound⟩ := hhandle
  have hengine : (builderEngine b).Returns s (s.engineOf h (s.waitOf b)) s :=
    returns_builderEngine.2 ⟨i, h, hhandle, hfound, rfl, rfl⟩
  have hcleared : (s.engineOf h (s.waitOf b)).GivenUp { s.world with observed := none } :=
    ⟨hgiven.fault, hgiven.cancelled, hgiven.limited, hgiven.uncached⟩
  let t : Session := { s with world := { s.world with observed := none } }
  have hrun : (o.run (s.engineOf h (s.waitOf b)) b.settings Script.visit q).run.run t.world
      = (.error (.cancelled .signalled), { s.world with observed := some statement }) :=
    Operation.run_givenUp hcleared hop
  rw [run_runOn hengine]
  obtain ⟨w, hw⟩ := run_observed (b := b) (run_execute (s := t) hrun) hc
  exact ⟨w, hw⟩

/-! ## The methods and their asynchronous forms -/

/-- The scopes of a builder with a handle are applied, and nothing is pending after that. -/
structure Settles (s : Session) (id : BuilderId) (b₀ : Builder) (h : Handle) (b : Builder)
    (q : Query) (w : Workspace) : Prop where
  handle : ∃ i, b₀.handle = some i ∧ s.handles[i]? = some h
  settle : (settle id).Returns s.workspace () w
  builder : w.builders[id]? = some b
  none : b.pending = []
  query : w.queryAt id = some q

/-- Waits with the builder's event are given up, and what is read comes from the executor. -/
structure GivesUp (s : Session) (h : Handle) (b : Builder) (w : Workspace) : Prop where
  limited : ∃ limiter, s.world.limiter = some limiter
  uncached : h.inTransaction = false → s.world.cache = none
  timeout : ∃ t, Wait.secondsOf b.timeout = .ok t
  isSet : Wait.signalOf b.cancelEvent w.eventIsSet = .ok true

/-- How an operation is run in place of the caller and beside. -/
structure AnswersAlike (s : Session) (id : BuilderId) (b₀ : Builder) (approach : Approach)
    (op : Result Operation) : Prop where
  /-- Where the scopes fail, both fail with that. -/
  failing : ∀ e w, s.Attached b₀ → (settle id).run.run s.workspace = (.error e, w) →
    (operate id .beside op).run.run s = (.error e, { s with workspace := w })
      ∧ (operate id approach op).run.run s = (.error e, { s with workspace := w })
  /-- Without a handle both fail, and run nothing. -/
  detached : ∀ w q, ¬ s.Attached b₀ → (settle id).Returns s.workspace () w → w.queryAt id = some q →
    q.copy = .ok q → ∃ e, (operate id approach op).run.run s = (.error e, s)
      ∧ (operate id .beside op).run.run s = (.error e, { s with workspace := w })
  /-- Otherwise both run the same query, one of them without the event. -/
  running : ∀ h b q w, s.Settles id b₀ h b q w →
    (operate id approach op).run.run s
      = (do runOn id b (← ofResult (approach.taken q)) op).run.run { s with workspace := w }
    ∧ (operate id .beside op).run.run s
      = (do runOn id { b with cancelEvent := .null } (← ofResult q.copy) op).run.run
          { s with workspace := w }
  /-- The event makes no difference unless it is set and there is a limit. -/
  same : ∀ h b q w, s.Settles id b₀ h b q w → (approach = .inPlace → q.copy = .ok q) →
    (s.world.limiter = none ∨ Wait.signalOf b.cancelEvent w.eventIsSet = .ok false) →
    (operate id .beside op).run.run s = (operate id approach op).run.run s
  /-- If it is set and there is one, the call in place of the caller runs nothing. -/
  cancelled : ∀ h b q w, s.Settles id b₀ h b q w → approach.taken q = .ok q → s.GivesUp h b w →
    ∀ o statement, op = .ok o → o.opening h.dialect q = some (.ok statement) →
    ∃ w', (operate id approach op).run.run s = (.error (.cancelled .signalled),
      { s with workspace := w', world := { s.world with observed := some statement } })

theorem Settles.settled {b₀ : Builder} {h : Handle} {w : Workspace}
    (hsettles : s.Settles id b₀ h b q w) (hb₀ : s.workspace.builders[id]? = some b₀) :
    (settled id).Returns s b { s with workspace := w } := by
  obtain ⟨i, hhandle, hfound⟩ := hsettles.handle
  exact returns_settled.2
    ⟨b₀, i, h, w, hb₀, hhandle, hfound, hsettles.settle, hsettles.builder, rfl⟩

/-- What the builder's handle is after its scopes are applied. -/
theorem Settles.alike {b₀ : Builder} {h : Handle} {w : Workspace}
    (hsettles : s.Settles id b₀ h b q w) (hs : s.workspace.Sound)
    (hb₀ : s.workspace.builders[id]? = some b₀) : b₀.Alike b := by
  obtain ⟨hlt, -⟩ := List.getElem?_eq_some_iff.1 hb₀
  obtain ⟨b', hb', halike⟩ := (hs.settle hlt hsettles.settle).1.builders hb₀
  cases hsettles.builder.symm.trans hb'
  exact halike

/-- A builder without a handle has no engine. -/
theorem run_builderEngine_of_detached (h : ¬ s.Attached b) :
    ∃ e, ∀ (t : Session) (c : Builder), t.handles = s.handles → c.handle = b.handle →
      (builderEngine c).run.run t = (.error e, t) := by
  cases hhandle : b.handle with
  | none =>
    refine ⟨.configuration .detached, fun t c _ hc => ?_⟩
    unfold builderEngine
    rw [hc]
    rfl
  | some i =>
    have hmissing : s.handles[i]? = none := by
      cases hfound : s.handles[i]? with
      | none => rfl
      | some handle => exact absurd ⟨i, handle, hhandle, hfound⟩ h
    refine ⟨missing "handle", fun t c ht hc => ?_⟩
    have hlook : (handleAt i).run.run t = (.error (missing "handle"), t) := by
      unfold handleAt
      rw [run_get_bind, ht, hmissing]
      rfl
    unfold builderEngine
    rw [hc]
    exact (run_get_bind _ t).trans (run_bind_error hlook _)

/-- Where the scopes can be applied, the two ways differ in the copy and in the event. -/
theorem Settles.run_operate {b₀ : Builder} {h : Handle} {w : Workspace}
    (hsettles : s.Settles id b₀ h b q w) (hs : s.workspace.Sound)
    (hb₀ : s.workspace.builders[id]? = some b₀) {approach : Approach} (hplace : approach ≠ .beside)
    (op : Result Operation) :
    (operate id approach op).run.run s
      = (do runOn id b (← ofResult (approach.taken q)) op).run.run { s with workspace := w }
    ∧ (operate id .beside op).run.run s
      = (do runOn id { b with cancelEvent := .null } (← ofResult q.copy) op).run.run
          { s with workspace := w } := by
  have hsettled := hsettles.settled hb₀
  have hhere := Session.run_operate hs hsettled hsettles.none hsettles.query approach op
  have hbeside := Session.run_operate hs hsettled hsettles.none hsettles.query .beside op
  have hoptions : approach.options b = b := by
    cases approach with
    | beside => exact absurd rfl hplace
    | _ => rfl
  rw [hoptions] at hhere
  exact ⟨hhere, hbeside⟩

/-- Without a handle both ways fail alike; only beside the caller are the scopes applied first. -/
theorem run_operate_of_detached {b₀ : Builder} {w : Workspace} (hs : s.workspace.Sound)
    (hb₀ : s.workspace.builders[id]? = some b₀) {approach : Approach} (hplace : approach ≠ .beside)
    (hdetached : ¬ s.Attached b₀) (hsettle : (settle id).Returns s.workspace () w)
    (hq : w.queryAt id = some q) (hcopy : q.copy = .ok q) (op : Result Operation) :
    ∃ e, (operate id approach op).run.run s = (.error e, s)
      ∧ (operate id .beside op).run.run s = (.error e, { s with workspace := w }) := by
  obtain ⟨e, hnone⟩ := run_builderEngine_of_detached hdetached
  obtain ⟨hlt, -⟩ := List.getElem?_eq_some_iff.1 hb₀
  obtain ⟨b, hb, halike⟩ := (hs.settle hlt hsettle).1.builders hb₀
  have hunsettled : ∀ (t : Session) c, t.handles = s.handles → c.handle = b₀.handle →
      t.workspace.builders[id]? = some c → (settled id).run.run t = (.error e, t) := by
    intro t c ht hc hbuilder
    have hwork : (work (builder id)).Returns t c t := returns_work_builder.2 ⟨hbuilder, rfl⟩
    unfold settled
    rw [hwork.run_bind]
    exact run_bind_error (hnone t c ht hc) _
  refine ⟨e, ?_, ?_⟩
  · have hhere := hunsettled s b₀ rfl rfl hb₀
    cases approach with
    | beside => exact absurd rfl hplace
    | _ => exact run_bind_error hhere _
  · have htaken : (snapshot id).Returns s q { s with workspace := w } := by
      have hcopied := run_snapshot hsettle hq
      rw [hcopy] at hcopied
      exact hcopied
    have hbeside := hunsettled { s with workspace := w } b rfl halike.handle hb
    exact (htaken.run_bind _).trans (run_bind_error hbeside _)

theorem answersAlike {b₀ : Builder} (hs : s.workspace.Sound)
    (hb₀ : s.workspace.builders[id]? = some b₀) {approach : Approach} (hplace : approach ≠ .beside)
    {op : Result Operation} (hop : ∀ o d q, op = .ok o → (o.opening d q).isSome = true) :
    s.AnswersAlike id b₀ approach op := by
  refine ⟨?_, ?_, fun h b q w hsettles => hsettles.run_operate hs hb₀ hplace op, ?_, ?_⟩
  · rintro e w ⟨i, handle, hhandle, hfound⟩ hfails
    have hboth := fails_of_settle_error hfails
    exact ⟨hboth.beside op, hboth.operation b₀ i handle hb₀ hhandle hfound approach op⟩
  · exact fun w q hdetached hsettle hq hcopy =>
      run_operate_of_detached hs hb₀ hplace hdetached hsettle hq hcopy op
  · intro h b q w hsettles hcopy hevent
    obtain ⟨hhere, hbeside⟩ := hsettles.run_operate hs hb₀ hplace op
    have htaken : approach.taken q = q.copy := by
      cases approach with
      | inPlace => exact (hcopy rfl).symm
      | _ => rfl
    rw [hhere, hbeside, htaken]
    rcases q.copy with e | q'
    · have hfails : (ofResult (.error e) : Play Query).run.run { s with workspace := w }
          = (.error e, { s with workspace := w }) := rfl
      rw [run_bind_error hfails, run_bind_error hfails]
    · have hcopied : (ofResult (.ok q') : Play Query).Returns { s with workspace := w } q'
          { s with workspace := w } := rfl
      rw [hcopied.run_bind, hcopied.run_bind]
      obtain ⟨i, hhandle, hfound⟩ := hsettles.handle
      have hattached : Attached { s with workspace := w } b :=
        ⟨i, h, (hsettles.alike hs hb₀).handle.trans hhandle, hfound⟩
      exact run_runOn_without_event hattached (fun o d => hop o d q') hevent
  · intro h b q w hsettles htaken hgives o statement hok hopening
    have hcopied : (ofResult (.ok q) : Play Query).Returns { s with workspace := w } q
        { s with workspace := w } := rfl
    rw [(hsettles.run_operate hs hb₀ hplace op).1, htaken, hcopied.run_bind, hok]
    obtain ⟨i, hhandle, hfound⟩ := hsettles.handle
    obtain ⟨t, htimeout⟩ := hgives.timeout
    have hwait : waitOf { s with workspace := w } b = { timeout := t, cancelled := true } :=
      Wait.of_set htimeout hgives.isSet
    have hgiven : (engineOf { s with workspace := w } h
        (waitOf { s with workspace := w } b)).GivenUp s.world := by
      rw [hwait]
      refine ⟨rfl, rfl, hgives.limited, fun hcaching => hgives.uncached ?_⟩
      change (!h.inTransaction) = true at hcaching
      simpa using hcaching
    exact run_runOn_givenUp (s := { s with workspace := w })
      ⟨i, (hsettles.alike hs hb₀).handle.trans hhandle, hfound⟩ hgiven hopening hsettles.builder

end Session

/-- Pages that are asked for by numbers open with the statement that counts the rows. -/
theorem Operation.opening_of_page {call : Call Argument} {o : Operation}
    (h : (ofPage paginate paginateOf).call call = .ok o) (d : Dialect) (q : Query) :
    (o.opening d q).isSome = true := by
  obtain ⟨page, -, h⟩ := Result.bind_eq_ok.1 h
  obtain ⟨perPage, -, h⟩ := Result.bind_eq_ok.1 h
  split at h
  all_goals
    cases h
    rfl

namespace Session

open Workspace

variable {s : Session} {id : BuilderId} {b : Builder}

/-- **The asynchronous methods answer like the methods of the same names**, but for the builder's
event. -/
theorem async_answers_alike (hs : s.workspace.Sound) (hb : s.workspace.builders[id]? = some b) :
    ∀ name ∈ ["get", "first", "count", "paginate"], ∃ approach form,
      Operation.forms.lookup name = some (approach, form)
      ∧ Operation.forms.lookup (name ++ "_async") = some (.beside, form)
      ∧ ∀ call, s.AnswersAlike id b approach (form.call call) := by
  intro name hname
  simp only [List.mem_cons, List.not_mem_nil, or_false] at hname
  rcases hname with rfl | rfl | rfl | rfl
  · refine ⟨.inPlace, .constant .get, rfl, rfl, fun call => answersAlike hs hb (by decide) ?_⟩
    rintro o d q ⟨⟩
    rfl
  · refine ⟨.onCopy, .constant .first, rfl, rfl, fun call => answersAlike hs hb (by decide) ?_⟩
    rintro o d q ⟨⟩
    rfl
  · refine ⟨.onCopy, Operation.counting, rfl, rfl, fun call => answersAlike hs hb (by decide) ?_⟩
    rintro o d q ⟨⟩
    rfl
  · refine ⟨.onSnapshot, Operation.ofPage .paginate .paginateOf, rfl, rfl, fun call => ?_⟩
    exact answersAlike hs hb (by decide) fun o d q ho => Operation.opening_of_page ho d q

def eventBuilder : Builder where
  query := 0
  dialect := .mysql
  handle := some 0
  cancelEvent := .event

/-- A builder with an event, and one slot. -/
def withEvent (isSet : Bool) : Session where
  workspace := { queries := [{ table := "t" }], builders := [eventBuilder], eventIsSet := isSet }
  world := { outside := {}, limiter := some { capacity := 1, free := 1 } }
  handles := [{ dialect := .mysql, settings := {} }]

theorem get_async_with_unset_event : (operate 0 .beside (.ok .get)).run.run (withEvent false)
    = (operate 0 .inPlace (.ok .get)).run.run (withEvent false) := by
  have hs : (withEvent false).workspace.Sound := by
    refine ⟨fun p hp => absurd hp List.not_mem_nil, fun b hb => ?_⟩
    rw [List.mem_singleton.1 hb]
    exact Nat.one_pos
  have hb : (withEvent false).workspace.builders[0]? = some eventBuilder := rfl
  obtain ⟨approach, form, hname, -, halike⟩ := async_answers_alike hs hb "get" (by simp)
  have hget : Operation.forms.lookup "get" = some (.inPlace, .constant .get) := rfl
  cases hget.symm.trans hname
  have hcopy : ({ table := "t" } : Query).copy = .ok { table := "t" } := rfl
  have hsettles : (withEvent false).Settles 0 eventBuilder { dialect := .mysql, settings := {} }
      eventBuilder { table := "t" } (withEvent false).workspace :=
    ⟨⟨0, rfl, rfl⟩, settle_of_none hb rfl, hb, rfl, rfl⟩
  exact (halike ⟨[], []⟩).same _ _ _ _ hsettles (fun _ => hcopy) (.inr rfl)

/-- An event that is set ends the call in place of the caller, and not the one beside. -/
theorem set_event_ends_get_only :
    let here := (operate 0 .inPlace (.ok .get)).run.run (withEvent true)
    let beside := (operate 0 .beside (.ok .get)).run.run (withEvent true)
    here.1.toOption.isNone ∧ here.2.world.outside.calls.length = 0
      ∧ beside.1.toOption.isSome ∧ beside.2.world.outside.calls.length = 1 := by
  decide +kernel

end Session

end SqlQuery
