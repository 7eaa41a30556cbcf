import SqlQuery.Proofs.BookedSteps

/-!
# What becomes of scopes

A workspace is used by calls in any order: new builders and copies of builders, names, steps, and
statements. A book is kept on the scopes as it is on the scopes of steps.

Each scope that was registered on a builder ran once, was lost once, or is still pending
(`Booking.Accounted`). What is pending when the scopes of a builder are applied runs then, but what
those scopes register is pending afterwards, and the scopes of a group's builder are never applied.
-/

namespace SqlQuery

open Effect Recorded

namespace Workspace

/-- The statement of a builder's query as it is. -/
def written (id : BuilderId) : Work Statement := do
  let b ← builder id
  let s ← Statement.select b.dialect (← queryOf id)
  if b.debug then setBuilder id { b with lastDebug := some s }
  return s

end Workspace

namespace Booking

def runStep (id : BuilderId) (s : Step) : Booking Unit := do
  step ((← get).state.fuelFor s.size) id s

def evaluate (t : Term) : Booking Argument := do
  eval (step ((← get).state.fuelFor t.size)) t

def settle (id : BuilderId) : Booking Unit := do
  applyScopes (step ((← get).state.fuelFor 0)) id

def toSql (id : BuilderId) : Booking Statement := do
  settle id
  act (Workspace.written id)

/-- The scopes of a copy were registered on it with the copy. -/
def clone (id : BuilderId) : Booking BuilderId := do
  let copy ← act (Workspace.clone id)
  note (.entries copy .registered ((← get).state.pendingAt copy))
  return copy

end Booking

/-! ## Calls -/

/-- A call on a workspace. A builder is known by its place among those that calls gave out. -/
inductive BuilderCall where
  | newQuery (q : Query)
  /-- A new builder on a query that exists. It has no scopes. -/
  | newBuilder (b : Builder)
  | clone (i : Nat)
  | name (text : String) (i : Nat)
  | step (i : Nat) (s : Step)
  | evaluate (t : Term)
  | settle (i : Nat)
  | toSql (i : Nat)

namespace BuilderCall

/-- The builder that has a place among those that were given out. -/
def held (given : List BuilderId) (i : Nat) : Result BuilderId :=
  match given[i]? with
  | some id => .ok id
  | none => .error (Workspace.missing "builder")

/-- Carries out a call. It may give out a builder. -/
def carryOut (given : List BuilderId) : BuilderCall → Work (Option BuilderId)
  | newQuery q => do
    let _ ← Workspace.addQuery q
    return none
  | newBuilder b => do
    if (← get).queries.length ≤ b.query then throw (Workspace.missing "query")
    return some (← Workspace.addBuilder { b with pending := [] })
  | clone i => do return some (← Workspace.clone (← held given i))
  | name text i => do
    Workspace.rename text (← held given i)
    return none
  | step i s => do
    Workspace.run (← held given i) s
    return none
  | evaluate t => do
    let _ ← Workspace.evaluate t
    return none
  | settle i => do
    Workspace.settle (← held given i)
    return none
  | toSql i => do
    let _ ← Workspace.toSql (← held given i)
    return none

/-- Carries out a call and keeps the book. -/
def book (given : List BuilderId) : BuilderCall → Booking (Option BuilderId)
  | clone i => do return some (← Booking.clone (← held given i))
  | name text i => do
    act (Workspace.rename text (← held given i))
    return none
  | newBuilder b => do
    if (← get).state.queries.length ≤ b.query then throw (Workspace.missing "query")
    return some (← act (Workspace.addBuilder { b with pending := [] }))
  | step i s => do
    Booking.runStep (← held given i) s
    return none
  | evaluate t => do
    let _ ← Booking.evaluate t
    return none
  | settle i => do
    Booking.settle (← held given i)
    return none
  | toSql i => do
    let _ ← Booking.toSql (← held given i)
    return none
  | c => act (c.carryOut given)

end BuilderCall

/-- A state and the builders that were given out, in order. -/
structure Holder (σ : Type) where
  state : σ
  given : List BuilderId := []

namespace Holder

variable {σ : Type}

/-- Carries out calls, whether or not they succeed. -/
def run (carryOut : List BuilderId → BuilderCall → Effect σ (Option BuilderId)) (h : Holder σ) :
    List BuilderCall → Holder σ
  | [] => h
  | c :: calls =>
    let (answer, state) := (carryOut h.given c).run.run h.state
    run carryOut { state, given := h.given ++ answer.toOption.join.toList } calls

end Holder

/-! ## Calls keep the accounts -/

namespace Workspace

theorem run_clone (id : BuilderId) (w : Workspace) :
    (∃ e t, (clone id).run.run w = (.error e, t) ∧ Quiet w t)
      ∨ ∃ b q, w.builders[id]? = some b ∧ w.queryAt id = some q
        ∧ (clone id).Returns w w.builders.length { w with
          queries := w.queries ++ [q]
          builders := w.builders
            ++ [{ b with query := w.queries.length, lastDebug := none }] } := by
  have hquiet := builder_quietly id w
  unfold clone
  obtain ⟨e, t, hrun, hbind⟩ | ⟨b, t, hrun, hbind⟩ := run_bind (builder id) (fun b => do
    let query ← addQuery (← copyOf id)
    addBuilder { b with query, lastDebug := none }) w
  · rw [hrun] at hquiet
    exact .inl ⟨e, t, hbind, hquiet⟩
  · obtain ⟨hb, rfl⟩ := returns_builder.1 hrun
    have hquiet := copyOf_quietly id t
    obtain ⟨e, u, hrun', hbind'⟩ | ⟨q, u, hrun', hbind'⟩ := run_bind (copyOf id) (fun q => do
      let query ← addQuery q
      addBuilder { b with query, lastDebug := none }) t
    · rw [hrun'] at hquiet
      exact .inl ⟨e, u, hbind.trans hbind', hquiet⟩
    · obtain ⟨hq, rfl⟩ := returns_copyOf hrun'
      exact .inr ⟨b, q, hb, hq, hbind.trans hbind'⟩

theorem written_quietly (id : BuilderId) : Quietly (written id) := by
  refine (builder_quietly id).bind_returns fun w b t hb => ?_
  obtain ⟨hb, rfl⟩ := returns_builder.1 hb
  refine Quiet.bind (queryOf_quietly id t) fun q u hq => ?_
  obtain ⟨-, rfl⟩ := returns_queryOf.1 hq
  refine Quiet.bind (Quietly.of_lift _ u) fun s v hs => ?_
  rw [lift_eq_ofResult] at hs
  obtain ⟨-, rfl⟩ := returns_ofResult.1 hs
  by_cases hdebug : b.debug = true
  · simp only [hdebug, if_true]
    exact Quiet.set hb ⟨rfl, rfl, rfl, rfl⟩ rfl
  · simp only [hdebug]
    exact .refl v

end Workspace

namespace Booking

open Workspace

variable {r : Booked} {id : BuilderId}

/-- Any fuel from the number of steps on follows. -/
theorem follows_fuelFor (w : Workspace) (n : Nat) :
    Follows (w.weight + n) (Workspace.step (w.fuelFor n)) (step (w.fuelFor n)) := by
  have hfuel : w.weight + n ≤ w.fuelFor n := by
    rw [fuelFor_eq]
    omega
  exact follows_step hfuel hfuel

theorem runStep_mirrors (hr : Sound r) (s : Step) :
    Mirrors r (Workspace.run id s) (runStep id s) fun _ _ => True := by
  have hstep : Mirrors r (Workspace.step (r.state.fuelFor s.size) id s)
      (step (r.state.fuelFor s.size) id s)
      fun _ r' => r'.state.weight + 0 ≤ r.state.weight + s.size :=
    (follows_fuelFor r.state s.size).mirrors hr (Nat.le_refl _)
  exact (hstep.mono fun _ _ _ => trivial).congr (run_get_bind _ _) (run_get_bind _ _)

theorem evaluate_mirrors (hr : Sound r) (t : Term) :
    Mirrors r (Workspace.evaluate t) (evaluate t) fun _ _ => True := by
  have heval := (follows_fuelFor r.state t.size).eval t (m := 0) hr (Nat.le_refl _)
  exact (heval.mono fun _ _ _ => trivial).congr (run_get_bind _ _) (run_get_bind _ _)

theorem settle_mirrors (hr : Sound r) (hid : Open r id) :
    Mirrors r (Workspace.settle id) (settle id)
      fun _ r' => ⟨id, r.state, r'.state⟩ ∈ r'.record.settlements := by
  have hsettle := (follows_fuelFor r.state 0).applyScopes (m := 0) hr hid (Nat.le_refl _)
  exact (hsettle.mono fun _ _ h => h.2).congr (run_get_bind _ _) (run_get_bind _ _)

/-- A statement is written once the scopes of its builder are applied. -/
theorem toSql_mirrors (hr : Sound r) (hid : Open r id) :
    Mirrors r (Workspace.toSql id) (toSql id) fun s r' => ∃ w,
      ⟨id, r.state, w⟩ ∈ r'.record.settlements ∧ (written id).Returns w s r'.state := by
  refine (settle_mirrors hr hid).bind hr fun _ r₁ _ _ _ hsettled => ?_
  exact .act (written_quietly id r₁.state) fun s w' hs _ => ⟨r₁.state, hsettled, hs⟩

theorem clone_mirrors (hr : Sound r) :
    Mirrors r (Workspace.clone id) (Booking.clone id) fun copy r' => Open r' copy := by
  obtain ⟨e, t, hrun, hquiet⟩ | ⟨b, q, hb, hq, hrun⟩ := run_clone id r.state
  · exact ⟨.error e, _, {}, run_bind_error (run_act hrun) _, hrun, .of_quiet hquiet, nofun⟩
  let k := r.state.queries.length
  let copy := r.state.builders.length
  generalize hw : ({ r.state with
    queries := r.state.queries ++ [q]
    builders := r.state.builders ++ [{ b with query := k, lastDebug := none }] } : Workspace)
    = w at hrun
  have hnew : IsNew r.state copy w := by
    refine ⟨Nat.le_refl _, ?_⟩
    rw [← hw]
    change copy < (r.state.builders ++ [_]).length
    rw [List.length_append, List.length_singleton]
    exact Nat.lt_succ_self _
  have hpending : ∀ j, w.pendingAt j = if j = copy then b.pending else r.state.pendingAt j := by
    intro j
    rw [← hw]
    exact pendingAt_addBuilder { r.state with queries := r.state.queries ++ [q] } _ j
  have hnone : r.state.pendingAt copy = [] := by
    unfold pendingAt
    rw [List.getElem?_eq_none (Nat.le_refl _)]
    rfl
  have hgrows : r.state.Grows w := by
    rw [← hw]
    refine (Quiet.addQuery q).toGrows.trans (Grows.addBuilder fun _ => ?_)
    change k < (r.state.queries ++ [q]).length
    rw [List.length_append, List.length_singleton]
    exact Nat.lt_succ_self _
  have hnames : w.names = r.state.names := by
    rw [← hw]
  have hadded : ∀ j, w.pendingAt j
      = if j = copy then r.state.pendingAt copy ++ w.pendingAt copy else r.state.pendingAt j := by
    intro j
    rw [hpending copy, if_pos rfl, hnone]
    exact hpending j
  have hmoves := Moves.of_registered hgrows hnames (w.pendingAt copy) hadded
  refine ⟨.ok copy, _, _, Returns.run_bind (run_act hrun) _, hrun, hmoves, fun c hc => ⟨?_, ?_⟩⟩
  · exact .entries (by intro hlost; cases hlost) _
  · cases hc
    exact (hr.open_of_isNew hnew).of_groups rfl

theorem rename_mirrors (text : String) (hid : Open r id) :
    Mirrors r (Workspace.rename text id) (act (Workspace.rename text id)) fun _ _ => True := by
  let w : Workspace :=
    { r.state with names := (text, id) :: r.state.names.filter (·.1 != text) }
  have hgrows : r.state.Grows w :=
    { Grows.refl r.state with filed := fun h => h }
  have hmoves : Moves (fun _ => 0) r {} { r with state := w } := by
    refine { Moves.of_quiet (.refl r.state) with
      grows := hgrows, names := ?_, drained := nofun, events := nofun, settlements := nofun,
      copies := nofun, groups := nofun }
    intro p hp
    rcases List.mem_cons.1 hp with rfl | hold
    · exact .inr (hid.of_grows hgrows)
    · exact .inl (List.mem_of_mem_filter hold)
  exact ⟨.ok (), _, {}, rfl, rfl, hmoves, fun _ _ => ⟨nofun, trivial⟩⟩

end Booking

namespace BuilderCall

open Workspace Booking

variable {r : Booked} {given : List BuilderId}

theorem held_mem {i : Nat} {id : BuilderId} (h : held given i = .ok id) : id ∈ given := by
  unfold held at h
  split at h
  · rename_i found
    cases h
    exact List.mem_of_getElem? found
  · cases h

/-- A call with a book does what the call does. -/
theorem book_mirrors (hr : Sound r) (hgiven : ∀ id ∈ given, Open r id) (c : BuilderCall) :
    Mirrors r (c.carryOut given) (c.book given) fun answer r' => ∀ id ∈ answer, Open r' id := by
  have hheld : ∀ i, Mirrors r (liftM (held given i)) (liftM (held given i))
      fun id r' => r' = r ∧ Open r' id :=
    fun i => .of_lift fun id hid => ⟨rfl, hgiven id (held_mem hid)⟩
  cases c with
  | newQuery q =>
    refine .act ?_ fun answer w' hanswer _ => ?_
    · exact (addQuery_quietly q).bind (fun _ => .of_pure none) r.state
    · cases hanswer
      exact nofun
  | newBuilder b =>
    refine Mirrors.congr ?_ (run_get_bind _ _) (run_get_bind _ _)
    by_cases hmissing : r.state.queries.length ≤ b.query
    · simp only [if_pos hmissing]
      exact .of_throw _
    · simp only [if_neg hmissing]
      have hnew : Mirrors r (addBuilder { b with pending := [] })
          (act (addBuilder { b with pending := [] })) fun id r' => Open r' id :=
        .act (addBuilder_quiet rfl fun _ => Nat.lt_of_not_le hmissing) fun id w' hid _ =>
          hr.open_of_isNew (isNew_of_addBuilder hid)
      refine hnew.bind hr fun id r' _ _ _ hopen => .of_pure ?_
      rintro j ⟨⟩
      exact hopen
  | clone i =>
    refine (hheld i).bind hr ?_
    rintro id r' - hr' - ⟨rfl, -⟩
    refine (clone_mirrors hr').bind hr' fun copy r'' _ _ _ hopen => .of_pure ?_
    rintro j ⟨⟩
    exact hopen
  | name text i =>
    refine (hheld i).bind hr ?_
    rintro id r' - hr' - ⟨rfl, hopen⟩
    exact (rename_mirrors text hopen).bind hr' fun _ _ _ _ _ _ => .of_pure nofun
  | step i s =>
    refine (hheld i).bind hr ?_
    rintro id r' - hr' - ⟨rfl, -⟩
    exact (runStep_mirrors hr' s).bind hr' fun _ _ _ _ _ _ => .of_pure nofun
  | evaluate t => exact (evaluate_mirrors hr t).bind hr fun _ _ _ _ _ _ => .of_pure nofun
  | settle i =>
    refine (hheld i).bind hr ?_
    rintro id r' - hr' - ⟨rfl, hopen⟩
    exact (settle_mirrors hr' hopen).bind hr' fun _ _ _ _ _ _ => .of_pure nofun
  | toSql i =>
    refine (hheld i).bind hr ?_
    rintro id r' - hr' - ⟨rfl, hopen⟩
    exact (toSql_mirrors hr' hopen).bind hr' fun _ _ _ _ _ _ => .of_pure nofun

end BuilderCall

/-! ## Histories -/

namespace Booking

/-- What the book says at the end of a history. -/
structure Accounted (r : Booked) : Prop where
  /-- Each scope that was registered on a builder ran, was lost or is pending. -/
  balance : ∀ id, r.record.registered id
    = r.record.ran id + r.record.lost id + r.state.pendingAt id
  /-- The scopes of a group's builder stay pending. -/
  groups : ∀ id ∈ r.record.groups, r.record.ran id = 0 ∧ r.record.lost id = 0
  /-- What is said to have run did, and what it added is still there. -/
  events : ∀ e ∈ r.record.events, ∀ before after, e.fate = .ran before after →
    (∃ fuel, (Workspace.call (Workspace.step fuel) e.builder e.scope).Returns before () after)
      ∧ after.Grows r.state
  settlements : ∀ s ∈ r.record.settlements, s.Covered r.record.events ∧ s.after.Grows r.state
  copies : ∀ c ∈ r.record.copies, c.Settled r.record.settlements

end Booking

namespace Holder

open Booking

/-- What holds all along a history from a state on. -/
structure Kept (start : Booked) (h : Holder Booked) : Prop where
  sound : Sound h.state
  given : ∀ id ∈ h.given, Open h.state id
  moves : ∃ news, Moves (fun _ => 0) start news h.state

/-- Leaves out the book. -/
def plain (h : Holder Booked) : Holder Workspace :=
  { state := h.state.state, given := h.given }

/-- A history with a book is the history, and all it does is accounted for. -/
theorem run_book {start : Booked} {h : Holder Booked} (hk : Kept start h)
    (calls : List BuilderCall) :
    Kept start (h.run BuilderCall.book calls)
      ∧ (h.run BuilderCall.book calls).plain = h.plain.run BuilderCall.carryOut calls := by
  induction calls generalizing h with
  | nil => exact ⟨hk, rfl⟩
  | cons c rest ih =>
    obtain ⟨answer, r', news, hbook, hplain, hmoves, hok⟩ := c.book_mirrors hk.sound hk.given
    obtain ⟨before, hbefore⟩ := hk.moves
    have hnext : Kept start { state := r', given := h.given ++ answer.toOption.join.toList } := by
      refine ⟨hmoves.sound hk.sound, fun id hid => ?_, before ++ news, ?_⟩
      · rcases List.mem_append.1 hid with hold | hnew
        · exact hmoves.open_of_open (hk.given id hold)
        · cases answer with
          | error e => cases hnew
          | ok made => exact (hok made rfl).2 id (Option.mem_toList.1 hnew)
      · have hboth := hbefore.trans hmoves
        simp only [add_zero] at hboth
        exact hboth
    obtain ⟨hkept, hsame⟩ := ih hnext
    have hbooked : h.run BuilderCall.book (c :: rest)
        = Holder.run BuilderCall.book
          { state := r', given := h.given ++ answer.toOption.join.toList } rest := by
      simp only [Holder.run, hbook]
    have hcalls : h.plain.run BuilderCall.carryOut (c :: rest)
        = Holder.run BuilderCall.carryOut
          { state := r'.state, given := h.given ++ answer.toOption.join.toList } rest := by
      have hrun : (c.carryOut h.plain.given).run.run h.plain.state = (answer, r'.state) := hplain
      simp only [Holder.run, hrun]
      rfl
    rw [hbooked, hcalls]
    exact ⟨hkept, hsame⟩

/-- A workspace without builders, and an empty book. -/
def fresh (registry : Registry) (now : Moment) : Holder Booked where
  state := { state := { registry, now }, record := {} }

theorem kept_fresh (registry : Registry) (now : Moment) :
    Kept (fresh registry now).state (fresh registry now) where
  sound := {
    names := fun _ hp => absurd hp List.not_mem_nil
    groups := fun _ hid => absurd hid List.not_mem_nil
    filed := fun _ hb => absurd hb List.not_mem_nil }
  given _ hid := absurd hid List.not_mem_nil
  moves := ⟨{}, .of_quiet (.refl _)⟩

theorem Kept.accounted {registry : Registry} {now : Moment} {h : Holder Booked}
    (hk : Kept (fresh registry now).state h) : Accounted h.state := by
  obtain ⟨news, hmoves⟩ := hk.moves
  have hrecord : h.state.record = news := by
    rw [hmoves.record]
    exact ScopeBook.nil_append news
  rw [← hrecord] at hmoves
  -- a builder whose scopes ran or were lost is no group's
  have hnone : ∀ id ∈ h.state.record.groups, ∀ p : Fate → Bool,
      (∀ fate, p fate = true → fate.isRegistered = false) → h.state.record.scopes p id = 0 := by
    intro id hid p hp
    refine ScopeBook.scopes_eq_zero fun e he hfate hsame => ?_
    exact (hmoves.drained e he (hp e.fate hfate)).notGroup (hsame ▸ hid)
  refine ⟨fun id => ?_, fun id hid => ⟨?_, ?_⟩, fun e he before after hran => ?_, ?_,
    hmoves.copies⟩
  · have hbalance := hmoves.balance id
    have hstart : (fresh registry now).state.state.pendingAt id = [] := rfl
    rw [hstart, Multiset.coe_nil, add_zero, zero_add] at hbalance
    exact hbalance
  · refine hnone id hid Fate.isRan fun fate hran => ?_
    cases fate <;> trivial
  · refine hnone id hid Fate.isLost fun fate hlost => ?_
    cases fate <;> trivial
  · obtain ⟨-, -, hafter, htrue⟩ := hmoves.events e he before after hran
    exact ⟨htrue, hafter⟩
  · exact fun s hs => (hmoves.settlements s hs).symm

end Holder

end SqlQuery
