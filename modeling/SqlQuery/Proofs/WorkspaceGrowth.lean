import SqlQuery.Workspace
import SqlQuery.Proofs.Effects
import SqlQuery.Proofs.GrowingQueries
import Mathlib.Algebra.GroupWithZero.Nat

/-!
# Workspaces that only grow

Whatever steps do, a builder stays on its query, and a query keeps its clauses (`Workspace.Grows`).
Most of what a step is made of leaves the names and the pending scopes alone as well
(`Workspace.Quiet`): only registering scopes and applying them does not.
-/

namespace SqlQuery

open Effect

variable {α β : Type}

theorem Query.eq_of_copy {q q' : Query} (h : q.copy = .ok q') : q' = q := by
  unfold Query.copy at h
  split at h
  · cases h
  · cases h
    rfl

/-- What no step changes about a builder. -/
structure Builder.Alike (b b' : Builder) : Prop where
  query : b'.query = b.query
  dialect : b'.dialect = b.dialect
  settings : b'.settings = b.settings
  handle : b'.handle = b.handle

namespace Builder.Alike

variable {b b' b'' : Builder}

theorem refl (b : Builder) : Alike b b :=
  ⟨rfl, rfl, rfl, rfl⟩

theorem trans (h : Alike b b') (h' : Alike b' b'') : Alike b b'' :=
  ⟨h'.query.trans h.query, h'.dialect.trans h.dialect, h'.settings.trans h.settings,
    h'.handle.trans h.handle⟩

end Builder.Alike

namespace Workspace

/-! ## Pending scopes -/

/-- The pending scopes of a builder. A builder that does not exist has none. -/
def pendingAt (w : Workspace) (id : BuilderId) : List Argument :=
  (w.builders[id]?.map Builder.pending).getD []

def sizeOfScopes (scopes : List Argument) : Nat :=
  (scopes.map sizeOfScope).sum

/-- The number of steps in all pending scopes. -/
def weight (w : Workspace) : Nat :=
  (w.builders.map fun b => sizeOfScopes b.pending).sum

@[simp]
theorem sizeOfScopes_nil : sizeOfScopes [] = 0 :=
  rfl

@[simp]
theorem sizeOfScopes_cons (scope : Argument) (rest : List Argument) :
    sizeOfScopes (scope :: rest) = sizeOfScope scope + sizeOfScopes rest :=
  rfl

@[simp]
theorem sizeOfScopes_append (scopes rest : List Argument) :
    sizeOfScopes (scopes ++ rest) = sizeOfScopes scopes + sizeOfScopes rest := by
  unfold sizeOfScopes
  rw [List.map_append, List.sum_append]

theorem sizeOfScope_le {scope : Argument} {scopes : List Argument} (h : scope ∈ scopes) :
    sizeOfScope scope ≤ sizeOfScopes scopes := by
  obtain ⟨before, after, rfl⟩ := List.append_of_mem h
  rw [sizeOfScopes_append, sizeOfScopes_cons]
  omega

theorem fuelFor_eq (w : Workspace) (steps : Nat) : w.fuelFor steps = w.weight + (steps + 1) := by
  have hscopes : ∀ (scopes : List Argument) n,
      scopes.foldr (fun scope n => sizeOfScope scope + n) n = sizeOfScopes scopes + n := by
    intro scopes n
    induction scopes with
    | nil => exact (Nat.zero_add n).symm
    | cons scope rest ih => rw [List.foldr_cons, ih, sizeOfScopes_cons, Nat.add_assoc]
  have hbuilders : ∀ builders : List Builder,
      sizeOfScopes (builders.flatMap Builder.pending)
        = (builders.map fun b => sizeOfScopes b.pending).sum := by
    intro builders
    induction builders with
    | nil => rfl
    | cons b rest ih =>
      rw [List.flatMap_cons, sizeOfScopes_append, ih, List.map_cons, List.sum_cons]
  unfold fuelFor
  rw [hscopes, hbuilders]
  rfl

theorem pendingAt_of_getElem? {w : Workspace} {id : BuilderId} {b : Builder}
    (h : w.builders[id]? = some b) : w.pendingAt id = b.pending := by
  unfold pendingAt
  rw [h]
  rfl

/-- Other scopes for one builder. -/
theorem pendingAt_set {w w' : Workspace} {id : BuilderId} {b b' : Builder}
    (hw : w'.builders = w.builders.set id b') (h : w.builders[id]? = some b) (j : BuilderId) :
    w'.pendingAt j = if j = id then b'.pending else w.pendingAt j := by
  obtain ⟨hlt, -⟩ := List.getElem?_eq_some_iff.1 h
  unfold pendingAt
  rw [hw, List.getElem?_set]
  by_cases hj : j = id
  · subst hj
    simp [hlt]
  · simp [hj, Ne.symm hj]

/-- The scopes of one more builder. -/
theorem pendingAt_addBuilder (w : Workspace) (b : Builder) (j : BuilderId) :
    pendingAt { w with builders := w.builders ++ [b] } j
      = if j = w.builders.length then b.pending else w.pendingAt j := by
  unfold pendingAt
  change Option.getD (Option.map _ (w.builders ++ [b])[j]?) [] = _
  rcases Nat.lt_trichotomy j w.builders.length with hlt | heq | hgt
  · rw [List.getElem?_append_left hlt, if_neg (Nat.ne_of_lt hlt)]
  · rw [heq, List.getElem?_concat_length, if_pos rfl]
    rfl
  · have hbeyond : (w.builders ++ [b]).length ≤ j := by
      rw [List.length_append, List.length_singleton]
      exact hgt
    rw [List.getElem?_eq_none hbeyond, List.getElem?_eq_none (Nat.le_of_lt hgt),
      if_neg (Nat.ne_of_gt hgt)]

/-- What is taken away from the scopes of a builder makes way for what is put there. -/
theorem weight_set {w w' : Workspace} {id : BuilderId} {b b' : Builder}
    (hw : w'.builders = w.builders.set id b') (h : w.builders[id]? = some b) :
    w'.weight + sizeOfScopes b.pending = w.weight + sizeOfScopes b'.pending := by
  have hset : ∀ (builders : List Builder) (i : Nat), builders[i]? = some b →
      ((builders.set i b').map fun b => sizeOfScopes b.pending).sum + sizeOfScopes b.pending
        = (builders.map fun b => sizeOfScopes b.pending).sum + sizeOfScopes b'.pending := by
    intro builders i hi
    induction builders generalizing i with
    | nil => cases hi
    | cons first rest ih =>
      cases i with
      | zero =>
        cases hi
        simp only [List.set_cons_zero, List.map_cons, List.sum_cons]
        omega
      | succ i =>
        have hrest := ih i hi
        simp only [List.set_cons_succ, List.map_cons, List.sum_cons] at hrest ⊢
        omega
  unfold weight
  rw [hw]
  exact hset w.builders id h

/-! ## Growing -/

/-- The query of a builder. -/
def queryAt (w : Workspace) (id : BuilderId) : Option Query :=
  w.builders[id]?.bind fun b => w.queries[b.query]?

/-- Other options for one builder. -/
theorem queryAt_set {w : Workspace} {id : BuilderId} {b b' : Builder}
    (h : w.builders[id]? = some b) (halike : b.Alike b') (j : BuilderId) :
    queryAt { w with builders := w.builders.set id b' } j = w.queryAt j := by
  obtain ⟨hlt, -⟩ := List.getElem?_eq_some_iff.1 h
  unfold queryAt
  change Option.bind (w.builders.set id b')[j]? _ = _
  by_cases hj : id = j
  · subst hj
    rw [List.getElem?_set_self hlt, h, Option.bind_some, Option.bind_some, halike.query]
  · rw [List.getElem?_set_ne hj]

/-- Every builder is on a query that exists. -/
def Filed (w : Workspace) : Prop :=
  ∀ b ∈ w.builders, b.query < w.queries.length

/-- Builders stay on their queries, and queries keep their clauses. -/
structure Grows (w w' : Workspace) : Prop where
  builders : ∀ {id : BuilderId} {b : Builder}, w.builders[id]? = some b →
    ∃ b', w'.builders[id]? = some b' ∧ b.Alike b'
  queries : ∀ {k : QueryId} {q : Query}, w.queries[k]? = some q →
    ∃ q', w'.queries[k]? = some q' ∧ q.ExtendedBy q'
  filed : w.Filed → w'.Filed

namespace Grows

variable {w w' w'' : Workspace}

theorem refl (w : Workspace) : Grows w w where
  builders h := ⟨_, h, .refl _⟩
  queries h := ⟨_, h, .refl _⟩
  filed h := h

theorem trans (h : Grows w w') (h' : Grows w' w'') : Grows w w'' where
  builders hb := by
    obtain ⟨b', hb', halike⟩ := h.builders hb
    obtain ⟨b'', hb'', halike'⟩ := h'.builders hb'
    exact ⟨b'', hb'', halike.trans halike'⟩
  queries hq := by
    obtain ⟨q', hq', hext⟩ := h.queries hq
    obtain ⟨q'', hq'', hext'⟩ := h'.queries hq'
    exact ⟨q'', hq'', hext.trans hext'⟩
  filed hw := h'.filed (h.filed hw)

theorem builders_length_le (h : Grows w w') : w.builders.length ≤ w'.builders.length := by
  by_contra hlt
  obtain ⟨b', hb', -⟩ := h.builders (List.getElem?_eq_getElem (Nat.lt_of_not_le hlt))
  obtain ⟨hlt', -⟩ := List.getElem?_eq_some_iff.1 hb'
  omega

/-- The clauses of a builder's query stay in it. -/
theorem queryAt (h : Grows w w') {id : BuilderId} {q : Query} (hq : w.queryAt id = some q) :
    ∃ q', w'.queryAt id = some q' ∧ q.ExtendedBy q' := by
  obtain ⟨b, hb, hq⟩ := Option.bind_eq_some_iff.1 hq
  obtain ⟨b', hb', halike⟩ := h.builders hb
  obtain ⟨q', hq', hext⟩ := h.queries hq
  refine ⟨q', ?_, hext⟩
  rw [Workspace.queryAt, hb', Option.bind_some, halike.query]
  exact hq'

/-- Other options for one builder. -/
theorem set {id : BuilderId} {b b' : Builder} (h : w.builders[id]? = some b)
    (halike : b.Alike b') : Grows w { w with builders := w.builders.set id b' } where
  builders {j c} hc := by
    change ∃ c', (w.builders.set id b')[j]? = some c' ∧ _
    obtain ⟨hlt, -⟩ := List.getElem?_eq_some_iff.1 hc
    by_cases hj : id = j
    · subst hj
      cases hc.symm.trans h
      exact ⟨b', by simp [hlt], halike⟩
    · exact ⟨c, by rw [List.getElem?_set_ne hj]; exact hc, .refl c⟩
  queries hq := ⟨_, hq, .refl _⟩
  filed hw := by
    intro c hc
    rcases List.mem_or_eq_of_mem_set hc with hc | rfl
    · exact hw c hc
    · have hb := hw b (List.mem_of_getElem? h)
      rw [← halike.query] at hb
      exact hb

/-- One more builder. -/
theorem addBuilder {b : Builder} (hquery : w.Filed → b.query < w.queries.length) :
    Grows w { w with builders := w.builders ++ [b] } where
  builders {id c} hc := by
    obtain ⟨hlt, -⟩ := List.getElem?_eq_some_iff.1 hc
    exact ⟨c, (List.getElem?_append_left hlt).trans hc, .refl c⟩
  queries hq := ⟨_, hq, .refl _⟩
  filed hw := by
    intro c hc
    rcases List.mem_append.1 hc with hc | hc
    · exact hw c hc
    · rw [List.mem_singleton.1 hc]
      exact hquery hw

end Grows

/-! ## What leaves the pending scopes alone -/

/-- Besides, names stay, and no pending scope comes or goes. -/
structure Quiet (w w' : Workspace) : Prop extends Grows w w' where
  names : w'.names = w.names
  pending : ∀ id, w'.pendingAt id = w.pendingAt id
  weight : w'.weight = w.weight

namespace Quiet

variable {w w' w'' : Workspace}

theorem refl (w : Workspace) : Quiet w w :=
  { Grows.refl w with names := rfl, pending := fun _ => rfl, weight := rfl }

theorem trans (h : Quiet w w') (h' : Quiet w' w'') : Quiet w w'' :=
  { h.toGrows.trans h'.toGrows with
    names := h'.names.trans h.names
    pending := fun id => (h'.pending id).trans (h.pending id)
    weight := h'.weight.trans h.weight }

/-- Other options for one builder, which keeps its scopes. -/
theorem set {id : BuilderId} {b b' : Builder} (h : w.builders[id]? = some b)
    (halike : b.Alike b') (hpending : b'.pending = b.pending) :
    Quiet w { w with builders := w.builders.set id b' } :=
  { Grows.set h halike with
    names := rfl
    pending := fun j => by
      rw [pendingAt_set rfl h]
      split
      · rename_i hj
        rw [hj, pendingAt_of_getElem? h, hpending]
      · rfl
    weight := by
      have hweight : Workspace.weight { w with builders := w.builders.set id b' }
          + sizeOfScopes b.pending = w.weight + sizeOfScopes b'.pending := weight_set rfl h
      rw [hpending] at hweight
      omega }

/-- One more builder, which has no scopes. -/
theorem addBuilder {b : Builder} (hpending : b.pending = [])
    (hquery : w.Filed → b.query < w.queries.length) :
    Quiet w { w with builders := w.builders ++ [b] } :=
  { Grows.addBuilder hquery with
    names := rfl
    pending := fun id => by
      rw [pendingAt_addBuilder]
      split
      · rename_i hid
        unfold pendingAt
        rw [hpending, hid, List.getElem?_eq_none (Nat.le_refl _)]
        rfl
      · rfl
    weight := by
      unfold Workspace.weight
      change ((w.builders ++ [b]).map _).sum = _
      simp [hpending] }

theorem addQuery (q : Query) : Quiet w { w with queries := w.queries ++ [q] } where
  names := rfl
  builders hb := ⟨_, hb, .refl _⟩
  queries {k q'} hq := by
    obtain ⟨hlt, -⟩ := List.getElem?_eq_some_iff.1 hq
    exact ⟨q', (List.getElem?_append_left hlt).trans hq, .refl q'⟩
  filed hw b hb := by
    change b.query < (w.queries ++ [q]).length
    rw [List.length_append]
    exact Nat.lt_add_right _ (hw b hb)
  pending _ := rfl
  weight := rfl

/-- More clauses for one query. -/
theorem setQuery {k : QueryId} {q q' : Query} (h : w.queries[k]? = some q)
    (hext : q.ExtendedBy q') : Quiet w { w with queries := w.queries.set k q' } where
  names := rfl
  builders hb := ⟨_, hb, .refl _⟩
  queries {j p} hp := by
    change ∃ p', (w.queries.set k q')[j]? = some p' ∧ _
    obtain ⟨hlt, -⟩ := List.getElem?_eq_some_iff.1 hp
    by_cases hj : k = j
    · subst hj
      cases hp.symm.trans h
      exact ⟨q', by simp [hlt], hext⟩
    · exact ⟨p, by rw [List.getElem?_set_ne hj]; exact hp, .refl p⟩
  filed hw b hb := by
    change b.query < (w.queries.set k q').length
    rw [List.length_set]
    exact hw b hb
  pending _ := rfl
  weight := rfl

end Quiet

/-! ## What single actions do -/

section Actions

variable {w w' : Workspace} {id : BuilderId} {x : Work α}

theorem returns_builder {b : Builder} :
    (builder id).Returns w b w' ↔ w.builders[id]? = some b ∧ w' = w := by
  refine returns_get_bind.trans ?_
  cases hb : w.builders[id]? with
  | none => exact ⟨fun h => (nomatch h), fun h => (nomatch h.1)⟩
  | some c =>
    refine returns_pure.trans (and_congr_left' ?_)
    exact ⟨fun h => h ▸ rfl, fun h => (Option.some.inj h).symm⟩

theorem returns_queryOf {q : Query} :
    (queryOf id).Returns w q w' ↔ w.queryAt id = some q ∧ w' = w := by
  unfold queryOf queryAt
  constructor
  · intro h
    obtain ⟨b, v, hb, hrest⟩ := returns_bind.1 h
    obtain ⟨hb, rfl⟩ := returns_builder.1 hb
    have hq := returns_get_bind.1 hrest
    cases hfound : v.queries[b.query]? with
    | none =>
      rw [hfound] at hq
      cases hq
    | some p =>
      rw [hfound] at hq
      obtain ⟨rfl, rfl⟩ := returns_pure.1 hq
      exact ⟨Option.bind_eq_some_iff.2 ⟨b, hb, hfound⟩, rfl⟩
  · rintro ⟨hq, rfl⟩
    obtain ⟨b, hb, hq⟩ := Option.bind_eq_some_iff.1 hq
    refine returns_bind.2 ⟨b, w', returns_builder.2 ⟨hb, rfl⟩, returns_get_bind.2 ?_⟩
    rw [hq]
    exact returns_pure.2 ⟨rfl, rfl⟩

/-- A copy of a query is the query. -/
theorem returns_copyOf {q : Query} (h : (copyOf id).Returns w q w') :
    w.queryAt id = some q ∧ w' = w := by
  obtain ⟨p, v, hp, hrest⟩ := returns_bind.1 h
  obtain ⟨hfound, rfl⟩ := returns_queryOf.1 hp
  obtain ⟨hcopy, rfl⟩ := returns_ofResult.1 hrest
  rw [Query.eq_of_copy hcopy]
  exact ⟨hfound, rfl⟩

theorem returns_lookup {name : String} :
    (lookup name).Returns w id w' ↔ w.names.lookup name = some id ∧ w' = w := by
  refine returns_get_bind.trans ?_
  cases hfound : w.names.lookup name with
  | none => exact ⟨fun h => (nomatch h), fun h => (nomatch h.1)⟩
  | some j =>
    refine returns_pure.trans (and_congr_left' ?_)
    exact ⟨fun h => h ▸ rfl, fun h => (Option.some.inj h).symm⟩

/-- The second of two actions may use what the first answered, and begins where it ended. -/
theorem Quiet.bind {f : α → Work β} (hx : Quiet w (x.run.run w).2)
    (hf : ∀ a t, x.Returns w a t → Quiet t ((f a).run.run t).2) :
    Quiet w ((x >>= f).run.run w).2 := by
  obtain ⟨e, t, hrun, hbind⟩ | ⟨a, t, hrun, hbind⟩ := run_bind x f w
  · rw [hrun] at hx
    rw [hbind]
    exact hx
  · have hsecond := hf a t hrun
    rw [hrun] at hx
    rw [hbind]
    exact hx.trans hsecond

/-- An action that leaves the pending scopes alone, also if it fails. -/
def Quietly (x : Work α) : Prop :=
  ∀ w, Quiet w (x.run.run w).2

namespace Quietly

theorem of_pure (a : α) : Quietly (pure a) :=
  fun w => .refl w

theorem of_throw (e : Error) : Quietly (throw e : Work α) :=
  fun w => .refl w

theorem of_result (r : Result α) : Quietly (ofResult r) := by
  cases r with
  | ok a => exact of_pure a
  | error e => exact of_throw e

theorem of_lift (r : Result α) : Quietly (liftM r) := by
  rw [lift_eq_ofResult]
  exact of_result r

theorem bind_returns {f : α → Work β} (hx : Quietly x)
    (hf : ∀ w a t, x.Returns w a t → Quiet t ((f a).run.run t).2) : Quietly (x >>= f) :=
  fun w => (hx w).bind (hf w)

theorem bind {f : α → Work β} (hx : Quietly x) (hf : ∀ a, Quietly (f a)) : Quietly (x >>= f) :=
  hx.bind_returns fun _ a t _ => hf a t

/-- What an action looks at in the workspace. -/
theorem get_bind {f : Workspace → Work β} (hf : ∀ w, Quiet w ((f w).run.run w).2) :
    Quietly (get >>= f) :=
  hf

end Quietly

theorem builder_quietly (id : BuilderId) : Quietly (builder id) := by
  refine .get_bind fun w => ?_
  cases w.builders[id]? with
  | none => exact .refl w
  | some b => exact .refl w

theorem queryOf_quietly (id : BuilderId) : Quietly (queryOf id) := by
  refine (builder_quietly id).bind fun b => .get_bind fun w => ?_
  cases w.queries[b.query]? with
  | none => exact .refl w
  | some q => exact .refl w

theorem copyOf_quietly (id : BuilderId) : Quietly (copyOf id) :=
  (queryOf_quietly id).bind fun q => .of_result q.copy

theorem lookup_quietly (name : String) : Quietly (lookup name) := by
  refine .get_bind fun w => ?_
  cases w.names.lookup name with
  | none => exact .refl w
  | some id => exact .refl w

theorem setEvent_quietly (isSet : Bool) :
    Quietly (modify fun w => { w with eventIsSet := isSet }) := by
  intro w
  exact { Quiet.refl w with names := rfl, filed := fun h => h }

theorem surroundings_quietly (id : BuilderId) : Quietly (surroundings id) :=
  .get_bind fun w => (builder_quietly id).bind (fun _ => .of_pure _) w

/-- Other options for a builder, which stays on its query and keeps its scopes. -/
theorem setOptions_quietly (id : BuilderId) {f : Builder → Builder}
    (halike : ∀ b : Builder, b.Alike (f b)) (hpending : ∀ b, (f b).pending = b.pending) :
    Quietly (builder id >>= fun b => setBuilder id (f b)) := by
  refine (builder_quietly id).bind_returns fun w b t hb => ?_
  obtain ⟨hb, rfl⟩ := returns_builder.1 hb
  exact Quiet.set hb (halike b) (hpending b)

/-- A query in the place of one that it extends. -/
theorem setQueryOf_quiet {q q' : Query} (h : (queryOf id).Returns w q w') (hext : q.ExtendedBy q') :
    Quiet w' ((setQueryOf id q').run.run w').2 := by
  obtain ⟨hquery, rfl⟩ := returns_queryOf.1 h
  obtain ⟨b, hb, hq⟩ := Option.bind_eq_some_iff.1 hquery
  have hbuilder : (builder id).Returns w' b w' := returns_builder.2 ⟨hb, rfl⟩
  unfold setQueryOf
  rw [hbuilder.run_bind]
  exact Quiet.setQuery hq hext

theorem edit_quietly (id : BuilderId) {edits : List Edit} (h : ∀ e ∈ edits, e.Extends) :
    Quietly (edit id edits) := by
  refine (queryOf_quietly id).bind_returns fun w q t hq => ?_
  have hset := setQueryOf_quiet hq (Edit.extendedBy_applyAll h q)
  exact hset.bind fun _ u _ => Quietly.of_lift (Edit.applyAll edits q).2 u

/-- A step that is nothing but edits of the query. -/
theorem edits_quietly (id : BuilderId) (verb : Verb) (args : List (Option Argument)) :
    Quietly (do edit id (← Verb.edits (← surroundings id) verb args)) := by
  refine (surroundings_quietly id).bind fun around => ?_
  refine (Quietly.of_lift (Verb.edits around verb args)).bind_returns fun w edits t h => ?_
  rw [lift_eq_ofResult] at h
  obtain ⟨hedits, rfl⟩ := returns_ofResult.1 h
  exact edit_quietly id (Verb.edits_extend hedits) _

theorem addQuery_quietly (q : Query) : Quietly (addQuery q) :=
  fun _ => .addQuery q

/-- One more builder, which has no scopes and is on a query that exists. -/
theorem addBuilder_quiet {b : Builder} (hpending : b.pending = [])
    (hquery : w.Filed → b.query < w.queries.length) :
    Quiet w ((addBuilder b).run.run w).2 :=
  .addBuilder hpending hquery

/-- A new builder on a query of its own. -/
theorem addOnQuery_quietly (q : Query) {f : QueryId → Builder} (hquery : ∀ k, (f k).query = k)
    (hpending : ∀ k, (f k).pending = []) : Quietly (addQuery q >>= fun k => addBuilder (f k)) := by
  refine (addQuery_quietly q).bind_returns fun w k t hk => ?_
  cases hk
  refine addBuilder_quiet (hpending _) fun _ => ?_
  rw [hquery]
  change w.queries.length < (w.queries ++ [q]).length
  rw [List.length_append, List.length_singleton]
  exact Nat.lt_succ_self _

theorem spawn_quietly (id : BuilderId) : Quietly (spawn id) :=
  (builder_quietly id).bind fun _ => addOnQuery_quietly {} (fun _ => rfl) fun _ => rfl

theorem setTable_quietly (id : BuilderId) (table : Option Value) : Quietly (setTable id table) := by
  have hset : ∀ v, Quietly (do
      let q ← queryOf id
      let q' ← ofResult (Edit.setTable (.value v) q)
      setQueryOf id q') := by
    intro v
    refine (queryOf_quietly id).bind_returns fun w q t hq => ?_
    refine (Quietly.of_result _ t).bind fun q' u hu => ?_
    obtain ⟨hq', rfl⟩ := returns_ofResult.1 hu
    exact setQueryOf_quiet hq (Edit.setTable_extends _ q q' hq')
  unfold setTable
  split
  · exact .of_pure ()
  · exact .of_pure ()
  · exact hset _

theorem detached_quietly (table dialect : Option Value) (settings : Settings) :
    Quietly (detached table dialect settings) := by
  refine .get_bind fun w => ?_
  refine Quietly.bind (.of_lift _) (fun dialect => ?_) w
  rw [← bind_assoc]
  have hnew := addOnQuery_quietly {} (f := fun query =>
    { query, dialect, settings, debug := settings.debug }) (fun _ => rfl) fun _ => rfl
  exact hnew.bind fun id => (setTable_quietly id table).bind fun _ => .of_pure id

/-- A builder that one workspace does not have and another has. -/
structure IsNew (w : Workspace) (id : BuilderId) (w' : Workspace) : Prop where
  le : w.builders.length ≤ id
  lt : id < w'.builders.length

theorem isNew_of_addBuilder {b : Builder} (h : (addBuilder b).Returns w id w') : IsNew w id w' := by
  cases h
  refine ⟨Nat.le_refl _, ?_⟩
  change w.builders.length < (w.builders ++ [b]).length
  rw [List.length_append, List.length_singleton]
  exact Nat.lt_succ_self _

theorem isNew_of_addOnQuery {q : Query} {f : QueryId → Builder}
    (h : (addQuery q >>= fun k => addBuilder (f k)).Returns w id w') : IsNew w id w' := by
  obtain ⟨k, v, hk, hid⟩ := returns_bind.1 h
  cases hk
  have hnew := isNew_of_addBuilder hid
  exact ⟨hnew.le, hnew.lt⟩

theorem isNew_of_spawn {sub : BuilderId} (h : (spawn id).Returns w sub w') : IsNew w sub w' := by
  obtain ⟨b, v, hb, hsub⟩ := returns_bind.1 h
  obtain ⟨-, rfl⟩ := returns_builder.1 hb
  exact isNew_of_addOnQuery hsub

theorem isNew_of_detached {table dialect : Option Value} {settings : Settings}
    (h : (detached table dialect settings).Returns w id w') : IsNew w id w' := by
  obtain ⟨d, v, hd, hrest⟩ := returns_bind.1 (returns_get_bind.1 h)
  rw [lift_eq_ofResult] at hd
  obtain ⟨-, rfl⟩ := returns_ofResult.1 hd
  rw [← bind_assoc] at hrest
  obtain ⟨j, t, hj, hrest⟩ := returns_bind.1 hrest
  obtain ⟨_, u, htable, hend⟩ := returns_bind.1 hrest
  obtain ⟨rfl, rfl⟩ := returns_pure.1 hend
  have hnew : IsNew _ id t := isNew_of_addOnQuery hj
  have hgrows : t.Quiet w' := by
    have hquiet := setTable_quietly id table t
    rw [htable] at hquiet
    exact hquiet
  exact ⟨hnew.le, Nat.lt_of_lt_of_le hnew.lt hgrows.builders_length_le⟩

end Actions

end Workspace

end SqlQuery
