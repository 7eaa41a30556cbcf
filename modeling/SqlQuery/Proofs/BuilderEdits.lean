import SqlQuery.Proofs.WorkspaceGrowth

/-!
# Edits of a builder's query

The edits of a step are made on the query of its builder, up to the first that fails, and what they
leave takes the place of that query (`Workspace.run_edit`). Nothing else in the workspace changes.
-/

namespace SqlQuery.Workspace

open Effect

variable {w w' : Workspace} {id : BuilderId} {q p : Query}

/-- The workspace with another query for a builder, which other builders may share. -/
def withQuery (w : Workspace) (id : BuilderId) (q : Query) : Workspace :=
  match w.builders[id]? with
  | some b => { w with queries := w.queries.set b.query q }
  | none => w

@[simp] theorem withQuery_builders (w : Workspace) (id : BuilderId) (q : Query) :
    (w.withQuery id q).builders = w.builders := by
  unfold withQuery
  split <;> rfl

theorem withQuery_of_builder {b : Builder} (h : w.builders[id]? = some b) (q : Query) :
    w.withQuery id q = { w with queries := w.queries.set b.query q } := by
  unfold withQuery
  rw [h]

/-- A query in its own place changes nothing. -/
theorem withQuery_self (h : w.queryAt id = some q) : w.withQuery id q = w := by
  obtain ⟨b, hb, hq⟩ := Option.bind_eq_some_iff.1 h
  obtain ⟨hlt, rfl⟩ := List.getElem?_eq_some_iff.1 hq
  rw [withQuery_of_builder hb, List.set_getElem_self]

theorem queryAt_withQuery (h : w.queryAt id = some q) (p : Query) :
    (w.withQuery id p).queryAt id = some p := by
  obtain ⟨b, hb, hq⟩ := Option.bind_eq_some_iff.1 h
  obtain ⟨hlt, -⟩ := List.getElem?_eq_some_iff.1 hq
  rw [withQuery_of_builder hb]
  apply Option.bind_eq_some_iff.2
  exact ⟨b, hb, List.getElem?_set_self hlt⟩

theorem run_queryOf (h : w.queryAt id = some q) : (queryOf id).Returns w q w :=
  returns_queryOf.2 ⟨h, rfl⟩

/-- What edits leave of the query takes its place, whether or not all of them were made. -/
theorem run_edit (h : w.queryAt id = some q) (edits : List Edit) :
    (edit id edits).run.run w
      = ((Edit.applyAll edits q).2, w.withQuery id (Edit.applyAll edits q).1) := by
  obtain ⟨b, hb, hq⟩ := Option.bind_eq_some_iff.1 h
  have hbuilder : (builder id).Returns w b w := returns_builder.2 ⟨hb, rfl⟩
  have hset : (setQueryOf id (Edit.applyAll edits q).1).Returns w ()
      (w.withQuery id (Edit.applyAll edits q).1) := by
    rw [withQuery_of_builder hb]
    exact returns_bind.2 ⟨b, w, hbuilder, returns_modify.2 rfl⟩
  unfold edit
  rw [(run_queryOf h).run_bind]
  simp only
  rw [hset.run_bind, lift_eq_ofResult, run_ofResult]

theorem run_builder_missing (h : w.builders[id]? = none) :
    (builder id).run.run w = (.error (missing "builder"), w) := by
  unfold builder
  rw [run_get_bind]
  simp only [h]
  rfl

theorem run_queryOf_missing (h : w.queryAt id = none) :
    ∃ e, (queryOf id).run.run w = (.error e, w) := by
  unfold queryOf
  cases hb : w.builders[id]? with
  | none => exact ⟨_, run_bind_error (run_builder_missing hb) _⟩
  | some b =>
    have hbuilder : (builder id).Returns w b w := returns_builder.2 ⟨hb, rfl⟩
    have hq : w.queries[b.query]? = none := by
      unfold queryAt at h
      simpa [hb] using h
    refine ⟨missing "query", ?_⟩
    rw [hbuilder.run_bind, run_get_bind]
    simp only [hq]
    rfl

/-- Without a query there is nothing to edit. -/
theorem run_edit_missing (h : w.queryAt id = none) (edits : List Edit) :
    ∃ e, (edit id edits).run.run w = (.error e, w) := by
  obtain ⟨e, he⟩ := run_queryOf_missing h
  exact ⟨e, run_bind_error he _⟩

/-- One more filter, if it can be made. -/
theorem returns_addFilter {f : Result Filter} :
    (edit id [Edit.addFilter f]).Returns w () w'
      ↔ ∃ q x, w.queryAt id = some q ∧ f = .ok x ∧ w' = w.withQuery id (q.addFilter x) := by
  unfold Returns
  cases hq : w.queryAt id with
  | none =>
    obtain ⟨e, he⟩ := run_edit_missing hq [Edit.addFilter f]
    rw [he]
    apply iff_of_false
    · intro h
      cases h
    · rintro ⟨q, x, h, -⟩
      cases h
  | some q =>
    rw [run_edit hq]
    cases f with
    | error e =>
      apply iff_of_false
      · intro h
        cases h
      · rintro ⟨q, x, -, h, -⟩
        cases h
    | ok x =>
      constructor
      · intro h
        cases h
        exact ⟨q, x, rfl, rfl, rfl⟩
      · rintro ⟨q', x', hq', hx', rfl⟩
        cases hq'
        cases hx'
        rfl

end SqlQuery.Workspace
