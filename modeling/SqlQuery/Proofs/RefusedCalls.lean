import SqlQuery.Proofs.BuilderEdits
import SqlQuery.Proofs.SettledQueries

/-!
# Calls that are refused

A call of a builder's method is some edits of its query, which are made one after the other. If one
of them fails the call is refused, and those before it stay. For most methods there is one edit, so
a call that is refused leaves nothing. The others are the calls that can be `Torn`, and
`Workspace.refused_calls` says that what they leave is all that a caller has to reckon with.
-/

namespace SqlQuery

open Effect

/-! ## Edits up to one that fails -/

namespace Edit

variable {first : Edit} {edits : List Edit} {q left : Query} {e : Error}

/-- An edit after which a query has more clauses. -/
def Grows (first : Edit) : Prop :=
  ∀ q q', first q = .ok q' → ¬ q'.ExtendedBy q

theorem addSelect_grows (s : Result SelectItem) : Grows (addSelect s) := by
  intro q q' h hext
  obtain ⟨x, -, h⟩ := Result.bind_eq_ok.1 h
  cases h
  have hlength := hext.selects.length_le
  rw [List.length_append] at hlength
  exact absurd hlength (Nat.not_succ_le_self _)

theorem addGroup_grows (g : Result GroupKey) : Grows (addGroup g) := by
  intro q q' h hext
  obtain ⟨x, -, h⟩ := Result.bind_eq_ok.1 h
  cases h
  have hlength := hext.groups.length_le
  rw [List.length_append] at hlength
  exact absurd hlength (Nat.not_succ_le_self _)

theorem addFilter_grows (f : Result Filter) : Grows (addFilter f) := by
  intro q q' h hext
  obtain ⟨x, -, h⟩ := Result.bind_eq_ok.1 h
  cases h
  have hlength := hext.filters.length_le
  rw [List.length_append] at hlength
  exact absurd hlength (Nat.not_succ_le_self _)

theorem applyAll_of_error (h : first q = .error e) (edits : List Edit) :
    applyAll (first :: edits) q = (q, .error e) := by
  simp only [applyAll, h]

theorem applyAll_of_ok {q' : Query} (h : first q = .ok q') (edits : List Edit) :
    applyAll (first :: edits) q = applyAll edits q' := by
  simp only [applyAll, h]

/-- An edit that fails on its own leaves the query as it was. -/
theorem applyAll_one (h : applyAll [first] q = (left, .error e)) : left = q := by
  cases hfirst : first q with
  | error err =>
    rw [applyAll_of_error hfirst] at h
    cases h
    rfl
  | ok q' =>
    rw [applyAll_of_ok hfirst] at h
    cases h

/-- Of edits that add a clause each, nothing is left if the first of them fails, and only then. -/
theorem applyAll_map {α : Type} {make : α → Edit} {xs : List α} (hgrows : ∀ x, (make x).Grows)
    (hextends : ∀ x, (make x).Extends) (h : applyAll (xs.map make) q = (left, .error e)) :
    left = q ↔ ¬ ∃ x, xs.head? = some x ∧ Succeeds (make x q) := by
  cases xs with
  | nil => cases h
  | cons x rest =>
    simp only [List.head?_cons, Option.some.injEq, exists_eq_left']
    rw [List.map_cons] at h
    cases hq' : make x q with
    | error err =>
      rw [applyAll_of_error hq'] at h
      cases h
      exact iff_of_true rfl (Succeeds.not_error _)
    | ok q' =>
      rw [applyAll_of_ok hq'] at h
      have hrest : ∀ e ∈ rest.map make, e.Extends :=
        List.forall_mem_map.2 fun y _ => hextends y
      have hext := extendedBy_applyAll hrest q'
      rw [h] at hext
      apply iff_of_false
      · rintro rfl
        exact hgrows x left q' hq' hext
      · exact not_not.2 (Succeeds.ok q')

/-- The size of a page, which may be left out. -/
def pageSize (default : Int) (perPage : Argument) : Argument :=
  if perPage.isTruthy then perPage else .ofInt default

end Edit

theorem Query.limited_eq_iff {q : Query} {limit : Option Nat} :
    { q with limit } = q ↔ limit = q.limit := by
  cases q
  simp

/-! ## Torn calls -/

/-- If such a call is refused, a part of it has been done: the first of its clauses is accepted, or
the size of its page, which is another than before. -/
inductive Torn (around : Surroundings) (q : Query) : Verb → List (Option Argument) → Prop where
  | select {columns : List (Option Argument)} {c : Argument}
    (hfirst : (Verb.given columns).head? = some c) (h : Succeeds (SelectItem.ofColumn c .null)) :
    Torn around q .select columns
  | groupBy {columns : List (Option Argument)} {c : Argument}
    (hfirst : (Verb.given columns).head? = some c) (h : Succeeds (GroupKey.ofColumn c)) :
    Torn around q .groupBy columns
  | mapping {entries : List (String × Argument)} {entry : String × Argument}
    {operator value : Option Argument} {connective : Argument}
    (hfirst : entries.head? = some entry)
    (h : Succeeds (Verb.compareFilter (.text entry.1) (Verb.comparing .eq) (some entry.2)
      connective)) :
    Torn around q .filter [some (.mapping entries), operator, value, some connective]
  | forPage {page perPage : Argument} {limit : Option Nat}
    (hpage : Succeeds ((Argument.ofInt 1).isAbove page))
    (hlimit : Edit.countOr "limit" (Edit.pageSize around.defaultPerPage perPage) = .ok limit)
    (h : limit ≠ q.limit) :
    Torn around q .forPage [some page, some perPage]

namespace Torn

variable {around : Surroundings} {q left : Query} {e : Error}

theorem select_iff {columns : List (Option Argument)} :
    Torn around q .select columns ↔ ∃ c, (Verb.given columns).head? = some c
      ∧ Succeeds (Edit.addSelect (SelectItem.ofColumn c .null) q) := by
  constructor
  · intro ht
    cases ht with
    | select hfirst h => exact ⟨_, hfirst, Succeeds.bind_pure_iff.2 h⟩
  · rintro ⟨c, hfirst, h⟩
    exact .select hfirst (Succeeds.bind_pure_iff.1 h)

theorem groupBy_iff {columns : List (Option Argument)} :
    Torn around q .groupBy columns ↔ ∃ c, (Verb.given columns).head? = some c
      ∧ Succeeds (Edit.addGroup (GroupKey.ofColumn c) q) := by
  constructor
  · intro ht
    cases ht with
    | groupBy hfirst h => exact ⟨_, hfirst, Succeeds.bind_pure_iff.2 h⟩
  · rintro ⟨c, hfirst, h⟩
    exact .groupBy hfirst (Succeeds.bind_pure_iff.1 h)

theorem mapping_iff {entries : List (String × Argument)} {operator value : Option Argument}
    {connective : Argument} :
    Torn around q .filter [some (.mapping entries), operator, value, some connective]
      ↔ ∃ entry, entries.head? = some entry ∧ Succeeds (Edit.addFilter
        (Verb.compareFilter (.text entry.1) (Verb.comparing .eq) (some entry.2) connective) q) := by
  constructor
  · intro ht
    cases ht with
    | mapping hfirst h => exact ⟨_, hfirst, Succeeds.bind_pure_iff.2 h⟩
  · rintro ⟨entry, hfirst, h⟩
    exact .mapping hfirst (Succeeds.bind_pure_iff.1 h)

/-- Of the edits of a page, the first changes the size of the page. -/
theorem forPage_iff {page perPage : Argument} {edits : List Edit}
    (h : Edit.forPage around.defaultPerPage page perPage = .ok edits)
    (hleft : Edit.applyAll edits q = (left, .error e)) :
    left = q ↔ ¬ Torn around q .forPage [some page, some perPage] := by
  obtain ⟨above, habove, h⟩ := Result.bind_eq_ok.1 h
  cases h
  change Edit.applyAll (Edit.setLimit (Edit.pageSize around.defaultPerPage perPage) :: _) q = _
    at hleft
  cases hlimit : Edit.countOr "limit" (Edit.pageSize around.defaultPerPage perPage) with
  | error err =>
    have hset : Edit.setLimit (Edit.pageSize around.defaultPerPage perPage) q = .error err := by
      rw [Edit.setLimit, hlimit]
      rfl
    rw [Edit.applyAll_of_error hset] at hleft
    cases hleft
    refine iff_of_true rfl fun ht => ?_
    cases ht with
    | forPage _ hok => cases hlimit.symm.trans hok
  | ok limit =>
    have hset : Edit.setLimit (Edit.pageSize around.defaultPerPage perPage) q
        = .ok { q with limit } := by
      rw [Edit.setLimit, hlimit]
      rfl
    rw [Edit.applyAll_of_ok hset] at hleft
    rw [Edit.applyAll_one hleft, Query.limited_eq_iff]
    constructor
    · intro hsame ht
      cases ht with
      | forPage _ hok hne =>
        cases hlimit.symm.trans hok
        exact hne hsame
    · intro ht
      by_contra hne
      exact ht (.forPage ⟨above, habove⟩ hlimit hne)

end Torn

variable {around : Surroundings} {verb : Verb} {args : List (Option Argument)} {q left : Query}
  {edits : List Edit} {e : Error}

/-- What is left of the edits of a call that fails. -/
theorem Verb.left_eq_iff (h : Verb.edits around verb args = .ok edits)
    (hleft : Edit.applyAll edits q = (left, .error e)) : left = q ↔ ¬ Torn around q verb args := by
  unfold Verb.edits at h
  split at h
  all_goals try cases h
  -- one edit, which is refused
  all_goals try (refine iff_of_true (Edit.applyAll_one hleft) ?_; intro ht; cases ht; done)
  · rw [Torn.select_iff]
    exact Edit.applyAll_map (fun c => Edit.addSelect_grows _) (fun c => Edit.addSelect_extends _)
      hleft
  · rw [Torn.mapping_iff]
    exact Edit.applyAll_map (fun c => Edit.addFilter_grows _) (fun c => Edit.addFilter_extends _)
      hleft
  · rename_i hcolumn
    refine iff_of_true (Edit.applyAll_one hleft) fun ht => ?_
    cases ht with
    | mapping => exact hcolumn _ rfl
  · rw [Torn.groupBy_iff]
    exact Edit.applyAll_map (fun c => Edit.addGroup_grows _) (fun c => Edit.addGroup_extends _)
      hleft
  · exact Torn.forPage_iff h hleft

/-- Where there are no edits nothing can be torn. -/
theorem Torn.edits_ok (h : Torn around q verb args) :
    ∃ edits, Verb.edits around verb args = .ok edits := by
  cases h with
  | select | groupBy | mapping => exact ⟨_, rfl⟩
  | forPage hpage =>
    obtain ⟨above, habove⟩ := hpage
    refine ⟨_, Result.bind_eq_ok.2 ⟨above, habove, rfl⟩⟩

/-! ## Calls of one method -/

/-- A verb that is about the query of a builder, and not about the builder. -/
def Verb.isClause : Verb → Bool
  | .choose _ | .tap | .scope | .debug | .cancellable => false
  | _ => true

namespace Workspace

variable {run : RunStep} {w w' : Workspace} {id : BuilderId} {b : Builder}

/-- What the steps of a builder need to know of it. -/
def surroundingsOf (w : Workspace) (b : Builder) : Surroundings :=
  { now := w.now, defaultPerPage := b.settings.defaultPerPage }

/-- A call of a method for clauses in which nothing is called back: no argument is a routine, and no
scope of a builder that stands for a sub-query is still to be applied. -/
structure IsPlain (w : Workspace) (verb : Verb) (args : List (Option Argument)) : Prop where
  clause : verb.isClause
  routines : ∀ steps, some (.routine steps) ∉ args
  scopes : ∀ sub, some (.builder sub) ∈ args → w.pendingAt sub = []

/-- Nothing is called where values are given. -/
theorem isPlain_of_values (hclause : verb.isClause) (values : List Value) :
    w.IsPlain verb (values.map fun v => some (.value v)) where
  clause := hclause
  routines steps hsteps := by simp at hsteps
  scopes sub hsub := by simp at hsub

/-! ### Sub-queries -/

theorem queryOf_keeps {J : Workspace → Prop} : Keeps J (queryOf id) := by
  refine Session.builder_keeps.bind fun b => .get_bind fun v => ?_
  cases v.queries[b.query]? with
  | none => exact .of_throw _
  | some q => exact .of_pure q

theorem applyScopes_keeps (h : w.pendingAt id = []) : Keeps (· = w) (applyScopes run id) := by
  rintro v rfl
  cases hb : v.builders[id]? with
  | none =>
    unfold applyScopes
    rw [run_bind_error (run_builder_missing hb)]
  | some b =>
    have hnone : b.pending = [] := (pendingAt_of_getElem? hb).symm.trans h
    have hsame : ({ b with pending := [] } : Builder) = b := by
      rw [← hnone]
    have hset : (setBuilder id { b with pending := [] }).Returns v () v := by
      rw [hsame]
      exact returns_modify.2 (set_same hb).symm
    unfold applyScopes
    rw [(returns_builder.2 ⟨hb, rfl⟩).run_bind, hset.run_bind, hnone]
    rfl

/-- What stands for a sub-query in a plain call is read, and nothing happens to it. -/
theorem IsPlain.subQuery_keeps {source : Argument} (hplain : w.IsPlain verb args)
    (h : some source ∈ args) : Keeps (· = w) (subQuery run id source) := by
  cases source with
  | builder sub =>
    exact (applyScopes_keeps (hplain.scopes sub h)).bind fun _ =>
      queryOf_keeps.bind fun q => .of_result q.copy
  | query q => exact .of_result _
  | routine steps => exact absurd h (hplain.routines steps)
  | _ => exact .of_throw _

/-! ### What a call leaves -/

/-- A call ends with nothing changed but the query of its builder, which keeps its clauses. If the
call is refused, that query is as it was unless the call is torn. -/
def Leaves (around : Surroundings) (id : BuilderId) (w : Workspace) (q : Query) (verb : Verb)
    (args : List (Option Argument)) (outcome : Result Unit × Workspace) : Prop :=
  ∃ left, outcome.2 = w.withQuery id left ∧ q.ExtendedBy left
    ∧ ∀ e, outcome.1 = .error e → (left = q ↔ ¬ Torn around q verb args)

namespace Leaves

theorem unmade (hq : w.queryAt id = some q) (ht : ¬ Torn around q verb args) (e : Error) :
    Leaves around id w q verb args (.error e, w) :=
  ⟨q, (withQuery_self hq).symm, .refl q, fun _ _ => iff_of_true rfl ht⟩

/-- Before the edits a sub-query may be read. -/
theorem after {α : Type} {x : Work α} {f : α → Work Unit} (hx : Keeps (· = w) x)
    (hq : w.queryAt id = some q) (ht : ¬ Torn around q verb args)
    (hf : ∀ a, Leaves around id w q verb args ((f a).run.run w)) :
    Leaves around id w q verb args ((x >>= f).run.run w) := by
  refine run_bind_elim (fun e t hrun => ?_) fun a t ha => ?_
  · obtain rfl : t = w := hx.of_run hrun rfl
    exact unmade hq ht e
  · obtain rfl : t = w := hx.of_returns ha rfl
    exact hf a

/-- The edits may be those that the verb says with other arguments. -/
theorem of_edits (args' : List (Option Argument)) (hb : w.builders[id]? = some b)
    (hq : w.queryAt id = some q)
    (hargs : Torn (w.surroundingsOf b) q verb args' ↔ Torn (w.surroundingsOf b) q verb args) :
    Leaves (w.surroundingsOf b) id w q verb args
      ((surroundings id >>= fun around => liftM (Verb.edits around verb args')
        >>= edit id).run.run w) := by
  have haround : (surroundings id).Returns w (w.surroundingsOf b) w := by
    refine returns_get_bind.2 (returns_bind.2 ⟨b, w, returns_builder.2 ⟨hb, rfl⟩, ?_⟩)
    exact returns_pure.2 ⟨rfl, rfl⟩
  rw [haround.run_bind, lift_eq_ofResult]
  cases hedits : Verb.edits (w.surroundingsOf b) verb args' with
  | error e =>
    refine unmade hq (fun ht => ?_) e
    obtain ⟨edits, hok⟩ := (hargs.2 ht).edits_ok
    cases hedits.symm.trans hok
  | ok edits =>
    change Leaves _ id w q verb args ((edit id edits).run.run w)
    rw [run_edit hq]
    have hext := Edit.extendedBy_applyAll (Verb.edits_extend hedits) q
    refine ⟨(Edit.applyAll edits q).1, rfl, hext, fun e he => ?_⟩
    rw [← hargs]
    exact Verb.left_eq_iff hedits (Prod.ext rfl he)

end Leaves

theorem run_perform (hb : w.builders[id]? = some b) (hq : w.queryAt id = some q)
    (hplain : w.IsPlain verb args) :
    Leaves (w.surroundingsOf b) id w q verb args ((perform run id verb args).run.run w) := by
  unfold perform
  split
  case h_1 => exact absurd List.mem_cons_self (hplain.routines _)
  case h_2 column source connective negated =>
    have hno : ∀ args, ¬ Torn (w.surroundingsOf b) q .filterIn args := nofun
    have hedits (source' : Argument) :=
      Leaves.of_edits [some column, some source', connective, negated] hb hq
        (iff_of_false (hno _) (hno [some column, some source, connective, negated]))
    by_cases hquery : standsForQuery source
    · simp only [if_pos hquery]
      have hread : Keeps (· = w) (subQuery run id source) := hplain.subQuery_keeps (by simp)
      exact .after (hread.bind fun q => .of_pure _) hq (hno _) hedits
    · simp only [if_neg hquery]
      exact hedits source
  case h_3 source connective negated =>
    exact .after (hplain.subQuery_keeps List.mem_cons_self) hq nofun fun sub =>
      .of_edits _ hb hq (iff_of_false nofun nofun)
  case h_4 source all =>
    exact .after (hplain.subQuery_keeps List.mem_cons_self) hq nofun fun sub =>
      .of_edits _ hb hq (iff_of_false nofun nofun)
  case h_5 => exact absurd (List.mem_cons_of_mem _ List.mem_cons_self) (hplain.routines _)
  case h_11 => exact .of_edits _ hb hq Iff.rfl
  all_goals cases hplain.clause

/-! ## Calls one after the other -/

end Workspace

/-- A verb with its arguments. -/
structure VerbCall where
  verb : Verb
  args : List (Option Argument)

namespace Workspace

variable {run : RunStep} {w w' : Workspace} {id : BuilderId} {b : Builder} {calls : List VerbCall}

def performCall (run : RunStep) (id : BuilderId) (c : VerbCall) : Work Unit :=
  perform run id c.verb c.args

/-- Makes one call after the other and goes on if one is refused. The answer are the calls that
were not. -/
def caught (run : RunStep) (id : BuilderId) : List VerbCall → Work (List VerbCall)
  | [] => return []
  | c :: cs => do
    match ← attempt (performCall run id c) with
    | .ok () => return c :: (← caught run id cs)
    | .error _ => caught run id cs

/-- Of the calls one after the other none is refused and torn. -/
def NoneTorn (run : RunStep) (id : BuilderId) : List VerbCall → Workspace → Prop
  | [], _ => True
  | c :: cs, w =>
    (∀ e w' b q, (performCall run id c).run.run w = (.error e, w') → w.builders[id]? = some b →
        w.queryAt id = some q → ¬ Torn (w.surroundingsOf b) q c.verb c.args)
      ∧ NoneTorn run id cs ((performCall run id c).run.run w).2

/-- Calls that are plain stay so, as the builders stay. -/
theorem IsPlain.withQuery (h : w.IsPlain verb args) (id : BuilderId) (q : Query) :
    (w.withQuery id q).IsPlain verb args where
  clause := h.clause
  routines := h.routines
  scopes sub hsub := by
    unfold pendingAt
    rw [withQuery_builders]
    exact h.scopes sub hsub

theorem refused_iff (hb : w.builders[id]? = some b) (hq : w.queryAt id = some q)
    (hplain : w.IsPlain verb args) (h : (perform run id verb args).run.run w = (.error e, w')) :
    (∃ left, w' = w.withQuery id left ∧ q.ExtendedBy left)
      ∧ (w' = w ↔ ¬ Torn (w.surroundingsOf b) q verb args) := by
  obtain ⟨left, hstate, hext, hrefused⟩ := run_perform hb hq hplain
  rw [h] at hstate hrefused
  obtain rfl : w' = w.withQuery id left := hstate
  refine ⟨⟨left, rfl, hext⟩, ?_⟩
  rw [← hrefused e rfl]
  constructor
  · intro hsame
    have hleft := queryAt_withQuery hq left
    rw [hsame, hq] at hleft
    exact (Option.some.inj hleft).symm
  · rintro rfl
    exact withQuery_self hq

theorem noneTorn_of_forall (h : ∀ c ∈ calls, ∀ around q, ¬ Torn around q c.verb c.args) :
    NoneTorn run id calls w := by
  induction calls generalizing w with
  | nil => trivial
  | cons c cs ih =>
    obtain ⟨hc, hcs⟩ := List.forall_mem_cons.1 h
    exact ⟨fun e w' b q _ _ _ => hc _ q, ih hcs⟩

/-- **Calls that are refused are as if they were not made**, if none of them is torn. -/
theorem caught_of_noneTorn (hb : w.builders[id]? = some b) (hq : w.queryAt id = some q)
    (hplain : ∀ c ∈ calls, w.IsPlain c.verb c.args) (h : NoneTorn run id calls w) :
    ∃ made w', made.Sublist calls ∧ (caught run id calls).Returns w made w'
      ∧ (made.forM (performCall run id)).Returns w () w' := by
  induction calls generalizing w q with
  | nil => exact ⟨[], w, .slnil, returns_pure.2 ⟨rfl, rfl⟩, returns_pure.2 ⟨rfl, rfl⟩⟩
  | cons c cs ih =>
    obtain ⟨hc, hcs⟩ := List.forall_mem_cons.1 hplain
    obtain ⟨hfirst, hrest⟩ := h
    obtain ⟨left, hstate, -, -⟩ := run_perform hb hq hc
    rcases hrun : (performCall run id c).run.run w with ⟨answer, v⟩
    rw [hrun] at hrest
    obtain rfl : v = w.withQuery id left := (congrArg Prod.snd hrun).symm.trans hstate
    have hb' : (w.withQuery id left).builders[id]? = some b := by
      rwa [withQuery_builders]
    obtain ⟨made, w', hsub, hcaught, hmade⟩ := ih hb' (queryAt_withQuery hq left)
      (fun c hc => (hcs c hc).withQuery id left) hrest
    have hattempt := returns_attempt.2 hrun
    cases answer with
    | ok u =>
      refine ⟨c :: made, w', hsub.cons_cons c, returns_bind.2 ⟨_, _, hattempt, ?_⟩, ?_⟩
      · exact returns_bind.2 ⟨made, w', hcaught, returns_pure.2 ⟨rfl, rfl⟩⟩
      · exact returns_bind.2 ⟨(), _, hrun, hmade⟩
    | error e =>
      refine ⟨made, w', hsub.cons c, returns_bind.2 ⟨_, _, hattempt, hcaught⟩, ?_⟩
      have hsame := (refused_iff hb hq hc hrun).2.2 (hfirst e _ b q hrun hb hq)
      rwa [hsame] at hmade

/-- **A call that is refused leaves its builder's query as it was, unless it is torn**: it has
several columns or entries of which the first is accepted, or it is for a page whose size is
accepted. So of calls whose refusals are caught the query is that of the calls that succeed, if none
of those refused is torn. -/
theorem refused_calls (hb : w.builders[id]? = some b) (hq : w.queryAt id = some q)
    (hplain : ∀ c ∈ calls, w.IsPlain c.verb c.args) :
    (∀ c ∈ calls, ∀ e w', (performCall run id c).run.run w = (.error e, w') →
        (∃ left, w' = w.withQuery id left ∧ q.ExtendedBy left)
          ∧ (w' = w ↔ ¬ Torn (w.surroundingsOf b) q c.verb c.args))
      ∧ (NoneTorn run id calls w → ∃ made w', made.Sublist calls
        ∧ (caught run id calls).Returns w made w'
        ∧ (made.forM (performCall run id)).Returns w () w') := by
  refine ⟨fun c hc e w' h => ?_, caught_of_noneTorn hb hq hplain⟩
  exact refused_iff hb hq (hplain c hc) h

/-- One builder, on the rows of a table. -/
def fresh : Workspace where
  queries := [{ table := some "t" }]
  builders := [{ query := 0, dialect := .mysql }]

/-- An order by no column, which is refused. -/
def unordered : VerbCall where
  verb := .orderBy
  args := [some (.text ""), some (.text "asc")]

def limited : VerbCall where
  verb := .limit
  args := [some (.ofInt 5)]

/-- Nothing of an order is left if it is refused, and the call after it is as if it were alone. -/
theorem refused_calls_order :
    fresh.builders[0]? = some { query := 0, dialect := .mysql }
      ∧ fresh.queryAt 0 = some { table := some "t" }
      ∧ (∀ c ∈ [unordered, limited], fresh.IsPlain c.verb c.args)
      ∧ (∃ e w', (performCall (step 0) 0 unordered).run.run fresh = (.error e, w') ∧ w' = fresh)
      ∧ ∃ made w', made.Sublist [unordered, limited]
        ∧ (caught (step 0) 0 [unordered, limited]).Returns fresh made w'
        ∧ (made.forM (performCall (step 0) 0)).Returns fresh () w' := by
  have hb : fresh.builders[0]? = some { query := 0, dialect := .mysql } := rfl
  have hq : fresh.queryAt 0 = some { table := some "t" } := rfl
  have hplain : ∀ c ∈ [unordered, limited], fresh.IsPlain c.verb c.args := by
    rw [List.forall_mem_cons, List.forall_mem_singleton]
    exact ⟨isPlain_of_values rfl [.text "", .text "asc"], isPlain_of_values rfl [.int 5]⟩
  have hrun : ∃ e w', (performCall (step 0) 0 unordered).run.run fresh = (.error e, w') :=
    ⟨_, _, rfl⟩
  obtain ⟨e, w', hrun⟩ := hrun
  have hnone : ∀ c ∈ [unordered, limited], ∀ around q, ¬ Torn around q c.verb c.args := by
    rw [List.forall_mem_cons, List.forall_mem_singleton]
    exact ⟨fun around q => nofun, fun around q => nofun⟩
  have hsame := ((refused_calls hb hq hplain).1 unordered List.mem_cons_self e w' hrun).2.2
    (hnone unordered List.mem_cons_self _ _)
  exact ⟨hb, hq, hplain, ⟨e, w', hrun, hsame⟩,
    (refused_calls hb hq hplain).2 (noneTorn_of_forall hnone)⟩

/-- The first column of two is selected though the second is none, and the call is refused. -/
theorem select_torn :
    ∃ e w', (perform (step 0) 0 .select [some (.text "a"), some (.text "")]).run.run fresh
        = (.error e, w')
      ∧ ((toSql 0).run.run fresh).1.map Statement.sql = .ok "SELECT * FROM t"
      ∧ ((toSql 0).run.run w').1.map Statement.sql = .ok "SELECT a FROM t" :=
  ⟨_, _, rfl, rfl, rfl⟩

end Workspace

end SqlQuery
