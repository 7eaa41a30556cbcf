import SqlQuery.Proofs.EditedQueries
import SqlQuery.Proofs.ScopeHistories

/-!
# Steps that keep one marker for each value

A script is made by a builder if it describes no query by its fields (`Step.isBuilderMade`). Its
steps run other steps, in groups, joins, sub-queries and scopes, and each of them keeps what is said
of a workspace by `Workspace.AllFit`: in all of its queries there is one marker for each value, and
the scopes that are still to be applied were made by builders as well.

The argument is by induction on the fuel (`Workspace.step_ensures`), since a step may run any step of
a routine that it was given.
-/

namespace SqlQuery

open Effect

variable {σ α β : Type}

/-! ## Scripts of builders -/

mutual

/-- No query is described by its fields in a term, nor in the terms in it. -/
def Term.isBuilderMade : Term → Bool
  | .list items | .tuple items | .stream items => termsAreBuilderMade items
  | .mapping entries => entriesAreBuilderMade entries
  | .described model fields => model != .query && entriesAreBuilderMade fields
  | .routine steps | .made _ _ steps | .madeQuery _ _ steps => stepsAreBuilderMade steps
  | _ => true

def termsAreBuilderMade : List Term → Bool
  | [] => true
  | t :: ts => t.isBuilderMade && termsAreBuilderMade ts

def entriesAreBuilderMade : List (String × Term) → Bool
  | [] => true
  | (_, t) :: es => t.isBuilderMade && entriesAreBuilderMade es

def stepsAreBuilderMade : List Step → Bool
  | [] => true
  | s :: ss => s.isBuilderMade && stepsAreBuilderMade ss

def Step.isBuilderMade : Step → Bool
  | .mk _ args => argsAreBuilderMade args

def argsAreBuilderMade : List (Option Term) → Bool
  | [] => true
  | none :: ts => argsAreBuilderMade ts
  | some t :: ts => t.isBuilderMade && argsAreBuilderMade ts

end

/-- An argument that is a query has one marker for each value, and one that is a routine was made by
a builder. -/
def Argument.AllFit : Argument → Prop
  | .query q => q.AllFit
  | .routine steps => stepsAreBuilderMade steps
  | _ => True

/-- What is said of the arguments of a step that are given. -/
def ArgumentsFit (args : List (Option Argument)) : Prop :=
  ∀ given ∈ args, ∀ a, given = some a → a.AllFit

theorem argumentsFit_some {a : Argument} {rest : List (Option Argument)} :
    ArgumentsFit (some a :: rest) ↔ a.AllFit ∧ ArgumentsFit rest := by
  unfold ArgumentsFit
  rw [List.forall_mem_cons]
  refine and_congr_left' ⟨fun h => h a rfl, fun h b hb => ?_⟩
  rw [← Option.some.inj hb]
  exact h

/-- All queries of a workspace have one marker for each value, and all scopes were made by builders. -/
structure Workspace.AllFit (w : Workspace) : Prop where
  queries : ∀ q ∈ w.queries, q.AllFit
  scopes : ∀ b ∈ w.builders, ∀ a ∈ b.pending, a.AllFit

/-! ## What effects ensure -/

/-- An effect keeps a property of the state, and from there its answer has a property. -/
structure Effect.Ensures (I : σ → Prop) (P : α → Prop) (x : Effect σ α) : Prop where
  keeps : x.Keeps I
  answers : ∀ {s a s'}, I s → x.Returns s a s' → P a

namespace Effect.Ensures

variable {I : σ → Prop} {P : α → Prop} {Q : β → Prop} {x : Effect σ α}

theorem of_pure {a : α} (h : P a) : Ensures I P (pure a) where
  keeps := .of_pure a
  answers _ ha := by
    obtain ⟨rfl, -⟩ := returns_pure.1 ha
    exact h

theorem of_throw (e : Error) : Ensures I P (throw e : Effect σ α) where
  keeps := .of_throw e
  answers _ ha := absurd ha (not_returns_throw e)

theorem of_result {r : Result α} (h : r.Gives P) : Ensures I P (ofResult r) := by
  cases r with
  | ok a => exact of_pure (h a rfl)
  | error e => exact of_throw e

theorem of_lift {r : Result α} (h : r.Gives P) : Ensures I P (liftM r) := by
  rw [lift_eq_ofResult]
  exact of_result h

/-- The second of two effects knows what the first ensures. -/
theorem bind {f : α → Effect σ β} (hx : Ensures I P x) (hf : ∀ a, P a → Ensures I Q (f a)) :
    Ensures I Q (x >>= f) where
  keeps s hs := run_bind_elim (M := fun outcome => I outcome.2)
    (fun _ _ hrun => hx.keeps.of_run hrun hs)
    fun a t ha => (hf a (hx.answers hs ha)).keeps t (hx.keeps.of_returns ha hs)
  answers hs hb := by
    obtain ⟨a, t, ha, hb⟩ := returns_bind.1 hb
    exact (hf a (hx.answers hs ha)).answers (hx.keeps.of_returns ha hs) hb

theorem get_bind {f : σ → Effect σ β} (hf : ∀ s, I s → Ensures I Q (f s)) :
    Ensures I Q (get >>= f) where
  keeps s hs := (hf s hs).keeps s hs
  answers hs hb := (hf _ hs).answers hs hb

theorem modify {f : σ → σ} (h : ∀ s, I s → I (f s)) :
    Ensures I (fun _ => True) (modify f : Effect σ Unit) where
  keeps s hs := h s hs
  answers _ _ := trivial

/-- Effects in a row. -/
theorem forM {f : β → Effect σ PUnit} {xs : List β} (h : ∀ b ∈ xs, Ensures I (fun _ => True) (f b)) :
    Ensures I (fun _ => True) (xs.forM f) := by
  induction xs with
  | nil => exact of_pure trivial
  | cons b rest ih =>
    obtain ⟨hfirst, hrest⟩ := List.forall_mem_cons.1 h
    exact hfirst.bind fun _ _ => ih hrest

end Effect.Ensures

theorem stepsAreBuilderMade_iff {steps : List Step} :
    stepsAreBuilderMade steps ↔ ∀ s ∈ steps, s.isBuilderMade := by
  induction steps with
  | nil => exact iff_of_true rfl (List.forall_mem_nil _)
  | cons s rest ih => rw [stepsAreBuilderMade, Bool.and_eq_true, ih, List.forall_mem_cons]

namespace Workspace

/-- An effect keeps markers and values in step, and so does its answer. -/
abbrev Ensures (P : α → Prop) (x : Work α) : Prop :=
  Effect.Ensures AllFit P x

open Effect.Ensures

/-! ## Builders and queries -/

section Single

variable {q : Query} {b : Builder}

theorem AllFit.empty (registry : Registry) (now : Moment) :
    AllFit { registry := registry, now := now } where
  queries := List.forall_mem_nil _
  scopes := List.forall_mem_nil _

theorem builder_ensures (id : BuilderId) :
    Ensures (fun b => ∀ a ∈ b.pending, a.AllFit) (builder id) := by
  refine .get_bind fun w hw => ?_
  cases hb : w.builders[id]? with
  | none => exact .of_throw _
  | some b => exact .of_pure (hw.scopes b (List.mem_of_getElem? hb))

theorem setBuilder_ensures (id : BuilderId) (h : ∀ a ∈ b.pending, a.AllFit) :
    Ensures (fun _ => True) (setBuilder id b) := by
  refine .modify fun w hw => { hw with scopes := fun c hc => ?_ }
  rcases List.mem_or_eq_of_mem_set hc with hc | rfl
  · exact hw.scopes c hc
  · exact h

/-- Other options for a builder, which keeps its scopes. -/
theorem setOptions_ensures (id : BuilderId) {f : Builder → Builder}
    (h : ∀ b, (f b).pending = b.pending) :
    Ensures (fun _ => True) (builder id >>= fun b => setBuilder id (f b)) := by
  refine (builder_ensures id).bind fun b hb => setBuilder_ensures id ?_
  rw [h]
  exact hb

theorem queryOf_ensures (id : BuilderId) : Ensures Query.AllFit (queryOf id) := by
  refine (builder_ensures id).bind fun b _ => .get_bind fun w hw => ?_
  cases hq : w.queries[b.query]? with
  | none => exact .of_throw _
  | some q => exact .of_pure (hw.queries q (List.mem_of_getElem? hq))

theorem setQueryOf_ensures (id : BuilderId) (h : q.AllFit) :
    Ensures (fun _ => True) (setQueryOf id q) := by
  refine (builder_ensures id).bind fun b _ => .modify fun w hw => ?_
  refine { hw with queries := fun p hp => ?_ }
  rcases List.mem_or_eq_of_mem_set hp with hp | rfl
  · exact hw.queries p hp
  · exact h

theorem addQuery_ensures (h : q.AllFit) : Ensures (fun _ => True) (addQuery q) := by
  refine ⟨fun w hw => { hw with queries := ?_ }, fun _ _ => trivial⟩
  exact List.forall_mem_append.2 ⟨hw.queries, List.forall_mem_singleton.2 h⟩

theorem addBuilder_ensures (h : ∀ a ∈ b.pending, a.AllFit) :
    Ensures (fun _ => True) (addBuilder b) := by
  refine ⟨fun w hw => { hw with scopes := ?_ }, fun _ _ => trivial⟩
  exact List.forall_mem_append.2 ⟨hw.scopes, List.forall_mem_singleton.2 h⟩

theorem allFit_empty : ({} : Query).AllFit :=
  (Query.allFit_iff _).2 .empty

theorem spawn_ensures (id : BuilderId) : Ensures (fun _ => True) (spawn id) := by
  refine (builder_ensures id).bind fun b _ => (addQuery_ensures allFit_empty).bind fun k _ => ?_
  exact addBuilder_ensures (List.forall_mem_nil _)

theorem copyOf_ensures (id : BuilderId) : Ensures Query.AllFit (copyOf id) := by
  refine (queryOf_ensures id).bind fun q hq => .of_result fun q' hcopy => ?_
  rw [Query.eq_of_copy hcopy]
  exact hq

theorem clone_ensures (id : BuilderId) : Ensures (fun _ => True) (clone id) := by
  refine (builder_ensures id).bind fun b hb => (copyOf_ensures id).bind fun q hq => ?_
  exact (addQuery_ensures hq).bind fun k _ => addBuilder_ensures hb

theorem setTable_ensures (id : BuilderId) (table : Option Value) :
    Ensures (fun _ => True) (setTable id table) := by
  unfold setTable
  split
  · exact .of_pure trivial
  · exact .of_pure trivial
  · next v _ =>
    refine (queryOf_ensures id).bind fun q hq => ?_
    have htable : Result.Gives Query.ClausesFit (Edit.setTable (.value v) q) :=
      Edit.setTable_keepsFit _ q (q.allFit_iff.1 hq)
    exact (Effect.Ensures.of_result htable).bind fun q' hq' =>
      setQueryOf_ensures id (q'.allFit_iff.2 hq')

theorem detached_ensures (table dialect : Option Value) (settings : Settings) :
    Ensures (fun _ => True) (detached table dialect settings) := by
  refine .get_bind fun w _ => (Effect.Ensures.of_lift (.any _)).bind fun d _ => ?_
  refine (addQuery_ensures allFit_empty).bind fun k _ => ?_
  refine Effect.Ensures.bind (addBuilder_ensures ?_) fun id _ => ?_
  · exact List.forall_mem_nil _
  · exact (setTable_ensures id table).bind fun _ _ => .of_pure trivial

theorem lookup_ensures (name : String) : Ensures (fun _ => True) (lookup name) := by
  refine .get_bind fun w _ => ?_
  cases w.names.lookup name with
  | none => exact .of_throw _
  | some id => exact .of_pure trivial

theorem surroundings_ensures (id : BuilderId) : Ensures (fun _ => True) (surroundings id) :=
  .get_bind fun _ _ => (builder_ensures id).bind fun _ _ => .of_pure trivial

theorem edit_ensures (id : BuilderId) {edits : List Edit} (h : Edit.AllKeepFit edits) :
    Ensures (fun _ => True) (edit id edits) := by
  refine (queryOf_ensures id).bind fun q hq => ?_
  have hedited := Edit.applyAll_fits h (q.allFit_iff.1 hq)
  refine (setQueryOf_ensures id ((Query.allFit_iff _).2 hedited)).bind fun _ _ => ?_
  exact .of_lift (.any _)

/-- A step that is nothing but edits of the query. -/
theorem edits_ensures (id : BuilderId) {verb : Verb} {args : List (Option Argument)}
    (hargs : ArgumentsFit args)
    (hexisting : verb = .filterExists → ∀ source connective negated,
      args = [some source, connective, negated] → ∃ q, source = .query q)
    (hunion : verb = .union → ∀ source all, args = [some source, all] → ∃ q, source = .query q) :
    Ensures (fun _ => True) (do edit id (← Verb.edits (← surroundings id) verb args)) := by
  have hfit : verb.ArgsFit args := ⟨fun _ hq => hargs _ hq _ rfl, hexisting, hunion⟩
  refine (surroundings_ensures id).bind fun around _ => ?_
  exact (Effect.Ensures.of_lift (Verb.edits_keepFit around hfit)).bind fun edits hedits =>
    edit_ensures id hedits

end Single

/-! ## Terms -/

/-- Whatever is described by its fields, except a query, is neither a query nor a routine. -/
theorem describe_gives {model : Model} (hmodel : model ≠ .query) (fields : Fields) :
    Result.Gives Argument.AllFit (describe model fields) := by
  cases model with
  | query => exact absurd rfl hmodel
  | _ => exact Result.Gives.after fun _ => .ok trivial

/-- Steps that were made by builders keep markers and values in step. -/
def KeepFit (run : RunStep) : Prop :=
  ∀ id s, s.isBuilderMade → Ensures (fun _ => True) (run id s)

section Running

variable {run : RunStep} {id : BuilderId}

theorem runRoutine_ensures (h : KeepFit run) {steps : Routine}
    (hsteps : stepsAreBuilderMade steps) : Ensures (fun _ => True) (runRoutine run id steps) :=
  .forM fun s hs => h id s (stepsAreBuilderMade_iff.1 hsteps s hs)

theorem make_ensures (h : KeepFit run) (table dialect : Option Value) {steps : Routine}
    (hsteps : stepsAreBuilderMade steps) :
    Ensures (fun _ => True) (make run table dialect steps) := by
  refine (detached_ensures table dialect {}).bind fun id _ => ?_
  exact (runRoutine_ensures h hsteps).bind fun _ _ => .of_pure trivial

mutual

theorem eval_ensures (h : KeepFit run) (t : Term) (ht : t.isBuilderMade) :
    Ensures Argument.AllFit (eval run t) := by
  cases t with
  | value v => exact .of_pure trivial
  | word w => exact .of_pure trivial
  | callback replies => exact .of_pure trivial
  | list items => exact (evalAll_ensures h items ht).bind fun _ _ => .of_pure trivial
  | tuple items => exact (evalAll_ensures h items ht).bind fun _ _ => .of_pure trivial
  | stream items => exact (evalAll_ensures h items ht).bind fun _ _ => .of_pure trivial
  | mapping entries =>
    exact (evalEntries_ensures h entries ht).bind fun _ _ => .of_pure trivial
  | described model fields =>
    rw [Term.isBuilderMade, Bool.and_eq_true] at ht
    refine (evalEntries_ensures h fields ht.2).bind fun values _ => .of_lift ?_
    exact describe_gives (bne_iff_ne.1 ht.1) values
  | routine steps => exact .of_pure ht
  | made table dialect steps =>
    exact (make_ensures h table dialect ht).bind fun _ _ => .of_pure trivial
  | madeQuery table dialect steps =>
    refine (make_ensures h table dialect ht).bind fun id _ => ?_
    exact (queryOf_ensures id).bind fun q hq => .of_pure hq
  | named name => exact (lookup_ensures name).bind fun _ _ => .of_pure trivial
  | namedQuery name =>
    refine (lookup_ensures name).bind fun id _ => ?_
    exact (queryOf_ensures id).bind fun q hq => .of_pure hq
  | event isSet =>
    have hset : Ensures (fun _ => True) (modify fun w => { w with eventIsSet := isSet }) :=
      .modify fun w hw => { hw with scopes := hw.scopes }
    exact hset.bind fun _ _ => .of_pure trivial

theorem evalAll_ensures (h : KeepFit run) (ts : List Term) (hts : termsAreBuilderMade ts) :
    Ensures (fun _ => True) (evalAll run ts) := by
  cases ts with
  | nil => exact .of_pure trivial
  | cons t rest =>
    rw [termsAreBuilderMade, Bool.and_eq_true] at hts
    refine (eval_ensures h t hts.1).bind fun a _ => ?_
    exact (evalAll_ensures h rest hts.2).bind fun _ _ => .of_pure trivial

theorem evalEntries_ensures (h : KeepFit run) (es : List (String × Term))
    (hes : entriesAreBuilderMade es) : Ensures (fun _ => True) (evalEntries run es) := by
  cases es with
  | nil => exact .of_pure trivial
  | cons entry rest =>
    obtain ⟨k, t⟩ := entry
    rw [entriesAreBuilderMade, Bool.and_eq_true] at hes
    refine (eval_ensures h t hes.1).bind fun a _ => ?_
    exact (evalEntries_ensures h rest hes.2).bind fun _ _ => .of_pure trivial

end

theorem evalArgs_ensures (h : KeepFit run) (ts : List (Option Term))
    (hts : argsAreBuilderMade ts) : Ensures ArgumentsFit (evalArgs run ts) := by
  induction ts with
  | nil => exact .of_pure (List.forall_mem_nil _)
  | cons t rest ih =>
    cases t with
    | none =>
      refine (ih hts).bind fun args hargs => .of_pure ?_
      exact List.forall_mem_cons.2 ⟨fun a ha => (nomatch ha), hargs⟩
    | some t =>
      rw [argsAreBuilderMade, Bool.and_eq_true] at hts
      refine (eval_ensures h t hts.1).bind fun a ha => ?_
      exact (ih hts.2).bind fun args hargs => .of_pure (argumentsFit_some.2 ⟨ha, hargs⟩)

/-! ## Scopes, sub-queries and joins -/

theorem call_ensures (h : KeepFit run) {a : Argument} (ha : a.AllFit) :
    Ensures (fun _ => True) (call run id a) := by
  cases a with
  | routine steps => exact runRoutine_ensures h ha
  | _ => exact .of_throw _

theorem applyScopes_ensures (h : KeepFit run) (id : BuilderId) :
    Ensures (fun _ => True) (applyScopes run id) := by
  refine (builder_ensures id).bind fun b hb => ?_
  refine Effect.Ensures.bind (setBuilder_ensures id ?_) fun _ _ => ?_
  · exact List.forall_mem_nil _
  · exact .forM fun a ha => call_ensures h (hb a ha)

theorem prepared_ensures (h : KeepFit run) (id : BuilderId) :
    Ensures Query.AllFit (prepared run id) :=
  (applyScopes_ensures h id).bind fun _ _ => copyOf_ensures id

theorem subQuery_ensures (h : KeepFit run) {a : Argument} (ha : a.AllFit) :
    Ensures Query.AllFit (subQuery run id a) := by
  cases a with
  | builder b => exact prepared_ensures h b
  | query q =>
    refine .of_result fun q' hcopy => ?_
    rw [Query.eq_of_copy hcopy]
    exact ha
  | routine steps =>
    refine (spawn_ensures id).bind fun sub _ => ?_
    exact (runRoutine_ensures h ha).bind fun _ _ => prepared_ensures h sub
  | _ => exact .of_throw _

/-- What a step adds to a join is a comparison. -/
theorem JoinDraft.step_gives {draft : JoinDraft} (hdraft : FiltersFit draft.filters) (verb : Verb)
    (args : List (Option Argument)) :
    Result.Gives (fun draft => FiltersFit draft.filters) (draft.step verb args) := by
  unfold JoinDraft.step
  split
  · next first operator second connective =>
    refine .after fun (op, second) => ?_
    have hcompared : Result.Gives (fun draft => FiltersFit draft.filters) (do
        let f ← Filter.compareColumns first (.word (.operator op)) second connective
        return { draft with filters := draft.filters ++ [f] }) :=
      Filter.compareColumns_gives.bind fun f hf => .ok (hdraft.append (.one hf))
    dsimp only
    split
    · refine .after fun isFirst => ?_
      split
      · exact .ok hdraft
      · exact hcompared
    · exact hcompared
  · exact .after fun _ => Filter.compare_gives.bind fun f hf => .ok (hdraft.append (.one hf))
  · exact .error _

theorem routineJoin_ensures (h : KeepFit run) {kind : JoinKind} {table : Argument}
    {steps : Routine} (hsteps : stepsAreBuilderMade steps) :
    Ensures (fun j => FiltersFit j.filters) (routineJoin run kind table steps) := by
  have hdraft : ∀ draft : JoinDraft, FiltersFit draft.filters →
      Ensures (fun draft => FiltersFit draft.filters)
        (steps.foldlM (fun (draft : JoinDraft) s => do
          draft.step s.verb (← evalArgs run s.args)) draft) := by
    induction steps with
    | nil => exact fun draft hdraft => .of_pure hdraft
    | cons s rest ih =>
      intro draft hdraft
      obtain ⟨verb, args⟩ := s
      rw [stepsAreBuilderMade, Bool.and_eq_true] at hsteps
      rw [List.foldlM_cons]
      have hstep : Ensures (fun draft => FiltersFit draft.filters)
          (evalArgs run args >>= fun a => liftM (draft.step verb a)) :=
        (evalArgs_ensures h args hsteps.1).bind fun a _ =>
          .of_lift (JoinDraft.step_gives hdraft verb a)
      exact hstep.bind fun draft' hdraft' => ih hsteps.2 draft' hdraft'
  refine (hdraft {} .empty).bind fun draft hfilters => ?_
  cases draft.on with
  | none => exact .of_throw _
  | some on => exact .of_lift (Join.make_gives hfilters)

/-! ## Steps -/

theorem perform_ensures (h : KeepFit run) {verb : Verb} {args : List (Option Argument)}
    (hargs : ArgumentsFit args) : Ensures (fun _ => True) (perform run id verb args) := by
  unfold perform
  split
  next steps _ _ connective =>
    have hsteps : stepsAreBuilderMade steps := (argumentsFit_some.1 hargs).1
    refine (spawn_ensures id).bind fun sub _ => (runRoutine_ensures h hsteps).bind fun _ _ => ?_
    refine (queryOf_ensures sub).bind fun q hq => ?_
    have hfilters : FiltersFit q.filters := (q.allFit_iff.1 hq).filters
    dsimp only
    split
    · exact .of_pure trivial
    · refine edit_ensures id (List.forall_mem_singleton.2 (Edit.addFilter_keepsFit ?_))
      exact Filter.nested_gives hfilters
  next column source connective negated =>
    obtain ⟨hcolumn, hsource, hrest⟩ := (argumentsFit_some.1 hargs).imp_right argumentsFit_some.1
    have hedit : ∀ a, a.AllFit → Ensures (fun _ => True) (do
        edit id (← Verb.edits (← surroundings id) .filterIn
          [some column, some a, connective, negated])) := fun a ha =>
      edits_ensures id
        (argumentsFit_some.2 ⟨hcolumn, argumentsFit_some.2 ⟨ha, hrest⟩⟩) nofun nofun
    dsimp only
    split
    · have hquery : Ensures Argument.AllFit (Argument.query <$> subQuery run id source) :=
        (subQuery_ensures h hsource).bind fun q hq => .of_pure hq
      exact hquery.bind hedit
    · exact hedit source hsource
  next source connective negated =>
    obtain ⟨hsource, hrest⟩ := argumentsFit_some.1 hargs
    refine (subQuery_ensures h hsource).bind fun q hq => ?_
    refine edits_ensures id (argumentsFit_some.2 ⟨hq, hrest⟩) ?_ nofun
    rintro - source' connective' negated' ⟨⟩
    exact ⟨q, rfl⟩
  next source all =>
    obtain ⟨hsource, hrest⟩ := argumentsFit_some.1 hargs
    refine (subQuery_ensures h hsource).bind fun q hq => ?_
    refine edits_ensures id (argumentsFit_some.2 ⟨hq, hrest⟩) nofun ?_
    rintro - source' all' ⟨⟩
    exact ⟨q, rfl⟩
  next target steps _ _ kind =>
    obtain ⟨-, hsteps, -⟩ := (argumentsFit_some.1 hargs).imp_right argumentsFit_some.1
    refine (Effect.Ensures.of_lift (.any _)).bind fun kind _ => ?_
    refine (routineJoin_ensures h hsteps).bind fun join hjoin => ?_
    exact edit_ensures id (List.forall_mem_singleton.2 (Edit.addJoin_keepsFit (.ok hjoin)))
  next negated condition fn otherwise =>
    obtain ⟨-, hfn, hotherwise⟩ := (argumentsFit_some.1 hargs).imp_right argumentsFit_some.1
    split
    · exact call_ensures h hfn
    · split
      · exact .of_pure trivial
      · exact .of_pure trivial
      · exact call_ensures h (argumentsFit_some.1 hotherwise).1
  next fn => exact call_ensures h (argumentsFit_some.1 hargs).1
  next fns =>
    refine (builder_ensures id).bind fun b hb => setBuilder_ensures id ?_
    refine List.forall_mem_append.2 ⟨hb, fun a ha => ?_⟩
    obtain ⟨given, hgiven, rfl⟩ := List.mem_filterMap.1 ha
    exact hargs _ hgiven a rfl
  next enabled => exact setOptions_ensures id fun _ => rfl
  next event timeout => exact setOptions_ensures id fun _ => rfl
  next hexisting hunion _ _ _ _ _ =>
    -- the steps that are described with a query are among those above
    refine edits_ensures id hargs ?_ ?_
    · exact fun hverb source _ _ hsame => (hexisting source _ _ hverb hsame).elim
    · exact fun hverb source _ hsame => (hunion source _ hverb hsame).elim

/-- **Steps of builders keep one marker for each value**, whatever other steps they run. -/
theorem step_ensures (fuel : Nat) : KeepFit (step fuel) := by
  induction fuel with
  | zero => exact fun id s _ => .of_throw _
  | succ fuel ih =>
    intro id s hs
    obtain ⟨verb, args⟩ := s
    exact (evalArgs_ensures ih args hs).bind fun given hgiven => perform_ensures ih hgiven

end Running

/-! ## Calls from outside -/

theorem run_ensures (id : BuilderId) {s : Step} (hs : s.isBuilderMade) :
    Ensures (fun _ => True) (run id s) :=
  .get_bind fun _ _ => step_ensures _ id s hs

theorem evaluate_ensures {t : Term} (ht : t.isBuilderMade) :
    Ensures Argument.AllFit (evaluate t) :=
  .get_bind fun _ _ => eval_ensures (step_ensures _) t ht

theorem settle_ensures (id : BuilderId) : Ensures (fun _ => True) (settle id) :=
  .get_bind fun _ _ => applyScopes_ensures (step_ensures _) id

theorem toSql_ensures (id : BuilderId) : Ensures (fun _ => True) (toSql id) := by
  refine (settle_ensures id).bind fun _ _ => (builder_ensures id).bind fun b hb => ?_
  refine (queryOf_ensures id).bind fun q _ => ?_
  refine (Effect.Ensures.of_lift (.any _)).bind fun statement _ => ?_
  dsimp only
  split
  · exact Effect.Ensures.bind (setBuilder_ensures id hb) fun _ _ => .of_pure trivial
  · exact .of_pure trivial

end Workspace

end SqlQuery
