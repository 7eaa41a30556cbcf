import SqlQuery.Proofs.MadeClauses

/-!
# Edits that keep one marker for each value

A query whose markers and values agree is still such a query after every edit of a step
(`Verb.edits_keepFit`), as long as the queries that the step was given are: what an edit adds was
checked when it was made, and the values of a raw select item are added together with it.
-/

namespace SqlQuery

variable {α : Type}

namespace Edit

/-- An edit that leaves one marker for each value. -/
def KeepsFit (e : Edit) : Prop :=
  ∀ q : Query, q.ClausesFit → Result.Gives Query.ClausesFit (e q)

/-- What is said of the edits of a step. -/
def AllKeepFit (edits : List Edit) : Prop :=
  ∀ e ∈ edits, KeepsFit e

/-- An edit that puts what was made into a query keeps it fit if putting it there does. -/
theorem keepsFit_of_put {P : α → Prop} {x : Result α} {put : Query → α → Query}
    (hx : Result.Gives P x) (h : ∀ (q : Query) a, q.ClausesFit → P a → (put q a).ClausesFit) :
    KeepsFit fun q => do return put q (← x) :=
  fun q hq => hx.bind fun a ha => .ok (h q a hq ha)

section Clauses

theorem addFilter_keepsFit {f : Result Filter} (h : Result.Gives Filter.AllFit f) :
    KeepsFit (addFilter f) :=
  keepsFit_of_put h fun _ _ hq hx => hq.filtered (hq.filters.append (.one hx))

theorem addJoin_keepsFit {j : Result Join} (h : Result.Gives (fun j => FiltersFit j.filters) j) :
    KeepsFit (addJoin j) := by
  refine keepsFit_of_put h fun q x hq hx => { hq with joins := hq.joins.append ?_ }
  exact joinsFit_cons.2 ⟨fun _ => hx, .empty⟩

theorem addGroup_keepsFit {g : Result GroupKey} (h : Result.Gives GroupKey.Fits g) :
    KeepsFit (addGroup g) := by
  refine keepsFit_of_put h fun q x hq hx => { hq with groups := ?_ }
  exact List.forall_mem_append.2 ⟨hq.groups, List.forall_mem_singleton.2 hx⟩

theorem addHaving_keepsFit {x : Result Having} (h : Result.Gives (fun h => h.condition.Fits) x) :
    KeepsFit (addHaving x) := by
  refine keepsFit_of_put h fun q x hq hx => { hq with havings := ?_ }
  exact List.forall_mem_append.2 ⟨hq.havings, List.forall_mem_singleton.2 hx⟩

theorem addOrder_keepsFit {o : Result OrderKey} (h : Result.Gives OrderKey.Fits o) :
    KeepsFit (addOrder o) := by
  refine keepsFit_of_put h fun q x hq hx => hq.ordered ?_
  exact List.forall_mem_append.2 ⟨hq.orders, List.forall_mem_singleton.2 hx⟩

theorem addBranch_keepsFit {b : Result Branch} (h : Result.Gives (fun b => b.query.AllFit) b) :
    KeepsFit (addBranch b) := by
  refine keepsFit_of_put h fun q x hq hx => { hq with unions := hq.unions.append ?_ }
  exact branchesFit_cons.2 ⟨hx, .empty⟩

/-- A column has no markers. -/
theorem addSelect_keepsFit (column shownAs : Argument) :
    KeepsFit (addSelect (SelectItem.ofColumn column shownAs)) := by
  refine keepsFit_of_put (SelectItem.ofColumn_gives column shownAs) fun q x hq hx =>
    { hq with selects := ?_ }
  change q.selectValues.length = selectMarkers (q.selects ++ [x])
  rw [selectMarkers_concat, hq.selects, hx, Nat.add_zero]

theorem matchMarkers_gives (raw : Value) (markers values : Nat) :
    Result.Gives (fun _ => markers = values) (matchMarkers raw markers values) := by
  unfold matchMarkers
  split
  · next h => exact .ok h
  · exact .error _

theorem length_toValues (as : List Argument) : (Argument.toValues as).length = as.length := by
  induction as with
  | nil => rfl
  | cons a rest ih => exact congrArg (· + 1) ih

/-- The values of a raw item are added with it, and are as many as its markers. -/
theorem addRawSelect_keepsFit (raw : Argument) (values : List Argument) :
    KeepsFit (addRawSelect raw values) := by
  intro q hq q' hq'
  obtain ⟨segments, hsegments, hq'⟩ := Result.bind_eq_ok.1 hq'
  obtain ⟨_, hmatch, hq'⟩ := Result.bind_eq_ok.1 hq'
  obtain ⟨item, hitem, hq'⟩ := Result.bind_eq_ok.1 hq'
  cases hq'
  obtain ⟨s, hs, hmarkers⟩ := SelectItem.ofRaw_gives raw item hitem
  have hcount : segments.length - 1 = values.length := matchMarkers_gives _ _ _ _ hmatch
  rw [Argument.split_of_rawSegments hsegments hs] at hcount
  refine { hq with selects := ?_ }
  change (q.selectValues ++ Argument.toValues values).length = selectMarkers (q.selects ++ [item])
  rw [List.length_append, length_toValues, selectMarkers_concat, hq.selects, hmarkers,
    RawText.markerCount, hcount]

end Clauses

section Parts

theorem setTable_keepsFit (a : Argument) : KeepsFit (setTable a) :=
  keepsFit_of_put (.any _) fun _ _ hq _ => hq.replace ..

theorem setDistinct_keepsFit (a : Argument) : KeepsFit (setDistinct a) :=
  keepsFit_of_put (.any _) fun _ _ hq _ => hq.replace ..

theorem setLimit_keepsFit (a : Argument) : KeepsFit (setLimit a) :=
  keepsFit_of_put (.any _) fun _ _ hq _ => hq.replace ..

theorem setOffset_keepsFit (a : Argument) : KeepsFit (setOffset a) :=
  keepsFit_of_put (.any _) fun _ _ hq _ => hq.replace ..

theorem setLock_keepsFit (a : Argument) : KeepsFit (setLock a) :=
  keepsFit_of_put (.any _) fun _ _ hq _ => hq.replace ..

/-- The edits of a page set the bounds. -/
theorem forPage_keepsFit {default : Int} {page perPage : Argument} :
    Result.Gives AllKeepFit (forPage default page perPage) := by
  refine Result.Gives.after fun isAbove => .ok (List.forall_mem_cons.2 ?_)
  refine ⟨setLimit_keepsFit _, List.forall_mem_singleton.2 ?_⟩
  exact fun q hq => .after fun offset => setOffset_keepsFit offset q hq

end Parts

/-- Edits keep a query fit also when one of them fails. -/
theorem applyAll_fits {edits : List Edit} (h : AllKeepFit edits) {q : Query}
    (hq : q.ClausesFit) : (applyAll edits q).1.ClausesFit := by
  induction edits generalizing q with
  | nil => exact hq
  | cons e rest ih =>
    obtain ⟨hfirst, hrest⟩ := List.forall_mem_cons.1 h
    unfold applyAll
    cases hq' : e q with
    | error err => exact hq
    | ok q' => exact ih hrest (hfirst q hq q' hq')

end Edit

/-- The queries among the arguments of a step fit, and where a step is described with a query it was
given one. -/
structure Verb.ArgsFit (verb : Verb) (args : List (Option Argument)) : Prop where
  queries : ∀ q, some (.query q) ∈ args → q.AllFit
  existing : verb = .filterExists → ∀ source connective negated,
    args = [some source, connective, negated] → ∃ q, source = .query q
  union : verb = .union → ∀ source all, args = [some source, all] → ∃ q, source = .query q

namespace Edit

theorem one_keepsFit {e : Edit} (h : KeepsFit e) : Result.Gives AllKeepFit (.ok [e]) :=
  .ok (List.forall_mem_singleton.2 h)

/-- One edit for each operand. -/
theorem each_keepsFit {xs : List α} {f : α → Edit} (h : ∀ x, KeepsFit (f x)) :
    Result.Gives AllKeepFit (.ok (xs.map f)) :=
  .ok (List.forall_mem_map.2 fun x _ => h x)

end Edit

open Edit SqlQuery.Filter in
/-- **Whatever a step says, its edits leave one marker for each value.** -/
theorem Verb.edits_keepFit (around : Surroundings) {verb : Verb} {args : List (Option Argument)}
    (h : verb.ArgsFit args) : Result.Gives AllKeepFit (Verb.edits around verb args) := by
  unfold Verb.edits
  split
  · exact one_keepsFit (setTable_keepsFit _)
  · exact each_keepsFit fun column => addSelect_keepsFit column .null
  · exact one_keepsFit (addSelect_keepsFit _ _)
  · exact one_keepsFit (addRawSelect_keepsFit _ _)
  · exact one_keepsFit (setDistinct_keepsFit _)
  -- filters
  · exact each_keepsFit fun _ => addFilter_keepsFit compareFilter_gives
  · exact .error _
  · exact one_keepsFit (addFilter_keepsFit compareFilter_gives)
  · exact one_keepsFit (addFilter_keepsFit complementFilter_gives)
  · exact one_keepsFit (addFilter_keepsFit raw_gives)
  · exact one_keepsFit (addFilter_keepsFit (withOperator_gives fun _ _ => compareColumns_gives))
  · exact one_keepsFit (addFilter_keepsFit between_gives)
  · refine one_keepsFit (addFilter_keepsFit (among_gives fun q hq => h.queries q ?_))
    simp [hq]
  · exact one_keepsFit (addFilter_keepsFit null_gives)
  · obtain ⟨q, rfl⟩ := h.existing rfl _ _ _ rfl
    exact one_keepsFit (addFilter_keepsFit (existing_gives (h.queries q (by simp))))
  · exact one_keepsFit (addFilter_keepsFit (withOperator_gives fun _ _ => compareDatePart_gives))
  · exact one_keepsFit (addFilter_keepsFit compareFilter_gives)
  · exact one_keepsFit (addFilter_keepsFit compareDatePart_gives)
  · exact one_keepsFit (addFilter_keepsFit jsonContains_gives)
  · exact one_keepsFit (addFilter_keepsFit (withOperator_gives fun _ _ => jsonLength_gives))
  · exact one_keepsFit (addFilter_keepsFit (withOperator_gives fun _ _ => jsonPath_gives))
  · exact one_keepsFit (addFilter_keepsFit fullText_gives)
  · exact one_keepsFit (addFilter_keepsFit (withOperator_gives fun _ _ => anyColumn_gives))
  -- joins, groups, havings and orders
  · exact one_keepsFit (addJoin_keepsFit columnJoin_gives)
  · exact one_keepsFit (addJoin_keepsFit Join.make_plain)
  · exact each_keepsFit fun _ => addGroup_keepsFit (GroupKey.describe_gives _)
  · exact one_keepsFit (addGroup_keepsFit (.after fun _ => GroupKey.describe_gives _))
  · refine one_keepsFit (addHaving_keepsFit (withOperator_gives fun _ _ => ?_))
    exact .after fun _ => .after fun _ => Having.describe_gives _
  · refine one_keepsFit (addHaving_keepsFit ?_)
    exact .after fun _ => .after fun _ => Having.describe_gives _
  · exact one_keepsFit (addOrder_keepsFit (.after fun _ => OrderKey.describe_gives _))
  · exact one_keepsFit (addOrder_keepsFit (.after fun _ => OrderKey.describe_gives _))
  -- bounds and branches
  · exact one_keepsFit (setLimit_keepsFit _)
  · exact one_keepsFit (setOffset_keepsFit _)
  · exact forPage_keepsFit
  · obtain ⟨q, rfl⟩ := h.union rfl _ _ rfl
    exact one_keepsFit (addBranch_keepsFit (Branch.make_gives (h.queries q (by simp))))
  · exact one_keepsFit (setLock_keepsFit _)
  · exact .error _

end SqlQuery
