import SqlQuery.Proofs.MarkerCounts
import SqlQuery.Query.Edit

/-!
# Clauses as steps make them

A step describes its clauses by their fields. Raw text is checked against its values before it
becomes a clause, and the only queries and filters in a clause are those that were given with its
fields. So in a clause that was made there is one marker for each value, if that is so in them
(`FilterParts.check_gives`, `Filter.describe_gives`).

A raw select item is the one clause whose markers are counted in another place than where its text
is read. Both are the same text where it can be read at all (`Argument.split_of_rawSegments`).
-/

namespace SqlQuery

variable {α β : Type}

/-! ## What is known of answers -/

/-- An answer has a property, if there is one. -/
def Result.Gives (P : α → Prop) (r : Result α) : Prop :=
  ∀ a, r = .ok a → P a

namespace Result.Gives

variable {P : α → Prop} {Q : β → Prop} {x : Result α} {f : α → Result β}

theorem ok {a : α} (h : P a) : Gives P (.ok a) := by
  intro b hb
  cases hb
  exact h

theorem error (e : Error) : Gives P (.error e : Result α) :=
  fun _ ha => nomatch ha

/-- Of any result there is nothing to say. -/
theorem any (x : Result α) : Gives (fun _ => True) x :=
  fun _ _ => trivial

theorem bind (hx : Gives P x) (hf : ∀ a, P a → Gives Q (f a)) : Gives Q (x >>= f) := by
  intro b hb
  obtain ⟨a, ha, hb⟩ := bind_eq_ok.1 hb
  exact hf a (hx a ha) b hb

/-- Whatever the first of two steps answers. -/
theorem after (hf : ∀ a, Gives Q (f a)) : Gives Q (x >>= f) :=
  (any x).bind fun a _ => hf a

end Result.Gives

/-- What a reader reads has a property, whatever faults it finds. -/
def Reader.Gives (P : α → Prop) (r : Reader α) : Prop :=
  ∀ faults x rest, StateT.run r faults = .ok (x, rest) → P x

namespace Reader.Gives

variable {P : α → Prop} {Q : β → Prop} {r : Reader α} {f : α → Reader β}

theorem of_pure {a : α} (h : P a) : Gives P (pure a : Reader α) := by
  intro faults x rest hx
  cases hx
  exact h

theorem of_lift {x : Result α} (h : Result.Gives P x) : Gives P (liftM x : Reader α) := by
  intro faults a rest ha
  obtain ⟨b, hb, ha⟩ := Result.bind_eq_ok.1 ha
  cases ha
  exact h a hb

theorem bind (hr : Gives P r) (hf : ∀ a, P a → Gives Q (f a)) : Gives Q (r >>= f) := by
  intro faults y rest hy
  rw [StateT.run_bind] at hy
  obtain ⟨⟨a, between⟩, ha, hy⟩ := Result.bind_eq_ok.1 hy
  exact hf a (hr faults a between ha) between y rest hy

/-- Whatever the first of two readers reads. -/
theorem after (hf : ∀ a, Gives Q (f a)) : Gives Q (r >>= f) := by
  have hany : Gives (fun _ => True) r := fun _ _ _ _ => trivial
  exact hany.bind fun a _ => hf a

theorem field {fields : Fields} {name : String} {default : α} {read : Argument → Read α}
    (hdefault : P default) (hread : ∀ a, fields.lookup name = some a → ∀ x, read a = .ok x → P x) :
    Gives P (Reader.field fields name default read) := by
  unfold Reader.field
  cases hfield : fields.lookup name with
  | none => exact of_pure hdefault
  | some a =>
    dsimp only
    cases hx : read a with
    | ok x => exact of_pure (hread a hfield x hx)
    | error kind => exact after fun _ => of_pure hdefault

/-- A field with parts of its own is left out or read. -/
theorem nested {fields : Fields} {name : String} {default : α}
    {read : Argument → Result (Checked α)} (hdefault : P default)
    (hread : ∀ a, fields.lookup name = some a → ∀ x, read a = .ok (.ok x) → P x) :
    Gives P (Reader.nested fields name default read) := by
  unfold Reader.nested
  cases hfield : fields.lookup name with
  | none => exact of_pure hdefault
  | some a =>
    have hlift : Gives (fun c : Checked α => ∀ x, c = .ok x → P x) (liftM (read a)) := by
      refine of_lift fun c hc x hx => hread a hfield x ?_
      rw [hc, hx]
    refine hlift.bind fun c hc => ?_
    cases c with
    | ok x => exact of_pure (hc x rfl)
    | error faults => exact after fun _ => of_pure hdefault

/-- Fields that can be read are then checked as parts. -/
theorem complete {check : α → Result β} (hr : Gives P r)
    (hcheck : ∀ x, P x → Result.Gives Q (check x)) :
    Result.Gives Q (Checked.toResult (Reader.complete check r)) := by
  intro b hb
  unfold Reader.complete Reader.run at hb
  cases hrun : StateT.run r [] with
  | error e =>
    rw [hrun] at hb
    cases hb
  | ok answer =>
    obtain ⟨x, faults⟩ := answer
    have hx : P x := hr [] x faults hrun
    rw [hrun] at hb
    cases faults with
    | cons => cases hb
    | nil =>
      refine hcheck x hx b ?_
      change Checked.toResult ((check x).bind fun y => .ok (.ok y)) = .ok b at hb
      cases hchecked : check x with
      | error e =>
        rw [hchecked] at hb
        cases hb
      | ok y =>
        rw [hchecked] at hb
        cases hb
        rfl

end Reader.Gives

/-! ## Filters -/

/-- The queries and filters among the parts of a filter. -/
structure FilterParts.Fits (p : FilterParts) : Prop where
  query : ∀ q, p.query = some q → q.AllFit
  filters : FiltersFit p.filters

/-- A condition without parts of its own. -/
theorem Condition.AllFit.of_leaf {c : Condition} (hself : c.Fits) (hinside : c.filtersInside = [])
    (hstatements : c.statements = []) : c.AllFit where
  self := hself
  shown := by simp [hinside]
  inside := by simp [hstatements]

def Filter.AllFit (x : Filter) : Prop :=
  x.condition.AllFit

theorem FiltersFit.one {x : Filter} (h : x.AllFit) : FiltersFit [x] := by
  obtain ⟨connective, condition, unread⟩ := x
  exact filtersFit_cons.2 ⟨h, .empty⟩

theorem checkMarkers_gives (raw : String) (values : List Value) :
    Result.Gives (fun _ => RawFits raw values) (checkMarkers raw values) :=
  fun _ h => checkMarkers_eq_ok h

namespace FilterParts

open Result.Gives Condition.AllFit

variable {p : FilterParts}

/-- One case for each kind of filter. -/
theorem condition_gives (hp : p.Fits) : Result.Gives Condition.AllFit p.condition := by
  have hleaf {c : Condition} (hself : c.Fits) (hinside : c.filtersInside = [])
      (hstatements : c.statements = []) : Result.Gives Condition.AllFit (.ok c) :=
    ok (.of_leaf hself hinside hstatements)
  have hquery {q : Query} (h : p.query = some q) : ∀ t ∈ q.statements, t.Fits := hp.query q h
  unfold condition
  cases p.kind with
  | raw =>
    dsimp only
    split
    · exact error _
    · split
      · exact error _
      · exact (checkMarkers_gives _ _).bind fun _ hfits => hleaf hfits rfl rfl
  | basic | jsonLength | isNull | jsonContains =>
    dsimp only
    split
    · exact error _
    · exact after fun _ => hleaf trivial rfl rfl
  | date | jsonPath | between =>
    dsimp only
    split
    · exact error _
    · refine after fun _ => ?_
      split
      · exact hleaf trivial rfl rfl
      · exact error _
  | isIn =>
    dsimp only
    split
    · exact error _
    · refine after fun column => ?_
      split
      · next query values hgiven => exact ok ⟨trivial, List.forall_mem_nil _, hquery hgiven⟩
      · exact error _
      · exact hleaf trivial rfl rfl
  | «exists» =>
    dsimp only
    split
    · exact error _
    · split
      · next query hgiven => exact ok ⟨trivial, List.forall_mem_nil _, hquery hgiven⟩
      · exact error _
  | nested =>
    dsimp only
    split
    · exact error _
    · split
      · exact error _
      · exact ok hp.filters.group
  | columns =>
    dsimp only
    split
    · exact error _
    · split
      · exact after fun _ => hleaf trivial rfl rfl
      · exact error _
  | fullText =>
    dsimp only
    split
    · exact error _
    · split
      · exact error _
      · exact hleaf trivial rfl rfl
  | multiColumn =>
    dsimp only
    split
    · exact error _
    · split
      · exact error _
      · exact after fun _ => hleaf trivial rfl rfl

theorem check_gives (hp : p.Fits) : Result.Gives Filter.AllFit p.check :=
  (condition_gives hp).bind fun _ hcondition => ok hcondition

end FilterParts

/-- The queries and the filters that a filter is described with. -/
structure Fields.Fit (fields : Fields) : Prop where
  query : ∀ a, fields.lookup "query" = some a → ∃ q, a = .query q ∧ q.AllFit
  filters : ∀ a, fields.lookup "wheres" = some a →
    ∃ fs : List Filter, a = .tuple (fs.map .filter) ∧ FiltersFit fs

/-- Most filters are described without any. -/
theorem Fields.Fit.plain {fields : Fields} (hquery : fields.lookup "query" = none)
    (hfilters : fields.lookup "wheres" = none) : Fields.Fit fields where
  query a ha := by
    rw [hquery] at ha
    cases ha
  filters a ha := by
    rw [hfilters] at ha
    cases ha

theorem readFilter_filter (fuel : Nat) (x : Filter) : readFilter fuel (.filter x) = .ok (.ok x) := by
  cases fuel <;> rfl

theorem readQuery_query (fuel : Nat) (q : Query) : readQuery fuel (.query q) = .ok (.ok q) := by
  cases fuel <;> rfl

/-- Finished filters are read as what they are. -/
theorem readItems_filters (fuel : Nat) (fs : List Filter) :
    readItems .tupleType (readFilter fuel) (.tuple (fs.map .filter)) = .ok (.ok fs) := by
  have hgo (i : Nat) : readItems.go (readFilter fuel) i (fs.map .filter) = .ok (.ok fs) := by
    induction fs generalizing i with
    | nil => rfl
    | cons x rest ih =>
      rw [List.map_cons, readItems.go, readFilter_filter]
      change (readItems.go (readFilter fuel) (i + 1) (rest.map .filter) >>= _ : Result _) = _
      rw [ih (i + 1)]
      rfl
  exact hgo 0

namespace Filter

open Result.Gives Reader.Gives

theorem describe_gives {fields : Fields} (h : Fields.Fit fields) :
    Result.Gives Filter.AllFit (describe fields) := by
  have hquery (fuel : Nat) : ∀ a, fields.lookup "query" = some a →
      ∀ q, readOptionalQuery (readQuery fuel) a = .ok (.ok q) → ∀ q', q = some q' → q'.AllFit := by
    intro a ha q hread q' hq
    obtain ⟨given, rfl, hgiven⟩ := h.query a ha
    have hsame : readOptionalQuery (readQuery fuel) (.query given) = .ok (.ok (some given)) := by
      change (readQuery fuel (.query given) >>= _ : Result _) = _
      rw [readQuery_query]
      rfl
    rw [hsame] at hread
    cases hread
    cases hq
    exact hgiven
  have hfilters (fuel : Nat) : ∀ a, fields.lookup "wheres" = some a →
      ∀ fs, readItems .tupleType (readFilter fuel) a = .ok (.ok fs) → FiltersFit fs := by
    intro a ha fs hread
    obtain ⟨given, rfl, hgiven⟩ := h.filters a ha
    rw [readItems_filters] at hread
    cases hread
    exact hgiven
  change Result.Gives _ (Checked.toResult (Filter.ofFields (readFilter _) (readQuery _) fields))
  refine complete (P := FilterParts.Fits) ?_ fun _ => FilterParts.check_gives
  -- the query and the filters are the two fields that the reading of the others leaves alone
  refine after fun kind => after fun connective => after fun column => after fun columns => ?_
  refine after fun operator => after fun value => after fun values => ?_
  refine after fun negated => after fun matchAll => ?_
  refine (Reader.Gives.nested (fun _ h => nomatch h) (hquery _)).bind fun query hquery => ?_
  refine (Reader.Gives.nested FiltersFit.empty (hfilters _)).bind fun filters hfilters => ?_
  refine after fun second => after fun path => after fun datePart => after fun raw => ?_
  exact after fun bindings => after fun _ => of_pure ⟨hquery, hfilters⟩

theorem described_gives (kind : FilterKind) (connective : Connective) {fields : Fields}
    (h : Fields.Fit fields) : Result.Gives Filter.AllFit (described kind connective fields) :=
  describe_gives ⟨h.query, h.filters⟩

theorem described_plain (kind : FilterKind) (connective : Connective) {fields : Fields}
    (hquery : fields.lookup "query" = none) (hfilters : fields.lookup "wheres" = none) :
    Result.Gives Filter.AllFit (described kind connective fields) :=
  described_gives kind connective (.plain hquery hfilters)

section Makers

variable {column operator value connective negated : Argument}

theorem compare_gives : Result.Gives Filter.AllFit (compare column operator value connective) :=
  Result.Gives.after fun _ => .after fun _ => described_plain _ _ rfl rfl

theorem between_gives : Result.Gives Filter.AllFit (between column value connective negated) :=
  Result.Gives.after fun _ => described_plain _ _ rfl rfl

theorem among_gives (h : ∀ q, value = .query q → q.AllFit) :
    Result.Gives Filter.AllFit (among column value connective negated) := by
  refine Result.Gives.after fun _ => ?_
  dsimp only
  split
  · next q =>
    refine described_gives _ _ ⟨fun a ha => ?_, fun a ha => nomatch ha⟩
    cases ha
    exact ⟨q, rfl, h q rfl⟩
  · exact described_plain _ _ rfl rfl

theorem null_gives : Result.Gives Filter.AllFit (null column connective negated) :=
  Result.Gives.after fun _ => described_plain _ _ rfl rfl

theorem existing_gives {q : Query} (h : q.AllFit) :
    Result.Gives Filter.AllFit (existing (.query q) connective negated) := by
  refine Result.Gives.after fun _ => ?_
  refine described_gives _ _ ⟨fun a ha => ?_, fun a ha => nomatch ha⟩
  cases ha
  exact ⟨q, rfl, h⟩

theorem nested_gives {fs : List Filter} (h : FiltersFit fs) :
    Result.Gives Filter.AllFit (nested (.tuple (fs.map .filter)) connective) := by
  change Result.Gives _ (parseConnective connective >>= fun c =>
    described .nested c [("wheres", .tuple (fs.map .filter))])
  refine Result.Gives.after fun _ => ?_
  refine described_gives _ _ ⟨fun a ha => (nomatch ha), fun a ha => ?_⟩
  cases ha
  exact ⟨fs, rfl, h⟩

theorem raw_gives {text bindings : Argument} :
    Result.Gives Filter.AllFit (raw text bindings connective) :=
  Result.Gives.after fun _ => .after fun _ => described_plain _ _ rfl rfl

theorem compareColumns_gives {first second : Argument} :
    Result.Gives Filter.AllFit (compareColumns first operator second connective) :=
  Result.Gives.after fun _ => .after fun _ => described_plain _ _ rfl rfl

theorem compareDatePart_gives {part : Argument} :
    Result.Gives Filter.AllFit (compareDatePart column part operator value connective) :=
  Result.Gives.after fun _ => .after fun _ => .after fun _ => described_plain _ _ rfl rfl

theorem jsonContains_gives : Result.Gives Filter.AllFit (jsonContains column value connective) :=
  Result.Gives.after fun _ => described_plain _ _ rfl rfl

theorem jsonLength_gives :
    Result.Gives Filter.AllFit (jsonLength column operator value connective) :=
  Result.Gives.after fun _ => .after fun _ => described_plain _ _ rfl rfl

theorem jsonPath_gives {path : Argument} :
    Result.Gives Filter.AllFit (jsonPath column path operator value connective) :=
  Result.Gives.after fun _ => .after fun _ => described_plain _ _ rfl rfl

theorem fullText_gives : Result.Gives Filter.AllFit (fullText column value connective) :=
  Result.Gives.after fun _ => described_plain _ _ rfl rfl

theorem anyColumn_gives {matchAll : Argument} :
    Result.Gives Filter.AllFit (anyColumn column operator value matchAll negated connective) :=
  Result.Gives.after fun _ => .after fun _ => described_plain _ _ rfl rfl

theorem compareOrNull_gives {op : Operator} :
    Result.Gives Filter.AllFit (compareOrNull column op value connective) := by
  unfold compareOrNull
  split
  · exact null_gives
  · exact null_gives
  · exact null_gives
  · exact compare_gives

end Makers

end Filter

namespace Verb

variable {column operator connective : Argument} {value : Option Argument}

/-- Whatever is made of an operator and a value. -/
theorem withOperator_gives {P : α → Prop} {make : Argument → Argument → Result α}
    (h : ∀ op v, Result.Gives P (make op v)) :
    Result.Gives P (withOperator operator value make) :=
  Result.Gives.after fun _ => h _ _

theorem compareFilter_gives :
    Result.Gives Filter.AllFit (compareFilter column operator value connective) :=
  Result.Gives.after fun _ => Filter.compareOrNull_gives

theorem complementFilter_gives :
    Result.Gives Filter.AllFit (complementFilter column operator value connective) := by
  refine Result.Gives.after fun opv => ?_
  dsimp only
  split
  · exact Filter.compareOrNull_gives
  · exact .error _

end Verb

/-! ## Other clauses -/

theorem Join.make_gives {kind table first operator second : Argument} {fs : List Filter}
    (h : FiltersFit fs) : Result.Gives (fun j => FiltersFit j.filters)
      (Join.make kind table first operator second (.tuple (fs.map .filter))) := by
  refine Result.Gives.after fun kind => .after fun op => ?_
  change Result.Gives _ (Join.describe [_, _, _, _, _, ("wheres", .tuple (fs.map .filter))])
  refine Reader.Gives.complete (P := fun j => FiltersFit j.filters) ?_ fun j hj => ?_
  · refine .after fun _ => .after fun _ => .after fun _ => .after fun _ => .after fun _ => ?_
    refine (Reader.Gives.nested FiltersFit.empty fun a ha gs hgs => ?_).bind fun gs hgs => ?_
    · cases ha
      rw [readItems_filters] at hgs
      cases hgs
      exact h
    · exact .after fun _ => .of_pure hgs
  · unfold Join.check
    split
    · exact .error _
    · exact .ok hj

/-- A join without filters of its own. -/
theorem Join.make_plain {kind table first operator second : Argument} :
    Result.Gives (fun j => FiltersFit j.filters)
      (Join.make kind table first operator second (.tuple [])) :=
  @Join.make_gives kind table first operator second [] .empty

theorem Verb.columnJoin_gives {table first kind : Argument} {operator second : Option Argument} :
    Result.Gives (fun j => FiltersFit j.filters)
      (columnJoin table first operator second kind) := by
  refine Result.Gives.after fun kind => ?_
  cases second with
  | none => exact Join.make_plain
  | some second => exact Join.make_plain

theorem Branch.make_gives {q : Query} (h : q.AllFit) {all : Argument} :
    Result.Gives (fun b => b.query.AllFit) (Branch.make (.query q) all) := by
  refine Reader.Gives.complete (P := fun b => b.query.AllFit) ?_ fun b hb => .ok hb
  have hempty : ({} : Query).AllFit := (Query.allFit_iff _).2 .empty
  change Reader.Gives _ (Reader.nested _ "query" {} (readQuery _) >>= fun _ => _)
  refine (Reader.Gives.nested hempty fun a ha q' hq => ?_).bind fun q' hq' => ?_
  · cases ha
    rw [readQuery_query] at hq
    cases hq
    exact h
  · exact .after fun _ => .after fun _ => .of_pure hq'

theorem GroupKey.describe_gives (fields : Fields) :
    Result.Gives GroupKey.Fits (GroupKey.describe fields) :=
  Reader.Gives.complete (P := fun _ => True) (fun _ _ _ _ => trivial)
    fun _ _ _ hg => KeyParts.fits_of_groupKey hg

theorem OrderKey.describe_gives (fields : Fields) :
    Result.Gives OrderKey.Fits (OrderKey.describe fields) :=
  Reader.Gives.complete (P := fun _ => True) (fun _ _ _ _ => trivial)
    fun _ _ _ ho => KeyParts.fits_of_orderKey ho

theorem Having.describe_gives (fields : Fields) :
    Result.Gives (fun h => h.condition.Fits) (Having.describe fields) :=
  Reader.Gives.complete (P := fun _ => True) (fun _ _ _ _ => trivial)
    fun _ _ _ hh => KeyParts.fits_of_having hh

/-! ## Select items -/

theorem selectMarkers_concat (items : List SelectItem) (item : SelectItem) :
    selectMarkers (items ++ [item]) = selectMarkers items + item.markerCount := by
  induction items with
  | nil => exact Nat.add_comm _ _
  | cons first rest ih => rw [List.cons_append, selectMarkers, selectMarkers, ih, Nat.add_assoc]

namespace Argument

/-- Items that are no texts are neither markers nor quotes, so there is one segment of them. -/
theorem itemSegments_of_no_text {items : List Argument} (h : ∀ a ∈ items, a.text? = none) :
    itemSegments none items = [items] := by
  induction items with
  | nil => rfl
  | cons a rest ih =>
    obtain ⟨ha, hrest⟩ := List.forall_mem_cons.1 h
    rw [itemSegments]
    simp [ha, ih hrest]

/-- Raw text is split where its markers are counted. Bytes stand for a text, but their segments are
no texts that could be put together. -/
theorem split_of_rawSegments {raw : Argument} {segments : List String} {s : String}
    (h : raw.rawSegments = .ok segments) (hs : raw.readText = .ok s) :
    segments = RawText.split s := by
  cases raw with
  | word w =>
    cases h
    cases hs
    rfl
  | value v =>
    cases v with
    | text t =>
      cases h
      cases hs
      rfl
    | bytes kind data =>
      have hplain : ∀ a ∈ ofBytes data, a.text? = none := by
        intro a ha
        obtain ⟨b, -, rfl⟩ := List.mem_map.1 ha
        rfl
      change (itemSegments none (ofBytes data)).mapM (fun segment => do
        return String.join (← textsFrom 0 segment)) = .ok segments at h
      rw [itemSegments_of_no_text hplain] at h
      cases data with
      | cons b rest => cases h
      | nil =>
        cases h
        cases kind with
        | view => cases hs
        | fixed | growable =>
          cases hs
          rfl
    | _ => cases hs
  | _ => cases hs

end Argument

theorem eq_of_given {s : Option String} {t : String} (h : given s = some t) : s = some t := by
  unfold given at h
  split at h
  · cases h
  · cases h
  · exact h

namespace SelectItem

open Reader.Gives

/-- A raw item has the text that was read. -/
theorem ofRaw_gives (text : Argument) : Result.Gives
    (fun item => ∃ s, text.readText = .ok s ∧ item.markerCount = RawText.markerCount s)
    (ofRaw text) := by
  refine complete (P := fun p => p.isRaw = true ∧ ∀ s, p.raw = some s → text.readText = .ok s)
    ?_ fun p ⟨hform, hraw⟩ => ?_
  · have hkind : Reader.field [("kind", .word (.select true)), ("raw", text)] "kind" false
        (readForm "column") = pure true := rfl
    rw [hkind, pure_bind]
    refine after fun column => after fun shownAs => ?_
    refine (field (fun _ h => nomatch h) fun a ha raw hread => ?_).bind fun raw hraw =>
      after fun _ => of_pure ⟨rfl, hraw⟩
    cases ha
    rintro s rfl
    unfold readOptionalText Argument.readOption at hread
    split at hread
    · cases hread
    · cases htext : text.readText with
      | error kind =>
        rw [htext] at hread
        cases hread
      | ok t =>
        rw [htext] at hread
        cases hread
        rfl
  · unfold KeyParts.selectItem
    rw [hform, if_pos rfl]
    have hneed : Result.Gives (fun s => text.readText = .ok s) (p.needRaw .select) := by
      unfold KeyParts.needRaw
      split
      · next s hgiven _ => exact .ok (hraw s (eq_of_given hgiven))
      · exact .error _
    exact hneed.bind fun s hs => .ok ⟨s, hs, rfl⟩

theorem ofColumn_gives (column shownAs : Argument) :
    Result.Gives (fun item => item.markerCount = 0) (ofColumn column shownAs) := by
  refine complete (P := fun p => p.isRaw = false) ?_ fun p hform => ?_
  · have hkind : Reader.field [("kind", .word (.select false)), ("column", column),
        ("alias", shownAs)] "kind" false (readForm "column") = pure false := rfl
    rw [hkind, pure_bind]
    exact after fun _ => after fun _ => after fun _ => after fun _ => of_pure rfl
  · unfold KeyParts.selectItem
    rw [hform]
    exact Result.Gives.after fun _ => .ok rfl

end SelectItem

end SqlQuery
