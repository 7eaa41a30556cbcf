import SqlQuery.Proofs.CachedWrites
import SqlQuery.Proofs.CursorBounds
import SqlQuery.Query.Edit

/-!
# Attributes that are null

Attributes are made into filters in two places. A mapping that is given as a filter asks for null
where a value is null; `Query.matching` compares with null, which is true of no row. Of the other
values both make one filter.

So the rows that `matching` reaches are those of the mapping where no attribute is null, and none
where one is (`Query.matching_reaches_iff_filteredBy`). What looks for such a row by `matching` never
finds it, and inserts it at every call.
-/

namespace SqlQuery

open Edit

/-! ## The filters of attributes -/

namespace Filter

/-- The filter that `matching` makes of an attribute. -/
def ofAttribute (a : String × Value) : Filter :=
  .of (.compare a.1 .eq a.2)

/-- The filter that a mapping makes of an attribute. -/
def ofEntry (a : String × Value) : Filter :=
  match a.2 with
  | .null => .of (.isNull a.1 false)
  | v => .of (.compare a.1 .eq v)

theorem ofEntry_of_ne {a : String × Value} (h : a.2 ≠ .null) : ofEntry a = ofAttribute a := by
  obtain ⟨column, v⟩ := a
  cases v with
  | null => exact absurd rfl h
  | _ => rfl

theorem comparing_of_ne {column : String} (h : column ≠ "") (v : Value) :
    comparing column .eq v = .ok (ofAttribute (column, v)) := by
  unfold comparing FilterParts.check FilterParts.condition FilterParts.needComparedColumn
    FilterParts.needColumn
  simp only [given_some h]
  rfl

theorem not_comparing (v : Value) : ¬Succeeds (comparing "" .eq v) := by
  rintro ⟨f, h⟩
  cases h

/-- Fields that can be read are then checked as parts. -/
theorem toResult_complete {α β : Type} {check : α → Result β} {r : Reader α} {x : α}
    (h : r.run = .ok (.ok x)) : Checked.toResult (Reader.complete check r) = check x := by
  unfold Reader.complete
  rw [h]
  show Checked.toResult ((check x).bind fun y => .ok (.ok y)) = check x
  cases check x <;> rfl

/-- A comparison that is described by its fields. -/
theorem described_equal (column : String) (v : Value) :
    described .basic .and [("column", .text column), ("operator", .word (.operator (.compare .eq))),
      ("value", .value v)] = comparing column .eq v :=
  toResult_complete rfl

theorem described_null (column : String) :
    described .isNull .and [("column", .text column), ("negated", .value (.bool false))]
      = FilterParts.check { kind := .isNull, column := some column } :=
  toResult_complete rfl

/-- What a step makes of an entry of a mapping. -/
def ofStep (a : String × Value) : Result Filter :=
  Verb.compareFilter (.text a.1) (Verb.comparing .eq) (some (.value a.2)) (Verb.joinedBy .and)

/-- Of a value that is not null, a step makes what `matching` makes of it. -/
theorem ofStep_eq {a : String × Value} (h : a.2 ≠ .null) : ofStep a = comparing a.1 .eq a.2 := by
  obtain ⟨column, v⟩ := a
  cases v with
  | null => exact absurd rfl h
  | _ => exact described_equal column _

theorem ofStep_null (column : String) :
    ofStep (column, .null) = FilterParts.check { kind := .isNull, column := some column } :=
  described_null column

theorem ofStep_of_ne {a : String × Value} (h : a.1 ≠ "") : ofStep a = .ok (ofEntry a) := by
  obtain ⟨column, v⟩ := a
  by_cases hnull : v = .null
  · subst hnull
    rw [ofStep_null]
    unfold FilterParts.check FilterParts.condition FilterParts.needColumn
    simp only [given_some h]
    rfl
  · rw [ofStep_eq hnull, ofEntry_of_ne hnull]
    exact comparing_of_ne h v

theorem not_ofStep (v : Value) : ¬Succeeds (ofStep ("", v)) := by
  by_cases hnull : v = .null
  · subst hnull
    rw [ofStep_null]
    rintro ⟨f, h⟩
    cases h
  · rw [ofStep_eq hnull]
    exact not_comparing v

end Filter

/-! ## Queries with a filter for each attribute -/

namespace Query

/-- The query with one more filter for each of some attributes. -/
def addEach (make : String × Value → Result Filter) (q : Query) (attributes : Row) :
    Result Query :=
  attributes.foldlM (fun q a => do return q.addFilter (← make a)) q

/-- The query that edits leave, if none of them fails. -/
def applied (edits : List Edit) (q : Query) : Result Query := do
  let (q, done) := applyAll edits q
  done
  return q

/-- The query with a mapping as its filter, as a step adds it. -/
def filteredBy (around : Surroundings) (q : Query) (attributes : Row) : Result Query := do
  let entries := attributes.map fun (column, v) => (column, Argument.value v)
  applied (← Verb.edits around .filter
    [some (.mapping entries), none, none, some (Verb.joinedBy .and)]) q

variable {q q' m f : Query} {attributes : Row} {around : Surroundings}

theorem addEach_cons (make : String × Value → Result Filter) (q : Query) (a : String × Value)
    (rest : Row) : q.addEach make (a :: rest)
      = (make a).bind fun f => (q.addFilter f).addEach make rest := by
  show ((make a).bind fun f => .ok (q.addFilter f)).bind _ = _
  cases make a <;> rfl

theorem applied_addFilter (make : String × Value → Result Filter) (q : Query) (attributes : Row) :
    applied (attributes.map fun a => Edit.addFilter (make a)) q = q.addEach make attributes := by
  induction attributes generalizing q with
  | nil => rfl
  | cons a rest ih =>
    rw [addEach_cons, List.map_cons]
    cases hf : make a with
    | error err =>
      unfold applied applyAll
      simp only [Edit.addFilter]
      rfl
    | ok f =>
      refine Eq.trans ?_ (ih (q.addFilter f))
      unfold applied
      rw [applyAll]
      simp only [Edit.addFilter]
      rfl

theorem filteredBy_eq (around : Surroundings) (q : Query) (attributes : Row) :
    q.filteredBy around attributes = q.addEach Filter.ofStep attributes := by
  rw [← applied_addFilter]
  show applied (((attributes.map _).map _)) q = _
  rw [List.map_map]
  rfl

/-- Filters can be made for attributes whose columns have names. -/
theorem addEach_eq_ok_iff {make : String × Value → Result Filter}
    {made : String × Value → Filter} (hnamed : ∀ a, a.1 ≠ "" → make a = .ok (made a))
    (hempty : ∀ v, ¬Succeeds (make ("", v))) :
    q.addEach make attributes = .ok q'
      ↔ (∀ a ∈ attributes, a.1 ≠ "")
        ∧ q' = { q with filters := q.filters ++ attributes.map made } := by
  induction attributes generalizing q with
  | nil =>
    rw [List.map_nil, List.append_nil]
    constructor
    · intro h
      cases h
      refine ⟨fun _ ha => (nomatch ha), ?_⟩
      cases q'
      rfl
    · rintro ⟨-, rfl⟩
      cases q
      rfl
  | cons a rest ih =>
    rw [addEach_cons, List.forall_mem_cons]
    by_cases ha : a.1 = ""
    · obtain ⟨column, v⟩ := a
      cases ha
      refine iff_of_false (fun h => ?_) fun h => h.1.1 rfl
      obtain ⟨f, hf, -⟩ := Result.bind_eq_ok.1 h
      exact hempty v ⟨f, hf⟩
    · rw [hnamed a ha]
      show (q.addFilter (made a)).addEach make rest = .ok q' ↔ _
      rw [ih, addFilter, List.map_cons, List.append_assoc, List.singleton_append]
      simp only [ne_eq, ha, not_false_eq_true, true_and]

theorem matching_eq_ok_iff : q.matching attributes = .ok m
    ↔ (∀ a ∈ attributes, a.1 ≠ "")
      ∧ m = { q with filters := q.filters ++ attributes.map Filter.ofAttribute } := by
  change q.addEach (fun a => Filter.comparing a.1 .eq a.2) attributes = .ok m ↔ _
  exact addEach_eq_ok_iff (fun a ha => Filter.comparing_of_ne ha a.2) Filter.not_comparing

theorem filteredBy_eq_ok_iff : q.filteredBy around attributes = .ok f
    ↔ (∀ a ∈ attributes, a.1 ≠ "")
      ∧ f = { q with filters := q.filters ++ attributes.map Filter.ofEntry } := by
  rw [filteredBy_eq]
  exact addEach_eq_ok_iff (fun _ => Filter.ofStep_of_ne) Filter.not_ofStep

end Query

/-! ## The rows that they reach -/

/-- A row of which it is not known whether a column equals null, as no row knows that. -/
def EqualsNoNull (row : Condition → Truth) : Prop :=
  ∀ column, row (.compare column .eq .null) = .unknown

/-- None of the attributes is null. -/
def Row.NullFree (attributes : Row) : Prop :=
  ∀ a ∈ attributes, a.2 ≠ .null

namespace Query

variable {q m f : Query} {attributes : Row} {around : Surroundings} {row : Condition → Truth}

/-- Where no attribute is null, both are one query. -/
theorem matching_eq_filteredBy (hm : q.matching attributes = .ok m)
    (hf : q.filteredBy around attributes = .ok f) (hfree : attributes.NullFree) : m = f := by
  obtain ⟨-, rfl⟩ := matching_eq_ok_iff.1 hm
  obtain ⟨-, rfl⟩ := filteredBy_eq_ok_iff.1 hf
  have hsame : attributes.map Filter.ofEntry = attributes.map Filter.ofAttribute :=
    List.map_congr_left fun a ha => Filter.ofEntry_of_ne (hfree a ha)
  rw [hsame]

/-- A row that equals no null does not have an attribute that is null. -/
theorem nullFree_of_matching_reaches (hor : beforeLastOr q.filters = none)
    (hm : q.matching attributes = .ok m) (hrow : EqualsNoNull row) (hreaches : m.Reaches row) :
    attributes.NullFree := by
  intro a ha hnull
  rcases (matching_reaches_iff hm row).1 hreaches with hdone | ⟨-, hheld⟩
  · obtain ⟨early, hearly, -⟩ := (filterFrame_done_eq_yes row q.filters).1 hdone
    rw [hor] at hearly
    cases hearly
  · have hyes := hheld a ha
    rw [hnull, hrow] at hyes
    cases hyes

/-- **Attributes match like a mapping unless one of them is null.** -/
theorem matching_reaches_iff_filteredBy (hor : beforeLastOr q.filters = none)
    (hm : q.matching attributes = .ok m) (hf : q.filteredBy around attributes = .ok f)
    (hrow : EqualsNoNull row) : m.Reaches row ↔ f.Reaches row ∧ attributes.NullFree := by
  constructor
  · intro hreaches
    have hfree := nullFree_of_matching_reaches hor hm hrow hreaches
    rw [← matching_eq_filteredBy hm hf hfree]
    exact ⟨hreaches, hfree⟩
  · rintro ⟨hreaches, hfree⟩
    rw [matching_eq_filteredBy hm hf hfree]
    exact hreaches

end Query

/-! ## Calls one after the other -/

namespace Upkeep

open Engine

variable {σ : Type} {u : Upkeep σ} {e : Engine σ} {w : World (Recorded Written σ)}
  {select : σ → String → List Value → List Row} {rows : σ → List (Condition → Truth)}
  {m f : Query} {x : Statement} {added : Condition → Truth} {around : Surroundings}

/-- The rows that a store has in a table: an operation finds those that the query of its attributes
reaches, and its INSERT adds one. Nobody else writes to the table. -/
structure KeptIn (u : Upkeep σ) (e : Engine σ) (select : σ → String → List Value → List Row)
    (rows : σ → List (Condition → Truth)) (m : Query) (x : Statement)
    (added : Condition → Truth) : Prop where
  reads : e.statements.ReadsFrom select
  finds : ∃ s, Statement.select e.dialect m.firstOnly = .ok s
    ∧ ∀ t, select t s.sql s.bindings = [] ↔ ∀ row ∈ rows t, ¬m.Reaches row
  insert : Statement.insert e.dialect u.query.table (u.attributes.update u.values) = .ok x
  adds : ∀ t, rows (e.statements.carryOut t [x]) = rows t ++ [added]
  alone : ∀ t, rows (u.meanwhile t) = rows t
  nulls : ∀ t, ∀ row ∈ rows t, EqualsNoNull row

/-- A world without a cache, in which executions are let through. -/
structure Direct (e : Engine σ) (w : World (Recorded Written σ)) : Prop where
  uncached : w.cache = none
  ready : w.Ready e.wait

/-- What was inserted, as it is written down. -/
abbrev inserted (x : Statement) : Written :=
  [(x.sql, x.bindings)]

theorem KeptIn.added_equalsNoNull (h : u.KeptIn e select rows m x added) (t : σ) :
    EqualsNoNull added := by
  refine h.nulls (e.statements.carryOut t [x]) added ?_
  rw [h.adds]
  exact List.mem_append_right _ (List.mem_singleton_self _)

theorem Direct.finish (h : Direct e w) (hreads : e.statements.ReadsFrom select) (u : Upkeep σ) :
    Direct e (u.finish e w) := by
  obtain ⟨-, hlimiter, hcache⟩ := finish_outside (u := u) hreads h.ready
  rw [h.uncached] at hcache
  exact ⟨Option.map_eq_none_iff.1 hcache, h.ready.of_limiter hlimiter⟩

/-- **An operation inserts exactly if no row of the table is reached.** -/
theorem record_finish_iff (h : u.KeptIn e select rows m x added)
    (hm : u.query.matching u.attributes = .ok m) (hw : Direct e w) :
    (u.finish e w).outside.record = inserted x
      ↔ ∀ row ∈ rows w.outside.state, ¬m.Reaches row := by
  obtain ⟨s, hs, hfinds⟩ := h.finds
  have hanswer : (u.answer e select w s).isEmpty = true
      ↔ ∀ row ∈ rows w.outside.state, ¬m.Reaches row := by
    rw [answer_of_uncached hw.uncached, List.isEmpty_map, List.isEmpty_iff, hfinds, h.alone]
  rw [(finish_outside h.reads hw.ready).1, ← hanswer]
  unfold Upkeep.plan
  simp only [hm, hs]
  constructor
  · intro hrecord
    by_contra hrows
    exact response_ne_insert h.insert (Bool.not_eq_true _ ▸ hrows) hrecord
  · exact response_insert h.insert

/-- The table has one row more then. -/
theorem rows_finish (h : u.KeptIn e select rows m x added)
    (hm : u.query.matching u.attributes = .ok m) (hw : Direct e w)
    (hnone : ∀ row ∈ rows w.outside.state, ¬m.Reaches row) :
    rows (u.finish e w).outside.state = rows w.outside.state ++ [added] := by
  obtain ⟨s, hs, hfinds⟩ := h.finds
  have hanswer : u.answer e select w s = [] := by
    rw [answer_of_uncached hw.uncached, List.map_eq_nil_iff, hfinds, h.alone]
    exact hnone
  rw [(finish_outside h.reads hw.ready).1]
  unfold Upkeep.plan
  simp only [hm, hs, hanswer, response, h.insert]
  exact (h.adds _).trans (by rw [h.alone])

/-- Two calls insert twice if the query of the attributes finds neither a row that was there nor the
row that the first of them inserts. -/
theorem writes_twice_iff (h : u.KeptIn e select rows m x added)
    (hm : u.query.matching u.attributes = .ok m) (hw : Direct e w) :
    e.writes w [u, u] = [inserted x, inserted x]
      ↔ (∀ row ∈ rows w.outside.state, ¬m.Reaches row) ∧ ¬m.Reaches added := by
  have hsecond := record_finish_iff h hm (hw.finish h.reads u)
  unfold writes writes writes
  rw [List.cons.injEq, List.cons.injEq, record_finish_iff h hm hw, hsecond]
  refine and_congr_right fun hnone => ?_
  rw [rows_finish h hm hw hnone, List.forall_mem_append]
  simp only [List.mem_cons, List.not_mem_nil, or_false, forall_eq, and_true]
  exact and_iff_right hnone

/-- If no row is ever reached, every call inserts. -/
theorem writes_replicate (h : u.KeptIn e select rows m x added)
    (hm : u.query.matching u.attributes = .ok m)
    (hnever : ∀ row, EqualsNoNull row → ¬m.Reaches row) (hw : Direct e w) (n : Nat) :
    e.writes w (List.replicate n u) = List.replicate n (inserted x) := by
  induction n generalizing w with
  | zero => rfl
  | succ n ih =>
    have hfirst := (record_finish_iff h hm hw).2 fun row hrow => hnever row (h.nulls _ row hrow)
    rw [List.replicate_succ, List.replicate_succ, writes, hfirst, ih (hw.finish h.reads u)]

/-- **What attributes match, and what is inserted for them.** For every base query without OR and all
attributes, both derivations make a query if the columns have names. The query of `matching`, whose
filters SELECT and UPDATE show, is that of the mapping if no attribute is null. It reaches the rows
that the mapping reaches if no attribute is null, and none if one is. So where one is, every call
inserts; where none is, the second of two calls inserts after the first only if the mapping does not
reach the row that the first inserted. -/
theorem matching_unless_null (u : Upkeep σ) (around : Surroundings)
    (hor : beforeLastOr u.query.filters = none) :
    ((∃ m, u.query.matching u.attributes = .ok m) ↔ ∀ a ∈ u.attributes, a.1 ≠ "")
    ∧ ((∃ f, u.query.filteredBy around u.attributes = .ok f) ↔ ∀ a ∈ u.attributes, a.1 ≠ "")
    ∧ ∀ m f, u.query.matching u.attributes = .ok m →
      u.query.filteredBy around u.attributes = .ok f →
      (∀ d, m.filters.isEmpty = false →
        (∃ before after, (Request.select m.firstOnly).template d
          = before ++ .text "WHERE " :: tokensTemplate d (filterTokens m.filters) ++ after)
        ∧ ∃ before, (Request.update m u.values).template d
          = before ++ .text " WHERE " :: tokensTemplate d (filterTokens m.filters))
      ∧ (u.attributes.NullFree → m = f)
      ∧ (∀ row, EqualsNoNull row → (m.Reaches row ↔ f.Reaches row ∧ u.attributes.NullFree))
      ∧ ∀ (e : Engine σ) select rows x added w, u.KeptIn e select rows m x added → Direct e w →
        (e.writes w [u, u] = [inserted x, inserted x]
          ↔ ¬u.attributes.NullFree
            ∨ (∀ row ∈ rows w.outside.state, ¬f.Reaches row) ∧ ¬f.Reaches added)
        ∧ (¬u.attributes.NullFree →
          ∀ n, e.writes w (List.replicate n u) = List.replicate n (inserted x)) := by
  refine ⟨?_, ?_, fun m f hm hf => ⟨fun d hfilters => ⟨Query.template_where (q := m.firstOnly)
    hfilters, updateTemplate_where hfilters _⟩, Query.matching_eq_filteredBy hm hf, fun row hrow =>
    Query.matching_reaches_iff_filteredBy hor hm hf hrow, ?_⟩⟩
  · exact ⟨fun ⟨m, hm⟩ => (Query.matching_eq_ok_iff.1 hm).1,
      fun hnamed => ⟨_, Query.matching_eq_ok_iff.2 ⟨hnamed, rfl⟩⟩⟩
  · exact ⟨fun ⟨f, hf⟩ => (Query.filteredBy_eq_ok_iff.1 hf).1,
      fun hnamed => ⟨_, Query.filteredBy_eq_ok_iff.2 ⟨hnamed, rfl⟩⟩⟩
  · intro e select rows x added w hkept hdirect
    have hreaches (row : Condition → Truth) (hrow : EqualsNoNull row) :=
      Query.matching_reaches_iff_filteredBy hor hm hf hrow
    refine ⟨?_, fun hnull n => ?_⟩
    · rw [writes_twice_iff hkept hm hdirect]
      by_cases hfree : u.attributes.NullFree
      · rw [Query.matching_eq_filteredBy hm hf hfree]
        simp only [hfree, not_true_eq_false, false_or]
      · have hnone (row : Condition → Truth) (hrow : EqualsNoNull row) : ¬m.Reaches row :=
          fun h => hfree ((hreaches row hrow).1 h).2
        refine iff_of_true ⟨fun row hrow => hnone row (hkept.nulls _ row hrow), ?_⟩ (.inl hfree)
        exact hnone added (hkept.added_equalsNoNull w.outside.state)
    · exact writes_replicate hkept hm (fun row hrow h => hnull ((hreaches row hrow).1 h).2)
        hdirect n

end Upkeep

/-! ### A table of contacts -/

/-- An address, or null if there is none. -/
def addressValue : Option String → Value
  | some email => .text email
  | none => .null

/-- What a contact makes of a condition. -/
def contactTruth (address : Option String) : Condition → Truth
  | .compare "email" .eq (.text email) =>
    match address with
    | some other => if other = email then .yes else .no
    | none => .unknown
  | .isNull "email" false => if address.isNone then .yes else .no
  | _ => .unknown

/-- The SELECTs for contacts with an address and for contacts without one, and the INSERT. -/
def contactSelect : String := "SELECT * FROM contacts WHERE email = ? LIMIT 1"

def contactSelectNull : String := "SELECT * FROM contacts WHERE email IS NULL LIMIT 1"

def contactInsert : String := "INSERT INTO contacts (email) VALUES (?)"

/-- The first of the contacts that a SELECT asks for. No address equals null. -/
def contactRows (addresses : List (Option String)) (sql : String) (bindings : List Value) :
    List Row :=
  match bindings with
  | [.text email] =>
    if sql = contactSelect ∧ some email ∈ addresses then [[("email", .text email)]] else []
  | [] => if sql = contactSelectNull ∧ none ∈ addresses then [[("email", .null)]] else []
  | _ => []

/-- A table of contacts with one column. -/
def contactStatements : Statements (List (Option String)) where
  query sql bindings := do return { rows := contactRows (← get) sql bindings }
  queryOne sql bindings := do return (contactRows (← get) sql bindings).head?
  execute sql bindings := do
    match bindings with
    | [.text email] =>
      if sql = contactInsert then modify fun addresses => addresses ++ [some email]
      return { rowsAffected := .int 1 }
    | [.null] =>
      if sql = contactInsert then modify fun addresses => addresses ++ [none]
      return { rowsAffected := .int 1 }
    | _ => return { rowsAffected := .int 0 }

def contactEngine : Engine (List (Option String)) where
  dialect := .mysql
  statements := contactStatements

/-- Inserts a contact that is not there yet. -/
def addContact (address : Option String) : Upkeep (List (Option String)) where
  query := { table := some "contacts" }
  attributes := [("email", addressValue address)]
  values := []

/-- No contacts. -/
def noContacts : World (Recorded Written (List (Option String))) where
  outside := ⟨[], []⟩

/-- The INSERT of a contact. -/
def contactStatement (address : Option String) : Statement :=
  ⟨contactInsert, [addressValue address], "mysql"⟩

theorem contactTruth_eq_yes {address : Option String} {email : String} :
    contactTruth address (.compare "email" .eq (.text email)) = .yes ↔ address = some email := by
  cases address with
  | none => exact iff_of_false (fun h => nomatch h) fun h => nomatch h
  | some other =>
    show (if other = email then Truth.yes else Truth.no) = .yes ↔ _
    split
    · next hsame => exact iff_of_true rfl (congrArg some hsame)
    · next hother => exact iff_of_false (fun h => nomatch h) fun h => hother (Option.some.inj h)

theorem contactTruth_equalsNoNull (address : Option String) :
    EqualsNoNull (contactTruth address) := by
  intro column
  unfold contactTruth
  split
  · next h => cases h
  · next h => cases h
  · rfl

/-- What an operation on contacts has to know of the table. -/
theorem addContact_keptIn (address : Option String) {m : Query}
    (hm : (addContact address).query.matching (addContact address).attributes = .ok m) :
    (addContact address).KeptIn contactEngine contactRows (List.map contactTruth) m
      (contactStatement address) (contactTruth address) := by
  have hreaches (row : Condition → Truth) :
      m.Reaches row ↔ row (.compare "email" .eq (addressValue address)) = .yes := by
    rw [Query.matching_reaches_iff hm]
    simp [addContact, filterFrame, Row.HeldBy]
  cases hm
  constructor
  · exact fun _ _ _ => rfl
  · refine ⟨⟨contactSelect, [addressValue address], "mysql"⟩, rfl, fun t => ?_⟩
    simp only [hreaches, List.forall_mem_map]
    cases address with
    | none => exact iff_of_true rfl fun _ _ h => nomatch h
    | some email =>
      have hmissing : contactRows t contactSelect [.text email] = [] ↔ some email ∉ t := by
        simp [contactRows]
      refine hmissing.trans ?_
      simp only [addressValue, contactTruth_eq_yes]
      exact ⟨fun h other hother hsame => h (hsame ▸ hother), fun h hmem => h _ hmem rfl⟩
  · rfl
  · intro t
    have hadded : contactEngine.statements.carryOut t [contactStatement address]
        = t ++ [address] := by
      cases address <;> rfl
    rw [hadded, List.map_append]
    rfl
  · exact fun _ => rfl
  · intro t row hrow
    obtain ⟨other, -, rfl⟩ := List.mem_map.1 hrow
    exact contactTruth_equalsNoNull other

theorem noContacts_direct : Upkeep.Direct contactEngine noContacts :=
  ⟨rfl, fun _ hlimiter => nomatch hlimiter⟩

/-- A contact with an address is not inserted a second time. -/
theorem contact_inserted_once : beforeLastOr (addContact (some "ada@example.org")).query.filters
      = none
    ∧ contactEngine.writes noContacts [addContact (some "ada@example.org"),
        addContact (some "ada@example.org")]
      ≠ [Upkeep.inserted (contactStatement (some "ada@example.org")),
        Upkeep.inserted (contactStatement (some "ada@example.org"))] := by
  have hor : beforeLastOr (addContact (some "ada@example.org")).query.filters = none := rfl
  obtain ⟨-, -, hagree⟩ := (addContact (some "ada@example.org")).matching_unless_null {} hor
  obtain ⟨-, hsame, -, hstore⟩ := hagree _ _ rfl rfl
  have hfree : (addContact (some "ada@example.org")).attributes.NullFree :=
    fun a ha => by cases List.mem_singleton.1 ha; exact fun h => nomatch h
  obtain ⟨htwice, -⟩ := hstore contactEngine contactRows (List.map contactTruth) _ _ noContacts
    (addContact_keptIn (some "ada@example.org") rfl) noContacts_direct
  refine ⟨hor, fun hwrites => ?_⟩
  rcases htwice.1 hwrites with hnull | ⟨-, hadded⟩
  · exact hnull hfree
  · exact hadded rfl

/-- A contact without an address is inserted by every call: the equality with null that is asked for
reaches no contact, while the mapping reaches the one that is there. -/
theorem contact_without_address_inserted_twice :
    contactEngine.writes noContacts [addContact none, addContact none]
      = [Upkeep.inserted (contactStatement none), Upkeep.inserted (contactStatement none)]
    ∧ ∃ m f, (addContact none).query.matching (addContact none).attributes = .ok m
      ∧ (addContact none).query.filteredBy {} (addContact none).attributes = .ok f
      ∧ Statement.select .mysql m.firstOnly = .ok ⟨contactSelect, [.null], "mysql"⟩
      ∧ Statement.select .mysql f.firstOnly = .ok ⟨contactSelectNull, [], "mysql"⟩
      ∧ ¬m.Reaches (contactTruth none) ∧ f.Reaches (contactTruth none) := by
  refine ⟨rfl, _, _, rfl, rfl, rfl, rfl, ?_, rfl⟩
  intro h
  cases h

end SqlQuery
