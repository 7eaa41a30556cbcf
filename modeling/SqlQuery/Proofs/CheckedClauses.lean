import SqlQuery.Proofs.Writable
import SqlQuery.Clause.Parts

/-!
# Clauses that were checked when they were made

A check accepts raw text only with one marker for each of its values, so a filter, group, order or
having that was accepted cannot be refused for its markers later. The values that are searched for
in JSON are not looked at by a check: of them `Serializable` says which have a JSON text.
-/

namespace SqlQuery

/-! ## Values that JSON can hold -/

/-- Decimals, bytes, moments and values that can be gone through only once have no JSON text. -/
inductive Value.Serializable : Value → Prop
  | null : Serializable .null
  | bool (b : Bool) : Serializable (.bool b)
  | int (n : Int) : Serializable (.int n)
  | double (d : Double) : Serializable (.double d)
  | text (s : String) : Serializable (.text s)
  | list {items : List Value} (h : ∀ v ∈ items, Serializable v) : Serializable (.list items)
  | tuple {items : List Value} (h : ∀ v ∈ items, Serializable v) : Serializable (.tuple items)
  | mapping {entries : List (String × Value)} (h : ∀ e ∈ entries, Serializable e.2) :
    Serializable (.mapping entries)

section Json

open Value

mutual

theorem Value.writeJson_succeeds_iff (v : Value) :
    Succeeds (v.writeJson .strict) ↔ v.Serializable := by
  cases v with
  | null => exact ⟨fun _ => .null, fun _ => .ok _⟩
  | bool b => exact ⟨fun _ => .bool b, fun _ => .ok _⟩
  | int n => exact ⟨fun _ => .int n, fun _ => .ok _⟩
  | double d => exact ⟨fun _ => .double d, fun _ => .ok _⟩
  | text s => exact ⟨fun _ => .text s, fun _ => .ok _⟩
  | list items =>
    rw [writeJson, Succeeds.bind_pure_iff, writeJsonAll_succeeds_iff items]
    exact ⟨.list, fun h => by cases h; assumption⟩
  | tuple items =>
    rw [writeJson, Succeeds.bind_pure_iff, writeJsonAll_succeeds_iff items]
    exact ⟨.tuple, fun h => by cases h; assumption⟩
  | mapping entries =>
    rw [writeJson, Succeeds.bind_pure_iff, writeJsonEntries_succeeds_iff entries]
    exact ⟨.mapping, fun h => by cases h; assumption⟩
  | _ => exact ⟨fun h => absurd h (Succeeds.not_error _), fun h => (nomatch h)⟩

theorem writeJsonAll_succeeds_iff : ∀ items : List Value,
    Succeeds (writeJsonAll .strict items) ↔ ∀ v ∈ items, v.Serializable
  | [] => ⟨fun _ _ hv => (nomatch hv), fun _ => .ok []⟩
  | v :: vs => by
    rw [writeJsonAll, List.forall_mem_cons, ← v.writeJson_succeeds_iff,
      ← writeJsonAll_succeeds_iff vs]
    exact Succeeds.bind_iff fun _ => Succeeds.bind_pure_iff

theorem writeJsonEntries_succeeds_iff : ∀ entries : List (String × Value),
    Succeeds (writeJsonEntries .strict entries) ↔ ∀ e ∈ entries, e.2.Serializable
  | [] => ⟨fun _ _ he => (nomatch he), fun _ => .ok []⟩
  | (k, v) :: rest => by
    rw [writeJsonEntries, List.forall_mem_cons, ← v.writeJson_succeeds_iff,
      ← writeJsonEntries_succeeds_iff rest]
    exact Succeeds.bind_iff fun _ => Succeeds.bind_pure_iff

end

end Json

/-- A value that is searched for in JSON can be written as JSON. A text is taken to be JSON. -/
def Condition.Encodable : Condition → Prop
  | .jsonContains _ v => (∀ s, v ≠ .text s) → v.Serializable
  | _ => True

theorem jsonText_succeeds_iff (v : Value) : Succeeds (Dialect.jsonText v) ↔ v.Serializable := by
  rw [← v.writeJson_succeeds_iff]
  unfold Dialect.jsonText Value.toJson
  cases v.writeJson .strict with
  | error e =>
    exact iff_of_false (Succeeds.not_error _) (Succeeds.not_error _)
  | ok s => exact ⟨fun _ => .ok s, fun _ => .ok _⟩

theorem jsonContainsValue_succeeds_iff (v : Value) :
    Succeeds (Dialect.jsonContainsValue v) ↔ ((∀ s, v ≠ .text s) → v.Serializable) := by
  by_cases htext : ∃ s, v = .text s
  · obtain ⟨s, rfl⟩ := htext
    exact ⟨fun _ h => absurd rfl (h s), fun _ => .ok _⟩
  · have hother : ∀ s, v ≠ .text s := fun s h => htext ⟨s, h⟩
    have hvalue : Dialect.jsonContainsValue v = Dialect.jsonText v := by
      unfold Dialect.jsonContainsValue
      split
      · next s => exact absurd rfl (hother s)
      · rfl
    rw [hvalue, jsonText_succeeds_iff]
    exact ⟨fun h _ => h, fun h => h hother⟩

/-! ## Clauses that were checked when they were made -/

/-- Each clause of a statement is the answer of a check. -/
structure Query.Checked (q : Query) : Prop where
  selects : ∀ s ∈ q.selects, ∃ p : KeyParts, p.selectItem = .ok s
  joins : ∀ j ∈ q.joins, ∃ given, Join.check given = .ok j
  filters : ∀ x ∈ q.shownFilters, ∃ p : FilterParts, p.check = .ok x
  groups : ∀ g ∈ q.groups, ∃ p : KeyParts, p.groupKey = .ok g
  havings : ∀ h ∈ q.havings, ∃ p : KeyParts, p.having = .ok h
  orders : ∀ o ∈ q.orders, ∃ p : KeyParts, p.orderKey = .ok o

theorem checkMarkers_eq_ok {raw : String} {values : List Value} {u : Unit}
    (h : checkMarkers raw values = .ok u) : RawFits raw values := by
  unfold checkMarkers matchMarkers at h
  split at h
  · next hcount => exact hcount
  · exact absurd h Result.reject_ne_ok

namespace FilterParts

variable {p : FilterParts} {raw : String} {values : List Value}

/-- What the parts of a filter describe. -/
inductive Describes (p : FilterParts) : Condition → Prop
  | raw {s : String} (hkind : p.kind = .raw) (hfits : RawFits s p.bindings) :
    Describes p (.raw s p.bindings)
  | compare {column : String} {c : Comparison} (hkind : p.kind = .basic)
    (hop : p.operator = some (.compare c)) : Describes p (.compare column c p.value)
  | datePart {column : String} {part : DatePart} {c : Comparison} (hkind : p.kind = .date)
    (hop : p.operator = some (.compare c)) : Describes p (.datePart column part c p.value)
  | jsonLength {column : String} {c : Comparison} (hkind : p.kind = .jsonLength)
    (hop : p.operator = some (.compare c)) : Describes p (.jsonLength column c p.value)
  | jsonPath {column path : String} {c : Comparison} (hkind : p.kind = .jsonPath)
    (hop : p.operator = some (.compare c)) : Describes p (.jsonPath column path c p.value)
  | columns {first second : String} {c : Comparison} (hkind : p.kind = .columns)
    (hop : p.operator = some (.compare c)) : Describes p (.columns first c second)
  | anyColumn {c : Comparison} (hkind : p.kind = .multiColumn)
    (hop : p.operator = some (.compare c)) :
    Describes p (.anyColumn p.columns c p.value p.matchAll p.negated)
  | between {column : String} {low high : Value} (hkind : p.kind = .between)
    (hvalues : p.values = [low, high]) : Describes p (.between column p.negated low high)
  | inQuery {column : String} {query : Query} (hkind : p.kind = .isIn)
    (hquery : p.query = some query) : Describes p (.inQuery column p.negated query)
  | inValues {column : String} (hkind : p.kind = .isIn) (hquery : p.query = none) :
    Describes p (.inValues column p.negated p.values)
  | exists {query : Query} (hkind : p.kind = .exists) (hquery : p.query = some query) :
    Describes p (.exists p.negated query)
  | isNull {column : String} (hkind : p.kind = .isNull) : Describes p (.isNull column p.negated)
  | jsonContains {column : String} (hkind : p.kind = .jsonContains) :
    Describes p (.jsonContains column p.value)
  | group (hkind : p.kind = .nested) : Describes p (.group p.filters)
  | fullText (hkind : p.kind = .fullText) : Describes p (.fullText p.columns p.value)

theorem needComparison_eq_ok {fault : ClauseFault} {c : Comparison}
    (h : p.needComparison fault = .ok c) : p.operator = some (.compare c) := by
  unfold needComparison at h
  cases hop : p.operator with
  | none =>
    rw [hop] at h
    cases h
  | some op =>
    rw [hop] at h
    cases op <;> cases h
    rfl

theorem needComparedColumn_eq_ok {column : String} {c : Comparison}
    (h : p.needComparedColumn = .ok (column, c)) : p.operator = some (.compare c) := by
  obtain ⟨_, -, h⟩ := Result.bind_eq_ok.1 h
  obtain ⟨_, hc, h⟩ := Result.bind_eq_ok.1 h
  cases h
  exact needComparison_eq_ok hc

/-- A check that passes establishes what its parts describe. -/
theorem describes_of_condition {c : Condition} (h : p.condition = .ok c) : p.Describes c := by
  unfold condition at h
  cases hk : p.kind
  case raw =>
    rw [hk] at h
    dsimp only at h
    split at h
    · cases h
    · split at h
      · cases h
      · obtain ⟨_, hmarkers, h⟩ := Result.bind_eq_ok.1 h
        cases h
        exact .raw hk (checkMarkers_eq_ok hmarkers)
  -- No other kind may be given raw text.
  all_goals
    rw [hk] at h
    dsimp only at h
    split at h
    · cases h
  case basic.isFalse =>
    obtain ⟨⟨column, c⟩, hc, h⟩ := Result.bind_eq_ok.1 h
    cases h
    exact .compare hk (needComparedColumn_eq_ok hc)
  case jsonLength.isFalse =>
    obtain ⟨⟨column, c⟩, hc, h⟩ := Result.bind_eq_ok.1 h
    cases h
    exact .jsonLength hk (needComparedColumn_eq_ok hc)
  case date.isFalse =>
    obtain ⟨⟨column, c⟩, hc, h⟩ := Result.bind_eq_ok.1 h
    split at h <;> cases h
    exact .datePart hk (needComparedColumn_eq_ok hc)
  case jsonPath.isFalse =>
    obtain ⟨⟨column, c⟩, hc, h⟩ := Result.bind_eq_ok.1 h
    split at h <;> cases h
    exact .jsonPath hk (needComparedColumn_eq_ok hc)
  case isNull.isFalse =>
    obtain ⟨column, -, h⟩ := Result.bind_eq_ok.1 h
    cases h
    exact .isNull hk
  case jsonContains.isFalse =>
    obtain ⟨column, -, h⟩ := Result.bind_eq_ok.1 h
    cases h
    exact .jsonContains hk
  case between.isFalse =>
    obtain ⟨column, -, h⟩ := Result.bind_eq_ok.1 h
    split at h
    · next hvalues =>
      cases h
      exact .between hk hvalues
    · cases h
  case isIn.isFalse =>
    obtain ⟨column, -, h⟩ := Result.bind_eq_ok.1 h
    split at h
    · next hquery =>
      cases h
      exact .inQuery hk hquery
    · cases h
    · next hquery _ =>
      cases h
      exact .inValues hk hquery
  case «exists».isFalse =>
    split at h
    · next hquery =>
      cases h
      exact .exists hk hquery
    · cases h
  case nested.isFalse =>
    split at h <;> cases h
    exact .group hk
  case fullText.isFalse =>
    split at h <;> cases h
    exact .fullText hk
  case columns.isFalse =>
    split at h
    · obtain ⟨c, hc, h⟩ := Result.bind_eq_ok.1 h
      cases h
      exact .columns hk (needComparison_eq_ok hc)
    · cases h
  case multiColumn.isFalse =>
    split at h
    · cases h
    · obtain ⟨c, hc, h⟩ := Result.bind_eq_ok.1 h
      cases h
      exact .anyColumn hk (needComparison_eq_ok hc)

theorem fits_of_raw (h : p.condition = .ok (.raw raw values)) : RawFits raw values := by
  cases describes_of_condition h with
  | raw _ hfits => exact hfits

theorem condition_of_check {x : Filter} (h : p.check = .ok x) : p.condition = .ok x.condition := by
  obtain ⟨c, hc, h⟩ := Result.bind_eq_ok.1 h
  cases h
  exact hc

end FilterParts

namespace KeyParts

variable {p : KeyParts}

/-- The three kinds of key that bind values check their raw text alike. -/
theorem fits_of_raw {α : Type} {site : RawSite} {made : String → α} {x : α}
    (h : (do
      let raw ← p.needRaw site
      checkMarkers raw p.bindings
      return made raw) = (.ok x : Result α)) : ∃ raw, x = made raw ∧ RawFits raw p.bindings := by
  obtain ⟨raw, -, h⟩ := Result.bind_eq_ok.1 h
  obtain ⟨_, hmarkers, h⟩ := Result.bind_eq_ok.1 h
  cases h
  exact ⟨raw, rfl, checkMarkers_eq_ok hmarkers⟩

theorem fits_of_groupKey {g : GroupKey} (h : p.groupKey = .ok g) : g.Fits := by
  unfold groupKey at h
  split at h
  · obtain ⟨raw, rfl, hfits⟩ := fits_of_raw h
    exact hfits
  · obtain ⟨column, -, h⟩ := Result.bind_eq_ok.1 h
    cases h
    trivial

theorem fits_of_orderKey {o : OrderKey} (h : p.orderKey = .ok o) : o.Fits := by
  unfold orderKey at h
  split at h
  · obtain ⟨raw, rfl, hfits⟩ := fits_of_raw h
    exact hfits
  · obtain ⟨column, -, h⟩ := Result.bind_eq_ok.1 h
    cases h
    trivial

theorem fits_of_having {x : Having} (h : p.having = .ok x) : x.condition.Fits := by
  unfold having at h
  split at h
  · obtain ⟨raw, rfl, hfits⟩ := fits_of_raw h
    exact hfits
  · obtain ⟨column, -, h⟩ := Result.bind_eq_ok.1 h
    split at h
    · cases h
      trivial
    · cases h

end KeyParts

end SqlQuery
