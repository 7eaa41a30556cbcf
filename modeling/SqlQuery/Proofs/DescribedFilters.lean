import SqlQuery.Clause.Make

/-!
# Filters by their fields

The filters that steps make are described by fields, the first of which are the kind of the filter
and its connective. Whether a filter is negated is the last of them. So what else is described can
be read before it is known of which kind the filter is and whether it is negated
(`Filter.described_eq`, `Filter.described_negated`).
-/

namespace SqlQuery

open Reader

variable {α β γ : Type} {fields : Fields} {kind : FilterKind} {c : Connective} {b : Bool}
  {name : String}

/-! ## Fields and parts -/

/-- The fields of a filter that come first. -/
def fieldsOfKind (kind : FilterKind) (c : Connective) (fields : Fields) : Fields :=
  ("kind", .word (.filter kind)) :: ("boolean", .word (.connective c)) :: fields

/-- Fields with a negation at their end. -/
def negatedFields (fields : Fields) (b : Bool) : Fields :=
  fields ++ [("negated", .value (.bool b))]

/-- Reads what a filter is described with besides its kind and its connective. -/
def FilterParts.ofOthers (readFilter : Argument → Result (Checked Filter))
    (readQuery : Argument → Result (Checked Query)) (fields : Fields) : Reader FilterParts := do
  let column ← field fields "column" none readOptionalText
  let columns ← nested fields "columns" [] (readItems .tupleType (readItem Argument.readText))
  let operator ← field fields "operator" none (readOptionalWord Operator.ofText?)
  let value ← field fields "value" .null readAny
  let values ← nested fields "values" [] (readValues .tupleType)
  let negated ← field fields "negated" false Argument.readBool
  let matchAll ← field fields "match_all" false Argument.readBool
  let query ← nested fields "query" none (readOptionalQuery readQuery)
  let filters ← nested fields "wheres" [] (readItems .tupleType readFilter)
  let second ← field fields "second" none readOptionalText
  let path ← field fields "path" none readOptionalText
  let datePart ← field fields "date_part" none (readOptionalWord DatePart.ofText?)
  let raw ← field fields "raw" none readOptionalText
  let bindings ← bindingsField fields
  closed fields ["kind", "boolean", "column", "columns", "operator", "value", "values",
    "negated", "match_all", "query", "wheres", "second", "path", "date_part", "raw", "bindings"]
  return { kind := .basic, column, columns, operator, value, values, negated, matchAll, query,
           filters, second, path, datePart, raw, bindings }

namespace FilterParts

/-- The parts with another kind and connective. -/
def ofKind (kind : FilterKind) (c : Connective) (p : FilterParts) : FilterParts :=
  { p with kind, connective := c }

def withNegation (b : Bool) (p : FilterParts) : FilterParts :=
  { p with negated := b }

end FilterParts

/-! ## Kinds and connectives -/

theorem lookup_forKind (h : name ≠ "kind" ∧ name ≠ "boolean") :
    (fieldsOfKind kind c fields).lookup name = fields.lookup name := by
  simp [fieldsOfKind, List.lookup_cons, beq_eq_false_iff_ne.2 h.1, beq_eq_false_iff_ne.2 h.2]

theorem field_forKind {default : α} {read : Argument → Read α}
    (h : name ≠ "kind" ∧ name ≠ "boolean") :
    field (fieldsOfKind kind c fields) name default read = field fields name default read := by
  unfold field
  rw [lookup_forKind h]

theorem nested_forKind {default : α} {read : Argument → Result (Checked α)}
    (h : name ≠ "kind" ∧ name ≠ "boolean") :
    nested (fieldsOfKind kind c fields) name default read = nested fields name default read := by
  unfold nested
  rw [lookup_forKind h]

theorem closed_forKind {names : List String} (h : "kind" ∈ names ∧ "boolean" ∈ names) :
    closed (fieldsOfKind kind c fields) names = closed fields names := by
  simp [closed, fieldsOfKind, h]

theorem required_kind :
    required (fieldsOfKind kind c fields) "kind" .basic (Argument.readWord FilterKind.ofText?)
      = pure kind := by
  cases kind <;> rfl

theorem field_boolean :
    field (fieldsOfKind kind c fields) "boolean" .and (Argument.readWord Connective.ofText?)
      = pure c := by
  cases c <;> rfl

/-! ## Negations -/

theorem lookup_negated (h : name ≠ "negated") :
    (negatedFields fields b).lookup name = fields.lookup name := by
  simp [negatedFields, List.lookup_append, List.lookup_cons, beq_eq_false_iff_ne.2 h]

theorem field_other {default : α} {read : Argument → Read α} (h : name ≠ "negated") :
    field (negatedFields fields b) name default read = field fields name default read := by
  unfold field
  rw [lookup_negated h]

theorem nested_other {default : α} {read : Argument → Result (Checked α)} (h : name ≠ "negated") :
    nested (negatedFields fields b) name default read = nested fields name default read := by
  unfold nested
  rw [lookup_negated h]

theorem closed_negated {names : List String} (h : "negated" ∈ names) :
    closed (negatedFields fields b) names = closed fields names := by
  simp [closed, negatedFields, h]

theorem field_negated (h : fields.lookup "negated" = none) :
    field (negatedFields fields b) "negated" false Argument.readBool = pure b := by
  have hlookup : (negatedFields fields b).lookup "negated" = some (.value (.bool b)) := by
    simp [negatedFields, List.lookup_append, h]
  unfold field
  rw [hlookup]
  rfl

theorem field_notNegated (h : fields.lookup "negated" = none) :
    field fields "negated" false Argument.readBool = pure false := by
  unfold field
  rw [h]

/-! ## Reading -/

theorem run_map (f : α → β) (r : Reader α) : (f <$> r).run = r.run.map (Except.map f) := by
  unfold Reader.run
  simp only [StateT.run_map]
  cases StateT.run r [] with
  | error e => rfl
  | ok answer =>
    obtain ⟨x, faults⟩ := answer
    cases faults <;> rfl

/-- What is done with parts can be done before or after they are read. -/
theorem complete_map {check : β → Result γ} (f : α → β) (r : Reader α) :
    Reader.complete check (f <$> r) = Reader.complete (fun x => check (f x)) r := by
  unfold Reader.complete
  rw [run_map]
  cases r.run with
  | error e => rfl
  | ok checked => cases checked <;> rfl

theorem toResult_run_map (f : α → β) (r : Reader α) :
    Checked.toResult (f <$> r).run = f <$> Checked.toResult r.run := by
  rw [run_map]
  cases r.run with
  | error e => rfl
  | ok checked => cases checked <;> rfl

theorem toResult_complete_eq {check : α → Result β} (r : Reader α) :
    Checked.toResult (Reader.complete check r) = Checked.toResult r.run >>= check := by
  unfold Reader.complete
  cases r.run with
  | error e => rfl
  | ok checked =>
    cases checked with
    | error faults => rfl
    | ok x =>
      show Checked.toResult ((check x).bind fun y => .ok (.ok y)) = check x
      cases check x <;> rfl

section Readers

variable (readFilter : Argument → Result (Checked Filter))
  (readQuery : Argument → Result (Checked Query))

theorem Filter.ofFields_forKind :
    Filter.ofFields readFilter readQuery (fieldsOfKind kind c fields)
      = Reader.complete (fun p => (p.ofKind kind c).check)
          (FilterParts.ofOthers readFilter readQuery fields) := by
  rw [← complete_map (FilterParts.ofKind kind c)]
  unfold Filter.ofFields FilterParts.ofOthers bindingsField
  congr 1
  rw [required_kind, field_boolean]
  simp (disch := decide) only [field_forKind, nested_forKind, closed_forKind, pure_bind, map_bind,
    map_pure]
  rfl

/-- The negation is read, and nothing else changes with it. -/
theorem FilterParts.ofOthers_negated (h : fields.lookup "negated" = none) :
    ofOthers readFilter readQuery (negatedFields fields b)
      = withNegation b <$> ofOthers readFilter readQuery fields := by
  unfold ofOthers bindingsField
  rw [field_negated h, field_notNegated h]
  simp (disch := decide) only [field_other, nested_other, closed_negated, pure_bind, map_bind,
    map_pure]
  rfl

end Readers

theorem depthOfEntries_negated :
    Argument.depthOfEntries (negatedFields fields b) = Argument.depthOfEntries fields := by
  induction fields with
  | nil => rfl
  | cons field fields ih =>
    obtain ⟨name, a⟩ := field
    exact congrArg (max a.depth) ih

/-- The parts that fields describe, with any kind and connective. -/
def FilterParts.read (fields : Fields) : Result FilterParts :=
  let fuel := Argument.depthOfEntries fields
  Checked.toResult (ofOthers (readFilter fuel) (readQuery fuel) fields).run

theorem FilterParts.read_negated (h : fields.lookup "negated" = none) :
    read (negatedFields fields b) = withNegation b <$> read fields := by
  unfold read
  rw [depthOfEntries_negated]
  simp only [ofOthers_negated _ _ h, toResult_run_map]

theorem Filter.described_eq :
    described kind c fields
      = FilterParts.read fields >>= fun p => (p.ofKind kind c).check := by
  have hdepth : fieldsDepth (fieldsOfKind kind c fields)
      = Argument.depthOfEntries fields + 1 := by
    show max 0 (max 0 (Argument.depthOfEntries fields)) + 1 = _
    simp
  show Checked.toResult (readFilter (fieldsDepth (fieldsOfKind kind c fields))
    (.mapping (fieldsOfKind kind c fields))) = _
  rw [hdepth, readFilter, Filter.ofFields_forKind, toResult_complete_eq]
  rfl

theorem Filter.described_negated (h : fields.lookup "negated" = none) :
    described kind c (negatedFields fields b)
      = FilterParts.read fields >>= fun p => ((p.withNegation b).ofKind kind c).check := by
  rw [described_eq, FilterParts.read_negated h]
  cases FilterParts.read fields <;> rfl

end SqlQuery
