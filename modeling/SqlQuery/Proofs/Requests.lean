import SqlQuery.Proofs.Queries
import SqlQuery.Statement.Write

/-!
# Requests for statements

One type for all that a statement can be asked for: a SELECT, five ways to insert rows, and five
ways to change those that a query filters. Like a query, a request has a template, operands and
numbers. A statement that changes rows shows its values in the order in which it binds them; only
sub-queries of its filters can have a select list that stands out of order.
-/

namespace SqlQuery

open Piece

/-- What a statement can be asked for. -/
inductive Request where
  | select (q : Query)
  | insert (table : Option String) (values : Row) (returning : Option String)
  | insertBatch (table : Option String) (rows : List Row) (returning : Option String)
  | upsert (table : Option String) (rows : List Row) (target : List String)
      (overwrite : Option (List String)) (action : ConflictAction)
  | insertOrIgnore (table : Option String) (rows : List Row)
  | replace (table : Option String) (rows : List Row)
  | update (q : Query) (values : Row)
  | increment (q : Query) (column : String) (amount : Value) (extra : Row)
  | jsonUpdate (q : Query) (column path : String) (v : Value)
  | jsonRemove (q : Query) (column path : String)
  | delete (q : Query)

namespace Request

/-- The statement of a request in a dialect. -/
def compile (d : Dialect) : Request → Result Statement
  | select q => Statement.select d q
  | insert table values returning => Statement.insert d table values returning
  | insertBatch table rows returning => Statement.insertBatch d table rows returning
  | upsert table rows target overwrite action =>
    Statement.upsert d table rows target overwrite action
  | insertOrIgnore table rows => Statement.insertOrIgnore d table rows
  | replace table rows => Statement.replace d table rows
  | update q values => Statement.update d q values
  | increment q column amount extra => Statement.increment d q column amount extra
  | jsonUpdate q column path v => Statement.jsonUpdate d q column path v
  | jsonRemove q column path => Statement.jsonRemove d q column path
  | delete q => Statement.delete d q

end Request

/-! ## Templates -/

section Template

variable (d : Dialect)

/-- The WHERE section of a statement that changes rows, absent if there are no filters. -/
def Query.whereTemplate (q : Query) : Template :=
  if q.filters.isEmpty then [] else text " WHERE " :: filterTemplate d q.filters

/-- One row of an INSERT: a slot for each column, null where the row lacks it. -/
def rowTemplate (columns : List String) (row : Row) : Template :=
  text "(" :: listTemplate (columns.map row.get) ++ [text ")"]

def insertTemplate (keyword : String) (table : Option String) (rows : List Row) : Template :=
  text (keyword ++ " " ++ table.getD "" ++ " (" ++ ", ".intercalate (unionColumns rows)
      ++ ") VALUES ")
    :: [text ", "].intercalate (rows.map (rowTemplate (unionColumns rows)))

/-- What asks an INSERT for a generated key, in dialects that can answer with one. -/
def returningText (returning : Option String) : String :=
  match returning with
  | none | some "" => ""
  | some column => if d.supportsReturning then " RETURNING " ++ column else ""

def setTemplate (values : Row) : List Template :=
  values.map fun (c, v) => [text (c ++ " = "), slot (.plain v)]

def updateTemplate (q : Query) (sets : List Template) : Template :=
  text ("UPDATE " ++ q.table.getD "" ++ " SET ") :: [text ", "].intercalate sets
    ++ q.whereTemplate d

/-- The text of a request, with a slot for each value that it mentions. -/
def Request.template : Request → Template
  | .select q => q.template d
  | .insert table values returning =>
    insertTemplate "INSERT INTO" table [values] ++ [text (returningText d returning)]
  | .insertBatch table rows returning =>
    insertTemplate "INSERT INTO" table rows ++ [text (returningText d returning)]
  | .upsert table rows target overwrite action =>
    match d.requireUpsert { columns := unionColumns rows, target, overwrite, action } with
    | .ok tail => insertTemplate "INSERT INTO" table rows ++ [text (" " ++ tail)]
    | .error _ => []
  | .insertOrIgnore table rows =>
    match d.insertOrIgnore with
    | some (keyword, tail) =>
      insertTemplate keyword table rows ++ (if tail.isEmpty then [] else [text (" " ++ tail)])
    | none => []
  | .replace table rows =>
    match d.replaceKeyword with
    | some keyword => insertTemplate keyword table rows
    | none => []
  | .update q values => updateTemplate d q (setTemplate values)
  | .increment q column amount extra =>
    updateTemplate d q
      ([text (column ++ " = " ++ column ++ " + "), slot (.plain amount)] :: setTemplate extra)
  | .jsonUpdate q column path v =>
    match d.jsonSet with
    | some words =>
      updateTemplate d q [text (column ++ " = ") :: (words column path).template (.stored v)]
    | none => []
  | .jsonRemove q column path =>
    match d.jsonRemove with
    | some words => updateTemplate d q [[text (column ++ " = " ++ words column path)]]
    | none => []
  | .delete q => text ("DELETE FROM " ++ q.table.getD "") :: q.whereTemplate d

end Template

/-! ## Operands and numbers -/

/-- The values of rows, row by row and in each row in the order of the columns. -/
def insertOperands (rows : List Row) : List Operand :=
  rows.flatMap fun row => (unionColumns rows).map fun c => .plain (row.get c)

def setOperands (values : Row) : List Operand :=
  values.map fun (_, v) => .plain v

namespace Request

/-- The values that a statement sets or inserts. -/
def setValues : Request → List Operand
  | select _ | jsonRemove .. | delete _ => []
  | insert _ values _ => insertOperands [values]
  | insertBatch _ rows _ | upsert _ rows .. | insertOrIgnore _ rows | replace _ rows =>
    insertOperands rows
  | update _ values => setOperands values
  | increment _ _ amount extra => .plain amount :: setOperands extra
  | jsonUpdate _ _ _ v => [.stored v]

/-- The filters of the rows that a statement changes. -/
def filters : Request → List Filter
  | update q _ | increment q .. | jsonUpdate q .. | jsonRemove q .. | delete q => q.filters
  | _ => []

/-- The operands of a request in the order in which they are bound. -/
def operands : Request → List Operand
  | select q => q.operands
  | r => r.setValues ++ filterOperands r.filters

/-- The numbers of a request's placeholders in the order in which they are shown. -/
def numbers (start : Nat) : Request → List Nat
  | select q => q.numbers start
  | r => numbersFrom start r.setValues ++ filterNumbers (start + r.setValues.length) r.filters

end Request

/-! ## Requests are written as their templates -/

section Writes

open Fragment

variable {d : Dialect}

/-- The table of a statement must have a name. -/
theorem namedTable_eq_ok {action t : String} {table : Option String}
    (h : namedTable action table = .ok t) : table.getD "" = t := by
  unfold namedTable at h
  split at h
  · exact absurd h Result.reject_ne_ok
  · exact absurd h Result.reject_ne_ok
  · cases h
    rfl

theorem insertColumns_eq_ok {action : String} {rows : List Row} {columns : List String}
    (h : insertColumns action rows = .ok columns) : columns = unionColumns rows := by
  unfold insertColumns at h
  split at h
  · exact absurd h Result.reject_ne_ok
  · cases h
    rfl

theorem writes_row (columns : List String) (row : Row) :
    (rowFragment (columns.map row.get)).WritesRun d (rowTemplate columns row)
      (columns.map fun c => .plain (row.get c)) := by
  have values := writes_slots (d := d) (columns.map row.get)
  rw [List.map_map] at values
  exact values.enclosed "(" ")"

theorem writes_insert {keyword action : String} {table : Option String} {rows : List Row}
    {f : Fragment}
    (h : insertFragment keyword action table (Insertion.ofRows action rows) = .ok f) :
    f.WritesRun d (insertTemplate keyword table rows) (insertOperands rows) := by
  obtain ⟨x, hx, h⟩ := Result.bind_eq_ok.1 h
  obtain ⟨columns, hcolumns, hx⟩ := Result.bind_eq_ok.1 hx
  cases hx
  obtain ⟨t, ht, h⟩ := Result.bind_eq_ok.1 h
  cases h
  rw [insertColumns_eq_ok hcolumns, ← namedTable_eq_ok ht]
  have written : List.Forall₂ (fun row f => WritesRun d f (rowTemplate (unionColumns rows) row)
      ((unionColumns rows).map fun c => .plain (row.get c))) rows
      ((rows.map fun row => (unionColumns rows).map row.get).map rowFragment) := by
    rw [List.map_map, List.forall₂_map_right_iff]
    exact List.forall₂_same.2 fun row _ => writes_row (unionColumns rows) row
  exact (Writes.text _).appendRun ((WritesEach.ofRuns written).intercalate ", ")

theorem writes_assignments (values : Row) :
    WritesEach d (assignments values) (setTemplate values) (setOperands values)
      fun start => numbersFrom start (setOperands values) :=
  WritesEach.ofSlots values fun _ _ => (Writes.text _).appendRun (.slot rfl)

theorem writes_whereSection {q : Query} {f : Fragment} (h : q.whereFragment d = .ok f) :
    f.Writes d (q.whereTemplate d) (filterOperands q.filters)
      fun start => filterNumbers start q.filters := by
  unfold Query.whereFragment at h
  unfold Query.whereTemplate
  cases hfilters : q.filters with
  | nil =>
    rw [hfilters] at h
    cases h
    exact .nothing
  | cons first rest =>
    rw [hfilters] at h
    obtain ⟨items, hitems, h⟩ := Result.bind_eq_ok.1 h
    cases h
    have body := writes_filters (filters_written (first :: rest) hitems)
    exact ((Writes.text " WHERE ").append body).congr rfl fun _ => rfl

theorem writes_update {q : Query} {sets : List Fragment} {ts : List Template}
    {os : List Operand} {f : Fragment}
    (hsets : WritesEach d sets ts os fun start => numbersFrom start os)
    (h : updateFragment d q sets = .ok f) :
    f.Writes d (updateTemplate d q ts) (os ++ filterOperands q.filters)
      fun start => numbersFrom start os ++ filterNumbers (start + os.length) q.filters := by
  obtain ⟨t, ht, h⟩ := Result.bind_eq_ok.1 h
  obtain ⟨condition, hcondition, h⟩ := Result.bind_eq_ok.1 h
  cases h
  unfold updateTemplate
  rw [namedTable_eq_ok ht]
  exact ((Writes.text _).appendRun (hsets.intercalate ", ")).append
    (writes_whereSection hcondition)

/-- Words after a run are part of it. -/
theorem withTail {f : Fragment} {t : Template} {os : List Operand} (h : f.WritesRun d t os)
    (s : String) : (f ++ Fragment.text s).WritesRun d (t ++ [.text s]) os :=
  (h.appendRun (.text s)).congr (List.append_nil _) fun _ => by rw [List.append_nil]

theorem writes_insertBatch {table : Option String} {rows : List Row} {returning : Option String}
    {s : Statement} (h : Statement.insertBatch d table rows returning = .ok s) :
    ∃ f, s = Statement.ofFragment d f ∧
      f.WritesRun d (insertTemplate "INSERT INTO" table rows ++ [.text (returningText d returning)])
        (insertOperands rows) := by
  obtain ⟨f, hf, h⟩ := Result.bind_eq_ok.1 h
  cases h
  exact ⟨_, rfl, withTail (writes_insert hf) _⟩

/-- What a statement is made of that sets what stands in a JSON column. -/
theorem Statement.jsonUpdate_eq_ok {q : Query} {column path : String} {v : Value} {s : Statement}
    (h : Statement.jsonUpdate d q column path v = .ok s) : ∃ stored words f,
    d.jsonSetValue v = .ok stored ∧ d.requireJsonSet = .ok words
    ∧ updateFragment d q [.text (column ++ " = ") ++ (words column path).fragment stored] = .ok f
    ∧ s = .ofFragment d f := by
  obtain ⟨stored, hstored, h⟩ := Result.bind_eq_ok.1 h
  obtain ⟨words, hwords, h⟩ := Result.bind_eq_ok.1 h
  obtain ⟨p, hp, h⟩ := Result.bind_eq_ok.1 h
  obtain ⟨f, hf, h⟩ := Result.bind_eq_ok.1 h
  cases h
  cases hp
  exact ⟨stored, words, f, hstored, hwords, hf, rfl⟩

/-- What a statement is made of that removes what stands in a JSON column. -/
theorem Statement.jsonRemove_eq_ok {q : Query} {column path : String} {s : Statement}
    (h : Statement.jsonRemove d q column path = .ok s) : ∃ words f,
    d.requireJsonRemove = .ok words
    ∧ updateFragment d q [.text (column ++ " = " ++ words column path)] = .ok f
    ∧ s = .ofFragment d f := by
  obtain ⟨words, hwords, h⟩ := Result.bind_eq_ok.1 h
  obtain ⟨p, hp, h⟩ := Result.bind_eq_ok.1 h
  obtain ⟨f, hf, h⟩ := Result.bind_eq_ok.1 h
  cases h
  cases hp
  exact ⟨words, f, hwords, hf, rfl⟩

/-- **A request that compiles is written as its template**, with its operands and numbers. -/
theorem Request.written {r : Request} {s : Statement} (h : r.compile d = .ok s) :
    ∃ f, s = Statement.ofFragment d f ∧
      f.Writes d (r.template d) r.operands fun start => r.numbers start := by
  -- the operands and numbers of a request without filters end with nothing
  have unfiltered : ∀ {f : Fragment} {t : Template} {os : List Operand}, f.WritesRun d t os →
      f.Writes d t (os ++ []) fun start => numbersFrom start os ++ [] := fun hf =>
    hf.congr (List.append_nil _).symm fun _ => (List.append_nil _).symm
  cases r with
  | select q =>
    obtain ⟨f, hf, h⟩ := Result.bind_eq_ok.1 h
    cases h
    exact ⟨f, rfl, q.writes hf⟩
  | insert table values returning =>
    rw [Request.compile, Statement.insert] at h
    split at h
    · exact absurd h Result.reject_ne_ok
    · obtain ⟨f, hs, hf⟩ := writes_insertBatch h
      exact ⟨f, hs, unfiltered hf⟩
  | insertBatch table rows returning =>
    obtain ⟨f, hs, hf⟩ := writes_insertBatch h
    exact ⟨f, hs, unfiltered hf⟩
  | upsert table rows target overwrite action =>
    obtain ⟨columns, hcolumns, h⟩ := Result.bind_eq_ok.1 h
    obtain ⟨rule, hrule, h⟩ := Result.bind_eq_ok.1 h
    obtain ⟨tail, htail, h⟩ := Result.bind_eq_ok.1 h
    obtain ⟨f, hf, h⟩ := Result.bind_eq_ok.1 h
    cases h
    cases hrule
    refine ⟨_, rfl, ?_⟩
    rw [insertColumns_eq_ok hcolumns] at htail
    rw [Request.template, htail]
    exact unfiltered (withTail (writes_insert hf) _)
  | insertOrIgnore table rows =>
    obtain ⟨⟨keyword, tail⟩, hwords, h⟩ := Result.bind_eq_ok.1 h
    obtain ⟨f, hf, h⟩ := Result.bind_eq_ok.1 h
    cases h
    refine ⟨_, rfl, ?_⟩
    rw [Request.template, require_eq_ok hwords]
    cases htail : tail.isEmpty with
    | true =>
      simp only [htail, if_true, List.append_nil]
      exact unfiltered (writes_insert hf)
    | false =>
      simp only [htail, Bool.false_eq_true, if_false]
      exact unfiltered (withTail (writes_insert hf) _)
  | replace table rows =>
    obtain ⟨keyword, hkeyword, h⟩ := Result.bind_eq_ok.1 h
    obtain ⟨f, hf, h⟩ := Result.bind_eq_ok.1 h
    cases h
    refine ⟨f, rfl, ?_⟩
    rw [Request.template, require_eq_ok hkeyword]
    exact unfiltered (writes_insert hf)
  | update q values =>
    cases values with
    | nil => cases h
    | cons first rest =>
      obtain ⟨f, hf, h⟩ := Result.bind_eq_ok.1 h
      cases h
      exact ⟨f, rfl, writes_update (writes_assignments (first :: rest)) hf⟩
  | increment q column amount extra =>
    obtain ⟨f, hf, h⟩ := Result.bind_eq_ok.1 h
    cases h
    have added : (Fragment.text (column ++ " = " ++ column ++ " + ") ++ .slot amount).WritesRun d
        [.text (column ++ " = " ++ column ++ " + "), .slot (.plain amount)] [.plain amount] :=
      (Writes.text _).appendRun (.slot rfl)
    exact ⟨f, rfl, writes_update ((WritesEach.cons added (writes_assignments extra)).congr rfl
      fun start => (numbersFrom_append start [.plain amount] _).symm) hf⟩
  | jsonUpdate q column path v =>
    obtain ⟨stored, words, f, hstored, hwords, hf, rfl⟩ := Statement.jsonUpdate_eq_ok h
    refine ⟨f, rfl, ?_⟩
    rw [Request.template, require_eq_ok hwords]
    have set := (Writes.text (column ++ " = ")).appendRun
      (writes_around (words column path) (o := .stored v) hstored)
    exact writes_update (.single set) hf
  | jsonRemove q column path =>
    obtain ⟨words, f, hwords, hf, rfl⟩ := Statement.jsonRemove_eq_ok h
    refine ⟨f, rfl, ?_⟩
    rw [Request.template, require_eq_ok hwords]
    exact writes_update (.single (.text _)) hf
  | delete q =>
    obtain ⟨t, ht, h⟩ := Result.bind_eq_ok.1 h
    obtain ⟨condition, hcondition, h⟩ := Result.bind_eq_ok.1 h
    cases h
    refine ⟨_, rfl, ?_⟩
    rw [Request.template, namedTable_eq_ok ht]
    exact ((Writes.text _).append (writes_whereSection hcondition)).congr rfl fun _ => rfl

/-- The text of a statement is the template of its request with the numbers of its slots. -/
theorem Request.sql_eq_fill {r : Request} {s : Statement} (h : r.compile d = .ok s) :
    s.sql = (r.template d).fill d.placeholder (r.numbers 0) := by
  obtain ⟨f, rfl, hf⟩ := r.written h
  exact hf.shown d.placeholder 0

end Writes

end SqlQuery
