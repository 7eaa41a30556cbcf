import SqlQuery.Dialect.Postgres
import SqlQuery.Proofs.RaggedRows
import SqlQuery.Proofs.Requests
import SqlQuery.Statement.Operands

/-!
# Inserted rows

There are four kinds of INSERT, each from typed rows and from an operand, and they differ in the
words around the rows only (`InsertKind`, `Inserts`). Whatever the kind, an INSERT that is made
keeps every value in its row and its column (`Inserts.rows_kept`).
-/

namespace SqlQuery

/-! ## Operands that are lists of mappings -/

section Operands

open Argument

variable {a item : Argument} {items : List Argument} {row : Row} {rows : List Row}

theorem columns_toEntries (entries : List (String × Argument)) :
    Row.columns (toEntries entries) = entries.map (·.1) := by
  induction entries with
  | nil => rfl
  | cons entry entries ih => exact congrArg (entry.1 :: ·) ih

/-- What is known of a mapping that is a row. -/
structure Argument.IsRow (item : Argument) (row : Row) : Prop where
  parts : item.parts = .ok (row.columns.map Argument.text)
  truthy : item.isTruthy = !row.isEmpty
  values : ∀ columns, valuesOf columns item = .ok (columns.map row.get)

theorem isRow_of_mapping? (h : item.mapping? = some row) : item.IsRow row := by
  unfold mapping? at h
  split at h
  · next entries =>
    cases h
    refine ⟨?_, ?_, fun columns => ?_⟩
    · rw [columns_toEntries, List.map_map]
      rfl
    · cases entries <;> rfl
    · cases columns <;> rfl
  · next entries =>
    cases h
    refine ⟨?_, ?_, fun columns => ?_⟩
    · unfold Row.columns
      rw [List.map_map]
      rfl
    · cases row <;> rfl
    · cases columns <;> rfl
  · cases h

theorem columnsOf_rows (h : List.Forall₂ IsRow items rows) :
    columnsOf items = .ok (unionColumns rows) := by
  have hfold : ∀ start, items.foldlM (fun columns row => do
      return (← row.parts).foldl (fun columns c =>
        if columns.contains c.shown then columns else columns ++ [c.shown]) columns) start
      = (.ok ((rows.flatMap Row.columns).foldl noteColumn start) : Result (List String)) := by
    induction h with
    | nil => exact fun _ => rfl
    | @cons item row items rows hitem _ ih =>
      intro start
      rw [List.foldlM_cons, hitem.parts, List.flatMap_cons, List.foldl_append]
      refine Eq.trans ?_ (ih _)
      show List.foldlM _ (List.foldl _ start (row.columns.map Argument.text)) items = _
      rw [List.foldl_map]
      rfl
  rw [unionColumns_eq]
  exact hfold []

theorem mapM_valuesOf (h : List.Forall₂ IsRow items rows) (columns : List String) :
    items.mapM (valuesOf columns) = .ok (rows.map fun row => columns.map row.get) := by
  induction h with
  | nil => rfl
  | cons hitem _ ih =>
    rw [List.mapM_cons, hitem.values, ih]
    rfl

theorem any_isTruthy (h : List.Forall₂ IsRow items rows) :
    items.any (·.isTruthy) = !rows.all (·.isEmpty) := by
  induction h with
  | nil => rfl
  | cons hitem _ ih => rw [List.any_cons, List.all_cons, ih, hitem.truthy, Bool.not_and]

theorem Insertion.ofItems_rows (h : List.Forall₂ IsRow items rows) (action : String) :
    Insertion.ofItems action items = Insertion.ofRows action rows := by
  unfold Insertion.ofItems Insertion.ofRows insertColumns
  rw [any_isTruthy h, columnsOf_rows h]
  cases rows.all (·.isEmpty) with
  | true => rfl
  | false =>
    show (pure { columns := _, rows := items.mapM (valuesOf (unionColumns rows)) }
      : Result Insertion) = _
    rw [mapM_valuesOf h]
    rfl

theorem forall₂_of_mapM_mapping? (h : items.mapM mapping? = some rows) :
    List.Forall₂ IsRow items rows :=
  (forall₂_of_mapM_some h).imp fun _ _ => isRow_of_mapping?

/-- An operand that is no stream, and false only if it has no parts, is inserted as the rows that
its parts are. -/
theorem Insertion.ofArgument_parts (hparts : a.parts = .ok items)
    (htruthy : a.isTruthy = !items.isEmpty) (hstream : ∀ items, a ≠ .stream items)
    (hrows : items.mapM mapping? = some rows) (action : String) :
    Insertion.ofArgument action a = Insertion.ofRows action rows := by
  rw [← Insertion.ofItems_rows (forall₂_of_mapM_mapping? hrows)]
  unfold Insertion.ofArgument
  split
  · next items => exact absurd rfl (hstream items)
  · rw [htruthy, hparts]
    cases items <;> rfl

/-- An operand that is a list of mappings is inserted as these rows, and can be gone through
again. -/
theorem Insertion.ofArgument_rows (ha : a.rows? = some rows) (action : String) :
    Insertion.ofArgument action a = Insertion.ofRows action rows ∧ a.spent = a := by
  have htruthy : ∀ items : List Value, (!items.isEmpty) = !(items.map Argument.value).isEmpty :=
    fun items => by rw [List.isEmpty_map]
  have hvalues : ∀ items : List Value, (items.map Argument.value).mapM mapping?
      = items.mapM fun v => (Argument.value v).mapping? := fun _ => List.mapM_map
  unfold rows? at ha
  split at ha
  · exact ⟨Insertion.ofArgument_parts rfl rfl (by nofun) ha action, rfl⟩
  · exact ⟨Insertion.ofArgument_parts rfl rfl (by nofun) ha action, rfl⟩
  · next items =>
    have hrows := (hvalues items).trans ha
    refine ⟨Insertion.ofArgument_parts rfl ?_ (by nofun) hrows action, rfl⟩
    exact htruthy items
  · next items =>
    have hrows := (hvalues items).trans ha
    refine ⟨Insertion.ofArgument_parts rfl ?_ (by nofun) hrows action, rfl⟩
    exact htruthy items
  · split at ha
    · cases ha
    · next hempty =>
      cases ha
      cases a with
      | stream items => exact absurd rfl hempty
      | _ =>
        refine ⟨?_, rfl⟩
        exact if_neg hempty

end Operands

/-! ## The kinds of INSERT -/

/-- What an INSERT is to do besides inserting rows. -/
inductive InsertKind where
  /-- It answers with a generated key, if it is given one to answer with. -/
  | batch (returning : Option String)
  /-- On a conflict it does what the rule says, which is made from the columns. -/
  | upsert (rule : List String → Result ConflictRule)
  | orIgnore
  | replace

namespace InsertKind

/-- The name in messages. -/
def action : InsertKind → String
  | batch _ | orIgnore => "insert"
  | upsert _ => "upsert"
  | replace => "replace"

/-- The words before the table and after the rows. -/
def words (d : Dialect) (columns : List String) : InsertKind → Result (String × String)
  | batch returning => .ok ("INSERT INTO", returningText d returning)
  | upsert rule => do
    let tail ← d.requireUpsert (← rule columns)
    return ("INSERT INTO", " " ++ tail)
  | orIgnore => do
    let (keyword, tail) ← d.requireInsertOrIgnore
    return (keyword, if tail.isEmpty then "" else " " ++ tail)
  | replace => do
    return (← d.requireReplace, "")

/-- The statement that inserts what is given. -/
def statement (d : Dialect) (table : Option String) (x : Result Insertion) :
    InsertKind → Result Statement
  | batch returning => Statement.insertOf d table x returning
  | upsert rule => Statement.upsertOf d table (x.map Insertion.columns) rule x
  | orIgnore => Statement.insertOrIgnoreOf d table x
  | replace => Statement.replaceOf d table x

end InsertKind

/-- The ways to ask for an INSERT of rows: from typed rows, and from an operand that is a list of
mappings. -/
inductive Inserts (d : Dialect) (table : Option String) (rows : List Row) :
    InsertKind → Result Statement → Prop
  | batch (returning : Option String) :
    Inserts d table rows (.batch returning) (Statement.insertBatch d table rows returning)
  | upsert (target : List String) (overwrite : Option (List String)) (action : ConflictAction) :
    Inserts d table rows (.upsert fun columns => .ok { columns, target, overwrite, action })
      (Statement.upsert d table rows target overwrite action)
  | orIgnore : Inserts d table rows .orIgnore (Statement.insertOrIgnore d table rows)
  | replace : Inserts d table rows .replace (Statement.replace d table rows)
  | batchFrom {a : Argument} (ha : a.rows? = some rows) (returning : Option String) :
    Inserts d table rows (.batch returning) (Statement.insertBatchFrom d table a returning)
  | upsertFrom {a : Argument} (ha : a.rows? = some rows) (target overwrite : Argument)
    (action : ConflictAction) :
    Inserts d table rows (.upsert (ConflictRule.ofArguments d target overwrite action))
      (Statement.upsertFrom d table a target overwrite action)
  | orIgnoreFrom {a : Argument} (ha : a.rows? = some rows) :
    Inserts d table rows .orIgnore (Statement.insertOrIgnoreFrom d table a)
  | replaceFrom {a : Argument} (ha : a.rows? = some rows) :
    Inserts d table rows .replace (Statement.replaceFrom d table a)

section Statements

variable {d : Dialect} {table : Option String} {rows : List Row} {kind : InsertKind}
  {x : Result Statement} {s : Statement}

theorem map_columns_ofRows (action : String) (rows : List Row) :
    (Insertion.ofRows action rows).map Insertion.columns = insertColumns action rows := by
  unfold Insertion.ofRows
  cases insertColumns action rows <;> rfl

/-- However rows are given, their insertion is the same. -/
theorem Inserts.eq_statement (h : Inserts d table rows kind x) :
    x = kind.statement d table (Insertion.ofRows kind.action rows) := by
  cases h with
  | batch | orIgnore | replace => rfl
  | upsert target overwrite action =>
    show Statement.upsertOf d table (insertColumns "upsert" rows) _ _ = _
    rw [← map_columns_ofRows]
    rfl
  | batchFrom ha returning =>
    show Statement.insertOf d table (Insertion.ofArgument "insert" _) returning = _
    rw [(Insertion.ofArgument_rows ha "insert").1]
    rfl
  | @upsertFrom a ha target overwrite action =>
    obtain ⟨hrows, hspent⟩ := Insertion.ofArgument_rows ha "upsert"
    show Statement.upsertOf d table ((Insertion.ofArgument "upsert" a).map Insertion.columns) _
      (Insertion.ofArgument "upsert" a.spent) = _
    rw [hspent, hrows]
    rfl
  | orIgnoreFrom ha =>
    show Statement.insertOrIgnoreOf d table (Insertion.ofArgument "insert" _) = _
    rw [(Insertion.ofArgument_rows ha "insert").1]
    rfl
  | replaceFrom ha =>
    show Statement.replaceOf d table (Insertion.ofArgument "replace" _) = _
    rw [(Insertion.ofArgument_rows ha "replace").1]
    rfl

/-- Rows can be inserted into a table: it has a name, and some row has a column. -/
structure Insertable (table : Option String) (rows : List Row) (name : String) : Prop where
  named : table = some name
  nonempty : name ≠ ""
  filled : ∃ row ∈ rows, row ≠ []

theorem namedTable_eq_ok_iff {action name : String} :
    namedTable action table = .ok name ↔ table = some name ∧ name ≠ "" := by
  unfold namedTable
  split
  · constructor
    · intro h
      cases h
    · rintro ⟨h, -⟩
      cases h
  · constructor
    · intro h
      cases h
    · rintro ⟨h, hnonempty⟩
      exact absurd (Option.some.inj h).symm hnonempty
  · next t hnonempty =>
    constructor
    · intro h
      cases h
      exact ⟨rfl, hnonempty⟩
    · rintro ⟨h, -⟩
      cases h
      rfl

theorem insertColumns_eq_ok_iff {action : String} {columns : List String} :
    insertColumns action rows = .ok columns
      ↔ (∃ row ∈ rows, row ≠ []) ∧ columns = unionColumns rows := by
  unfold insertColumns
  split
  · next hempty =>
    constructor
    · intro h
      cases h
    · rintro ⟨⟨row, hrow, hfilled⟩, -⟩
      exact absurd (List.isEmpty_iff.1 (List.all_eq_true.1 hempty row hrow)) hfilled
  · next hfilled =>
    have hsome : ∃ row ∈ rows, row ≠ [] := by
      simpa using hfilled
    constructor
    · intro h
      exact ⟨hsome, (Except.ok.inj h).symm⟩
    · rintro ⟨-, rfl⟩
      rfl

/-- The columns and the rows of an INSERT. -/
def insertedFragment (keyword name : String) (rows : List Row) : Fragment :=
  .text (keyword ++ " " ++ name ++ " (" ++ ", ".intercalate (unionColumns rows) ++ ") VALUES ")
    ++ .intercalate ", " ((rows.map fun row => (unionColumns rows).map row.get).map rowFragment)

theorem insertFragment_eq_ok {keyword action : String} {f : Fragment} :
    insertFragment keyword action table (Insertion.ofRows action rows) = .ok f
      ↔ ∃ name, Insertable table rows name ∧ f = insertedFragment keyword name rows := by
  unfold insertFragment Insertion.ofRows
  simp only [Result.bind_eq_ok, Result.pure_eq_ok, insertColumns_eq_ok_iff, namedTable_eq_ok_iff]
  constructor
  · rintro ⟨_, ⟨_, ⟨hfilled, rfl⟩, rfl⟩, name, ⟨hnamed, hnonempty⟩, _, ⟨⟩, rfl⟩
    exact ⟨name, ⟨hnamed, hnonempty, hfilled⟩, rfl⟩
  · rintro ⟨name, ⟨hnamed, hnonempty, hfilled⟩, rfl⟩
    exact ⟨_, ⟨_, ⟨hfilled, rfl⟩, rfl⟩, name, ⟨hnamed, hnonempty⟩, _, rfl, rfl⟩

/-- The statement of some rows between two words. -/
def insertedStatement (d : Dialect) (keyword name : String) (rows : List Row) (closing : String) :
    Statement where
  sql := insertText d keyword name (unionColumns rows) rows.length ++ closing
  bindings := rowValues (unionColumns rows) rows
  dialect := d.name

theorem render_insertedFragment (d : Dialect) (keyword name : String) (rows : List Row) :
    (insertedFragment keyword name rows).render d.placeholder 0
      = insertText d keyword name (unionColumns rows) rows.length := by
  have hrow : ∀ (row : Row) start,
      (rowFragment ((unionColumns rows).map row.get)).render d.placeholder start = "("
        ++ ", ".intercalate ((List.range (unionColumns rows).length).map fun j =>
          d.placeholder (start + j + 1)) ++ ")" := by
    intro row start
    rw [render_rowFragment, List.length_map]
  have hrows :=
    Fragment.render_intercalate ", " (size_rowFragment (unionColumns rows)) hrow rows 0
  simp only [Nat.zero_add] at hrows
  unfold insertedFragment insertText tupleText tupleNumbers
  simp only [List.map_map]
  exact congrArg (_ ++ ·) hrows

theorem values_insertedFragment (keyword name : String) (rows : List Row) :
    (insertedFragment keyword name rows).values = rowValues (unionColumns rows) rows := by
  show [] ++ (Fragment.intercalate ", " _).values = _
  rw [List.nil_append, Fragment.values_intercalate, List.map_map, List.flatMap_map]
  unfold rowValues
  simp only [Function.comp_apply, values_rowFragment]

theorem ofFragment_inserted (d : Dialect) (keyword name : String) (rows : List Row)
    (closing : String) :
    Statement.ofFragment d (insertedFragment keyword name rows ++ .text closing)
      = insertedStatement d keyword name rows closing := by
  have hvalues := values_insertedFragment keyword name rows
  show Statement.mk ((insertedFragment keyword name rows).render d.placeholder 0 ++ closing)
    ((insertedFragment keyword name rows).values ++ []) d.name = _
  rw [render_insertedFragment, hvalues, List.append_nil]
  rfl

/-- Without words after the rows the statement is the same as with none. -/
theorem ofFragment_inserted_empty (d : Dialect) (keyword name : String) (rows : List Row) :
    Statement.ofFragment d (insertedFragment keyword name rows)
      = insertedStatement d keyword name rows "" := by
  unfold Statement.ofFragment insertedStatement
  rw [render_insertedFragment, values_insertedFragment, String.append_empty]

theorem insertOf_eq_ok {returning : Option String} :
    Statement.insertOf d table (Insertion.ofRows "insert" rows) returning = .ok s
      ↔ ∃ name, Insertable table rows name
        ∧ s = insertedStatement d "INSERT INTO" name rows (returningText d returning) := by
  constructor
  · intro h
    obtain ⟨f, hf, h⟩ := Result.bind_eq_ok.1 h
    obtain ⟨name, hname, rfl⟩ := insertFragment_eq_ok.1 hf
    cases h
    exact ⟨name, hname, ofFragment_inserted d _ name rows _⟩
  · rintro ⟨name, hname, rfl⟩
    rw [← ofFragment_inserted]
    exact Result.bind_eq_ok.2 ⟨_, insertFragment_eq_ok.2 ⟨name, hname, rfl⟩, rfl⟩

theorem upsertOf_eq_ok {rule : List String → Result ConflictRule} :
    Statement.upsertOf d table (insertColumns "upsert" rows) rule (Insertion.ofRows "upsert" rows)
        = .ok s
      ↔ ∃ name conflict tail, Insertable table rows name ∧ rule (unionColumns rows) = .ok conflict
        ∧ d.requireUpsert conflict = .ok tail
        ∧ s = insertedStatement d "INSERT INTO" name rows (" " ++ tail) := by
  constructor
  · intro h
    obtain ⟨columns, hcolumns, h⟩ := Result.bind_eq_ok.1 h
    obtain ⟨conflict, hrule, h⟩ := Result.bind_eq_ok.1 h
    obtain ⟨tail, htail, h⟩ := Result.bind_eq_ok.1 h
    obtain ⟨f, hf, h⟩ := Result.bind_eq_ok.1 h
    obtain ⟨name, hname, rfl⟩ := insertFragment_eq_ok.1 hf
    cases h
    rw [(insertColumns_eq_ok_iff.1 hcolumns).2] at hrule
    exact ⟨name, conflict, tail, hname, hrule, htail, ofFragment_inserted d _ name rows _⟩
  · rintro ⟨name, conflict, tail, hname, hrule, htail, rfl⟩
    rw [← ofFragment_inserted]
    refine Result.bind_eq_ok.2 ⟨_, insertColumns_eq_ok_iff.2 ⟨hname.filled, rfl⟩, ?_⟩
    refine Result.bind_eq_ok.2 ⟨conflict, hrule, Result.bind_eq_ok.2 ⟨tail, htail, ?_⟩⟩
    exact Result.bind_eq_ok.2 ⟨_, insertFragment_eq_ok.2 ⟨name, hname, rfl⟩, rfl⟩

theorem insertOrIgnoreOf_eq_ok :
    Statement.insertOrIgnoreOf d table (Insertion.ofRows "insert" rows) = .ok s
      ↔ ∃ name keyword tail, Insertable table rows name
        ∧ d.requireInsertOrIgnore = .ok (keyword, tail)
        ∧ s = insertedStatement d keyword name rows (if tail.isEmpty then "" else " " ++ tail) := by
  constructor
  · intro h
    obtain ⟨⟨keyword, tail⟩, hparts, h⟩ := Result.bind_eq_ok.1 h
    obtain ⟨f, hf, h⟩ := Result.bind_eq_ok.1 h
    obtain ⟨name, hname, rfl⟩ := insertFragment_eq_ok.1 hf
    cases h
    refine ⟨name, keyword, tail, hname, hparts, ?_⟩
    split
    · exact ofFragment_inserted_empty d keyword name rows
    · exact ofFragment_inserted d keyword name rows _
  · rintro ⟨name, keyword, tail, hname, hparts, rfl⟩
    refine Result.bind_eq_ok.2 ⟨_, hparts, Result.bind_eq_ok.2
      ⟨_, insertFragment_eq_ok.2 ⟨name, hname, rfl⟩, congrArg Except.ok ?_⟩⟩
    split
    · exact ofFragment_inserted_empty d keyword name rows
    · exact ofFragment_inserted d keyword name rows _

theorem replaceOf_eq_ok :
    Statement.replaceOf d table (Insertion.ofRows "replace" rows) = .ok s
      ↔ ∃ name keyword, Insertable table rows name ∧ d.requireReplace = .ok keyword
        ∧ s = insertedStatement d keyword name rows "" := by
  constructor
  · intro h
    obtain ⟨keyword, hkeyword, h⟩ := Result.bind_eq_ok.1 h
    obtain ⟨f, hf, h⟩ := Result.bind_eq_ok.1 h
    obtain ⟨name, hname, rfl⟩ := insertFragment_eq_ok.1 hf
    cases h
    exact ⟨name, keyword, hname, hkeyword, ofFragment_inserted_empty d keyword name rows⟩
  · rintro ⟨name, keyword, hname, hkeyword, rfl⟩
    rw [← ofFragment_inserted_empty]
    exact Result.bind_eq_ok.2 ⟨keyword, hkeyword, Result.bind_eq_ok.2
      ⟨_, insertFragment_eq_ok.2 ⟨name, hname, rfl⟩, rfl⟩⟩

/-- **An INSERT is its rows between the words of its kind.** -/
theorem Inserts.eq_inserted (h : Inserts d table rows kind x) (hs : x = .ok s) :
    ∃ name keyword closing, Insertable table rows name
      ∧ kind.words d (unionColumns rows) = .ok (keyword, closing)
      ∧ s = insertedStatement d keyword name rows closing := by
  rw [h.eq_statement] at hs
  cases kind with
  | batch returning =>
    obtain ⟨name, hname, rfl⟩ := insertOf_eq_ok.1 hs
    exact ⟨name, _, _, hname, rfl, rfl⟩
  | upsert rule =>
    unfold InsertKind.statement at hs
    rw [map_columns_ofRows] at hs
    obtain ⟨name, conflict, tail, hname, hrule, htail, rfl⟩ := upsertOf_eq_ok.1 hs
    refine ⟨name, _, _, hname, Result.bind_eq_ok.2 ⟨conflict, hrule, ?_⟩, rfl⟩
    exact Result.bind_eq_ok.2 ⟨tail, htail, rfl⟩
  | orIgnore =>
    obtain ⟨name, keyword, tail, hname, hparts, rfl⟩ := insertOrIgnoreOf_eq_ok.1 hs
    exact ⟨name, keyword, _, hname, Result.bind_eq_ok.2 ⟨_, hparts, rfl⟩, rfl⟩
  | replace =>
    obtain ⟨name, keyword, hname, hkeyword, rfl⟩ := replaceOf_eq_ok.1 hs
    exact ⟨name, keyword, "", hname, Result.bind_eq_ok.2 ⟨keyword, hkeyword, rfl⟩, rfl⟩

/-! ## Every value in its row and column -/

/-- There is a column. -/
theorem length_unionColumns_pos (hfilled : ∃ row ∈ rows, row ≠ []) :
    0 < (unionColumns rows).length := by
  obtain ⟨row, hrow, hne⟩ := hfilled
  obtain ⟨entry, rest, rfl⟩ := List.exists_cons_of_ne_nil hne
  have hkey : entry.1 ∈ rows.flatMap Row.columns :=
    List.mem_flatMap.2 ⟨_, hrow, List.mem_cons_self⟩
  exact List.length_pos_of_mem (((firstSeen_unionColumns rows).mem_iff entry.1).2 hkey)

/-- A row that is read back has all columns, and for each column, and for any other name, what the
row had that was inserted. -/
def Row.ReadBack (columns : List String) (row read : Row) : Prop :=
  read.columns = columns ∧ ∀ c, read.get c = row.get c

theorem readBack_of_mem {row : Row} (hrow : row ∈ rows) :
    row.ReadBack (unionColumns rows) ((unionColumns rows).map fun c => (c, row.get c)) := by
  refine ⟨?_, fun c => get_map_get row _ c ?_⟩
  · unfold Row.columns
    rw [List.map_map]
    exact List.map_id _
  · refine (mem_columns_or_null row c).imp_left fun hc => ?_
    exact ((firstSeen_unionColumns rows).mem_iff c).2 (List.mem_flatMap.2 ⟨row, hrow, hc⟩)

/-- **Every value is kept in its row and its column.** However rows are inserted, if the statement
is made:

* its columns are the keys of the rows, each once, in the order in which they are first seen, and
  there is one at least;
* it shows a tuple for each row, with a placeholder for each column, whose numbers go through all
  rows without a gap; the words around depend on the kind and on the columns only;
* it binds one value for each row and each column and nothing else, at the place of its
  placeholder: that of the row for the column, which is null if the row lacks it;
* the rows are read back from the columns and the bindings. -/
theorem Inserts.rows_kept (h : Inserts d table rows kind x) (hs : x = .ok s) :
    let columns := unionColumns rows
    let width := columns.length
    columns.Nodup ∧ FirstSeen (rows.flatMap Row.columns) columns ∧ 0 < width
    ∧ (∃ name keyword closing, table = some name ∧ kind.words d columns = .ok (keyword, closing)
        ∧ s.sql = insertText d keyword name columns rows.length ++ closing)
    ∧ (List.range rows.length).flatMap (tupleNumbers width) = List.range' 1 s.bindings.length
    ∧ s.bindings.length = rows.length * width
    ∧ (∀ i j, (hi : i < rows.length) → (hj : j < width) →
        s.bindings[i * width + j]? = some (rows[i].get columns[j]))
    ∧ List.Forall₂ (Row.ReadBack columns) rows
        (readRows columns (s.bindings.length / width) s.bindings) := by
  obtain ⟨name, keyword, closing, hname, hwords, rfl⟩ := h.eq_inserted hs
  intro columns width
  have hfirst := firstSeen_unionColumns rows
  have hpos : 0 < width := length_unionColumns_pos hname.filled
  have hlength : (rowValues columns rows).length = rows.length * width :=
    length_rowValues columns rows
  refine ⟨hfirst.nodup, hfirst, hpos, ⟨name, keyword, closing, hname.named, hwords, rfl⟩,
    ?_, hlength, ?_, ?_⟩
  · show _ = List.range' 1 (rowValues columns rows).length
    rw [hlength, flatMap_tupleNumbers]
  · intro i j hi hj
    show (rowValues columns rows)[i * width + j]? = _
    rw [getElem?_rowValues columns rows i hj, List.getElem?_eq_getElem hi]
    rfl
  · show List.Forall₂ _ rows
      (readRows columns ((rowValues columns rows).length / width) (rowValues columns rows))
    rw [hlength, Nat.mul_div_cancel _ hpos, readRows_rowValues, List.forall₂_map_right_iff]
    exact List.forall₂_same.2 fun row hrow => readBack_of_mem hrow

end Statements

/-- A row without columns, and two rows that share their second column. -/
def raggedRows : List Row :=
  [[], [("id", .int 1), ("a", .int 2)], [("b", .int 3), ("a", .int 4)]]

/-- The last row has its second value for the second column, and lacks the first. -/
theorem raggedRows_kept : ∃ s,
    Statement.upsertFrom .postgres (some "t")
        (.list (raggedRows.map fun row => .value (.mapping row))) (.list [.text "id"])
        (.value .null) .doUpdate = .ok s
      ∧ s.sql = "INSERT INTO t (id, a, b) VALUES ($1, $2, $3), ($4, $5, $6), ($7, $8, $9) "
        ++ "ON CONFLICT (id) DO UPDATE SET a = EXCLUDED.a, b = EXCLUDED.b"
      ∧ s.bindings[7]? = some (.int 4) ∧ s.bindings[6]? = some .null
      ∧ List.Forall₂ (Row.ReadBack ["id", "a", "b"]) raggedRows
        (readRows ["id", "a", "b"] 3 s.bindings) := by
  have hrows : Argument.rows? (.list (raggedRows.map fun row => .value (.mapping row)))
      = some raggedRows := rfl
  have h : Inserts .postgres (some "t") raggedRows _ _ :=
    .upsertFrom hrows (.list [.text "id"]) (.value .null) .doUpdate
  obtain ⟨-, -, -, -, -, -, hbindings, hread⟩ := h.rows_kept rfl
  exact ⟨_, rfl, rfl, hbindings 2 1 (by decide) (by decide), hbindings 2 0 (by decide) (by decide),
    hread⟩

end SqlQuery
