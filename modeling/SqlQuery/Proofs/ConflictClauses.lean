import SqlQuery.Dialect.MySql
import SqlQuery.Proofs.InsertedRows

/-!
# What an upsert overwrites

The clause at the end of an upsert assigns to some columns the values that were to be inserted. It
is read here without regard to how it was made: the text after its first words is cut at the commas,
and an assignment counts if it gives its column the value that was to be inserted there
(`ConflictWords.overwritten`).

The two dialects write that value differently, and agree on the columns that a caller names, with
one exception: an empty list of columns is a list for PostgreSQL, where nothing is overwritten then,
and none at all for MySQL, where every column is (`Upserting.overwrites`).
-/

namespace SqlQuery

open Text

/-! ## Clauses -/

/-- How a dialect writes what an upsert overwrites. -/
structure ConflictWords where
  dialect : Dialect
  /-- What stands before the assignments, by the columns of the conflict target. -/
  opening : List String → String
  /-- What stands around a column to name the value that was to be inserted there. -/
  inserted : Around

namespace ConflictWords

def mysql : ConflictWords where
  dialect := .mysql
  opening _ := "ON DUPLICATE KEY UPDATE "
  inserted := ⟨"VALUES(", ")"⟩

/-- What a clause says of the conflict before it says what to do. -/
def onConflict (target : List String) : String :=
  "ON CONFLICT (" ++ ", ".intercalate target ++ ")"

def postgres : ConflictWords where
  dialect := .postgres
  opening target := onConflict target ++ " DO UPDATE SET "
  inserted := ⟨"EXCLUDED.", ""⟩

/-- The assignment of the value that was to be inserted. -/
def assignment (w : ConflictWords) (column : String) : String :=
  column ++ " = " ++ w.inserted.fill column

/-- The clause that overwrites some columns. -/
def clause (w : ConflictWords) (target columns : List String) : String :=
  w.opening target ++ ", ".intercalate (columns.map w.assignment)

/-- The clauses that overwrite some columns and no others. -/
inductive Overwrites : ConflictWords → List String → List String → String → Prop
  | assigned (w : ConflictWords) (target : List String) {columns : List String}
    (nonempty : columns ≠ []) : Overwrites w target columns (w.clause target columns)
  | nothing (target : List String) :
    Overwrites postgres target [] (onConflict target ++ " DO NOTHING")

end ConflictWords

/-! ## Reading a clause -/

/-- A text without the spaces at either end. -/
def withoutSpaces (cs : List Char) : List Char :=
  trimChars (· == ' ') cs

/-- The column of an assignment, if the value is the one that was to be inserted there. -/
def readAssignment (inserted : Around) (part : List Char) : Option String :=
  let column := String.ofList (withoutSpaces (part.takeWhile (· != '=')))
  let value := String.ofList (withoutSpaces (part.dropWhile (· != '=')).tail)
  if value = inserted.fill column then some column else none

/-- The columns that a clause for a conflict target overwrites. -/
def ConflictWords.overwritten (w : ConflictWords) (target : List String) (clause : String) :
    List String :=
  let opening := (w.opening target).toList
  if opening.isPrefixOf clause.toList then
    ((clause.toList.drop opening.length).splitOn ',').filterMap (readAssignment w.inserted)
  else []

/-- A text can stand in a list of assignments: it holds nothing that would end an assignment or its
column, and no spaces at its ends. -/
structure Plain (cs : List Char) : Prop where
  comma : ',' ∉ cs
  equals : '=' ∉ cs
  first : cs.head? ≠ some ' '
  last : cs.getLast? ≠ some ' '

section Reading

variable {cs ds : List Char} {column : String} {columns : List String} {w : ConflictWords}

theorem Plain.append (hc : Plain cs) (hd : Plain ds) : Plain (cs ++ ds) := by
  refine ⟨?_, ?_, ?_, ?_⟩
  · rw [List.mem_append, not_or]
    exact ⟨hc.comma, hd.comma⟩
  · rw [List.mem_append, not_or]
    exact ⟨hc.equals, hd.equals⟩
  · rw [List.head?_append]
    cases hhead : cs.head? with
    | none => exact hd.first
    | some c =>
      rw [Option.some_or, ← hhead]
      exact hc.first
  · rw [List.getLast?_append]
    cases hlast : ds.getLast? with
    | none => exact hc.last
    | some d =>
      rw [Option.some_or, ← hlast]
      exact hd.last

theorem dropWhile_space (h : cs.head? ≠ some ' ') : cs.dropWhile (· == ' ') = cs := by
  cases cs with
  | nil => rfl
  | cons c cs =>
    have hc : (c == ' ') = false := beq_eq_false_iff_ne.2 fun heq => h (congrArg some heq)
    rw [List.dropWhile_cons, hc]
    rfl

theorem Plain.withoutSpaces_eq (h : Plain cs) : withoutSpaces cs = cs := by
  unfold withoutSpaces trimChars dropEnd
  rw [dropWhile_space h.first, dropWhile_space, List.reverse_reverse]
  rw [List.head?_reverse]
  exact h.last

theorem withoutSpaces_cons (cs : List Char) : withoutSpaces (' ' :: cs) = withoutSpaces cs :=
  rfl

theorem Plain.withoutSpaces_concat (h : Plain cs) : withoutSpaces (cs ++ [' ']) = cs := by
  have hdrop : (cs ++ [' ']).dropWhile (· == ' ') = if cs = [] then [] else cs ++ [' '] := by
    rw [List.dropWhile_append, dropWhile_space h.first]
    cases cs <;> rfl
  unfold withoutSpaces trimChars dropEnd
  rw [hdrop]
  split
  · next hnil => rw [hnil]; rfl
  · rw [List.reverse_append]
    show ((cs.reverse.dropWhile (· == ' ')).reverse) = cs
    rw [dropWhile_space, List.reverse_reverse]
    rw [List.head?_reverse]
    exact h.last

/-- The value that was to be inserted into a column stands in an assignment like the column. -/
structure ConflictWords.Sound (w : ConflictWords) : Prop where
  before : Plain w.inserted.before.toList
  after : Plain w.inserted.after.toList

theorem ConflictWords.mysql_sound : ConflictWords.mysql.Sound :=
  ⟨by constructor <;> decide, by constructor <;> decide⟩

theorem ConflictWords.postgres_sound : ConflictWords.postgres.Sound :=
  ⟨by constructor <;> decide, by constructor <;> decide⟩

theorem plain_fill (hw : w.Sound) (hc : Plain column.toList) :
    Plain (w.inserted.fill column).toList := by
  unfold Around.fill
  rw [String.toList_append, String.toList_append]
  exact (hw.before.append hc).append hw.after

theorem toList_assignment (w : ConflictWords) (column : String) : (w.assignment column).toList
    = (column.toList ++ [' ']) ++ '=' :: ' ' :: (w.inserted.fill column).toList := by
  unfold ConflictWords.assignment
  rw [String.toList_append, String.toList_append, List.append_assoc, List.append_assoc]
  rfl

/-- **An assignment is read back**, with or without a space before it. -/
theorem readAssignment_assignment (hw : w.Sound) (hc : Plain column.toList) :
    readAssignment w.inserted (w.assignment column).toList = some column
      ∧ readAssignment w.inserted (' ' :: (w.assignment column).toList) = some column := by
  have hname : ∀ c ∈ column.toList ++ [' '], (c != '=') = true := by
    intro c hmem
    rw [bne_iff_ne]
    rintro rfl
    rcases List.mem_append.1 hmem with hmem | hmem
    · exact hc.equals hmem
    · exact absurd (List.mem_singleton.1 hmem) (by decide)
  have htake : (w.assignment column).toList.takeWhile (· != '=') = column.toList ++ [' '] := by
    rw [toList_assignment, List.takeWhile_append_of_pos hname, List.takeWhile_cons]
    exact List.append_nil _
  have hdrop : (w.assignment column).toList.dropWhile (· != '=')
      = '=' :: ' ' :: (w.inserted.fill column).toList := by
    rw [toList_assignment, List.dropWhile_append_of_pos hname]
    rfl
  have hvalue : withoutSpaces (' ' :: (w.inserted.fill column).toList)
      = (w.inserted.fill column).toList := by
    rw [withoutSpaces_cons, (plain_fill hw hc).withoutSpaces_eq]
  constructor
  · unfold readAssignment
    simp only [htake, hdrop, List.tail_cons, hvalue, hc.withoutSpaces_concat, String.ofList_toList,
      if_true]
  · unfold readAssignment
    have hskip : (' ' != '=') = true := rfl
    simp only [List.takeWhile_cons, List.dropWhile_cons, hskip, if_true, withoutSpaces_cons, htake,
      hdrop, List.tail_cons, hvalue, hc.withoutSpaces_concat, String.ofList_toList]

theorem comma_notMem_assignment (hw : w.Sound) (hc : Plain column.toList) :
    ',' ∉ (w.assignment column).toList := by
  rw [toList_assignment]
  intro hmem
  rcases List.mem_append.1 hmem with hmem | hmem
  · rcases List.mem_append.1 hmem with hmem | hmem
    · exact hc.comma hmem
    · exact absurd (List.mem_singleton.1 hmem) (by decide)
  · rcases List.mem_cons.1 hmem with heq | hmem
    · exact absurd heq (by decide)
    · rcases List.mem_cons.1 hmem with heq | hmem
      · exact absurd heq (by decide)
      · exact (plain_fill hw hc).comma hmem

/-- Parts that are a comma and a space apart are a comma apart, each but the first with a space
before it. -/
theorem intercalate_comma_space (part : List Char) (parts : List (List Char)) :
    [',', ' '].intercalate (part :: parts) = [','].intercalate (part :: parts.map (' ' :: ·)) := by
  induction parts generalizing part with
  | nil => rfl
  | cons next parts ih =>
    have hspace : ∀ rest : List (List Char), [','].intercalate ((' ' :: next) :: rest)
        = ' ' :: [','].intercalate (next :: rest) := by
      intro rest
      cases rest with
      | nil => rfl
      | cons after rest => rw [List.intercalate_cons_cons, List.intercalate_cons_cons]; rfl
    rw [List.intercalate_cons_cons, ih, List.map_cons, List.intercalate_cons_cons, hspace,
      List.append_assoc, List.append_assoc]
    rfl

/-- What stands between the commas of a clause: assignments, each but the first after a space. -/
def ConflictWords.parts (w : ConflictWords) : List String → List (List Char)
  | [] => []
  | first :: rest =>
    (w.assignment first).toList :: rest.map fun c => ' ' :: (w.assignment c).toList

theorem toList_clause (w : ConflictWords) (target : List String) (hsome : columns ≠ []) :
    (w.clause target columns).toList
      = (w.opening target).toList ++ [','].intercalate (w.parts columns) := by
  obtain ⟨first, rest, rfl⟩ := List.exists_cons_of_ne_nil hsome
  unfold ConflictWords.clause ConflictWords.parts
  rw [String.toList_append, String.toList_intercalate, List.map_map, List.map_cons]
  refine congrArg (_ ++ ·) ((intercalate_comma_space _ _).trans ?_)
  rw [List.map_map]
  rfl

theorem comma_notMem_parts (hw : w.Sound) (hplain : ∀ c ∈ columns, Plain c.toList) :
    ∀ part ∈ w.parts columns, ',' ∉ part := by
  intro part hpart
  cases columns with
  | nil => cases hpart
  | cons first rest =>
    obtain ⟨hfirst, hrest⟩ := List.forall_mem_cons.1 hplain
    rcases List.mem_cons.1 hpart with rfl | hpart
    · exact comma_notMem_assignment hw hfirst
    · obtain ⟨c, hc, rfl⟩ := List.mem_map.1 hpart
      intro hmem
      rcases List.mem_cons.1 hmem with heq | hmem
      · exact absurd heq (by decide)
      · exact comma_notMem_assignment hw (hrest c hc) hmem

theorem read_parts (hw : w.Sound) (hplain : ∀ c ∈ columns, Plain c.toList) :
    (w.parts columns).filterMap (readAssignment w.inserted) = columns := by
  cases columns with
  | nil => rfl
  | cons first rest =>
    obtain ⟨hfirst, hrest⟩ := List.forall_mem_cons.1 hplain
    have hothers : (rest.map fun c => ' ' :: (w.assignment c).toList).filterMap
        (readAssignment w.inserted) = rest := by
      rw [List.filterMap_map]
      refine (List.filterMap_congr (g := some) fun c hc => ?_).trans List.filterMap_some
      rw [Function.comp_apply]
      exact (readAssignment_assignment hw (hrest c hc)).2
    simp only [ConflictWords.parts, List.filterMap_cons,
      (readAssignment_assignment hw hfirst).1, hothers]

/-- **The assignments of a clause are read back.** -/
theorem overwritten_clause (hw : w.Sound) (target : List String) (hsome : columns ≠ [])
    (hplain : ∀ c ∈ columns, Plain c.toList) :
    w.overwritten target (w.clause target columns) = columns := by
  have hparts : w.parts columns ≠ [] := by
    obtain ⟨first, rest, rfl⟩ := List.exists_cons_of_ne_nil hsome
    exact List.cons_ne_nil _ _
  have hsplit : ([','].intercalate (w.parts columns)).splitOn ',' = w.parts columns :=
    List.splitOn_intercalate ',' (comma_notMem_parts hw hplain) hparts
  have hopening : (w.opening target).toList.isPrefixOf (w.clause target columns).toList = true := by
    rw [toList_clause w target hsome, List.isPrefixOf_iff_prefix]
    exact List.prefix_append _ _
  unfold ConflictWords.overwritten
  simp only [hopening, if_true]
  rw [toList_clause w target hsome, List.drop_left, hsplit]
  exact read_parts hw hplain

/-- A clause that does nothing overwrites nothing. -/
theorem overwritten_nothing (target : List String) :
    ConflictWords.postgres.overwritten target
      (ConflictWords.onConflict target ++ " DO NOTHING") = [] := by
  unfold ConflictWords.overwritten
  refine if_neg fun hprefix => ?_
  rw [List.isPrefixOf_iff_prefix] at hprefix
  change (ConflictWords.onConflict target ++ " DO UPDATE SET ").toList <+: _ at hprefix
  rw [String.toList_append, String.toList_append, List.prefix_append_right_inj] at hprefix
  exact absurd hprefix (by decide)

/-- **What a clause overwrites is read off it.** -/
theorem ConflictWords.Overwrites.overwritten_eq (hw : w.Sound) {target : List String}
    {clause : String} (h : w.Overwrites target columns clause)
    (hplain : ∀ c ∈ columns, Plain c.toList) : w.overwritten target clause = columns := by
  cases h with
  | assigned _ _ hsome => exact overwritten_clause hw target hsome hplain
  | nothing => exact overwritten_nothing target

end Reading

/-! ## Upserts -/

/-- The columns that an operand names to be overwritten; null names none. -/
inductive Argument.NamesColumns : Argument → Option (List String) → Prop
  | absent : NamesColumns (.value .null) none
  | listed {o : Argument} {columns : List String} (texts : o.texts? = some columns) :
    NamesColumns o (some columns)

/-- The ways to ask for an upsert that overwrites on a conflict: typed, and from operands that are
a list of mappings and lists of texts. -/
inductive Upserting (d : Dialect) (table : Option String) (rows : List Row) (target : List String)
    (overwrite : Option (List String)) : Result Statement → Prop
  | typed : Upserting d table rows target overwrite
    (Statement.upsert d table rows target overwrite .doUpdate)
  | operands {a t o : Argument} (ha : a.rows? = some rows) (ht : t.texts? = some target)
    (ho : o.NamesColumns overwrite) : Upserting d table rows target overwrite
    (Statement.upsertFrom d table a t o .doUpdate)

section Operands

open Argument

variable {t o : Argument} {target : List String} {overwrite : Option (List String)}

theorem eq_of_mapM_plain? {items : List Argument} {texts : List String}
    (h : items.mapM plain? = some texts) : items = texts.map Argument.text := by
  have hall := forall₂_of_mapM_some h
  clear h
  induction hall with
  | nil => rfl
  | cons hs _ ih =>
    unfold plain? at hs
    split at hs
    · cases hs
      rw [ih, List.map_cons]
    · cases hs

theorem parts_of_texts? (h : t.texts? = some target) :
    t.parts = .ok (target.map Argument.text) := by
  unfold texts? at h
  split at h
  · rw [Argument.parts, eq_of_mapM_plain? h]
  · rw [Argument.parts, eq_of_mapM_plain? h]
  · cases h

theorem map_shown_texts (texts : List String) :
    (texts.map Argument.text).map Argument.shown = texts := by
  rw [List.map_map]
  exact List.map_id _

theorem textsFrom_texts (i : Nat) (texts : List String) :
    textsFrom i (texts.map Argument.text) = .ok texts := by
  induction texts generalizing i with
  | nil => rfl
  | cons s texts ih =>
    rw [List.map_cons]
    show (do return s :: (← textsFrom (i + 1) (texts.map Argument.text)) : Result (List String)) = _
    rw [ih]
    rfl

theorem Argument.NamesColumns.partsOrNull_eq (ho : o.NamesColumns overwrite) :
    o.partsOrNull = .ok (overwrite.map (·.map Argument.text)) := by
  cases ho with
  | absent => rfl
  | listed htexts =>
    have hparts := parts_of_texts? htexts
    unfold partsOrNull
    split
    · cases htexts
    · rw [hparts]
      rfl

/-- From lists of texts the rule is made of these texts. -/
theorem ConflictRule.ofArguments_texts (d : Dialect) (ht : t.texts? = some target)
    (ho : o.NamesColumns overwrite) (action : ConflictAction) (columns : List String) :
    ConflictRule.ofArguments d t o action columns
      = .ok { columns, target, overwrite, action } := by
  have hshown : (overwrite.map (·.map Argument.text)).map (·.map Argument.shown) = overwrite := by
    cases overwrite with
    | none => rfl
    | some named => exact congrArg some (map_shown_texts named)
  unfold ConflictRule.ofArguments
  refine Result.bind_eq_ok.2 ⟨_, parts_of_texts? ht, Result.bind_eq_ok.2 ⟨_, ho.partsOrNull_eq, ?_⟩⟩
  rw [hshown, map_shown_texts]
  split
  · exact Result.bind_eq_ok.2 ⟨target, textsFrom_texts 0 target, rfl⟩
  · rfl

end Operands

section Upserts

variable {d : Dialect} {table : Option String} {rows : List Row} {name : String}
  {target : List String} {overwrite : Option (List String)} {x y : Result Statement}

theorem Upserting.eq_upsert (h : Upserting d table rows target overwrite x) :
    x = Statement.upsert d table rows target overwrite .doUpdate := by
  cases h with
  | typed => rfl
  | @operands a t o ha ht ho =>
    obtain ⟨hrows, hspent⟩ := Insertion.ofArgument_rows ha "upsert"
    unfold Statement.upsertFrom Statement.upsert
    rw [hspent, hrows, map_columns_ofRows]
    exact congrArg (Statement.upsertOf d table _ · _)
      (funext (ConflictRule.ofArguments_texts d ht ho .doUpdate))

theorem upsert_of_clause (hname : Insertable table rows name) {action : ConflictAction}
    {clause : String} (h : d.requireUpsert
      { columns := unionColumns rows, target, overwrite, action } = .ok clause) :
    Statement.upsert d table rows target overwrite action
      = .ok (insertedStatement d "INSERT INTO" name rows (" " ++ clause)) :=
  upsertOf_eq_ok.2 ⟨name, _, clause, hname, rfl, h, rfl⟩

theorem mysql_assignment (column : String) :
    column ++ " = VALUES(" ++ column ++ ")" = ConflictWords.mysql.assignment column := by
  show column ++ (" = " ++ "VALUES(") ++ column ++ ")"
    = column ++ " = " ++ ("VALUES(" ++ column ++ ")")
  simp only [String.append_assoc]

theorem postgres_assignment (column : String) :
    column ++ " = EXCLUDED." ++ column = ConflictWords.postgres.assignment column := by
  show column ++ (" = " ++ "EXCLUDED.") ++ column
    = column ++ " = " ++ ("EXCLUDED." ++ column ++ "")
  simp only [String.append_assoc, String.append_empty]

/-- MySQL takes an empty list of columns for none, and overwrites all columns then. -/
theorem mysqlUpsert_doUpdate (columns target : List String) (overwrite : Option (List String)) :
    Dialect.mysqlUpsert { columns, target, overwrite, action := .doUpdate }
      = .ok (ConflictWords.mysql.clause target
        (if overwrite.getD [] = [] then columns else overwrite.getD [])) := by
  unfold Dialect.mysqlUpsert
  simp only [mysql_assignment]
  cases overwrite with
  | none => rfl
  | some named => cases named <;> rfl

/-- PostgreSQL does nothing where there is nothing to overwrite. -/
theorem postgresUpsert_doUpdate (columns : List String) (htarget : target ≠ [])
    (overwrite : Option (List String)) : ∃ clause,
    Dialect.postgresUpsert { columns, target, overwrite, action := .doUpdate } = .ok clause
      ∧ ConflictWords.postgres.Overwrites target
        (overwrite.getD (columns.filter (!target.contains ·))) clause := by
  have hfalse : target.isEmpty = false := by
    rw [← Bool.not_eq_true, List.isEmpty_iff]
    exact htarget
  unfold Dialect.postgresUpsert
  simp only [postgres_assignment, hfalse]
  cases overwrite.getD (columns.filter (!target.contains ·)) with
  | nil => exact ⟨_, rfl, .nothing target⟩
  | cons first rest =>
    refine ⟨_, rfl, ?_⟩
    have hclause : ConflictWords.onConflict target ++ " DO UPDATE SET "
        ++ ", ".intercalate ((first :: rest).map ConflictWords.postgres.assignment)
        = ConflictWords.postgres.clause target (first :: rest) := rfl
    exact hclause ▸ .assigned ConflictWords.postgres target (List.cons_ne_nil first rest)

/-- The statement is made, it inserts the rows, and on a conflict it overwrites these columns, which
can be read off its clause if they can stand in one. -/
def ConflictWords.Upserts (w : ConflictWords) (name : String) (rows : List Row)
    (target : List String) (x : Result Statement) (columns : List String) : Prop :=
  ∃ clause, x = .ok (insertedStatement w.dialect "INSERT INTO" name rows (" " ++ clause))
    ∧ w.Overwrites target columns clause
    ∧ ((∀ c ∈ columns, Plain c.toList) → w.overwritten target clause = columns)

theorem Upserting.mysql_upserts (hname : Insertable table rows name)
    (h : Upserting .mysql table rows target overwrite x) :
    ConflictWords.mysql.Upserts name rows target x
      (if overwrite.getD [] = [] then unionColumns rows else overwrite.getD []) := by
  have hclause := mysqlUpsert_doUpdate (unionColumns rows) target overwrite
  have hsome : (if overwrite.getD [] = [] then unionColumns rows else overwrite.getD []) ≠ [] := by
    split
    · exact List.length_pos_iff.1 (length_unionColumns_pos hname.filled)
    · next hne => exact hne
  refine ⟨_, h.eq_upsert.trans (upsert_of_clause hname hclause), .assigned _ target hsome, ?_⟩
  exact overwritten_clause ConflictWords.mysql_sound target hsome

theorem Upserting.postgres_upserts (hname : Insertable table rows name) (htarget : target ≠ [])
    (h : Upserting .postgres table rows target overwrite y) :
    ConflictWords.postgres.Upserts name rows target y
      (overwrite.getD ((unionColumns rows).filter (!target.contains ·))) := by
  obtain ⟨clause, hclause, hoverwrites⟩ :=
    postgresUpsert_doUpdate (unionColumns rows) htarget overwrite
  exact ⟨clause, h.eq_upsert.trans (upsert_of_clause hname hclause), hoverwrites,
    hoverwrites.overwritten_eq ConflictWords.postgres_sound⟩

/-- MySQL has no clause that overwrites nothing. -/
theorem not_mysql_upserts_nil : ¬ConflictWords.mysql.Upserts name rows target x [] := by
  have hname : ∀ w columns clause, ConflictWords.Overwrites w target columns clause →
      columns = [] → w.dialect.name = "postgres" := by
    intro w columns clause h hnone
    cases h with
    | assigned _ _ hsome => exact absurd hnone hsome
    | nothing => rfl
  rintro ⟨clause, -, hoverwrites, -⟩
  exact absurd (hname _ _ clause hoverwrites rfl) (by decide)

/-- **What an upsert overwrites.** Let the table have a name, some row a column, and let there be a
conflict target. Then an upsert can be made in both dialects, and on a conflict

* PostgreSQL overwrites exactly the columns that the caller names, and nothing for an empty list;
* MySQL overwrites exactly these if there are any, and for an empty list all columns that are
  inserted, so what it overwrites is what was named exactly if that is not empty;
* if the caller leaves it open, MySQL overwrites all columns that are inserted, and PostgreSQL those
  outside the conflict target, each once and in the order in which they are first seen. -/
theorem Upserting.overwrites (hname : Insertable table rows name) (htarget : target ≠ [])
    (hx : Upserting .mysql table rows target overwrite x)
    (hy : Upserting .postgres table rows target overwrite y) :
    (∀ named, overwrite = some named →
      ConflictWords.postgres.Upserts name rows target y named
      ∧ (ConflictWords.mysql.Upserts name rows target x named ↔ named ≠ [])
      ∧ (named = [] → ConflictWords.mysql.Upserts name rows target x (unionColumns rows)))
    ∧ (overwrite = none → ∃ outside,
      ConflictWords.mysql.Upserts name rows target x (unionColumns rows)
      ∧ ConflictWords.postgres.Upserts name rows target y outside
      ∧ FirstSeen (rows.flatMap Row.columns) (unionColumns rows) ∧ (unionColumns rows).Nodup
      ∧ (∀ c, c ∈ outside ↔ c ∈ rows.flatMap Row.columns ∧ c ∉ target)
      ∧ outside.Sublist (unionColumns rows)) := by
  have hmysql := hx.mysql_upserts hname
  have hpostgres := hy.postgres_upserts hname htarget
  constructor
  · rintro named rfl
    refine ⟨hpostgres, ⟨?_, fun hne => ?_⟩, ?_⟩
    · rintro hupserts rfl
      exact not_mysql_upserts_nil hupserts
    · rwa [Option.getD_some, if_neg hne] at hmysql
    · rintro rfl
      rwa [Option.getD_some, if_pos rfl] at hmysql
  · rintro rfl
    have hfirst := firstSeen_unionColumns rows
    refine ⟨_, hmysql, hpostgres, hfirst, hfirst.nodup, fun c => ?_, List.filter_sublist⟩
    rw [Option.getD_none, List.mem_filter, hfirst.mem_iff]
    simp

end Upserts

/-- One row under a key. -/
def keyedRow : List Row :=
  [[("id", .int 1), ("a", .int 2)]]

/-- Both dialects overwrite the column that is named. -/
theorem keyedRow_overwrites :
    ConflictWords.postgres.Upserts "t" keyedRow ["id"]
        (Statement.upsert .postgres (some "t") keyedRow ["id"] (some ["a"]) .doUpdate) ["a"]
      ∧ ConflictWords.mysql.Upserts "t" keyedRow ["id"]
        (Statement.upsert .mysql (some "t") keyedRow ["id"] (some ["a"]) .doUpdate) ["a"] := by
  have hname : Insertable (some "t") keyedRow "t" := by
    refine ⟨rfl, by decide, _, List.mem_cons_self, List.cons_ne_nil _ _⟩
  obtain ⟨hpostgres, hmysql, -⟩ :=
    (Upserting.overwrites hname (List.cons_ne_nil "id" []) .typed .typed).1 ["a"] rfl
  exact ⟨hpostgres, hmysql.2 (List.cons_ne_nil "a" [])⟩

/-- No column is named, and MySQL overwrites both. -/
theorem keyedRow_empty_list : ∃ s t,
    Statement.upsert .mysql (some "t") keyedRow ["id"] (some []) .doUpdate = .ok s
      ∧ s.sql = "INSERT INTO t (id, a) VALUES (?, ?) "
        ++ "ON DUPLICATE KEY UPDATE id = VALUES(id), a = VALUES(a)"
      ∧ ConflictWords.mysql.overwritten ["id"]
        "ON DUPLICATE KEY UPDATE id = VALUES(id), a = VALUES(a)" = ["id", "a"]
      ∧ Statement.upsert .postgres (some "t") keyedRow ["id"] (some []) .doUpdate = .ok t
      ∧ t.sql = "INSERT INTO t (id, a) VALUES ($1, $2) ON CONFLICT (id) DO NOTHING" :=
  ⟨_, _, rfl, rfl, by decide, rfl, rfl⟩

end SqlQuery
