import SqlQuery.Dialect.MySql
import SqlQuery.Proofs.CursorTables
import SqlQuery.Proofs.Requests

/-!
# Changes and the rows that a query reads

A statement that changes rows is made from the table and the filters of a query and looks at nothing
else (`Change.compile_congr`), so it changes every row of the table that the filters reach.

The SELECT of the same query reads combinations of such a row with rows of joined tables, and shows
the lines that are made of them within its limit and offset. `Contents` is what a database has to
answer it with: the rows of the tables, which of them fit the ON condition of a join, and how lines
are made. A join, HAVING, the limit or the offset can leave out a row that is changed; a query with
none of these reads all of them (`Contents.Changes.reads`), and for any other there are contents of
which it does not (`Query.leavesNothingOut_of_scarce`).
-/

namespace SqlQuery

open Piece

/-! ## Statements that change rows -/

/-- What can be done to the rows that a query filters. -/
inductive Change where
  | update (values : Row)
  | increment (column : String) (amount : Value) (extra : Row)
  | jsonUpdate (column path : String) (v : Value)
  | jsonRemove (column path : String)
  | delete

namespace Change

def request (q : Query) : Change → Request
  | update values => .update q values
  | increment column amount extra => .increment q column amount extra
  | jsonUpdate column path v => .jsonUpdate q column path v
  | jsonRemove column path => .jsonRemove q column path
  | delete => .delete q

/-- The text of a change up to its WHERE section. -/
def opening (d : Dialect) (table : String) : Change → Template
  | update values => updating (setTemplate values)
  | increment column amount extra =>
    updating
      ([text (column ++ " = " ++ column ++ " + "), slot (.plain amount)] :: setTemplate extra)
  | jsonUpdate column path v =>
    match d.jsonSet with
    | some words => updating [text (column ++ " = ") :: (words column path).template (.stored v)]
    | none => []
  | jsonRemove column path =>
    match d.jsonRemove with
    | some words => updating [[text (column ++ " = " ++ words column path)]]
    | none => []
  | delete => [text ("DELETE FROM " ++ table)]
where
  updating (sets : List Template) : Template :=
    text ("UPDATE " ++ table ++ " SET ") :: [text ", "].intercalate sets

section Compile

variable {d : Dialect} {q q' : Query}

theorem whereFragment_congr (hfilters : q'.filters = q.filters) :
    q'.whereFragment d = q.whereFragment d := by
  rw [Query.whereFragment, Query.whereFragment, hfilters]

theorem updateFragment_congr (htable : q'.table = q.table) (hfilters : q'.filters = q.filters)
    (sets : List Fragment) : updateFragment d q' sets = updateFragment d q sets := by
  rw [updateFragment, updateFragment, htable, whereFragment_congr hfilters]

/-- A change looks at the table and the filters of a query and at nothing else. -/
theorem compile_congr (change : Change) (htable : q'.table = q.table)
    (hfilters : q'.filters = q.filters) :
    (change.request q').compile d = (change.request q).compile d := by
  cases change with
  | update values =>
    simp only [request, Request.compile, Statement.update, updateFragment_congr htable hfilters]
  | increment column amount extra =>
    simp only [request, Request.compile, Statement.increment, updateFragment_congr htable hfilters]
  | jsonUpdate column path v =>
    simp only [request, Request.compile, Statement.jsonUpdate, Statement.jsonUpdateAt,
      updateFragment_congr htable hfilters]
  | jsonRemove column path =>
    simp only [request, Request.compile, Statement.jsonRemove, Statement.jsonRemoveAt,
      updateFragment_congr htable hfilters]
  | delete =>
    simp only [request, Request.compile, Statement.delete, htable, whereFragment_congr hfilters]

/-- The text of a change ends with the filters of its query. -/
theorem template_request (change : Change) {s : Statement}
    (h : (change.request q).compile d = .ok s) :
    (change.request q).template d = change.opening d (q.table.getD "")
      ++ (if q.filters.isEmpty then []
        else text " WHERE " :: tokensTemplate d (filterTokens q.filters)) := by
  have filtered : q.whereTemplate d = if q.filters.isEmpty then []
      else text " WHERE " :: tokensTemplate d (filterTokens q.filters) := by
    rw [Query.whereTemplate, filterTemplate_tokens]
  rw [← filtered]
  cases change with
  | update | increment | delete => rfl
  | jsonUpdate column path v =>
    obtain ⟨stored, words, f, -, hwords, -, -⟩ := Statement.jsonUpdate_eq_ok h
    simp only [request, Request.template, opening, require_eq_ok hwords]
    rfl
  | jsonRemove column path =>
    obtain ⟨words, f, hwords, -, -⟩ := Statement.jsonRemove_eq_ok h
    simp only [request, Request.template, opening, require_eq_ok hwords]
    rfl

end Compile

end Change

/-! ## Contents of a database -/

/-- A row of each table of a query: the place of one in the first table, and those of joined tables
by their tables. A join may leave either out. -/
structure Combination (σ : Type) where
  own : Option Nat
  others : List (String × σ)

/-- What a database has to answer a query with, where `ρ` are rows of its table and `σ` rows of
joined tables. -/
structure Contents (q : Query) (ρ σ : Type) where
  rows : List ρ
  others : String → List σ
  /-- Whether a row fits the ON condition and the further filters of a join. -/
  fits : Join → Combination σ → σ → Bool
  /-- The truth of conditions where there is no row of the table. -/
  missing : Combination σ → Condition → Truth
  /-- The lines of the result in their order, each with the combinations that it is made of. -/
  lines : List (Combination σ) → List (List (Combination σ))
  lines_sound : ∀ xs, ∀ line ∈ lines xs, ∀ x ∈ line, x ∈ xs
  /-- Only HAVING leaves lines out. -/
  lines_complete : q.havings = [] → ∀ xs, ∀ x ∈ xs, ∃ line ∈ lines xs, x ∈ line
  /-- Each combination is a line where all columns are shown and lines are not put together or
  added. -/
  lines_plain : q.selects = [] → q.groups = [] → q.havings = [] → q.distinct = false →
    q.unions = [] → ∀ xs, (lines xs).Perm (xs.map fun x => [x])

namespace Contents

variable {ρ σ : Type} {q : Query} (db : Contents q ρ σ)

/-- A combination with each row of a joined table that fits it. -/
def extended (j : Join) (x : Combination σ) : List (Combination σ) :=
  ((db.others j.table).filter (db.fits j x)).map fun y =>
    { x with others := x.others ++ [(j.table, y)] }

/-- The same, or the combination alone if no row fits it. -/
def kept (j : Join) (x : Combination σ) : List (Combination σ) :=
  match db.extended j x with
  | [] => [x]
  | ys => ys

/-- The rows of a joined table that fit no combination. -/
def unmatched (j : Join) (xs : List (Combination σ)) : List (Combination σ) :=
  ((db.others j.table).filter fun y => !xs.any (db.fits j · y)).map fun y =>
    { own := none, others := [(j.table, y)] }

/-- Combinations and a join. -/
def join (xs : List (Combination σ)) (j : Join) : List (Combination σ) :=
  match j.kind with
  | .cross => xs.flatMap fun x => (db.others j.table).map fun y =>
    { x with others := x.others ++ [(j.table, y)] }
  | .inner => xs.flatMap (db.extended j)
  | .left => xs.flatMap (db.kept j)
  | .right => xs.flatMap (db.extended j) ++ db.unmatched j xs
  | .full => xs.flatMap (db.kept j) ++ db.unmatched j xs

/-- The rows of the table, each alone. -/
def alone : List (Combination σ) :=
  (List.range db.rows.length).map fun i => { own := some i, others := [] }

def combinations : List (Combination σ) :=
  q.joins.foldl db.join db.alone

section Truth

variable (truth : ρ → Condition → Truth)

/-- The truth that a combination gives to conditions about the table. -/
def truthOf (x : Combination σ) : Condition → Truth :=
  match x.own.bind (db.rows[·]?) with
  | some row => truth row
  | none => db.missing x

/-- The combinations that the filters reach. -/
def filtered : List (Combination σ) :=
  db.combinations.filter fun x => q.Reaches (db.truthOf truth x)

/-- The lines that the SELECT of the query shows. -/
def shown : List (List (Combination σ)) :=
  let following := (db.lines (db.filtered truth)).drop (q.offset.getD 0)
  match q.limit with
  | some n => following.take n
  | none => following

/-- The SELECT of the query reads the row at a place. -/
def Reads (i : Nat) : Prop :=
  ∃ line ∈ db.shown truth, ∃ x ∈ line, x.own = some i

/-- The filters of the query reach the row at a place, by itself. -/
def Changes (i : Nat) : Prop :=
  ∃ row, db.rows[i]? = some row ∧ q.Reaches (truth row)

end Truth

end Contents

/-- No join, HAVING, limit or offset can leave out a row of the table. -/
structure Query.LeavesNothingOut (q : Query) : Prop where
  joins : ∀ j ∈ q.joins, j.kind = .left ∨ j.kind = .full
  havings : q.havings = []
  limit : q.limit = none
  offset : q.offset.getD 0 = 0

section Reading

variable {ρ σ : Type} {q : Query} {truth : ρ → Condition → Truth}

/-! ## Rows that are not left out -/

namespace Contents

variable {db : Contents q ρ σ} {i : Nat}

theorem own_of_mem_extended {j : Join} {x y : Combination σ} (h : y ∈ db.extended j x) :
    y.own = x.own := by
  obtain ⟨z, -, rfl⟩ := List.mem_map.1 h
  rfl

/-- A combination stays, alone or with rows that fit it. -/
theorem exists_kept (db : Contents q ρ σ) (j : Join) (x : Combination σ) :
    ∃ y ∈ db.kept j x, y.own = x.own := by
  unfold kept
  cases hextended : db.extended j x with
  | nil => exact ⟨x, List.mem_singleton_self x, rfl⟩
  | cons y ys =>
    have hy : y ∈ db.extended j x := by
      rw [hextended]
      exact List.mem_cons_self
    exact ⟨y, List.mem_cons_self, own_of_mem_extended hy⟩

theorem exists_join (db : Contents q ρ σ) {j : Join} (hj : j.kind = .left ∨ j.kind = .full)
    {xs : List (Combination σ)} {x : Combination σ} (hx : x ∈ xs) :
    ∃ y ∈ db.join xs j, y.own = x.own := by
  obtain ⟨y, hy, hown⟩ := db.exists_kept j x
  have hmem := List.mem_flatMap.2 ⟨x, hx, hy⟩
  unfold join
  obtain hj | hj := hj
  · rw [hj]
    exact ⟨y, hmem, hown⟩
  · rw [hj]
    exact ⟨y, List.mem_append_left _ hmem, hown⟩

theorem exists_joins (db : Contents q ρ σ) {joins : List Join}
    (hjoins : ∀ j ∈ joins, j.kind = .left ∨ j.kind = .full) {xs : List (Combination σ)}
    {x : Combination σ} (hx : x ∈ xs) : ∃ y ∈ joins.foldl db.join xs, y.own = x.own := by
  induction joins generalizing xs x with
  | nil => exact ⟨x, hx, rfl⟩
  | cons j rest ih =>
    obtain ⟨hj, hrest⟩ := List.forall_mem_cons.1 hjoins
    obtain ⟨y, hy, hown⟩ := db.exists_join hj hx
    obtain ⟨z, hz, hown'⟩ := ih hrest hy
    exact ⟨z, hz, hown'.trans hown⟩

theorem truthOf_own {x : Combination σ} {row : ρ} (hown : x.own = some i)
    (hrow : db.rows[i]? = some row) : db.truthOf truth x = truth row := by
  unfold truthOf
  rw [hown, Option.bind_some, hrow]

/-- What is changed is read if nothing can leave it out. -/
theorem Changes.reads (hq : q.LeavesNothingOut) (h : db.Changes truth i) : db.Reads truth i := by
  obtain ⟨row, hrow, hreaches⟩ := h
  have hplace : i < db.rows.length := (List.getElem?_eq_some_iff.1 hrow).1
  have halone : { own := some i, others := [] } ∈ db.alone :=
    List.mem_map.2 ⟨i, List.mem_range.2 hplace, rfl⟩
  obtain ⟨x, hx, hown⟩ := db.exists_joins hq.joins halone
  have hfiltered : x ∈ db.filtered truth := by
    refine List.mem_filter.2 ⟨hx, decide_eq_true ?_⟩
    rwa [truthOf_own hown hrow]
  obtain ⟨line, hline, hmem⟩ := db.lines_complete hq.havings _ x hfiltered
  refine ⟨line, ?_, x, hmem, hown⟩
  unfold shown
  rw [hq.limit, hq.offset]
  exact hline

end Contents

/-! ## Rows that are left out -/

/-- Contents for which everything that can leave rows out does: one row over and over, no rows in
any other table, and no line that passes HAVING. -/
def scarce (q : Query) (row : ρ) : Contents q ρ Unit where
  rows := List.replicate (q.limit.getD 0 + 1) row
  others _ := []
  fits _ _ _ := false
  missing _ _ := .no
  lines xs := if q.havings = [] then xs.map fun x => [x] else []
  lines_sound xs line hline x hx := by
    split at hline
    · obtain ⟨y, hy, rfl⟩ := List.mem_map.1 hline
      rwa [List.mem_singleton.1 hx]
    · cases hline
  lines_complete hhavings xs x hx := by
    rw [if_pos hhavings]
    exact ⟨[x], List.mem_map_of_mem hx, List.mem_singleton_self x⟩
  lines_plain _ _ hhavings _ _ xs := by
    rw [if_pos hhavings]

namespace Contents

variable {row : ρ} {i : Nat}

/-- A join with a table that has no rows keeps all combinations or none. -/
theorem scarce_join (q : Query) (row : ρ) (j : Join) (xs : List (Combination Unit)) :
    (scarce q row).join xs j = xs ∧ (j.kind = .left ∨ j.kind = .full)
      ∨ (scarce q row).join xs j = [] := by
  have dropped : xs.flatMap ((scarce q row).extended j) = [] :=
    List.flatMap_eq_nil_iff.2 fun _ _ => rfl
  have kept : xs.flatMap ((scarce q row).kept j) = xs :=
    (List.flatMap_congr fun _ _ => rfl).trans (List.flatMap_singleton' xs)
  have unmatched : (scarce q row).unmatched j xs = [] := rfl
  unfold join
  cases j.kind with
  | inner => exact .inr dropped
  | right => exact .inr (congrArg₂ List.append dropped unmatched)
  | cross => exact .inr (List.flatMap_eq_nil_iff.2 fun _ _ => rfl)
  | left => exact .inl ⟨kept, .inl rfl⟩
  | full => exact .inl ⟨(congrArg₂ List.append kept unmatched).trans (List.append_nil xs), .inr rfl⟩

theorem scarce_joins (q : Query) (row : ρ) (joins : List Join) (xs : List (Combination Unit)) :
    joins.foldl (scarce q row).join xs = xs ∧ (∀ j ∈ joins, j.kind = .left ∨ j.kind = .full)
      ∨ joins.foldl (scarce q row).join xs = [] := by
  induction joins generalizing xs with
  | nil => exact .inl ⟨rfl, List.forall_mem_nil _⟩
  | cons j rest ih =>
    rw [List.foldl_cons]
    obtain ⟨hjoin, hj⟩ | hjoin := scarce_join q row j xs
    · rw [hjoin, List.forall_mem_cons]
      exact (ih xs).imp_left fun ⟨hrest, hall⟩ => ⟨hrest, hj, hall⟩
    · rw [hjoin]
      exact .inr ((ih []).elim And.left id)

/-- A line that is shown stands behind the offset and within the limit. -/
theorem exists_place_of_mem_shown {db : Contents q ρ σ} {line : List (Combination σ)}
    (h : line ∈ db.shown truth) :
    ∃ k, (db.lines (db.filtered truth))[q.offset.getD 0 + k]? = some line
      ∧ ∀ n, q.limit = some n → k < n := by
  unfold shown at h
  cases hlimit : q.limit with
  | none =>
    rw [hlimit] at h
    obtain ⟨k, hk⟩ := List.mem_iff_getElem?.1 h
    rw [List.getElem?_drop] at hk
    exact ⟨k, hk, nofun⟩
  | some n =>
    rw [hlimit] at h
    obtain ⟨k, hk⟩ := List.mem_iff_getElem?.1 h
    rw [List.getElem?_take] at hk
    split at hk
    · next hkn =>
      rw [List.getElem?_drop] at hk
      refine ⟨k, hk, fun m hm => ?_⟩
      cases hm
      exact hkn
    · cases hk

theorem scarce_row (hi : i ≤ q.limit.getD 0) : (scarce q row).rows[i]? = some row := by
  show (List.replicate _ row)[i]? = some row
  rw [List.getElem?_replicate, if_pos (Nat.lt_succ_of_le hi)]

theorem scarce_changes (h : q.Reaches (truth row)) (hi : i ≤ q.limit.getD 0) :
    (scarce q row).Changes truth i :=
  ⟨row, scarce_row hi, h⟩

/-- The filters reach all rows or, after a join that leaves rows out, none. -/
theorem scarce_filtered (hrow : q.Reaches (truth row)) :
    (scarce q row).filtered truth = (scarce q row).alone
        ∧ (∀ j ∈ q.joins, j.kind = .left ∨ j.kind = .full)
      ∨ (scarce q row).filtered truth = [] := by
  unfold filtered combinations
  obtain ⟨hcombinations, hjoins⟩ | hnone := scarce_joins q row q.joins (scarce q row).alone
  · rw [hcombinations]
    refine .inl ⟨List.filter_eq_self.2 fun x hx => decide_eq_true ?_, hjoins⟩
    obtain ⟨place, hplace, rfl⟩ := List.mem_map.1 hx
    rw [List.mem_range, show (scarce q row).rows.length = _ from List.length_replicate] at hplace
    rwa [truthOf_own rfl (scarce_row (Nat.le_of_lt_succ hplace))]
  · rw [hnone]
    exact .inr rfl

/-- Rows are read only where no join and no HAVING leaves rows out, and only those in the window. -/
theorem scarce_reads (hrow : q.Reaches (truth row)) (h : (scarce q row).Reads truth i) :
    q.havings = [] ∧ (∀ j ∈ q.joins, j.kind = .left ∨ j.kind = .full)
      ∧ q.offset.getD 0 ≤ i ∧ ∀ n, q.limit = some n → i < q.offset.getD 0 + n := by
  obtain ⟨line, hline, x, hx, hown⟩ := h
  obtain ⟨k, hk, hlimit⟩ := exists_place_of_mem_shown hline
  by_cases hhavings : q.havings = []
  · have plain (xs) : (scarce q row).lines xs = xs.map fun x => [x] := if_pos hhavings
    rw [plain, List.getElem?_map, Option.map_eq_some_iff] at hk
    obtain ⟨y, hk, rfl⟩ := hk
    obtain rfl := List.mem_singleton.1 hx
    obtain ⟨hall, hjoins⟩ | hnone := scarce_filtered hrow
    · rw [hall, alone, List.getElem?_map, Option.map_eq_some_iff] at hk
      obtain ⟨place, hplace, rfl⟩ := hk
      obtain ⟨_, rfl⟩ := List.getElem?_eq_some_iff.1 hplace
      rw [List.getElem_range] at hown
      cases hown
      exact ⟨hhavings, hjoins, Nat.le_add_right _ _,
        fun n hn => Nat.add_lt_add_left (hlimit n hn) _⟩
    · rw [hnone] at hk
      cases hk
  · have none_shown (xs) : (scarce q row).lines xs = [] := if_neg hhavings
    rw [none_shown] at hk
    cases hk

end Contents

theorem Query.leavesNothingOut_of_scarce {row : ρ} (hrow : q.Reaches (truth row))
    (h : ∀ i, (scarce q row).Changes truth i → (scarce q row).Reads truth i) :
    q.LeavesNothingOut := by
  have reads {i : Nat} (hi : i ≤ q.limit.getD 0) :=
    Contents.scarce_reads hrow (h i (Contents.scarce_changes hrow hi))
  obtain ⟨hhavings, hjoins, hfirst, -⟩ := reads (Nat.zero_le _)
  have hoffset : q.offset.getD 0 = 0 := Nat.le_zero.1 hfirst
  refine ⟨hjoins, hhavings, ?_, hoffset⟩
  cases hlimit : q.limit with
  | none => rfl
  | some n =>
    -- One more row than the limit is changed, and the last is not read.
    obtain ⟨-, -, -, hlast⟩ := reads (i := n) (by rw [hlimit]; exact le_rfl)
    have hbeyond := hlast n hlimit
    rw [hoffset, Nat.zero_add] at hbeyond
    exact absurd hbeyond (lt_irrefl n)

end Reading

/-! ## Changes against reading -/

/-- **A change reaches all rows that the filters of its query reach, whatever else the query has.**
Its statement is the same for every query with the same table and filters, so it is not refused for
the other parts either. Every row that it changes is one that the SELECT of the query reads,
whatever the database has, if no join, HAVING, limit or offset of the query can leave rows out; and
if one can, that is so only where the filters reach no row at all. -/
theorem Change.reads_changed_iff {change : Change} {d : Dialect} {q : Query} {s : Statement}
    (h : (change.request q).compile d = .ok s) :
    (∀ q' : Query, q'.table = q.table → q'.filters = q.filters →
        (change.request q').compile d = .ok s)
      ∧ s.sql = (change.opening d (q.table.getD "") ++ if q.filters.isEmpty then []
          else text " WHERE " :: tokensTemplate d (filterTokens q.filters)).fill d.placeholder
            ((change.request q).numbers 0)
      ∧ ∀ (ρ : Type) (truth : ρ → Condition → Truth),
        (∀ (σ : Type) (db : Contents q ρ σ) (i : Nat), db.Changes truth i → db.Reads truth i)
          ↔ ((∃ row, q.Reaches (truth row)) → q.LeavesNothingOut) := by
  refine ⟨fun q' htable hfilters => ?_, ?_, fun ρ truth => ⟨fun hall => ?_, fun hq => ?_⟩⟩
  · rw [change.compile_congr htable hfilters, h]
  · rw [← change.template_request h]
    exact Request.sql_eq_fill h
  · rintro ⟨row, hrow⟩
    exact Query.leavesNothingOut_of_scarce hrow (hall Unit (scarce q row))
  · rintro σ db i ⟨row, hrow, hreaches⟩
    exact Contents.Changes.reads (hq ⟨row, hreaches⟩) ⟨row, hrow, hreaches⟩

/-- Rows with a mark and, if there are any, what was joined to them. -/
def marked : Query where
  table := some "t"
  joins := [{ kind := .left, table := "s", first := some "t.id", second := some "s.t" }]
  filters := [.of (.compare "a" .eq (.int 1))]

/-- A LEFT JOIN is not shown, and takes nothing from the rows that are read. -/
theorem marked_reads_changed : ∃ s, (Change.delete.request marked).compile .mysql = .ok s
    ∧ s.sql = "DELETE FROM t WHERE a = ?"
    ∧ ∀ (ρ : Type) (truth : ρ → Condition → Truth) (σ : Type) (db : Contents marked ρ σ) (i : Nat),
      db.Changes truth i → db.Reads truth i := by
  have run : ((Change.delete.request marked).compile .mysql).toOption.map Statement.sql
      = some "DELETE FROM t WHERE a = ?" := by
    decide +kernel
  obtain ⟨s, h, hs⟩ := Result.exists_of_map_eq_some run
  refine ⟨s, h, hs, fun ρ truth => ((Change.reads_changed_iff h).2.2 ρ truth).2 fun _ => ?_⟩
  exact ⟨List.forall_mem_singleton.2 (.inl rfl), rfl, rfl, rfl⟩

/-- The first of the rows with a mark. -/
def firstMarked : Query where
  table := some "t"
  filters := [.of (.compare "a" .eq (.int 1))]
  limit := some 1

/-- Of two rows with a mark the SELECT reads one, and the DELETE deletes both. -/
theorem firstMarked_deletes_unread :
    ((Request.select firstMarked).compile .mysql).toOption.map Statement.sql
        = some "SELECT * FROM t WHERE a = ? LIMIT 1"
      ∧ ((Change.delete.request firstMarked).compile .mysql).toOption.map Statement.sql
        = some "DELETE FROM t WHERE a = ?"
      ∧ ∃ db : Contents firstMarked Unit Unit,
        db.Changes (fun _ _ => .yes) 1 ∧ ¬db.Reads (fun _ _ => .yes) 1 := by
  have hreaches : firstMarked.Reaches fun _ => .yes := by
    decide
  refine ⟨by decide +kernel, by decide +kernel, scarce firstMarked (),
    Contents.scarce_changes hreaches le_rfl, fun hreads => ?_⟩
  obtain ⟨-, -, -, hlimit⟩ := Contents.scarce_reads hreaches hreads
  exact absurd (hlimit 1 rfl) (by decide)

end SqlQuery
