import Mathlib.Algebra.BigOperators.Group.List.Basic
import SqlQuery.Statement.Write

/-!
# Rows with columns of their own

Rows that are inserted together may have different columns, and each in an order of its own. They
are flattened: the columns become one list, in the order in which they are first seen
(`FirstSeen`), and the values one list, row by row.

The value of the `i`-th row for the `j`-th column has the place `i` times the number of columns plus
`j` in that list, and its placeholder has the number after that. So the rows can be told from the
columns and the values (`readRows`).
-/

namespace SqlQuery

/-! ## Columns in the order in which they are first seen -/

/-- The columns are those that occur among the keys, ordered by where each occurs first. -/
structure FirstSeen (keys columns : List String) : Prop where
  mem_iff : ∀ c, c ∈ columns ↔ c ∈ keys
  ordered : columns.Pairwise fun c c' => keys.idxOf c < keys.idxOf c'

/-- Notes a key as a column, unless it is one already. -/
def noteColumn (columns : List String) (key : String) : List String :=
  if columns.contains key then columns else columns ++ [key]

namespace FirstSeen

variable {keys columns : List String}

theorem nil : FirstSeen [] [] :=
  ⟨fun _ => Iff.rfl, .nil⟩

theorem nodup (h : FirstSeen keys columns) : columns.Nodup :=
  h.ordered.imp fun hless heq => Nat.ne_of_lt hless (congrArg keys.idxOf heq)

/-- Where a column was first seen does not change with another key. -/
theorem ordered_append (h : FirstSeen keys columns) (key : String) :
    columns.Pairwise fun c c' => (keys ++ [key]).idxOf c < (keys ++ [key]).idxOf c' := by
  refine h.ordered.imp_of_mem fun hc hc' hless => ?_
  have hseen := (h.mem_iff _).1 hc
  have hseen' := (h.mem_iff _).1 hc'
  rwa [List.idxOf_append_of_mem hseen, List.idxOf_append_of_mem hseen']

theorem note (h : FirstSeen keys columns) (key : String) :
    FirstSeen (keys ++ [key]) (noteColumn columns key) := by
  unfold noteColumn
  split
  · next hold =>
    have hkey : key ∈ keys := (h.mem_iff key).1 (List.contains_iff_mem.1 hold)
    refine ⟨fun c => ?_, h.ordered_append key⟩
    rw [h.mem_iff, List.mem_append, List.mem_singleton]
    exact ⟨.inl, fun hc => hc.elim id fun heq => heq ▸ hkey⟩
  · next hnew =>
    have hkey : key ∉ keys := fun hmem => hnew (List.contains_iff_mem.2 ((h.mem_iff key).2 hmem))
    refine ⟨fun c => ?_, ?_⟩
    · rw [List.mem_append, h.mem_iff, List.mem_append]
    · refine List.pairwise_append.2 ⟨h.ordered_append key, List.pairwise_singleton _ _, ?_⟩
      intro c hc c' hc'
      obtain rfl := List.mem_singleton.1 hc'
      have hseen : c ∈ keys := (h.mem_iff c).1 hc
      rw [List.idxOf_append_of_mem hseen, List.idxOf_append_of_notMem hkey]
      have hless := List.idxOf_lt_length_of_mem hseen
      omega

theorem noteAll (h : FirstSeen keys columns) (more : List String) :
    FirstSeen (keys ++ more) (more.foldl noteColumn columns) := by
  induction more generalizing keys columns with
  | nil => rwa [List.append_nil]
  | cons key more ih =>
    have hrest := ih (h.note key)
    rwa [List.append_assoc] at hrest

end FirstSeen

theorem unionColumns_eq (rows : List Row) :
    unionColumns rows = (rows.flatMap Row.columns).foldl noteColumn [] := by
  rw [List.foldl_flatMap]
  simp only [Row.columns, List.foldl_map]
  rfl

/-- **The columns of rows are their keys, each where it is first seen.** -/
theorem firstSeen_unionColumns (rows : List Row) :
    FirstSeen (rows.flatMap Row.columns) (unionColumns rows) := by
  rw [unionColumns_eq]
  exact FirstSeen.nil.noteAll _

/-! ## Fragments that repeat a shape -/

namespace Fragment

variable {α : Type}

/-- Fragments that all have one size, and show the same text wherever they begin, show this text at
places that are as far apart as the size. -/
theorem render_intercalate {F : α → Fragment} {width : Nat} {placeholder : Nat → String}
    {shown : Nat → String} (separator : String) (hsize : ∀ x, (F x).size = width)
    (hshown : ∀ x start, (F x).render placeholder start = shown start) (xs : List α)
    (start : Nat) : (intercalate separator (xs.map F)).render placeholder start
      = separator.intercalate ((List.range xs.length).map fun i => shown (start + i * width)) := by
  induction xs generalizing start with
  | nil => rfl
  | cons x xs ih =>
    cases xs with
    | nil =>
      show (F x).render placeholder start = separator.intercalate [shown (start + 0 * width)]
      rw [hshown, String.intercalate_singleton, Nat.zero_mul, Nat.add_zero]
    | cons y ys =>
      have hshift : ∀ i, start + width + i * width = start + (i + 1) * width := by
        intro i
        rw [Nat.succ_mul]
        omega
      have hrest := ih (start + width)
      simp only [hshift] at hrest
      have hfirst : (List.range (x :: y :: ys).length).map (fun i => shown (start + i * width))
          = shown start
            :: (List.range (y :: ys).length).map fun i => shown (start + (i + 1) * width) := by
        rw [List.length_cons, List.range_succ_eq_map, List.map_cons, List.map_map, Nat.zero_mul,
          Nat.add_zero]
        rfl
      rw [hfirst, String.intercalate_cons_of_ne_nil (by simp)]
      show (F x).render placeholder start ++ separator
        ++ (intercalate separator ((y :: ys).map F)).render placeholder
          (start + ((F x).size + 0)) = _
      rw [hshown, hsize, Nat.add_zero, hrest]

end Fragment

/-! ## Rows, one after the other -/

/-- The numbers of the placeholders of the `i`-th row: the `j`-th of them has the number that comes
after `i` times the number of columns plus `j`. -/
def tupleNumbers (width i : Nat) : List Nat :=
  (List.range width).map fun j => i * width + j + 1

/-- The placeholders of the `i`-th row. -/
def tupleText (d : Dialect) (width i : Nat) : String :=
  "(" ++ ", ".intercalate ((tupleNumbers width i).map d.placeholder) ++ ")"

/-- An INSERT up to the end of its rows: a tuple for each, with a placeholder for each column. -/
def insertText (d : Dialect) (keyword table : String) (columns : List String) (count : Nat) :
    String :=
  keyword ++ " " ++ table ++ " (" ++ ", ".intercalate columns ++ ") VALUES "
    ++ ", ".intercalate ((List.range count).map (tupleText d columns.length))

/-- The values of rows, row by row. -/
def rowValues (columns : List String) (rows : List Row) : List Value :=
  rows.flatMap fun row => columns.map row.get

/-- So many rows as they are read from columns and values. -/
def readRows (columns : List String) : Nat → List Value → List Row
  | 0, _ => []
  | count + 1, values =>
    columns.zip values :: readRows columns count (values.drop columns.length)

section Rows

/-- The placeholders of one row after the other are numbered without a gap. -/
theorem flatMap_tupleNumbers (width count : Nat) :
    (List.range count).flatMap (tupleNumbers width) = List.range' 1 (count * width) := by
  induction count with
  | zero => rw [Nat.zero_mul]; rfl
  | succ count ih =>
    have hlast : tupleNumbers width count = List.range' (1 + 1 * (count * width)) width := by
      unfold tupleNumbers
      rw [List.range'_eq_map_range]
      refine List.map_congr_left fun j _ => ?_
      omega
    rw [List.range_succ, List.flatMap_append, ih, List.flatMap_singleton, hlast,
      List.range'_append, Nat.succ_mul]

theorem render_rowFragment (placeholder : Nat → String) (values : List Value) (start : Nat) :
    (rowFragment values).render placeholder start = "("
      ++ ", ".intercalate ((List.range values.length).map fun j => placeholder (start + j + 1))
      ++ ")" := by
  have hsize : ∀ v, (Fragment.slot v).size = 1 := fun _ => rfl
  have hshown : ∀ v start, (Fragment.slot v).render placeholder start = placeholder (start + 1) :=
    fun _ _ => rfl
  have hslots : (Fragment.slots values).render placeholder start = ", ".intercalate
      ((List.range values.length).map fun j => placeholder (start + j * 1 + 1)) :=
    Fragment.render_intercalate ", " hsize hshown values start
  simp only [Nat.mul_one] at hslots
  show "(" ++ (Fragment.slots values).render placeholder (start + 0) ++ ")" = _
  rw [Nat.add_zero, hslots]

theorem values_rowFragment (values : List Value) : (rowFragment values).values = values := by
  have hslots : (Fragment.slots values).values = values := by
    unfold Fragment.slots
    rw [Fragment.values_intercalate, List.flatMap_map]
    exact List.flatMap_pure_eq_map id values |>.trans (List.map_id values)
  show [] ++ (Fragment.slots values).values ++ [] = values
  rw [hslots, List.nil_append, List.append_nil]

theorem size_rowFragment (columns : List String) (row : Row) :
    (rowFragment (columns.map row.get)).size = columns.length := by
  rw [← Fragment.length_values, values_rowFragment, List.length_map]

theorem length_rowValues (columns : List String) (rows : List Row) :
    (rowValues columns rows).length = rows.length * columns.length := by
  unfold rowValues
  rw [List.length_flatMap]
  simp

/-- **The value of a row for a column has its place among all values.** -/
theorem getElem?_rowValues (columns : List String) (rows : List Row) (i : Nat) {j : Nat}
    (hj : j < columns.length) : (rowValues columns rows)[i * columns.length + j]?
      = rows[i]?.map fun row => row.get columns[j] := by
  unfold rowValues
  induction rows generalizing i with
  | nil => rfl
  | cons row rows ih =>
    rw [List.flatMap_cons]
    cases i with
    | zero =>
      rw [Nat.zero_mul, Nat.zero_add, List.getElem?_append_left (by simpa using hj)]
      simp [hj]
    | succ i =>
      have hskip : (i + 1) * columns.length + j - columns.length = i * columns.length + j := by
        rw [Nat.succ_mul]
        omega
      have hbeyond : columns.length ≤ (i + 1) * columns.length + j := by
        rw [Nat.succ_mul]
        omega
      rw [List.getElem?_append_right (by simpa using hbeyond), List.length_map, hskip, ih]
      rfl

theorem zip_map_append {α : Type} (g : String → α) (columns : List String) (rest : List α) :
    columns.zip (columns.map g ++ rest) = columns.map fun c => (c, g c) := by
  induction columns with
  | nil => rfl
  | cons c columns ih => simp only [List.map_cons, List.cons_append, List.zip_cons_cons, ih]

/-- **The rows are read back**, each with all columns. -/
theorem readRows_rowValues (columns : List String) (rows : List Row) :
    readRows columns rows.length (rowValues columns rows)
      = rows.map fun row => columns.map fun c => (c, row.get c) := by
  unfold rowValues
  induction rows with
  | nil => rfl
  | cons row rows ih =>
    have hdrop : (columns.map row.get ++ rows.flatMap fun row => columns.map row.get).drop
        columns.length = rows.flatMap fun row => columns.map row.get :=
      List.drop_left' (List.length_map _)
    rw [List.length_cons, readRows, List.flatMap_cons, zip_map_append, hdrop, ih, List.map_cons]

/-- A row that was read back answers for every column what the row that was inserted answers. -/
theorem get_map_get (row : Row) (columns : List String) (c : String)
    (hc : c ∈ columns ∨ row.get c = .null) :
    Row.get (columns.map fun c => (c, row.get c)) c = row.get c := by
  induction columns with
  | nil => exact (hc.resolve_left (List.not_mem_nil)).symm
  | cons column columns ih =>
    unfold Row.get at ih ⊢
    rw [List.map_cons, List.lookup_cons]
    by_cases heq : c = column
    · rw [heq, BEq.rfl]
      rfl
    · rw [beq_eq_false_iff_ne.2 heq]
      refine ih (hc.imp_left fun hmem => ?_)
      exact (List.mem_cons.1 hmem).resolve_left heq

/-- What a row has no column for is null. -/
theorem mem_columns_or_null (row : Row) (c : String) : c ∈ row.columns ∨ row.get c = .null := by
  induction row with
  | nil => exact .inr rfl
  | cons entry row ih =>
    obtain ⟨column, v⟩ := entry
    by_cases heq : c = column
    · exact .inl (heq ▸ List.mem_cons_self)
    · refine ih.imp (List.mem_cons_of_mem _) fun hnull => ?_
      unfold Row.get at hnull ⊢
      rwa [List.lookup_cons, beq_eq_false_iff_ne.2 heq]

end Rows

end SqlQuery
