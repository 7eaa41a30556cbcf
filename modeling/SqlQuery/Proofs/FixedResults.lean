import Mathlib.Algebra.Order.Floor.Div
import SqlQuery.Proofs.CompoundPaging
import SqlQuery.Proofs.Sections

/-!
# Results that stay as they are

An executor lists a result for a query if it answers every stretch of rows that is asked for, by a
limit and an offset, with that stretch of one fixed list (`Engine.Lists`). Readers that count the
rows before them cut such a result into blocks of one size (`blocks`): all but the last are full,
none is empty, and one after the other they are the result.
-/

namespace SqlQuery

open Effect

/-! ## Blocks of a list -/

section Blocks

variable {α : Type} {size k : Nat} {xs : List α}

/-- The block of a list after a number of blocks of the same size. -/
def block (size : Nat) (xs : List α) (k : Nat) : List α :=
  (xs.drop (k * size)).take size

/-- A list in blocks of one size. The last may be shorter. -/
def blocks (size : Nat) (xs : List α) : List (List α) :=
  (List.range (xs.length ⌈/⌉ size)).map (block size xs)

theorem lt_ceilDiv_iff (hsize : 0 < size) {n : Nat} : k < n ⌈/⌉ size ↔ k * size < n := by
  rw [← not_le, ceilDiv_le_iff_le_mul hsize, not_le, Nat.mul_comm]

/-- A number of things takes one block for the first ones, and blocks for the rest. -/
theorem ceilDiv_succ_block (hsize : 0 < size) {n : Nat} (hn : 0 < n) :
    n ⌈/⌉ size = 1 + (n - size) ⌈/⌉ size := by
  rw [Nat.ceilDiv_eq_add_pred_div, Nat.ceilDiv_eq_add_pred_div]
  by_cases hle : n ≤ size
  · have hone : n + size - 1 = (n - 1) + size := by omega
    rw [hone, Nat.add_div_right _ hsize, Nat.div_eq_of_lt (by omega), Nat.sub_eq_zero_of_le hle,
      Nat.zero_add, Nat.div_eq_of_lt (by omega)]
  · have hmore : n + size - 1 = (n - size + size - 1) + size := by omega
    rw [hmore, Nat.add_div_right _ hsize, Nat.add_comm]

/-- Before a block that is not empty there is one block more than after it. -/
theorem ceilDiv_left (hsize : 0 < size) {n : Nat} (hmore : k * size < n) :
    (n - k * size) ⌈/⌉ size = 1 + (n - (k + 1) * size) ⌈/⌉ size := by
  rw [ceilDiv_succ_block hsize (by omega), Nat.sub_sub, Nat.succ_mul]

theorem length_block : (block size xs k).length = min size (xs.length - k * size) := by
  unfold block
  rw [List.length_take, List.length_drop]

theorem length_block_le : (block size xs k).length ≤ size := by
  rw [length_block]
  exact Nat.min_le_left ..

theorem block_eq_nil_iff (hsize : 0 < size) : block size xs k = [] ↔ xs.length ≤ k * size := by
  rw [← List.length_eq_zero_iff, length_block]
  omega

/-- A block is full if it does not reach beyond the end of the list. -/
theorem length_block_eq_iff (hsize : 0 < size) :
    (block size xs k).length = size ↔ (k + 1) * size ≤ xs.length := by
  rw [length_block, Nat.add_mul, Nat.one_mul]
  omega

/-- What is left after a number of blocks is the next block and what is left after it. -/
theorem drop_eq_block_append :
    xs.drop (k * size) = block size xs k ++ xs.drop ((k + 1) * size) := by
  unfold block
  rw [Nat.add_mul, Nat.one_mul, ← List.drop_drop, List.take_append_drop]

theorem take_eq_flatMap_block (count : Nat) :
    xs.take (count * size) = (List.range count).flatMap (block size xs) := by
  induction count with
  | zero => simp
  | succ count ih =>
    rw [Nat.add_mul, Nat.one_mul, List.take_add, ih, List.range_succ, List.flatMap_append,
      List.flatMap_singleton]
    rfl

/-- The blocks of a list, one after the other, are the list. -/
theorem flatten_blocks (hsize : 0 < size) (xs : List α) : (blocks size xs).flatten = xs := by
  have hwhole : xs.length ≤ xs.length ⌈/⌉ size * size := by
    rw [Nat.mul_comm]
    exact (ceilDiv_le_iff_le_mul hsize).1 le_rfl
  unfold blocks
  rw [← List.flatMap_def, ← take_eq_flatMap_block, List.take_of_length_le hwhole]

end Blocks

/-! ## Executors with a fixed result -/

/-- A query with another order and other bounds can be written if its order can. -/
theorem Query.compiles_bounded {d : Dialect} {q : Query} (h : q.Compiles d)
    {orders : List OrderKey} (horders : ∀ o ∈ orders, o.Fits) (limit offset : Option Nat) :
    Query.Compiles d { q with orders, limit, offset } := by
  have hall := q.compiles_iff.1 h
  rw [Query.statements_eq, List.forall_mem_cons] at hall
  obtain ⟨hself, hinside⟩ := hall
  refine (Query.compiles_iff _).2 ?_
  rw [Query.statements_eq, List.forall_mem_cons]
  refine ⟨?_, hinside⟩
  exact {
    joins := hself.joins
    filters := hself.filters
    groups := hself.groups
    havings := hself.havings
    orders := horders
    selects := hself.selects }

theorem Query.Compiles.orders_fit {d : Dialect} {q : Query} (h : q.Compiles d) :
    ∀ o ∈ q.orders, o.Fits :=
  (q.compiles_iff.1 h q (by rw [Query.statements_eq]; exact List.mem_cons_self)).orders

variable {σ : Type}

/-- An executor answers every stretch of a number of rows of a query with that stretch of one fixed
list, as the rows are read. -/
structure Engine.Lists (e : Engine σ) (q : Query) (count : Nat) (R : List Row) : Prop where
  compiles : q.Compiles e.dialect
  answers : ∀ offset s x, Statement.select e.dialect (q.rows offset count) = .ok s →
    ∃ x', (e.readRows s).Returns x ((R.drop offset).take count) x'

/-- The statement for a stretch of rows can be written. -/
theorem Engine.Lists.written {e : Engine σ} {q : Query} {count : Nat} {R : List Row}
    (h : e.Lists q count R) (offset : Nat) :
    ∃ s, Statement.select e.dialect (q.rows offset count) = .ok s := by
  obtain ⟨f, hf⟩ :=
    Query.compiles_bounded h.compiles h.compiles.orders_fit (some count) (some offset)
  exact ⟨_, Result.bind_eq_ok.2 ⟨f, hf, rfl⟩⟩

/-! ## An executor that reads the offset -/

/-- The number that a text ends with. -/
def lastNumber (s : String) : Nat :=
  Nat.ofDigitChars 10 (s.toList.reverse.takeWhile Char.isDigit).reverse 0

theorem lastNumber_append (s : String) (n : Nat) : lastNumber (s ++ " " ++ toString n) = n := by
  have hdigits : ∀ c ∈ (Nat.toDigits 10 n).reverse, c.isDigit = true := by
    intro c hc
    exact Nat.isDigit_of_mem_toDigits (by decide) (by decide) (List.mem_reverse.1 hc)
  have hlast : (s ++ " " ++ toString n).toList.reverse.takeWhile Char.isDigit
      = (Nat.toDigits 10 n).reverse := by
    simp only [String.toList_append, Nat.toString_eq_ofList_toDigits, String.toList_ofList,
      List.reverse_append]
    rw [List.takeWhile_append_of_pos hdigits]
    exact List.append_nil _
  unfold lastNumber
  rw [hlast, List.reverse_reverse]
  exact Nat.ofDigitChars_ten_toDigits

/-- Without a lock the offset is the last section. -/
theorem tailFragments_offset {orders : List OrderKey} {limit : Option Nat} {offset : Nat}
    {tail : List Fragment} (h : tailFragments orders limit (some offset) none = .ok tail) :
    ∃ before, tail = before ++ [.text ("OFFSET " ++ toString offset)] := by
  obtain ⟨sorted, -, h⟩ := Result.bind_eq_ok.1 h
  cases h
  exact ⟨_, List.append_nil _⟩

/-- The statement for a stretch of rows without a lock ends with the number of rows before it. -/
theorem lastNumber_rows {d : Dialect} {q : Query} {offset count : Nat} {s : Statement}
    (hlock : q.lock = none) (hs : Statement.select d (q.rows offset count) = .ok s) :
    lastNumber s.sql = offset := by
  obtain ⟨f, hf, h⟩ := Result.bind_eq_ok.1 hs
  cases h
  obtain @⟨joined, grouped, branches, tail, conditions, head, -, -, -, -, htail, -⟩ :=
    Query.written_of_fragment hf
  rw [show (q.rows offset count).lock = none from hlock] at htail
  obtain ⟨bounds, rfl⟩ := tailFragments_offset htail
  rw [← List.append_assoc]
  obtain ⟨before, hbefore⟩ := Fragment.render_spaced_concat d.placeholder
    (sourceFragments (q.rows offset count).table ++ joined ++ whereFragments conditions ++ grouped
      ++ branches ++ bounds) ("OFFSET " ++ toString offset) 0
  refine Eq.trans (congrArg (fun t => lastNumber (_ ++ t)) hbefore) ?_
  have hend : before ++ " " ++ ("OFFSET " ++ toString offset)
      = before ++ " OFFSET" ++ " " ++ toString offset := by
    rw [String.append_assoc, String.append_assoc, String.append_assoc]
    rfl
  rw [hend, ← String.append_assoc, ← String.append_assoc]
  exact lastNumber_append _ offset

/-- The rows with the numbers from one on. -/
def numberedRows (n : Nat) : List Row :=
  (List.range n).map fun k => (numbered (k + 1)).row

theorem numberedRows_normalize {n : Nat} {row : Row} (h : row ∈ numberedRows n) :
    row.normalize = row := by
  obtain ⟨k, -, rfl⟩ := List.mem_map.1 h
  rfl

/-- A number of the numbered rows, from the offset on that a text ends with. -/
def numberedStretch (n count : Nat) (sql : String) : List Row :=
  ((numberedRows n).drop (lastNumber sql)).take count

/-- An engine whose executor answers with numbered rows. -/
def numberedEngine (n count : Nat) : Engine (List Value) where
  dialect := .mysql
  statements := {
    query sql _ := return { rows := numberedStretch n count sql }
    queryOne _ _ := return none
    execute _ _ := return { rowsAffected := .int 0 } }

theorem numberedEngine_open (n count : Nat) :
    (numberedEngine n count).Open { outside := [] } where
  uncached _ := rfl
  ready _ hlimiter := nomatch hlimiter

theorem numberedEngine_lists (n count : Nat) {q : Query} (hcompiles : q.Compiles .mysql)
    (hlock : q.lock = none) : (numberedEngine n count).Lists q count (numberedRows n) where
  compiles := hcompiles
  answers := by
    intro offset s x hs
    have hread : (numberedStretch n count s.sql).map Row.normalize
        = ((numberedRows n).drop offset).take count := by
      rw [numberedStretch, lastNumber_rows hlock hs]
      refine (List.map_congr_left fun row hrow => ?_).trans (List.map_id _)
      exact numberedRows_normalize (List.mem_of_mem_drop (List.mem_of_mem_take hrow))
    rw [← hread]
    exact ⟨x, rfl⟩

end SqlQuery
