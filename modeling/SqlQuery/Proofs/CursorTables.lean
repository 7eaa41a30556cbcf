import SqlQuery.Execution.Batches
import SqlQuery.Proofs.KeyedRows
import Mathlib.Data.List.Sort

/-!
# Tables, and the rows after a cursor

A database answers a SELECT from a table: it keeps the rows that the WHERE section reaches, puts
them in order, and hands out as many as are asked for (`Table.answer`). What is known of a row is
the truth that it gives to conditions and the columns that are reported of it.

Asked for the rows after a cursor, it hands out a `Batch`: rows of the base query in the order of
the column, beyond the cursor, and none left out before the last of them.
-/

namespace SqlQuery

/-! ## What a query after a cursor asks for -/

section AfterCursor

variable {q q' : Query} {column : String} {last : Value} {count : Nat}

/-- Filters are isolated to one alternative, which holds for the same rows. -/
theorem Query.filterFrame_isolated (row : Condition → Truth) (filters : List Filter) :
    (filterFrame row (isolated filters)).done = .no
    ∧ ((filterFrame row (isolated filters)).current = .yes
      ↔ Token.read row (filterTokens filters) = .yes) := by
  unfold isolated
  by_cases hor : filters.any (·.connective == .or) = true
  · rw [if_pos hor, read_filterTokens]
    have hcurrent : (filterFrame row [Filter.of (.group filters)]).current
        = Truth.and .yes (filterFrame row filters).value := rfl
    refine ⟨rfl, ?_⟩
    rw [hcurrent, Truth.and_eq_yes]
    simp only [true_and]
  · rw [if_neg hor]
    have hand : ∀ f ∈ filters, f.connective = .and := by
      intro f hf
      cases hconnective : f.connective with
      | and => rfl
      | or =>
        refine absurd (List.any_eq_true.2 ⟨f, hf, ?_⟩) hor
        rw [hconnective]
        rfl
    have hframe : filterFrame row ([] ++ filters) = laterFrame row {} filters :=
      filterFrame_append row hand
    rw [List.nil_append] at hframe
    have hdone : (filterFrame row filters).done = .no := by
      rw [hframe, laterFrame_done_of_and row hand]
    refine ⟨hdone, ?_⟩
    rw [read_filterTokens, Frame.value, hdone, Truth.or_eq_yes]
    simp

theorem OrderKey.ascending_eq_ok {order : OrderKey} (h : OrderKey.ascending column = .ok order) :
    ∃ unread, order = .column column .asc unread := by
  obtain ⟨name, hname, horder⟩ := Result.bind_eq_ok.1 h
  cases horder
  unfold KeyParts.needColumn at hname
  by_cases hempty : column = ""
  · subst hempty
    cases hname
  · rw [given_some hempty] at hname
    cases hname
    exact ⟨_, rfl⟩

/-- A query after a cursor: in the order of the column, with a bound, and for the rows of the query
beyond the cursor. -/
theorem Query.afterCursor_eq_ok (h : q.afterCursor column last count = .ok q') :
    (∃ unread, q'.orders = [.column column .asc unread])
    ∧ q'.limit = some count ∧ q'.offset = none ∧ q'.unions = q.unions
    ∧ ∀ row, q'.Reaches row
      ↔ q.Reaches row ∧ (last ≠ .null → row (.compare column .gt last) = .yes) := by
  obtain ⟨order, horder, h₁⟩ := Result.bind_eq_ok.1 h
  obtain ⟨unread, rfl⟩ := OrderKey.ascending_eq_ok horder
  by_cases hlast : last = .null
  · subst hlast
    cases h₁
    refine ⟨⟨unread, rfl⟩, rfl, rfl, rfl, fun row => ?_⟩
    unfold Query.Reaches
    simp
  · have hbounded : ∃ f, Filter.comparing column .gt last = .ok f ∧ q' = { q with
        orders := [.column column .asc unread], limit := some count, offset := none
        filters := isolated q.filters ++ [f] } := by
      cases last with
      | null => exact absurd rfl hlast
      | _ =>
        obtain ⟨f, hf, h₂⟩ := Result.bind_eq_ok.1 h₁
        cases h₂
        exact ⟨f, hf, rfl⟩
    obtain ⟨f, hf, rfl⟩ := hbounded
    obtain ⟨hand, hcondition⟩ := Filter.comparing_eq_ok hf
    refine ⟨⟨unread, rfl⟩, rfl, rfl, rfl, fun row => ?_⟩
    obtain ⟨hdone, hcurrent⟩ := filterFrame_isolated row q.filters
    have hjoined : ∀ g ∈ [f], g.connective = .and := by
      simpa using hand
    unfold Query.Reaches
    rw [read_append_eq_yes row hjoined, hdone, hcurrent]
    simp [hcondition, hlast, Condition.truth]

end AfterCursor

/-! ## Tables -/

/-- What is known of a row of a table: the truth that it gives to conditions, and the columns that
are reported of it. -/
structure Record where
  truth : Condition → Truth
  reported : Row

/-- The row as it is read. -/
def Record.row (r : Record) : Row :=
  r.reported.normalize

abbrev Table := List Record

instance (q : Query) (row : Condition → Truth) : Decidable (q.Reaches row) :=
  inferInstanceAs (Decidable (_ = _))

section Ordered

variable {σ κ : Type} [LinearOrder κ] (rank : Value → κ) (column : String)

/-- Where a row stands in the order of the column, by the value that is read. -/
def Row.place (row : Row) : κ :=
  rank (row.get (resultName column))

/-- Rows in the order of the column, if that is asked for. -/
def Table.inOrder (t : Table) : List OrderKey → Table
  | [.column name .asc _] =>
    if name = column then
      t.insertionSort fun r r' => r.row.place rank column ≤ r'.row.place rank column
    else t
  | _ => t

/-- What a table answers to a query: the rows that are reached, in order, within the bounds. -/
def Table.answer (t : Table) (q : Query) : List Row :=
  let reached := t.filter fun r => q.Reaches r.truth
  let following := (Table.inOrder rank column reached q.orders).drop (q.offset.getD 0)
  let shown := match q.limit with
    | some count => following.take count
    | none => following
  shown.map Record.reported

/-- Some of the rows of a query that are beyond a cursor, in order. No row before the last of them
is left out, and none at all if there are fewer than were asked for. -/
structure Table.Batch (t : Table) (q : Query) (last : Value) (count : Nat) (batch : List Row) :
    Prop where
  ascending : batch.Pairwise fun row row' => row.place rank column < row'.place rank column
  held : ∀ row ∈ batch, ∃ r ∈ t, r.row = row
  beyond : ∀ row ∈ batch, last ≠ .null → rank last < row.place rank column
  reached : ∀ r ∈ t, q.Reaches r.truth → (last ≠ .null → rank last < r.row.place rank column) →
    (batch.length < count ∨ ∃ row ∈ batch, r.row.place rank column ≤ row.place rank column) →
    r.row ∈ batch

/-- The column is a key of tables, and values that are read of it are compared by their ranks. -/
structure KeyColumn (table : σ → Table) : Prop where
  present : ∀ s, ∀ r ∈ table s, r.row.get (resultName column) ≠ .null
  unique : ∀ s, ((table s).map fun r => r.row.place rank column).Nodup
  compared : ∀ s s', ∀ r ∈ table s, ∀ r' ∈ table s',
    (r.truth (.compare column .gt (r'.row.get (resultName column))) = .yes
      ↔ r'.row.place rank column < r.row.place rank column)

variable {rank column}

theorem Table.mem_inOrder {t : Table} {unread : List Value} {r : Record} :
    r ∈ t.inOrder rank column [.column column .asc unread] ↔ r ∈ t := by
  have horder : t.inOrder rank column [.column column .asc unread] = t.insertionSort _ := if_pos rfl
  rw [horder, List.mem_insertionSort]

/-- Rows of which no two stand at the same place are strictly in order. -/
theorem Table.inOrder_ascending {t : Table} (unread : List Value)
    (h : (t.map fun r => r.row.place rank column).Nodup) :
    (t.inOrder rank column [.column column .asc unread]).Pairwise
      fun r r' => r.row.place rank column < r'.row.place rank column := by
  let le (r r' : Record) : Prop := r.row.place rank column ≤ r'.row.place rank column
  have : Std.Total le := ⟨fun r r' => le_total (r.row.place rank column) _⟩
  have : IsTrans Record le := ⟨fun r r' r'' => le_trans⟩
  have horder : t.inOrder rank column [.column column .asc unread] = t.insertionSort le :=
    if_pos rfl
  have hle : (t.insertionSort le).Pairwise le := List.pairwise_insertionSort le t
  have hne : (t.insertionSort le).Pairwise
      fun r r' => r.row.place rank column ≠ r'.row.place rank column :=
    List.pairwise_map.1 (((List.perm_insertionSort le t).map _).nodup_iff.2 h)
  rw [horder]
  exact (hle.and hne).imp fun hboth => lt_of_le_of_ne hboth.1 hboth.2

/-- A table answers a query after a cursor with a batch. -/
theorem Table.batch_of_answer {t : Table} {q q' : Query} {last : Value} {count : Nat}
    (hunique : (t.map fun r => r.row.place rank column).Nodup)
    (hcompared : last ≠ .null → ∀ r ∈ t, (r.truth (.compare column .gt last) = .yes
      ↔ rank last < r.row.place rank column))
    (h : q.afterCursor column last count = .ok q') :
    t.Batch rank column q last count ((t.answer rank column q').map Row.normalize) := by
  obtain ⟨⟨unread, horders⟩, hlimit, hoffset, -, hreaches⟩ := Query.afterCursor_eq_ok h
  let reached := t.filter fun r => q'.Reaches r.truth
  let ordered := Table.inOrder rank column reached [.column column .asc unread]
  have hmem : ∀ r, r ∈ ordered
      ↔ r ∈ t ∧ q.Reaches r.truth ∧ (last ≠ .null → rank last < r.row.place rank column) := by
    intro r
    rw [Table.mem_inOrder, List.mem_filter, decide_eq_true_iff, hreaches]
    constructor
    · rintro ⟨ht, hq, hcursor⟩
      exact ⟨ht, hq, fun hlast => (hcompared hlast r ht).1 (hcursor hlast)⟩
    · rintro ⟨ht, hq, hbeyond⟩
      exact ⟨ht, hq, fun hlast => (hcompared hlast r ht).2 (hbeyond hlast)⟩
  have hascending : ordered.Pairwise
      fun r r' => r.row.place rank column < r'.row.place rank column := by
    refine Table.inOrder_ascending unread ?_
    exact (List.filter_sublist.map _).nodup hunique
  have hrows : (t.answer rank column q').map Row.normalize = (ordered.take count).map Record.row := by
    unfold Table.answer
    rw [horders, hlimit, hoffset, List.map_map]
    rfl
  rw [hrows]
  refine ⟨?_, ?_, ?_, ?_⟩
  · exact List.pairwise_map.2 (hascending.sublist (List.take_sublist count ordered))
  · intro row hrow
    obtain ⟨r, hr, rfl⟩ := List.mem_map.1 hrow
    exact ⟨r, ((hmem r).1 (List.mem_of_mem_take hr)).1, rfl⟩
  · intro row hrow
    obtain ⟨r, hr, rfl⟩ := List.mem_map.1 hrow
    exact ((hmem r).1 (List.mem_of_mem_take hr)).2.2
  · intro r ht hq hbeyond hwithin
    have hr : r ∈ ordered.take count ++ ordered.drop count := by
      rw [List.take_append_drop]
      exact (hmem r).2 ⟨ht, hq, hbeyond⟩
    obtain hshown | hcut := List.mem_append.1 hr
    · exact List.mem_map_of_mem hshown
    · -- a row that was cut off stands after every row that was not
      obtain hshort | ⟨row, hrow, hle⟩ := hwithin
      · rw [List.length_map, List.length_take] at hshort
        have hlength := List.length_pos_of_mem hcut
        rw [List.length_drop] at hlength
        omega
      · obtain ⟨r', hr', rfl⟩ := List.mem_map.1 hrow
        rw [← List.take_append_drop count ordered, List.pairwise_append] at hascending
        exact absurd (hascending.2.2 r' hr' r hcut) (not_lt_of_ge hle)

end Ordered

end SqlQuery
