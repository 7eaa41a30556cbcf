import SqlQuery.Proofs.CursorBounds
import SqlQuery.Proofs.FilterTexts

/-!
# The bound of a cursor after raw filters

A query after a cursor has its filters in parentheses if one of them is joined by OR. An OR in the
text of a raw filter joins no filters, so it brings no parentheses, but whoever reads the statement
reads it like any other: in `a = 1 OR b = 2 AND id > ?` the cursor bounds the second alternative
only.

So the cursor bounds the whole section exactly if a filter is joined by OR, which puts all of them
in parentheses, or if no filter has an OR of its own outside quotes and parentheses
(`BoundedText.bounds_iff`). A section with such an OR is true for rows that are not beyond the
cursor, and they are read again on each page.
-/

namespace SqlQuery

open Fragment

/-! ## Sections that end with a bound -/

/-- The texts of filters, in parentheses if one of them is joined by OR. -/
def isolatedTexts (texts : List (Connective × String)) : List (Connective × String) :=
  if texts.any (·.1 == .or) then [(.and, "(" ++ sectionText texts ++ ")")] else texts

section Texts

variable {texts : List (Connective × String)} {bound : String}

theorem balanced_isolatedTexts (h : ∀ t ∈ texts, Balanced t.2) :
    ∀ t ∈ isolatedTexts texts, Balanced t.2 := by
  unfold isolatedTexts
  split
  · exact List.forall_mem_singleton.2 (balanced_sectionText h).enclosed
  · exact h

/-- There is no OR among isolated texts exactly if parentheses enclose all of them or none has an
OR. -/
theorem or_notMem_isolated (h : ∀ t ∈ texts, Balanced t.2) :
    .or ∉ connectives (sectionText (isolatedTexts texts))
      ↔ (∃ t ∈ texts, t.1 = .or) ∨ ∀ t ∈ texts, .or ∉ connectives t.2 := by
  have hany : texts.any (·.1 == .or) = true ↔ ∃ t ∈ texts, t.1 = .or := by
    simp
  unfold isolatedTexts
  by_cases hor : ∃ t ∈ texts, t.1 = .or
  · rw [if_pos (hany.2 hor)]
    have hnone : connectives (sectionText [(.and, "(" ++ sectionText texts ++ ")")]) = [] := by
      rw [sectionText, laterText, String.append_empty]
      exact connectives_enclosed (balanced_sectionText h)
    rw [hnone]
    exact iff_of_true List.not_mem_nil (.inl hor)
  · rw [if_neg (mt hany.1 hor), or_mem_connectives_sectionText h]
    have htail : ¬∃ t ∈ texts.tail, t.1 = .or := by
      rintro ⟨t, ht, hword⟩
      exact hor ⟨t, List.mem_of_mem_tail ht, hword⟩
    simp [hor, htail]

/-- A section that ends with a bound is read as the section before it, AND, and the bound. -/
theorem lexemes_bounded (h : ∀ t ∈ texts, Balanced t.2) (hsome : texts ≠ [])
    (hbound : connectives bound = []) : lexemes (sectionText (texts ++ [(.and, bound)]))
      = (lexemes (sectionText texts) ++ [.char ' '])
        ++ .word .and :: (' ' :: bound.toList).map .char := by
  have hlast : sectionText texts ++ laterText [(.and, bound)]
      = sectionText texts ++ " " ++ ("AND" ++ " " ++ bound) := by
    simp only [laterText, Connective.text, String.append_assoc, String.append_empty]
  have hword : lexemes "AND" = [.word .and] := by
    decide
  rw [sectionText_append hsome, hlast, lexemes_append_blank (balanced_sectionText h),
    lexemes_append_blank (by decide), hword, lexemes_of_no_connectives hbound, List.append_assoc]
  rfl

theorem connectives_bounded (h : ∀ t ∈ texts, Balanced t.2) (hbound : connectives bound = []) :
    connectives (sectionText (texts ++ [(.and, bound)]))
      = connectives (sectionText texts) ++ if texts.isEmpty then [] else [.and] := by
  by_cases hsome : texts = []
  · subst hsome
    show connectives (bound ++ "") = connectives "" ++ []
    rw [String.append_empty, hbound]
    decide
  · rw [List.isEmpty_eq_false_iff.2 hsome]
    unfold connectives
    rw [lexemes_bounded h hsome hbound, List.filterMap_append, List.filterMap_append]
    simp only [List.filterMap_cons, Lexeme.word?, Lexeme.filterMap_word_char, List.filterMap_nil,
      List.append_nil, Bool.false_eq_true, if_false]

/-- The bound is the last condition that is read. -/
theorem getLast?_conditionTexts_bounded (h : ∀ t ∈ texts, Balanced t.2)
    (hbound : connectives bound = []) :
    (conditionTexts (sectionText (texts ++ [(.and, bound)]))).getLast?
      = some (if texts.isEmpty then bound else " " ++ bound) := by
  unfold conditionTexts
  by_cases hsome : texts = []
  · subst hsome
    show ((Lexeme.between (lexemes (bound ++ ""))).map _).getLast? = some bound
    rw [String.append_empty, lexemes_of_no_connectives hbound, Lexeme.between_char]
    exact congrArg some String.ofList_toList
  · have hblank : String.ofList (' ' :: bound.toList) = " " ++ bound := by
      rw [← String.toList_inj, String.toList_ofList, String.toList_append]
      rfl
    rw [List.isEmpty_eq_false_iff.2 hsome, lexemes_bounded h hsome hbound,
      Lexeme.between_append_word, Lexeme.between_char, List.map_append, List.map_singleton,
      List.getLast?_concat, hblank]
    rfl

end Texts

/-- How a section is read that shows filters and a bound after them. A row gives each condition of
the text a truth by its place. -/
structure BoundedText (texts : List (Connective × String)) (bound text : String) : Prop where
  shown : text = sectionText (isolatedTexts texts ++ [(.and, bound)])
  /-- The bound is the last condition, after a blank if there are others. -/
  last : (conditionTexts text)[(connectives text).length]?
    = some (if texts.isEmpty then bound else " " ++ bound)
  /-- The bound belongs to the last alternative of the filters. -/
  truth : ∀ row, textTruth row text
    = (wordsFrame row (connectives (sectionText (isolatedTexts texts)))).done.or
      ((wordsFrame row (connectives (sectionText (isolatedTexts texts)))).current.and
        (row (connectives text).length))
  /-- It bounds them all, for any truth of the conditions, exactly if all are in parentheses or none
  has an OR of its own. -/
  bounds_iff : (∀ row, row (connectives text).length ≠ .yes → textTruth row text ≠ .yes)
    ↔ (∃ t ∈ texts, t.1 = .or) ∨ ∀ t ∈ texts, .or ∉ connectives t.2

theorem BoundedText.of_balanced {texts : List (Connective × String)} {bound : String}
    (h : ∀ t ∈ texts, Balanced t.2) (hbound : connectives bound = []) :
    BoundedText texts bound (sectionText (isolatedTexts texts ++ [(.and, bound)])) := by
  have hisolated := balanced_isolatedTexts h
  have hwords := connectives_bounded hisolated hbound
  have hempty : (isolatedTexts texts).isEmpty = texts.isEmpty := by
    unfold isolatedTexts
    split
    · cases texts <;> simp_all
    · rfl
  refine ⟨rfl, ?_, ?_, ?_⟩
  · rw [← hempty, ← getLast?_conditionTexts_bounded hisolated hbound, List.getLast?_eq_getElem?,
      length_conditionTexts, Nat.add_sub_cancel]
  · intro row
    unfold textTruth
    rw [hwords]
    by_cases hnone : isolatedTexts texts = []
    · have hempty : connectives "" = [] := by
        decide
      rw [hnone, List.isEmpty_nil, if_pos rfl, List.append_nil, sectionText, hempty]
      show Truth.no.or (Truth.yes.and (row 0)) = Truth.no.or ((Truth.yes.and (row 0)).and (row 0))
      cases row 0 <;> rfl
    · rw [List.isEmpty_eq_false_iff.2 hnone, if_neg Bool.false_ne_true, wordsFrame_concat,
        List.length_append]
      rfl
  · unfold textTruth
    rw [last_bounds_iff, hwords, ← or_notMem_isolated h]
    split <;> simp

/-! ## Statements after a cursor -/

section Filters

variable {d : Dialect} {filters : List Filter} {items : List (Connective × Fragment)}

theorem filterFragments_isolated (placeholder : Nat → String)
    (h : filterFragments d filters = .ok items) :
    ∃ isolated, filterFragments d (Query.isolated filters) = .ok isolated
      ∧ ∀ start, shownTexts placeholder start isolated
        = isolatedTexts (shownTexts placeholder start items) := by
  unfold isolatedTexts
  by_cases hor : filters.any (·.connective == .or) = true
  · refine ⟨[(.and, text "(" ++ connected items ++ text ")")], ?_, fun start => ?_⟩
    · rw [Query.isolated, if_pos hor, Filter.of, filterFragments, Condition.fragment, h]
      rfl
    · rw [any_shownTexts placeholder h, if_pos hor, ← render_connected]
      rfl
  · refine ⟨items, ?_, fun start => ?_⟩
    · rw [Query.isolated, if_neg hor]
      exact h
    · rw [any_shownTexts placeholder h, if_neg hor]

/-- The text of a bound is no condition but the bound. -/
theorem connectives_bound (hd : d.Plain) {column : String} (hcolumn : Balanced column)
    (hwords : connectives column = []) (n : Nat) :
    connectives (column ++ " > " ++ d.placeholder n) = [] := by
  have hmarker : connectives ("> " ++ d.placeholder n) = [] := by
    refine connectives_of_plain fun c hc => ?_
    rw [String.toList_append, List.mem_append] at hc
    obtain hc | hc := hc
    · obtain rfl | rfl : c = '>' ∨ c = ' ' := by
        simpa using hc
      · decide
      · decide
    · exact hd n c hc
  have hsplit : column ++ " > " ++ d.placeholder n
      = column ++ " " ++ ("> " ++ d.placeholder n) := by
    rw [show " > " = " " ++ "> " from rfl]
    simp only [String.append_assoc]
  unfold connectives at *
  rw [hsplit, lexemes_append_blank hcolumn, List.filterMap_append, hwords]
  exact hmarker

end Filters

/-- A statement whose WHERE section shows the filters of a query and then the bound of a column. -/
structure Query.BoundedIn (d : Dialect) (q : Query) (column : String) (s : Statement)
    (texts : List (Connective × String)) (bound text : String) : Prop where
  filters : ∃ items start, filterFragments d q.filters = .ok items
    ∧ texts = shownTexts d.placeholder start items
  marker : ∃ n, bound = column ++ " > " ++ d.placeholder n
  located : ∃ before after, s.sql = before ++ " WHERE " ++ text ++ after
  read : BoundedText texts bound text

/-- **A cursor bounds a WHERE section that is read as text exactly if no OR escapes.** For every
query that can be written and whose filters are balanced, every named column that is balanced and
has no connective, and every cursor that is no null, there is a statement for the rows after the
cursor. Its WHERE section shows the filters, in parentheses if one of them is joined by OR, and then
the bound. Split at the connectives outside quotes and parentheses, and whatever truth a row gives
to each of the conditions, the section is not true where the bound is not, if and only if a filter
is joined by OR or no filter has an OR there in its own text. -/
theorem Query.afterCursor_bounds_text_iff {d : Dialect} (hd : d.Plain) {q : Query}
    (hcompiles : q.Compiles d) (hbalanced : BalancedFilters d q.filters) {column : ColumnName}
    (hnamed : column.text ≠ "") (hcolumn : Balanced column.text)
    (hwords : connectives column.text = []) {cursor : Value} (hcursor : cursor ≠ .null)
    (count : Nat) : ∃ q' s, q.afterCursor column cursor count = .ok q'
      ∧ Statement.select d q' = .ok s
      ∧ ∃ texts bound text, q.BoundedIn d column.text s texts bound text := by
  obtain ⟨q', hq', f', hf'⟩ := afterCursor_compiles hcompiles hnamed cursor count
  refine ⟨q', .ofFragment d f', hq', Result.bind_eq_ok.2 ⟨f', hf', rfl⟩, ?_⟩
  obtain ⟨unread, unread', rfl⟩ := afterCursor_eq hcursor hq'
  obtain ⟨f, hf⟩ := hcompiles
  obtain ⟨-, hitems, -, -, -, -⟩ := Query.written_of_fragment hf
  rename_i items _
  obtain ⟨shown, hisolated, hshown⟩ := filterFragments_isolated d.placeholder hitems
  have hfilters : filterFragments d (isolated q.filters
      ++ [⟨.and, .compare column.text .gt cursor, unread'⟩]) = .ok (shown
      ++ [(.and, comparedWith d column.text .gt cursor)]) :=
    filterFragments_append hisolated rfl
  obtain ⟨before, after, start, hsql⟩ :=
    (Query.written_of_fragment hf').where_shown hfilters (by simp) d.placeholder
  have htexts := balanced_shownTexts hd q.filters hbalanced hitems start
  let n := start + (shown.map fun i => i.2.size).sum + 1
  have hmarker : shownTexts d.placeholder (start + (shown.map fun i => i.2.size).sum)
      [(.and, comparedWith d column.text .gt cursor)]
      = [(.and, column.text ++ " > " ++ d.placeholder n)] := by
    show [(Connective.and, column.text ++ " " ++ ">" ++ " " ++ d.placeholder n)] = _
    rw [show " > " = " " ++ (">" ++ " ") from rfl]
    simp only [String.append_assoc]
  rw [shownTexts_append, hshown, hmarker] at hsql
  exact ⟨shownTexts d.placeholder start items, column.text ++ " > " ++ d.placeholder n, _,
    ⟨items, start, hitems, rfl⟩, ⟨n, rfl⟩, ⟨before, after, hsql⟩,
    .of_balanced htexts (connectives_bound hd hcolumn hwords n)⟩

/-- Rows with a raw mark or with another. -/
def rawOrMark : Query where
  table := some "t"
  filters := [.of (.raw "a = ? OR note = ' OR ('" [.int 1]), .of (.compare "b" .eq (.int 2)) .or]

/-- The OR between the filters puts the raw one in parentheses, so its own OR does no harm. -/
theorem rawOrMark_bounded : ∃ q' s, rawOrMark.afterCursor ("id" : String) (.int 5) 2 = .ok q'
    ∧ Statement.select .postgres q' = .ok s
    ∧ s.sql = "SELECT * FROM t WHERE (a = $1 OR note = ' OR (' OR b = $2) AND id > $3"
      ++ " ORDER BY id ASC LIMIT 2"
    ∧ ∃ texts bound text, rawOrMark.BoundedIn .postgres "id" s texts bound text
      ∧ ∀ row, row (connectives text).length ≠ .yes → textTruth row text ≠ .yes := by
  have hcompiles : rawOrMark.Compiles .postgres := by
    have hsome : (rawOrMark.fragment .postgres).toOption.isSome = true := by
      decide +kernel
    unfold Query.Compiles
    cases hf : rawOrMark.fragment .postgres with
    | ok f => exact ⟨f, rfl⟩
    | error e =>
      rw [hf] at hsome
      cases hsome
  have hraw : Balanced "a = ? OR note = ' OR ('" := by
    decide +kernel
  have hmark : (Condition.compare "b" .eq (.int 2)).BalancedIn .postgres :=
    Condition.balancedIn_compare Dialect.plain_postgres (by decide) (by decide) _
  have hnamed : ColumnName.text ("id" : String) ≠ "" := by
    decide
  have hcursor : Value.int 5 ≠ .null := fun hnull => nomatch hnull
  obtain ⟨q', s, hq', hs, texts, bound, text, hread⟩ :=
    Query.afterCursor_bounds_text_iff Dialect.plain_postgres hcompiles ⟨hraw, hmark, trivial⟩
      hnamed (by decide) (by decide) hcursor 2
  refine ⟨q', s, hq', hs, ?_, texts, bound, text, hread, hread.read.bounds_iff.2 (.inl ?_)⟩
  · have hafter : rawOrMark.afterCursor ("id" : String) (.int 5) 2 = .ok _ := rfl
    have hsql : (Statement.select .postgres q').toOption.map Statement.sql
        = some ("SELECT * FROM t WHERE (a = $1 OR note = ' OR (' OR b = $2) AND id > $3"
          ++ " ORDER BY id ASC LIMIT 2") := by
      rw [Except.ok.inj (hq'.symm.trans hafter)]
      decide +kernel
    rw [hs] at hsql
    exact Option.some.inj hsql
  · obtain ⟨items, start, hitems, rfl⟩ := hread.filters
    have hword := any_shownTexts Dialect.postgres.placeholder hitems start
    obtain ⟨t, ht, hor⟩ := List.any_eq_true.1 (hword.trans rfl)
    exact ⟨t, ht, beq_iff_eq.1 hor⟩

/-- Rows with one mark or another, in a single raw filter. -/
def rawEither : Query where
  table := some "t"
  filters := [.of (.raw "a = 1 OR b = 2" [])]

/-- The first mark is enough for a row to be read that is not beyond the cursor. -/
theorem rawEither_escapes_cursor : Balanced "a = 1 OR b = 2"
    ∧ (∃ q', rawEither.afterCursor ("id" : String) (.int 5) 3 = .ok q'
      ∧ (Statement.select .mysql q').toOption.map Statement.sql
        = some ("SELECT * FROM t WHERE " ++ "a = 1 OR b = 2 AND id > ?"
          ++ " ORDER BY id ASC LIMIT 3"))
    ∧ conditionTexts "a = 1 OR b = 2 AND id > ?" = ["a = 1 ", " b = 2 ", " id > ?"]
    ∧ textTruth (fun | 0 => .yes | _ => .no) "a = 1 OR b = 2 AND id > ?" = .yes := by
  have hafter : rawEither.afterCursor ("id" : String) (.int 5) 3 = .ok _ := rfl
  refine ⟨by decide, ⟨_, hafter, ?_⟩, ?_, ?_⟩
  · decide +kernel
  · decide +kernel
  · decide +kernel

end SqlQuery
