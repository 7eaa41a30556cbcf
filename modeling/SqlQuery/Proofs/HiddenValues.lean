import SqlQuery.Proofs.BlankText

/-!
# Values do not reach the text

A request and its blank have the same template up to the values of slots, the same numbers, and
operands of which each is blank. The text is the template filled with the numbers, and filling
looks at no value. So requests with one blank have one text, and bindings that can differ only
where the requests differ.
-/

namespace SqlQuery

variable {d : Dialect}

/-! ## Rows -/

namespace Row

/-- A row without values names the same columns. -/
theorem foldl_blank {β : Type} (f : β → String → β) (row : Row) (b : β) :
    row.blank.foldl (fun b (c, _) => f b c) b = row.foldl (fun b (c, _) => f b c) b := by
  unfold Row.blank
  rw [List.foldl_map]

theorem get_blank (row : Row) (column : String) : row.blank.get column = .null := by
  induction row with
  | nil => rfl
  | cons entry rest ih =>
    obtain ⟨name, v⟩ := entry
    unfold Row.get Row.blank at ih ⊢
    rw [List.map_cons, List.lookup_cons]
    cases column == name with
    | true => rfl
    | false => exact ih

end Row

theorem unionColumns_blank (rows : List Row) :
    unionColumns (rows.map Row.blank) = unionColumns rows := by
  unfold unionColumns
  rw [List.foldl_map]
  congr 1
  funext columns row
  exact row.foldl_blank
    (fun columns c => if columns.contains c then columns else columns ++ [c]) columns

/-- The values that a row gives to columns. -/
theorem map_get_blank (columns : List String) (row : Row) :
    columns.map row.blank.get = blankValues (columns.map row.get) := by
  unfold blankValues
  rw [List.map_map]
  exact List.map_congr_left fun c _ => row.get_blank c

theorem rowTemplate_blank (columns : List String) (row : Row) :
    rowTemplate columns row.blank = (rowTemplate columns row).blank := by
  unfold rowTemplate
  rw [blank_enclosed, map_get_blank, listTemplate_blank]

theorem insertTemplate_blank (keyword : String) (table : Option String) (rows : List Row) :
    insertTemplate keyword table (rows.map Row.blank)
      = (insertTemplate keyword table rows).blank := by
  have each : (rows.map Row.blank).map (rowTemplate (unionColumns rows))
      = (rows.map (rowTemplate (unionColumns rows))).map Template.blank := by
    rw [List.map_map, List.map_map]
    exact List.map_congr_left fun row _ => rowTemplate_blank _ row
  unfold insertTemplate
  rw [unionColumns_blank, each, ← blank_intercalate]
  rfl

theorem insertOperands_blank (rows : List Row) :
    insertOperands (rows.map Row.blank) = (insertOperands rows).map Operand.blank := by
  unfold insertOperands
  rw [unionColumns_blank, List.flatMap_map, List.map_flatMap]
  refine List.flatMap_congr fun row _ => ?_
  rw [List.map_map]
  refine List.map_congr_left fun c _ => ?_
  show Operand.plain (row.blank.get c) = .plain .null
  rw [row.get_blank]

theorem setTemplate_blank (values : Row) :
    setTemplate values.blank = (setTemplate values).map Template.blank := by
  unfold setTemplate Row.blank
  rw [List.map_map, List.map_map]
  rfl

theorem setOperands_blank (values : Row) :
    setOperands values.blank = (setOperands values).map Operand.blank := by
  unfold setOperands Row.blank
  rw [List.map_map, List.map_map]
  rfl

/-! ## Statements that change rows -/

theorem Query.filters_blank (q : Query) : q.blank.filters = blankFilters q.filters := by
  cases q
  rw [Query.blank]

theorem Query.table_blank (q : Query) : q.blank.table = q.table := by
  cases q
  rw [Query.blank]

theorem Query.whereTemplate_blank (q : Query) :
    q.blank.whereTemplate d = (q.whereTemplate d).blank := by
  unfold Query.whereTemplate
  rw [q.filters_blank, isEmpty_blankFilters, filterTemplate_blank]
  cases q.filters with
  | nil => rfl
  | cons f rest => rfl

theorem updateTemplate_blank (q : Query) (sets : List Template) :
    updateTemplate d q.blank (sets.map Template.blank) = (updateTemplate d q sets).blank := by
  unfold updateTemplate
  rw [blank_append, q.table_blank, q.whereTemplate_blank, ← blank_intercalate]
  rfl

namespace Request

theorem setValues_blank (r : Request) :
    r.blank.setValues = r.setValues.map Operand.blank := by
  cases r with
  | select q => rfl
  | insert table values returning => exact insertOperands_blank [values]
  | insertBatch table rows returning => exact insertOperands_blank rows
  | upsert table rows target overwrite action => exact insertOperands_blank rows
  | insertOrIgnore table rows => exact insertOperands_blank rows
  | replace table rows => exact insertOperands_blank rows
  | update q values => exact setOperands_blank values
  | increment q column amount extra =>
    exact congrArg (List.cons _) (setOperands_blank extra)
  | jsonUpdate q column path v => rfl
  | jsonRemove q column path => rfl
  | delete q => rfl

theorem filters_blank (r : Request) : r.blank.filters = blankFilters r.filters := by
  cases r with
  | update q values => exact q.filters_blank
  | increment q column amount extra => exact q.filters_blank
  | jsonUpdate q column path v => exact q.filters_blank
  | jsonRemove q column path => exact q.filters_blank
  | delete q => exact q.filters_blank
  | _ => rfl

/-- Of a request that is no SELECT the values come before those of the filters. -/
theorem written_blank (r : Request) :
    r.blank.setValues ++ filterOperands r.blank.filters
      = (r.setValues ++ filterOperands r.filters).map Operand.blank := by
  rw [r.setValues_blank, r.filters_blank, filterOperands_blank, List.map_append]

theorem operands_blank (r : Request) : r.blank.operands = r.operands.map Operand.blank := by
  cases r with
  | select q => exact q.operands_blank
  | _ => exact written_blank _

theorem changed_blank (start : Nat) (r : Request) :
    numbersFrom start r.blank.setValues
        ++ filterNumbers (start + r.blank.setValues.length) r.blank.filters
      = numbersFrom start r.setValues
        ++ filterNumbers (start + r.setValues.length) r.filters := by
  rw [r.setValues_blank, r.filters_blank, filterNumbers_blank, numbersFrom_blank, List.length_map]

theorem numbers_blank (start : Nat) (r : Request) : r.blank.numbers start = r.numbers start := by
  cases r with
  | select q => exact q.numbers_blank start
  | _ => exact changed_blank start _

theorem template_blank (r : Request) : r.blank.template d = (r.template d).blank := by
  cases r with
  | select q => exact q.template_blank
  | insert table values returning =>
    show insertTemplate _ _ ([values].map Row.blank) ++ _ = _
    rw [insertTemplate_blank, template, blank_append]
    rfl
  | insertBatch table rows returning =>
    show insertTemplate _ _ (rows.map Row.blank) ++ _ = _
    rw [insertTemplate_blank, template, blank_append]
    rfl
  | upsert table rows target overwrite action =>
    rw [blank, template, template, unionColumns_blank, insertTemplate_blank]
    cases d.requireUpsert { columns := unionColumns rows, target, overwrite, action } with
    | ok tail =>
      dsimp only
      rw [blank_append]
      rfl
    | error failure => rfl
  | insertOrIgnore table rows =>
    rw [blank, template, template]
    cases d.insertOrIgnore with
    | none => rfl
    | some words =>
      obtain ⟨keyword, tail⟩ := words
      dsimp only
      rw [insertTemplate_blank, blank_append]
      cases tail.isEmpty <;> rfl
  | replace table rows =>
    rw [blank, template, template]
    cases d.replaceKeyword with
    | none => rfl
    | some keyword => exact insertTemplate_blank keyword table rows
  | update q values =>
    rw [blank, template, template, setTemplate_blank, updateTemplate_blank]
  | increment q column amount extra =>
    rw [blank, template, template, setTemplate_blank, ← updateTemplate_blank]
    rfl
  | jsonUpdate q column path v =>
    rw [blank, template, template]
    cases d.jsonSet with
    | none => rfl
    | some words =>
      dsimp only
      rw [← updateTemplate_blank]
      rfl
  | jsonRemove q column path =>
    rw [blank, template, template]
    cases d.jsonRemove with
    | none => rfl
    | some words =>
      dsimp only
      rw [← updateTemplate_blank]
      rfl
  | delete q =>
    rw [blank, template, template, q.whereTemplate_blank, q.table_blank]
    rfl

/-! ## Requests with one blank -/

/-- The bindings of a statement are the operands of its request, each as it is bound. -/
theorem operands_bound {r : Request} {s : Statement} (h : r.compile d = .ok s) :
    List.Forall₂ (fun o v => o.bound d = .ok v) r.operands s.bindings := by
  obtain ⟨f, rfl, hf⟩ := r.written h
  exact hf.bound

/-- A binding is a function of the operand at its place. -/
theorem getElem?_of_bound {os : List Operand} {vs : List Value}
    (h : List.Forall₂ (fun o v => o.bound d = .ok v) os vs) (i : Nat) :
    vs[i]? = os[i]?.bind fun o => (o.bound d).toOption := by
  induction h generalizing i with
  | nil => rfl
  | cons hv _ ih =>
    cases i with
    | zero =>
      show some _ = (some _).bind _
      rw [Option.bind_some, hv]
      rfl
    | succ i => exact ih i

/-- The text of a statement can be read off the blank of its request. -/
theorem sql_eq_blank {r : Request} {s : Statement} (h : r.compile d = .ok s) :
    s.sql = (r.blank.template d).fill d.placeholder (r.blank.numbers 0) := by
  rw [r.template_blank, r.numbers_blank, Template.fill_blank]
  exact Request.sql_eq_fill h

/-- **Values do not reach the text.** Requests that differ in bound values only have one text and
equally many bindings, and each binding is that of an operand. Where two bindings differ, so do the
operands. -/
theorem text_hides_values (r r' : Request) (s s' : Statement) (hblank : r.blank = r'.blank)
    (h : r.compile d = .ok s) (h' : r'.compile d = .ok s') :
    s.sql = s'.sql ∧ s.bindings.length = s'.bindings.length
      ∧ List.Forall₂ (fun o v => o.bound d = .ok v) r.operands s.bindings
      ∧ List.Forall₂ (fun o v => o.bound d = .ok v) r'.operands s'.bindings
      ∧ ∀ i : Nat, s.bindings[i]? ≠ s'.bindings[i]? → r.operands[i]? ≠ r'.operands[i]? := by
  have hbound := operands_bound h
  have hbound' := operands_bound h'
  have hlength : r.operands.length = r'.operands.length := by
    rw [← List.length_map (f := Operand.blank), ← r.operands_blank, hblank, r'.operands_blank,
      List.length_map]
  refine ⟨?_, ?_, hbound, hbound', ?_⟩
  · rw [sql_eq_blank h, sql_eq_blank h', hblank]
  · rw [← hbound.length_eq, ← hbound'.length_eq, hlength]
  · intro i hdiffer hsame
    apply hdiffer
    rw [getElem?_of_bound hbound, getElem?_of_bound hbound', hsame]

/-- A text that would close a quote is bound like any other. -/
theorem billsOf_hides_customer : ∃ s s',
    (select (billsOf 5 "a" ["b", "c"])).compile Dialect.postgres = .ok s
    ∧ (select (billsOf 7 "' OR 1 = 1 --" ["d", "?"])).compile Dialect.postgres = .ok s'
    ∧ s.sql = s'.sql ∧ s.bindings.length = s'.bindings.length := by
  have run : ((select (billsOf 5 "a" ["b", "c"])).compile Dialect.postgres).toOption.map
      (fun s => s.bindings.length) = some 7 := by
    decide +kernel
  have run' : ((select (billsOf 7 "' OR 1 = 1 --" ["d", "?"])).compile
      Dialect.postgres).toOption.map (fun s => s.bindings.length) = some 7 := by
    decide +kernel
  obtain ⟨s, h, -⟩ := Result.exists_of_map_eq_some run
  obtain ⟨s', h', -⟩ := Result.exists_of_map_eq_some run'
  have hblank : (select (billsOf 5 "a" ["b", "c"])).blank
      = (select (billsOf 7 "' OR 1 = 1 --" ["d", "?"])).blank := by
    rfl
  obtain ⟨hsql, hlength, -⟩ := text_hides_values _ _ s s' hblank h h'
  exact ⟨s, s', h, h', hsql, hlength⟩

end Request

end SqlQuery
