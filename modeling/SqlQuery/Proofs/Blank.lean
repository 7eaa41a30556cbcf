import SqlQuery.Proofs.Placeholders

/-!
# The text of a statement shows no value

`blank` puts null in place of every value that a request binds and leaves all else as it is: the
same clauses, the same columns, lists of the same lengths. What a clause was given beyond its
condition is dropped, since no statement shows it. Two requests that differ in nothing but their
bound values have the same blank.

Template, operands and numbers of the blank are those of the request with null for each value. So
the text, which is the template filled with the numbers, is the text of the blank.
-/

namespace SqlQuery

/-- As many nulls as there are values. -/
def blankValues (values : List Value) : List Value :=
  values.map fun _ => .null

/-- The columns of a row with null in each. -/
def Row.blank (row : Row) : Row :=
  row.map fun (column, _) => (column, .null)

def GroupKey.blank : GroupKey → GroupKey
  | column name _ => column name []
  | raw s values => raw s (blankValues values)

def OrderKey.blank : OrderKey → OrderKey
  | column name direction _ => column name direction []
  | raw s values _ => raw s (blankValues values) .asc

def HavingCondition.blank : HavingCondition → HavingCondition
  | compare left c _ => compare left c .null
  | raw s values => raw s (blankValues values)

def Having.blank (h : Having) : Having :=
  { connective := h.connective, condition := h.condition.blank }

mutual

/-- A condition with null for every value that it binds. -/
def Condition.blank : Condition → Condition
  | .raw s values => .raw s (blankValues values)
  | .compare column c _ => .compare column c .null
  | .between column negated _ _ => .between column negated .null .null
  | .inValues column negated values => .inValues column negated (blankValues values)
  | .inQuery column negated query => .inQuery column negated query.blank
  | .isNull column negated => .isNull column negated
  | .exists negated query => .exists negated query.blank
  | .group filters => .group (blankFilters filters)
  | .columns first c second => .columns first c second
  | .datePart column part c _ => .datePart column part c .null
  | .jsonContains column _ => .jsonContains column .null
  | .jsonLength column c _ => .jsonLength column c .null
  | .jsonPath column path c _ => .jsonPath column path c .null
  | .fullText columns _ => .fullText columns .null
  | .anyColumn columns c _ matchAll negated => .anyColumn columns c .null matchAll negated

def blankFilters : List Filter → List Filter
  | [] => []
  | ⟨connective, condition, _⟩ :: rest => ⟨connective, condition.blank, {}⟩ :: blankFilters rest

def blankJoins : List Join → List Join
  | [] => []
  | ⟨kind, table, first, operator, second, filters⟩ :: rest =>
    ⟨kind, table, first, operator, second, blankFilters filters⟩ :: blankJoins rest

def blankBranches : List Branch → List Branch
  | [] => []
  | ⟨query, all⟩ :: rest => ⟨query.blank, all⟩ :: blankBranches rest

/-- A query with null for every value that it binds. -/
def Query.blank : Query → Query
  | ⟨table, selects, distinct, filters, joins, groups, havings, orders, unions, limit, offset,
      lock, selectValues⟩ =>
    ⟨table, selects, distinct, blankFilters filters, blankJoins joins,
      groups.map GroupKey.blank, havings.map Having.blank, orders.map OrderKey.blank,
      blankBranches unions, limit, offset, lock, blankValues selectValues⟩

end

/-- A request with null for every value that it binds. -/
def Request.blank : Request → Request
  | select q => select q.blank
  | insert table values returning => insert table values.blank returning
  | insertBatch table rows returning => insertBatch table (rows.map Row.blank) returning
  | upsert table rows target overwrite action =>
    upsert table (rows.map Row.blank) target overwrite action
  | insertOrIgnore table rows => insertOrIgnore table (rows.map Row.blank)
  | replace table rows => replace table (rows.map Row.blank)
  | update q values => update q.blank values.blank
  | increment q column _ extra => increment q.blank column .null extra.blank
  | jsonUpdate q column path _ => jsonUpdate q.blank column path .null
  | jsonRemove q column path => jsonRemove q.blank column path
  | delete q => delete q.blank

/-! ## Clauses without sub-queries -/

section Clauses

theorem blank_append (t u : Template) :
    Template.blank (t ++ u) = Template.blank t ++ Template.blank u :=
  List.map_append

theorem blank_intercalate (separator : String) (ts : List Template) :
    Template.blank ([Piece.text separator].intercalate ts)
      = [Piece.text separator].intercalate (ts.map Template.blank) := by
  induction ts with
  | nil => rfl
  | cons t rest ih =>
    cases rest with
    | nil => simp [List.intercalate_singleton]
    | cons u rest =>
      rw [List.intercalate_cons_cons, blank_append, blank_append, ih]
      simp only [List.map_cons, List.intercalate_cons_cons]
      rfl

theorem map_plain_blankValues (values : List Value) :
    (blankValues values).map Operand.plain = (values.map Operand.plain).map Operand.blank := by
  unfold blankValues
  rw [List.map_map, List.map_map]
  rfl

theorem rawTemplate_blank (raw : String) (values : List Value) :
    rawTemplate raw (blankValues values) = (rawTemplate raw values).blank := by
  unfold rawTemplate
  cases RawText.split raw with
  | nil => rfl
  | cons first rest =>
    unfold blankValues Template.blank
    dsimp only
    rw [List.zip_map_left, List.flatMap_map, List.map_cons, List.map_flatMap]
    rfl

theorem listTemplate_blank (values : List Value) :
    listTemplate (blankValues values) = (listTemplate values).blank := by
  unfold listTemplate blankValues
  rw [blank_intercalate, List.map_map, List.map_map]
  rfl

theorem selectTemplates_blank (selects : List SelectItem) (values : List Value) :
    selectTemplates selects (blankValues values)
      = (selectTemplates selects values).map Template.blank := by
  induction selects generalizing values with
  | nil => rfl
  | cons item rest ih =>
    cases item with
    | column name shownAs =>
      exact congrArg (List.cons _) (ih values)
    | raw raw shownAs =>
      have htake : (blankValues values).take (RawText.markerCount raw)
          = blankValues (values.take (RawText.markerCount raw)) := List.map_take.symm
      have hdrop : (blankValues values).drop (RawText.markerCount raw)
          = blankValues (values.drop (RawText.markerCount raw)) := List.map_drop.symm
      rw [selectTemplates, selectTemplates, htake, hdrop, ih, rawTemplate_blank]
      rfl

theorem headTemplate_blank (distinct : Bool) (selects : List SelectItem) (values : List Value) :
    headTemplate distinct selects (blankValues values)
      = (headTemplate distinct selects values).blank := by
  unfold headTemplate
  cases selects with
  | nil => rfl
  | cons item rest =>
    rw [selectTemplates_blank, ← blank_intercalate]
    rfl

theorem headOperands_blank (selects : List SelectItem) (values : List Value) :
    headOperands selects (blankValues values)
      = (headOperands selects values).map Operand.blank := by
  unfold headOperands
  cases selects with
  | nil => rfl
  | cons item rest => exact map_plain_blankValues values

theorem GroupKey.template_blank (g : GroupKey) : g.blank.template = g.template.blank := by
  cases g with
  | column name unread => rfl
  | raw s values => exact rawTemplate_blank s values

theorem GroupKey.operands_blank (g : GroupKey) :
    g.blank.operands = g.operands.map Operand.blank := by
  cases g with
  | column name unread => rfl
  | raw s values => exact map_plain_blankValues values

theorem OrderKey.template_blank (o : OrderKey) : o.blank.template = o.template.blank := by
  cases o with
  | column name direction unread => rfl
  | raw s values unread => exact rawTemplate_blank s values

theorem OrderKey.operands_blank (o : OrderKey) :
    o.blank.operands = o.operands.map Operand.blank := by
  cases o with
  | column name direction unread => rfl
  | raw s values unread => exact map_plain_blankValues values

theorem HavingCondition.template_blank (d : Dialect) (c : HavingCondition) :
    c.blank.template d = (c.template d).blank := by
  cases c with
  | compare left c right => rfl
  | raw s values => exact rawTemplate_blank s values

theorem HavingCondition.operands_blank (c : HavingCondition) :
    c.blank.operands = c.operands.map Operand.blank := by
  cases c with
  | compare left c right => rfl
  | raw s values => exact map_plain_blankValues values

/-- What blanking does to the operands of each item, it does to those of all. -/
theorem flatMap_blank {α : Type} {blank : α → α} {O : α → List Operand}
    (h : ∀ x, O (blank x) = (O x).map Operand.blank) (xs : List α) :
    (xs.map blank).flatMap O = (xs.flatMap O).map Operand.blank := by
  rw [List.flatMap_map, List.map_flatMap]
  exact List.flatMap_congr fun x _ => h x

theorem havingOperands_blank (havings : List Having) :
    (havings.map Having.blank).flatMap (fun h => h.condition.operands)
      = (havings.flatMap fun h => h.condition.operands).map Operand.blank := by
  rw [List.flatMap_map, List.map_flatMap]
  exact List.flatMap_congr fun h _ => h.condition.operands_blank

/-- A section of items that are separated by commas. -/
theorem listSection_blank {α : Type} {blank : α → α} {T : α → Template} (keyword : String)
    (h : ∀ x, T (blank x) = (T x).blank) (xs : List α) :
    sectionTemplate keyword (xs.map blank) (fun xs => [Piece.text ", "].intercalate (xs.map T))
      = (sectionTemplate keyword xs fun xs => [Piece.text ", "].intercalate (xs.map T)).map
          Template.blank := by
  unfold sectionTemplate
  cases xs with
  | nil => rfl
  | cons x rest =>
    have items : ((x :: rest).map blank).map T = ((x :: rest).map T).map Template.blank := by
      rw [List.map_map, List.map_map]
      exact List.map_congr_left fun x _ => h x
    simp only [items, ← blank_intercalate]
    rfl

theorem havingSection_blank (d : Dialect) (havings : List Having) :
    havingSection d (havings.map Having.blank) = (havingSection d havings).map Template.blank := by
  cases havings with
  | nil => rfl
  | cons first rest =>
    have later : laterHavingTemplate d (rest.map Having.blank)
        = (laterHavingTemplate d rest).blank := by
      unfold laterHavingTemplate Template.blank
      rw [List.flatMap_map, List.map_flatMap]
      refine List.flatMap_congr fun h _ => ?_
      show _ = Template.blank (h.connective.template ++ h.condition.template d)
      rw [blank_append, ← HavingCondition.template_blank]
      rfl
    show [Piece.text "HAVING " :: (first.condition.blank.template d
        ++ laterHavingTemplate d (rest.map Having.blank))]
      = [Piece.text "HAVING "
          :: Template.blank (first.condition.template d ++ laterHavingTemplate d rest)]
    rw [blank_append, later, first.condition.template_blank]

end Clauses

end SqlQuery
