import SqlQuery.Clause.Parts
import SqlQuery.Proofs.Writable

/-!
# The phrases of a statement

A statement is read as phrases: an operator between two operands, an operator in words of its own
before operands of another shape, and everything else. The phrases are the text of the statement
(`Request.template_phrases`), and those that show an operator are those of the clauses of its tree
(`Request.forall_phrases`), so what is to be known of them can be looked up clause by clause.
-/

namespace SqlQuery

open Piece

/-! ## Phrases -/

/-- A part of a statement. -/
inductive Phrase where
  /-- What shows no operator. -/
  | other (t : Template)
  /-- An operator between two operands, the right one text or a value. -/
  | operated (before left : String) (op : Operator) (right : Piece)
  /-- An operator in words of its own, before operands of another shape. -/
  | worded (before : String) (op : Operator) (after : String)

namespace Phrase

/-- The text of a phrase. -/
def template (d : Dialect) : Phrase → Template
  | other t => t
  | operated before left op (.text right) =>
    [text (before ++ left ++ " " ++ d.operatorText op ++ " " ++ right)]
  | operated before left op (.slot o) =>
    [text (before ++ left ++ " " ++ d.operatorText op ++ " "), slot o]
  | worded before op after => [text (before ++ op.text ++ after)]

/-- The operator that a phrase shows. -/
def operator? : Phrase → Option Operator
  | other _ => none
  | operated _ _ op _ | worded _ op _ => some op

/-- An operator of the phrase that stands between two operands compares them. -/
def Compares : Phrase → Prop
  | operated _ _ op _ => ∃ c, op = .compare c
  | _ => True

end Phrase

/-- The text of phrases one after the other. -/
def phraseTemplate (d : Dialect) (phrases : List Phrase) : Template :=
  phrases.flatMap (Phrase.template d)

section Phrases

variable (d : Dialect)

/-- Sections that show no operator. -/
def plainSections (sections : List Template) : List (List Phrase) :=
  sections.map fun t => [.other t]

/-- A left side compared with a value. -/
def comparedPhrase (left : String) (c : Comparison) (v : Value) : Phrase :=
  .operated "" left (.compare c) (.slot (.plain v))

def HavingCondition.phrase : HavingCondition → Phrase
  | compare left c right => comparedPhrase left c right
  | raw s values => .other (rawTemplate s values)

def havingPhrases (havings : List Having) : List (List Phrase) :=
  match havings with
  | [] => []
  | h :: rest =>
    [.other [text "HAVING "] :: h.condition.phrase
      :: rest.flatMap fun h => [.other h.connective.template, h.condition.phrase]]

/-- The words of a join up to its further filters. -/
def Join.phrases (j : Join) : List Phrase :=
  match d.joinKeyword j.kind with
  | .ok keyword => [.operated (keyword ++ " " ++ j.table ++ " ON ") (j.first.getD "") j.operator
      (.text (j.second.getD ""))]
  | .error _ => []

/-- The phrases of a condition, up to the statement or the filters inside it. -/
def Condition.opening : Condition → List Phrase
  | .raw s values => [.other (rawTemplate s values)]
  | .compare column c v => [comparedPhrase column c v]
  | .between column negated low high =>
    [.worded (column ++ " ") (if negated then .notBetween else .between) " ",
      .other [slot (.plain low), text " AND ", slot (.plain high)]]
  | .inValues column negated values =>
    [.worded (column ++ " ") (if negated then .notIn else .isIn) " (",
      .other (listTemplate values ++ [text ")"])]
  | .inQuery column negated _ => [.worded (column ++ " ") (if negated then .notIn else .isIn) " ("]
  | .isNull column negated =>
    [.worded (column ++ " ") (if negated then .isNotNull else .isNull) ""]
  | .exists negated _ => [.worded "" (if negated then .notExists else .exists) " ("]
  | .group _ => [.other [text "("]]
  | .columns first c second => [.operated "" first (.compare c) (.text second)]
  | .datePart column part c v =>
    match d.datePart with
    | some words => [comparedPhrase (words column part) c v]
    | none => []
  | .jsonContains column v =>
    match d.jsonContains with
    | some words => [.other ((words column).template (.contained v))]
    | none => []
  | .jsonLength column c v =>
    match d.jsonLength with
    | some words => [comparedPhrase (words column) c v]
    | none => []
  | .jsonPath column path c v =>
    match d.jsonPath with
    | some words => [comparedPhrase (words column path) c v]
    | none => []
  | .fullText names v =>
    match d.fullText with
    | some words => [.other ((words names).template (.plain v))]
    | none => []
  | .anyColumn names c v matchAll negated =>
    .other [text (if negated then "NOT (" else "(")]
      :: [Phrase.other [text (if matchAll then " AND " else " OR ")]].intercalate
        (names.map fun column => [comparedPhrase column c v])
      ++ [.other [text ")"]]

mutual

/-- All phrases of a condition. -/
def Condition.phrases : Condition → List Phrase
  | .inQuery column negated query =>
    Condition.opening d (.inQuery column negated query) ++ query.phrases ++ [.other [text ")"]]
  | .exists negated query =>
    Condition.opening d (.exists negated query) ++ query.phrases ++ [.other [text ")"]]
  | .group filters =>
    Condition.opening d (.group filters) ++ filterPhrases filters ++ [.other [text ")"]]
  | c => c.opening d

def filterPhrases : List Filter → List Phrase
  | [] => []
  | ⟨_, condition, _⟩ :: rest => condition.phrases ++ laterPhrases rest

/-- Filters that follow others, each after its word. -/
def laterPhrases : List Filter → List Phrase
  | [] => []
  | ⟨connective, condition, _⟩ :: rest =>
    .other connective.template :: condition.phrases ++ laterPhrases rest

def joinPhrases : List Join → List (List Phrase)
  | [] => []
  | ⟨.cross, table, _, _, _, _⟩ :: rest =>
    [.other [text ("CROSS JOIN " ++ table)]] :: joinPhrases rest
  | ⟨kind, table, first, operator, second, filters⟩ :: rest =>
    (Join.phrases d ⟨kind, table, first, operator, second, filters⟩ ++ laterPhrases filters)
      :: joinPhrases rest

def branchPhrases : List Branch → List (List Phrase)
  | [] => []
  | ⟨query, all⟩ :: rest =>
    (.other [text (if all then "UNION ALL (" else "UNION (")] :: query.phrases
      ++ [.other [text ")"]]) :: branchPhrases rest

/-- The phrases of a whole statement. -/
def Query.phrases : Query → List Phrase
  | { table, selects, distinct, filters, joins, groups, havings, orders, unions, limit, offset,
      lock, selectValues } =>
    let sections := plainSections (sourceSection table) ++ joinPhrases joins
      ++ (if filters.isEmpty then [] else [.other [text "WHERE "] :: filterPhrases filters])
      ++ plainSections (groupSection groups) ++ havingPhrases havings ++ branchPhrases unions
      ++ plainSections (orderSection orders ++ boundSection limit offset lock)
    .other (headTemplate distinct selects selectValues)
      :: sections.flatMap fun s => .other [text " "] :: s

end

theorem Query.phrases_eq (q : Query) : q.phrases d
    = .other (headTemplate q.distinct q.selects q.selectValues)
      :: (plainSections (sourceSection q.table) ++ joinPhrases d q.joins
        ++ (if q.filters.isEmpty then []
          else [Phrase.other [text "WHERE "] :: filterPhrases d q.filters])
        ++ plainSections (groupSection q.groups) ++ havingPhrases q.havings
        ++ branchPhrases d q.unions
        ++ plainSections (orderSection q.orders ++ boundSection q.limit q.offset q.lock)).flatMap
          fun s => Phrase.other [text " "] :: s := by
  cases q
  rw [Query.phrases]

theorem joinPhrases_on {j : Join} (h : j.kind ≠ .cross) (rest : List Join) :
    joinPhrases d (j :: rest)
      = (j.phrases d ++ laterPhrases d j.filters) :: joinPhrases d rest := by
  cases j
  rw [joinPhrases]
  exact h

/-- The WHERE section of a statement that changes rows. -/
def Query.wherePhrases (q : Query) : List Phrase :=
  if q.filters.isEmpty then [] else .other [text " WHERE "] :: filterPhrases d q.filters

def updatePhrases (q : Query) (sets : List Template) : List Phrase :=
  .other (text ("UPDATE " ++ q.table.getD "" ++ " SET ") :: [text ", "].intercalate sets)
    :: q.wherePhrases d

/-- The phrases of a request. -/
def Request.phrases : Request → List Phrase
  | .select q => q.phrases d
  | .update q values => updatePhrases d q (setTemplate values)
  | .increment q column amount extra =>
    updatePhrases d q
      ([text (column ++ " = " ++ column ++ " + "), slot (.plain amount)] :: setTemplate extra)
  | .jsonUpdate q column path v =>
    match d.jsonSet with
    | some words =>
      updatePhrases d q [text (column ++ " = ") :: (words column path).template (.stored v)]
    | none => []
  | .jsonRemove q column path =>
    match d.jsonRemove with
    | some words => updatePhrases d q [[text (column ++ " = " ++ words column path)]]
    | none => []
  | .delete q => .other [text ("DELETE FROM " ++ q.table.getD "")] :: q.wherePhrases d
  | r => [.other (r.template d)]

end Phrases

/-! ## Phrases are the text -/

section Written

variable {d : Dialect}

@[simp]
theorem phraseTemplate_append (ps qs : List Phrase) :
    phraseTemplate d (ps ++ qs) = phraseTemplate d ps ++ phraseTemplate d qs :=
  List.flatMap_append

@[simp]
theorem phraseTemplate_cons (p : Phrase) (ps : List Phrase) :
    phraseTemplate d (p :: ps) = p.template d ++ phraseTemplate d ps :=
  List.flatMap_cons

@[simp]
theorem phraseTemplate_nil : phraseTemplate d [] = [] :=
  rfl

@[simp]
theorem template_other (t : Template) : (Phrase.other t).template d = t :=
  rfl

@[simp]
theorem template_worded (before : String) (op : Operator) (after : String) :
    (Phrase.worded before op after).template d = [text (before ++ (op.text ++ after))] :=
  congrArg (fun s => [text s]) (String.append_assoc ..)

@[simp]
theorem template_comparedPhrase (left : String) (c : Comparison) (v : Value) :
    (comparedPhrase left c v).template d = comparedTemplate d left c v := by
  show [text ("" ++ left ++ " " ++ d.comparisonText c ++ " "), slot (.plain v)] = _
  rw [String.empty_append]
  rfl

theorem phraseTemplate_intercalate (separator : Template) (ps : List (List Phrase)) :
    phraseTemplate d ([Phrase.other separator].intercalate ps)
      = separator.intercalate (ps.map (phraseTemplate d)) := by
  induction ps with
  | nil => rfl
  | cons p rest ih =>
    cases rest with
    | nil => simp [List.intercalate_singleton]
    | cons q rest =>
      rw [List.intercalate_cons_cons, phraseTemplate_append, phraseTemplate_append, ih]
      simp [List.intercalate_cons_cons]

/-- Sections with a blank before each. -/
theorem phraseTemplate_spaced {sections : List (List Phrase)} {ts : List Template}
    (h : sections.map (phraseTemplate d) = ts) :
    phraseTemplate d (sections.flatMap fun s => .other [text " "] :: s)
      = ts.flatMap fun t => text " " :: t := by
  rw [← h, List.flatMap_map, phraseTemplate, List.flatMap_assoc]
  rfl

theorem phraseTemplate_plain (ts : List Template) :
    (plainSections ts).map (phraseTemplate d) = ts := by
  rw [plainSections, List.map_map]
  refine (List.map_congr_left fun t _ => ?_).trans (List.map_id ts)
  exact List.append_nil t

theorem HavingCondition.template_phrase (c : HavingCondition) :
    c.phrase.template d = c.template d := by
  cases c with
  | compare left c right => exact template_comparedPhrase ..
  | raw s values => rfl

theorem phraseTemplate_havings (havings : List Having) :
    (havingPhrases havings).map (phraseTemplate d) = havingSection d havings := by
  cases havings with
  | nil => rfl
  | cons h rest =>
    have later : phraseTemplate d
        (rest.flatMap fun h => [.other h.connective.template, h.condition.phrase])
          = laterHavingTemplate d rest := by
      rw [phraseTemplate, List.flatMap_assoc, laterHavingTemplate]
      congr 1
      funext h
      simp [HavingCondition.template_phrase]
    simp [havingPhrases, havingSection, later, HavingCondition.template_phrase]

theorem Join.template_phrases (j : Join) :
    phraseTemplate d (j.phrases d) = joinHead d { j with filters := [] } := by
  unfold Join.phrases joinHead
  dsimp only
  cases d.joinKeyword j.kind <;> rfl

mutual

theorem Condition.template_phrases (c : Condition) :
    phraseTemplate d (c.phrases d) = c.template d := by
  cases c with
  | raw | compare => simp [Condition.phrases, Condition.opening, Condition.template]
  | between column negated | inValues column negated | isNull column negated =>
    cases negated <;>
      simp [Condition.phrases, Condition.opening, Condition.template, Operator.text,
        String.append_assoc]
  | inQuery column negated query | «exists» negated query =>
    cases negated <;>
      simp [Condition.phrases, Condition.opening, Condition.template, Operator.text,
        String.append_assoc, query.template_phrases]
  | group filters =>
    simp [Condition.phrases, Condition.opening, Condition.template, phraseTemplate_filters filters]
  | columns first c second =>
    simp [Condition.phrases, Condition.opening, Condition.template, Phrase.template,
      Dialect.operatorText]
  | datePart | jsonContains | jsonLength | jsonPath | fullText =>
    rw [Condition.phrases, Condition.opening, Condition.template]
    · split <;> simp [*]
    all_goals exact nofun
  | anyColumn columns c v matchAll negated =>
    simp [Condition.phrases, Condition.opening, Condition.template, phraseTemplate_intercalate]
    rfl

theorem phraseTemplate_filters : ∀ filters : List Filter,
    phraseTemplate d (filterPhrases d filters) = filterTemplate d filters
  | [] => rfl
  | ⟨_, condition, _⟩ :: rest => by
    rw [filterPhrases, filterTemplate, phraseTemplate_append, condition.template_phrases,
      phraseTemplate_laterFilters rest]

theorem phraseTemplate_laterFilters : ∀ filters : List Filter,
    phraseTemplate d (laterPhrases d filters) = laterTemplate d filters
  | [] => rfl
  | ⟨connective, condition, _⟩ :: rest => by
    rw [laterPhrases, laterTemplate, List.cons_append, phraseTemplate_cons, phraseTemplate_append,
      condition.template_phrases, phraseTemplate_laterFilters rest, List.append_assoc]
    rfl

theorem phraseTemplate_joins : ∀ joins : List Join,
    (joinPhrases d joins).map (phraseTemplate d) = joinTemplates d joins
  | [] => rfl
  | ⟨kind, table, first, operator, second, filters⟩ :: rest => by
    by_cases hk : kind = .cross
    · subst hk
      rw [joinPhrases, joinTemplates, List.map_cons, phraseTemplate_joins rest]
      rfl
    · rw [joinPhrases_on _ hk, joinTemplates_on _ hk, List.map_cons, phraseTemplate_append,
        Join.template_phrases, phraseTemplate_laterFilters filters, phraseTemplate_joins rest]

theorem phraseTemplate_branches : ∀ branches : List Branch,
    (branchPhrases d branches).map (phraseTemplate d) = branchTemplates d branches
  | [] => rfl
  | ⟨query, all⟩ :: rest => by
    rw [branchPhrases, branchTemplates, List.map_cons, List.cons_append, phraseTemplate_cons,
      phraseTemplate_append, query.template_phrases, phraseTemplate_branches rest]
    rfl

/-- The phrases of a statement are its text. -/
theorem Query.template_phrases : ∀ q : Query, phraseTemplate d (q.phrases d) = q.template d
  | ⟨table, selects, distinct, filters, joins, groups, havings, orders, unions, limit, offset,
      lock, selectValues⟩ => by
    rw [Query.phrases_eq, Query.template_eq, phraseTemplate_cons]
    refine congrArg _ (phraseTemplate_spaced ?_)
    simp only [List.map_append, phraseTemplate_plain, phraseTemplate_joins joins,
      phraseTemplate_havings, phraseTemplate_branches unions, List.append_assoc]
    split
    · rfl
    · simp only [List.map_cons, List.map_nil, phraseTemplate_cons, phraseTemplate_filters filters]
      rfl

end

theorem Query.template_wherePhrases (q : Query) :
    phraseTemplate d (q.wherePhrases d) = q.whereTemplate d := by
  unfold Query.wherePhrases Query.whereTemplate
  split
  · rfl
  · rw [phraseTemplate_cons, phraseTemplate_filters]
    rfl

theorem phraseTemplate_updatePhrases (q : Query) (sets : List Template) :
    phraseTemplate d (updatePhrases d q sets) = updateTemplate d q sets := by
  rw [updatePhrases, phraseTemplate_cons, q.template_wherePhrases]
  rfl

theorem Request.template_phrases (r : Request) :
    phraseTemplate d (r.phrases d) = r.template d := by
  cases r with
  | select q => exact q.template_phrases
  | update | increment => exact phraseTemplate_updatePhrases ..
  | jsonUpdate q column path v =>
    cases hset : d.jsonSet <;>
      simp [Request.phrases, Request.template, hset, phraseTemplate_updatePhrases]
  | jsonRemove q column path =>
    cases hremove : d.jsonRemove <;>
      simp [Request.phrases, Request.template, hremove, phraseTemplate_updatePhrases]
  | delete q =>
    show [_] ++ phraseTemplate d (q.wherePhrases d) = _
    rw [q.template_wherePhrases]
    rfl
  | _ => exact List.append_nil _

end Written

/-! ## The clauses of a tree -/

/-- A clause that may hold an operator. -/
inductive Clause where
  | filter (x : Filter)
  | having (h : Having)
  | join (j : Join)

namespace Clause

/-- The operator that a clause was given. -/
def operator? : Clause → Option Operator
  | filter x => x.parts.operator
  | having h => h.parts.operator
  | join j => some j.operator

/-- The phrases of a clause, but not those of what is inside it. -/
def phrases (d : Dialect) : Clause → List Phrase
  | filter x => x.condition.opening d
  | having h => [h.condition.phrase]
  | join j => j.phrases d

end Clause

/-- The clauses of a statement, but not those of statements inside it. A cross join compares
nothing. -/
def Query.clauses (q : Query) : List Clause :=
  (q.joins.filter fun j => j.kind ≠ .cross).map .join ++ q.shownFilters.map .filter
    ++ q.havings.map .having

/-- The statements of a request. -/
def Request.statements : Request → List Query
  | .select q => q.statements
  | r => filterStatements r.filters

/-- The clauses of a request and of all statements in it. -/
def Request.clauses (r : Request) : List Clause :=
  (shownFilters r.filters).map .filter ++ r.statements.flatMap Query.clauses

section Everywhere

variable (d : Dialect) (P : Phrase → Prop)

/-- All phrases of a clause are of a kind. -/
def Clause.All (k : Clause) : Prop :=
  ∀ p ∈ k.phrases d, P p

def Query.AllClauses (q : Query) : Prop :=
  ∀ k ∈ q.clauses, k.All d P

end Everywhere

section Everywhere

variable {d : Dialect} {P : Phrase → Prop}

theorem Query.allClauses_iff (q : Query) : q.AllClauses d P
    ↔ (∀ j ∈ q.joins, j.kind ≠ .cross → (Clause.join j).All d P)
      ∧ (∀ x ∈ q.shownFilters, (Clause.filter x).All d P)
      ∧ ∀ h ∈ q.havings, P h.condition.phrase := by
  unfold Query.AllClauses Query.clauses
  simp only [List.forall_mem_append, List.forall_mem_map, List.mem_filter, and_imp, and_assoc,
    decide_eq_true_eq]
  simp only [Clause.All, Clause.phrases, List.forall_mem_singleton]

/-- Sections with a blank before each. -/
theorem forall_spaced (hP : ∀ t, P (.other t)) {sections : List (List Phrase)} :
    (∀ p ∈ sections.flatMap fun s => Phrase.other [text " "] :: s, P p)
      ↔ ∀ s ∈ sections, ∀ p ∈ s, P p := by
  simp only [List.mem_flatMap, List.mem_cons]
  grind

theorem forall_plainSections (hP : ∀ t, P (.other t)) (ts : List Template) :
    ∀ s ∈ plainSections ts, ∀ p ∈ s, P p := by
  simp only [plainSections, List.mem_map]
  grind

theorem forall_havingPhrases (hP : ∀ t, P (.other t)) (havings : List Having) :
    (∀ s ∈ havingPhrases havings, ∀ p ∈ s, P p) ↔ ∀ h ∈ havings, P h.condition.phrase := by
  cases havings with
  | nil => exact iff_of_true (List.forall_mem_nil _) (List.forall_mem_nil _)
  | cons h rest =>
    simp only [havingPhrases, List.forall_mem_singleton, List.forall_mem_cons, List.mem_flatMap]
    grind

mutual

theorem Condition.forall_phrases (hP : ∀ t, P (.other t)) (c : Condition) :
    (∀ p ∈ c.phrases d, P p) ↔ (∀ p ∈ c.opening d, P p)
      ∧ (∀ x ∈ c.filtersInside, (Clause.filter x).All d P)
      ∧ ∀ t ∈ c.statements, t.AllClauses d P := by
  cases c with
  | inQuery column negated query | «exists» negated query =>
    simp only [Condition.phrases, Condition.filtersInside, Condition.statements,
      List.forall_mem_append, query.forall_phrases hP, List.forall_mem_singleton, hP]
    simp
  | group filters =>
    simp only [Condition.phrases, Condition.filtersInside, Condition.statements,
      List.forall_mem_append, forall_filterPhrases hP filters, List.forall_mem_singleton, hP]
    simp
  | _ => simp [Condition.phrases, Condition.filtersInside, Condition.statements]

theorem forall_filterPhrases (hP : ∀ t, P (.other t)) : ∀ filters : List Filter,
    (∀ p ∈ filterPhrases d filters, P p)
      ↔ (∀ x ∈ shownFilters filters, (Clause.filter x).All d P)
        ∧ ∀ t ∈ filterStatements filters, t.AllClauses d P
  | [] => by
    simp [filterPhrases, shownFilters, filterStatements]
  | ⟨connective, condition, unread⟩ :: rest => by
    rw [filterPhrases, shownFilters, filterStatements, List.forall_mem_append,
      List.forall_mem_cons, List.forall_mem_append, List.forall_mem_append,
      condition.forall_phrases hP, forall_laterPhrases hP rest]
    show _ ↔ ((∀ p ∈ condition.opening d, P p) ∧ _) ∧ _
    tauto

theorem forall_laterPhrases (hP : ∀ t, P (.other t)) : ∀ filters : List Filter,
    (∀ p ∈ laterPhrases d filters, P p)
      ↔ (∀ x ∈ shownFilters filters, (Clause.filter x).All d P)
        ∧ ∀ t ∈ filterStatements filters, t.AllClauses d P
  | [] => by
    simp [laterPhrases, shownFilters, filterStatements]
  | ⟨connective, condition, unread⟩ :: rest => by
    rw [laterPhrases, shownFilters, filterStatements, List.cons_append, List.forall_mem_cons,
      List.forall_mem_append, List.forall_mem_cons, List.forall_mem_append, List.forall_mem_append,
      condition.forall_phrases hP, forall_laterPhrases hP rest]
    show _ ∧ _ ↔ ((∀ p ∈ condition.opening d, P p) ∧ _) ∧ _
    have := hP connective.template
    tauto

theorem forall_joinPhrases (hP : ∀ t, P (.other t)) : ∀ joins : List Join,
    (∀ s ∈ joinPhrases d joins, ∀ p ∈ s, P p)
      ↔ ((∀ j ∈ joins, j.kind ≠ .cross → (Clause.join j).All d P)
          ∧ ∀ x ∈ joinFilters joins, (Clause.filter x).All d P)
        ∧ ∀ t ∈ joinStatements joins, t.AllClauses d P
  | [] => by
    simp [joinPhrases, joinFilters, joinStatements]
  | ⟨kind, table, first, operator, second, filters⟩ :: rest => by
    by_cases hk : kind = .cross
    · subst hk
      rw [joinPhrases, joinFilters, joinStatements, List.forall_mem_cons, List.forall_mem_singleton,
        forall_joinPhrases hP rest, List.forall_mem_cons]
      simp only [hP, ne_eq, not_true_eq_false, false_imp_iff, true_and]
    · have own : (∀ p ∈ Join.phrases d ⟨kind, table, first, operator, second, filters⟩, P p)
          ↔ (kind ≠ .cross
            → (Clause.join ⟨kind, table, first, operator, second, filters⟩).All d P) :=
        ⟨fun h _ => h, fun h => h hk⟩
      rw [joinPhrases_on _ hk, joinFilters_on hk, joinStatements_on hk, List.forall_mem_cons,
        List.forall_mem_cons, List.forall_mem_append, List.forall_mem_append,
        List.forall_mem_append, forall_laterPhrases hP filters, forall_joinPhrases hP rest, own]
      tauto

theorem forall_branchPhrases (hP : ∀ t, P (.other t)) : ∀ branches : List Branch,
    (∀ s ∈ branchPhrases d branches, ∀ p ∈ s, P p)
      ↔ ∀ t ∈ branchStatements branches, t.AllClauses d P
  | [] => by
    simp [branchPhrases, branchStatements]
  | ⟨query, all⟩ :: rest => by
    rw [branchPhrases, branchStatements, List.forall_mem_cons, List.cons_append,
      List.forall_mem_cons, List.forall_mem_append, List.forall_mem_append, query.forall_phrases hP,
      forall_branchPhrases hP rest, List.forall_mem_singleton]
    simp [hP]

/-- The phrases of a statement are those of the clauses of its tree, and others. -/
theorem Query.forall_phrases (hP : ∀ t, P (.other t)) : ∀ q : Query,
    (∀ p ∈ q.phrases d, P p) ↔ ∀ t ∈ q.statements, t.AllClauses d P
  | ⟨table, selects, distinct, filters, joins, groups, havings, orders, unions, limit, offset,
      lock, selectValues⟩ => by
    rw [Query.phrases_eq, List.forall_mem_cons, forall_spaced hP, Query.statements,
      List.forall_mem_cons, List.forall_mem_append, List.forall_mem_append, Query.allClauses_iff]
    have filtered : (∀ s ∈ (if filters.isEmpty then []
          else [.other [text "WHERE "] :: filterPhrases d filters]), ∀ p ∈ s, P p)
        ↔ ∀ p ∈ filterPhrases d filters, P p := by
      cases filters with
      | nil => exact iff_of_true (List.forall_mem_nil _) (List.forall_mem_nil _)
      | cons x rest =>
        show (∀ s ∈ [.other [text "WHERE "] :: filterPhrases d (x :: rest)], ∀ p ∈ s, P p) ↔ _
        rw [List.forall_mem_singleton, List.forall_mem_cons]
        exact and_iff_right (hP _)
    simp only [List.forall_mem_append, forall_joinPhrases hP joins, forall_branchPhrases hP unions,
      forall_havingPhrases hP, filtered, forall_filterPhrases hP filters,
      iff_true_intro (forall_plainSections hP _),
      Query.shownFilters, hP]
    tauto

end

theorem Query.forall_wherePhrases (hP : ∀ t, P (.other t)) (q : Query) :
    (∀ p ∈ q.wherePhrases d, P p) ↔ ∀ p ∈ filterPhrases d q.filters, P p := by
  unfold Query.wherePhrases
  cases q.filters with
  | nil => exact Iff.rfl
  | cons x rest =>
    show (∀ p ∈ Phrase.other [text " WHERE "] :: filterPhrases d (x :: rest), P p) ↔ _
    rw [List.forall_mem_cons]
    exact and_iff_right (hP _)

theorem forall_updatePhrases (hP : ∀ t, P (.other t)) (q : Query) (sets : List Template) :
    (∀ p ∈ updatePhrases d q sets, P p) ↔ ∀ p ∈ filterPhrases d q.filters, P p := by
  rw [updatePhrases, List.forall_mem_cons, q.forall_wherePhrases hP]
  exact and_iff_right (hP _)

/-- The phrases of a request that can be written are those of its clauses, and others. -/
theorem Request.forall_phrases (hP : ∀ t, P (.other t)) {r : Request} {s : Statement}
    (h : r.compile d = .ok s) : (∀ p ∈ r.phrases d, P p) ↔ ∀ k ∈ r.clauses, k.All d P := by
  have clauses : (∀ k ∈ r.clauses, k.All d P)
      ↔ (∀ x ∈ shownFilters r.filters, (Clause.filter x).All d P)
        ∧ ∀ t ∈ r.statements, t.AllClauses d P := by
    unfold Request.clauses Query.AllClauses
    simp only [List.forall_mem_append, List.forall_mem_map, List.forall_mem_flatMap]
  rw [clauses]
  cases r with
  | select q =>
    rw [show shownFilters (Request.select q).filters = [] from rfl]
    exact (q.forall_phrases hP).trans (and_iff_right (List.forall_mem_nil _)).symm
  | update q values => exact (forall_updatePhrases hP q _).trans (forall_filterPhrases hP q.filters)
  | increment q column amount extra =>
    exact (forall_updatePhrases hP q _).trans (forall_filterPhrases hP q.filters)
  | jsonUpdate q column path v =>
    obtain ⟨stored, words, f, -, hwords, -, -⟩ := Statement.jsonUpdate_eq_ok h
    simp only [Request.phrases, require_eq_ok hwords]
    exact (forall_updatePhrases hP q _).trans (forall_filterPhrases hP q.filters)
  | jsonRemove q column path =>
    obtain ⟨words, f, hwords, -, -⟩ := Statement.jsonRemove_eq_ok h
    simp only [Request.phrases, require_eq_ok hwords]
    exact (forall_updatePhrases hP q _).trans (forall_filterPhrases hP q.filters)
  | delete q =>
    refine Iff.trans ?_ (forall_filterPhrases hP q.filters)
    rw [Request.phrases, List.forall_mem_cons, q.forall_wherePhrases hP]
    exact and_iff_right (hP _)
  | _ =>
    exact iff_of_true (List.forall_mem_singleton.2 (hP _))
      ⟨List.forall_mem_nil _, List.forall_mem_nil _⟩

end Everywhere

end SqlQuery
