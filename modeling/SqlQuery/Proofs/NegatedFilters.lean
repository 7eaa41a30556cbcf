import SqlQuery.Proofs.DescribedFilters
import SqlQuery.Proofs.KeyedRows
import SqlQuery.Proofs.ParallelSteps
import SqlQuery.Proofs.Predicates

/-!
# Filters and their negations

A negated filter is made in one of three ways: with the complement of a comparison, with a test for
the opposite of null, or with the flag that the fields of a filter end with. In each way the filter
that is made has the opposite truth of the one that is not negated (`Filter.Opposes`), or neither is
made, and all else is done alike (`Workspace.Parallel`). `Script.opposite_methods` says so of the
methods, with the filters and the sub-queries that they are given read as any argument.
-/

namespace SqlQuery

open Effect

/-! ## Pairs of filters -/

variable {d : Dialect} {kind : FilterKind} {c : Connective} {fields : Fields}

/-- The second filter stands in the first one's place with the opposite truth. -/
structure Filter.Opposes (d : Dialect) (f g : Filter) : Prop where
  connective : g.connective = f.connective
  condition : f.condition.Opposes d g.condition

theorem Filter.Opposes.symm {f g : Filter} (h : f.Opposes d g) : g.Opposes d f where
  connective := h.connective.symm
  condition := h.condition.symm

/-- The second filter is the first, joined by OR in place of AND. -/
structure Filter.Alternates (f g : Filter) : Prop where
  connective : f.connective = .and
  eq : g = { f with connective := .or }

/-- The kinds of filters that read a negation. -/
def FilterKind.isNegatable : FilterKind → Bool
  | .between | .isIn | .isNull | .exists | .multiColumn => true
  | _ => false

namespace FilterParts

/-- Conditions that are opposed become filters that are. -/
theorem check_opposes {p p' : FilterParts} (hconnective : p'.connective = p.connective)
    (h : Result.Paired (Condition.Opposes d) p.condition p'.condition) :
    Result.Paired (Filter.Opposes d) p.check p'.check := by
  unfold check
  cases hp : p.condition <;> cases hp' : p'.condition <;> rw [hp, hp'] at h
  · trivial
  · exact h
  · exact h
  · exact ⟨hconnective, h⟩

/-- The negation turns a condition into the opposed one. -/
theorem condition_opposes (hkind : kind.isNegatable) (p : FilterParts) :
    Result.Paired (Condition.Opposes d) ((p.withNegation false).ofKind kind c).condition
      ((p.withNegation true).ofKind kind c).condition := by
  have hcolumn : ((p.withNegation true).ofKind kind c).needColumn
      = ((p.withNegation false).ofKind kind c).needColumn := rfl
  unfold condition
  cases kind with
  | between =>
    refine .ite (fun _ => trivial) fun _ => ?_
    rw [hcolumn]
    refine .bind (fun column => ?_) _
    dsimp only [ofKind, withNegation]
    split
    · exact Condition.between_opposes
    · trivial
  | isIn =>
    refine .ite (fun _ => trivial) fun _ => ?_
    rw [hcolumn]
    refine .bind (fun column => ?_) _
    dsimp only [ofKind, withNegation]
    split
    · exact Condition.inQuery_opposes
    · trivial
    · exact Condition.inValues_opposes
  | isNull =>
    refine .ite (fun _ => trivial) fun _ => ?_
    rw [hcolumn]
    refine .bind (fun column => ?_) _
    exact Condition.isNull_opposes
  | «exists» =>
    refine .ite (fun _ => trivial) fun _ => ?_
    dsimp only [ofKind, withNegation]
    split
    · exact Condition.exists_opposes
    · trivial
  | multiColumn =>
    refine .ite (fun _ => trivial) fun _ => ?_
    refine .ite (fun _ => trivial) fun _ => ?_
    refine .bind (fun comparison => ?_) _
    exact Condition.anyColumn_opposes
  | _ => cases hkind

/-- The connective is no part of the condition. -/
theorem check_alternates (p : FilterParts) :
    Result.Paired Filter.Alternates (p.ofKind kind .and).check (p.ofKind kind .or).check := by
  have hcondition : (p.ofKind kind .or).condition = (p.ofKind kind .and).condition := rfl
  unfold check
  rw [hcondition]
  refine .bind (fun condition => ?_) _
  refine ⟨rfl, ?_⟩
  cases condition <;> rfl

end FilterParts

namespace Filter

open Result

/-- **One flag makes the difference** between two filters of a kind that reads a negation. -/
theorem described_opposes (fields : Fields) (hkind : kind.isNegatable)
    (h : fields.lookup "negated" = none) :
    Paired (Opposes d) (described kind c (negatedFields fields false))
      (described kind c (negatedFields fields true)) := by
  rw [described_negated h, described_negated h]
  refine .bind (fun p => ?_) _
  exact FilterParts.check_opposes rfl (FilterParts.condition_opposes hkind p)

theorem described_alternates :
    Paired Alternates (described kind .and fields) (described kind .or fields) := by
  rw [described_eq, described_eq]
  exact .bind (fun p => FilterParts.check_alternates p) _

/-! ## Pairs of filters that steps make -/

variable {column values query connective : Argument}

theorem between_opposes :
    Paired (Opposes d) (between column values connective (Verb.flag false))
      (between column values connective (Verb.flag true)) := by
  refine .bind (fun c => ?_) _
  exact described_opposes [_, _] rfl rfl

theorem among_opposes :
    Paired (Opposes d) (among column values connective (Verb.flag false))
      (among column values connective (Verb.flag true)) := by
  refine .bind (fun c => ?_) _
  cases values <;> exact described_opposes [_, _] rfl rfl

theorem null_opposes :
    Paired (Opposes d) (null column connective (Verb.flag false))
      (null column connective (Verb.flag true)) := by
  refine .bind (fun c => ?_) _
  exact described_opposes [_] rfl rfl

theorem existing_opposes :
    Paired (Opposes d) (existing query connective (Verb.flag false))
      (existing query connective (Verb.flag true)) := by
  refine .bind (fun c => ?_) _
  exact described_opposes [_] rfl rfl

theorem anyColumn_opposes {columns operator value matchAll : Argument} :
    Paired (Opposes d) (anyColumn columns operator value matchAll (Verb.flag false) connective)
      (anyColumn columns operator value matchAll (Verb.flag true) connective) := by
  refine .bind (fun op => ?_) _
  refine .bind (fun c => ?_) _
  exact described_opposes [_, _, _, _] rfl rfl

/-! ## Comparisons -/

/-- The fields of a comparison of a column. -/
def comparedFields (column : String) (op : Operator) (v : Argument) : Fields :=
  [("column", .text column), ("operator", .word (.operator op)), ("value", v)]

theorem read_comparedFields (column : String) (op : Operator) (v : Argument) :
    FilterParts.read (comparedFields column op v)
      = .ok { kind := .basic, column := some column, operator := some op, value := v.toValue } := by
  cases op with
  | compare c => cases c <;> rfl
  | _ => rfl

theorem compare_eq (column : String) (op : Operator) (v connective : Argument) :
    compare (.text column) (.word (.operator op)) v connective
      = parseConnective connective >>= fun c => FilterParts.check
          { kind := .basic, connective := c, column := some column, operator := some op,
            value := v.toValue } := by
  show parseConnective connective >>= (fun c => described .basic c (comparedFields column op v)) = _
  congr 1
  funext c
  rw [described_eq, read_comparedFields]
  rfl

/-- The complement of a comparison makes the opposed filter. -/
theorem compare_opposes (hd : d.HasLikeWords) (column : String) (c : Comparison)
    (v connective : Argument) :
    Paired (Opposes d) (compare (.text column) (.word (.operator (.compare c))) v connective)
      (compare (.text column) (.word (.operator (.compare c.complement))) v connective) := by
  rw [compare_eq, compare_eq]
  refine .bind (fun connective => ?_) _
  refine FilterParts.check_opposes rfl ?_
  by_cases hcolumn : column = ""
  · subst hcolumn
    trivial
  · unfold FilterParts.condition FilterParts.needComparedColumn FilterParts.needColumn
    simp only [given_some hcolumn]
    exact Condition.compare_opposes hd

/-- An operator that takes another operand makes no comparison. -/
theorem compare_refused (column : String) {op : Operator} (h : op.comparison? = none)
    (v connective : Argument) :
    ∃ e, compare (.text column) (.word (.operator op)) v connective = .error e := by
  rw [compare_eq]
  cases parseConnective connective with
  | error e => exact ⟨e, rfl⟩
  | ok c =>
    by_cases hcolumn : column = ""
    · subst hcolumn
      exact ⟨_, rfl⟩
    · have hoperator : (some op >>= Operator.comparison?) = none := h
      refine ⟨.malformed (.clause (.filterOperator .basic (some op) column)), ?_⟩
      show FilterParts.check _ = _
      unfold FilterParts.check FilterParts.condition FilterParts.needComparedColumn
        FilterParts.needColumn FilterParts.needComparison
      simp only [given_some hcolumn, hoperator]
      rfl

/-- Equality and its opposites, which ask for null where they are given null. -/
def asksForNull : Operator → Bool
  | .compare .eq | .compare .ne | .compare .neAlt => true
  | _ => false

theorem compareOrNull_eq {column v connective : Argument} {op : Operator}
    (h : v ≠ .null ∨ asksForNull op = false) :
    compareOrNull column op v connective
      = compare column (.word (.operator op)) v connective := by
  unfold compareOrNull
  split
  · rcases h with h | h
    · exact absurd rfl h
    · cases h
  · rcases h with h | h
    · exact absurd rfl h
    · cases h
  · rcases h with h | h
    · exact absurd rfl h
    · cases h
  · rfl

/-- With null for equality and its opposites it is a test for null and the opposite test, in either
order. All else are two comparisons. -/
theorem compareOrNull_opposes (hd : d.HasLikeWords) (column : String) (c : Comparison)
    (v connective : Argument) :
    Paired (Opposes d) (compareOrNull (.text column) (.compare c) v connective)
      (compareOrNull (.text column) (.compare c.complement) v connective) := by
  have hcomplement : asksForNull (.compare c.complement) = asksForNull (.compare c) := by
    cases c <;> rfl
  by_cases h : v ≠ .null ∨ asksForNull (.compare c) = false
  · rw [compareOrNull_eq h, compareOrNull_eq (by rwa [hcomplement])]
    exact compare_opposes hd column c v connective
  · rw [not_or, not_not] at h
    obtain ⟨rfl, hc⟩ := h
    cases c with
    | eq => exact null_opposes
    | ne | neAlt => exact null_opposes.flip fun f g h => h.symm
    | _ => exact absurd rfl hc

/-- An operator has a complement if it is a comparison, and if not it makes no filter either. -/
theorem compareFilter_opposes (hd : d.HasLikeWords) (column : String) (operator : Argument)
    (value : Option Argument) (connective : Argument) :
    Paired (Opposes d) (Verb.compareFilter (.text column) operator value connective)
      (Verb.complementFilter (.text column) operator value connective) := by
  refine .bind (fun read => ?_) _
  obtain ⟨op, v⟩ := read
  cases hop : op.comparison? with
  | some c =>
    cases op with
    | compare c' => exact compareOrNull_opposes hd column c' v connective
    | _ => cases hop
  | none =>
    obtain ⟨e, he⟩ := compare_refused column hop v connective
    have hnull : asksForNull op = false := by
      cases op with
      | compare c => cases hop
      | _ => rfl
    dsimp only
    rw [compareOrNull_eq (.inr hnull), he]
    cases op with
    | compare c => cases hop
    | _ => trivial

/-! ## The same filter after AND and after OR -/

variable {negated : Argument}

theorem between_alternates :
    Paired Alternates (between column values (Verb.joinedBy .and) negated)
      (between column values (Verb.joinedBy .or) negated) :=
  described_alternates

theorem among_alternates :
    Paired Alternates (among column values (Verb.joinedBy .and) negated)
      (among column values (Verb.joinedBy .or) negated) :=
  described_alternates

theorem null_alternates :
    Paired Alternates (null column (Verb.joinedBy .and) negated)
      (null column (Verb.joinedBy .or) negated) :=
  described_alternates

theorem existing_alternates :
    Paired Alternates (existing query (Verb.joinedBy .and) negated)
      (existing query (Verb.joinedBy .or) negated) :=
  described_alternates

theorem anyColumn_alternates {columns operator value matchAll : Argument} :
    Paired Alternates (anyColumn columns operator value matchAll negated (Verb.joinedBy .and))
      (anyColumn columns operator value matchAll negated (Verb.joinedBy .or)) := by
  refine .bind (fun op => ?_) _
  exact described_alternates

theorem compareOrNull_alternates {op : Operator} {value : Argument} :
    Paired Alternates (compareOrNull column op value (Verb.joinedBy .and))
      (compareOrNull column op value (Verb.joinedBy .or)) := by
  unfold compareOrNull
  split
  · exact null_alternates
  · exact null_alternates
  · exact null_alternates
  · exact described_alternates

theorem compareFilter_alternates {operator : Argument} {value : Option Argument} :
    Paired Alternates (Verb.compareFilter column operator value (Verb.joinedBy .and))
      (Verb.compareFilter column operator value (Verb.joinedBy .or)) := by
  refine .bind (fun read => ?_) _
  exact compareOrNull_alternates

theorem complementFilter_alternates {operator : Argument} {value : Option Argument} :
    Paired Alternates (Verb.complementFilter column operator value (Verb.joinedBy .and))
      (Verb.complementFilter column operator value (Verb.joinedBy .or)) := by
  refine .bind (fun read => ?_) _
  obtain ⟨op, v⟩ := read
  cases op with
  | compare c => exact compareOrNull_alternates
  | _ => trivial

/-- Filters that are made of the same operator and value. -/
theorem withOperator_paired {R : Filter → Filter → Prop} {operator : Argument}
    {value : Option Argument} {make make' : Argument → Argument → Result Filter}
    (h : ∀ op v, Paired R (make op v) (make' op v)) :
    Paired R (Verb.withOperator operator value make) (Verb.withOperator operator value make') := by
  refine .bind (fun read => ?_) _
  exact h (.word (.operator read.1)) read.2

end Filter

/-! ## Steps in pairs -/

namespace Step

open Workspace

variable {columns column values operator query : Term} {value : Option Term} {name : String}
  {c c' : Connective} {b b' : Bool}

theorem compared_opposes (hd : d.HasLikeWords) :
    Step.Parallel (Filter.Opposes d)
      (.mk .filter [some (.value (.text name)), some operator, value, some (connectiveTerm c)])
      (.mk .filterNot
        [some (.value (.text name)), some operator, value, some (connectiveTerm c)]) := by
  refine parallel_of_perform rfl fun run id => ?_
  simp only [evalArgs_cons_bind, evalArgs_nil_bind, evalOption_some_bind, eval_text_bind,
    eval_connective_bind]
  refine .bind (fun op => .bind (fun v => ?_) _) _
  exact .edits (Filter.compareFilter_opposes hd name op v _)

theorem compared_alternates :
    Step.Parallel Filter.Alternates
      (.mk .filter [some (.value (.text name)), some operator, value, some (connectiveTerm .and)])
      (.mk .filter
        [some (.value (.text name)), some operator, value, some (connectiveTerm .or)]) := by
  refine parallel_of_perform (by cases value <;> rfl) fun run id => ?_
  simp only [evalArgs_cons_bind, evalArgs_nil_bind, evalOption_some_bind, eval_text_bind,
    eval_connective_bind]
  refine .bind (fun op => .bind (fun v => ?_) _) _
  exact .edits Filter.compareFilter_alternates

theorem complement_alternates :
    Step.Parallel Filter.Alternates
      (.mk .filterNot [some column, some operator, value, some (connectiveTerm .and)])
      (.mk .filterNot [some column, some operator, value, some (connectiveTerm .or)]) := by
  refine parallel_of_perform (by cases value <;> rfl) fun run id => ?_
  simp only [evalArgs_cons_bind, evalArgs_nil_bind, evalOption_some_bind, eval_connective_bind]
  refine .bind (fun column => .bind (fun op => .bind (fun v => ?_) _) _) _
  exact .edits Filter.complementFilter_alternates

theorem anyColumn_parallel
    (h : ∀ columns operator value, Result.Paired R
      (Filter.anyColumn columns operator value (Verb.flag false) (Verb.flag b) (Verb.joinedBy c))
      (Filter.anyColumn columns operator value (Verb.flag false) (Verb.flag b')
        (Verb.joinedBy c'))) :
    Step.Parallel R (.mk (.filterAny false b c) [some columns, some operator, value])
      (.mk (.filterAny false b' c') [some columns, some operator, value]) := by
  refine parallel_of_perform rfl fun run id => ?_
  simp only [evalArgs_cons_bind, evalArgs_nil_bind, evalOption_some_bind]
  refine .bind (fun columns => .bind (fun op => .bind (fun v => ?_) _) _) _
  exact .edits (Filter.withOperator_paired (h columns))

theorem between_parallel
    (h : ∀ column values, Result.Paired R
      (Filter.between column values (Verb.joinedBy c) (Verb.flag b))
      (Filter.between column values (Verb.joinedBy c') (Verb.flag b'))) :
    Step.Parallel R
      (.mk .filterBetween [some column, some values, some (connectiveTerm c), some (boolTerm b)])
      (.mk .filterBetween
        [some column, some values, some (connectiveTerm c'), some (boolTerm b')]) := by
  refine parallel_of_perform rfl fun run id => ?_
  simp only [evalArgs_cons_bind, evalArgs_nil_bind, evalOption_some_bind, eval_connective_bind,
    eval_bool_bind]
  refine .bind (fun column => .bind (fun values => ?_) _) _
  exact .edits (h column values)

/-- The rows of a sub-query are found before the filter is made. -/
theorem among_parallel
    (h : ∀ column values, Result.Paired R
      (Filter.among column values (Verb.joinedBy c) (Verb.flag b))
      (Filter.among column values (Verb.joinedBy c') (Verb.flag b'))) :
    Step.Parallel R
      (.mk .filterIn [some column, some values, some (connectiveTerm c), some (boolTerm b)])
      (.mk .filterIn [some column, some values, some (connectiveTerm c'), some (boolTerm b')]) := by
  refine parallel_of_perform rfl fun run id => ?_
  simp only [evalArgs_cons_bind, evalArgs_nil_bind, evalOption_some_bind, eval_connective_bind,
    eval_bool_bind]
  refine .bind (fun column => .bind (fun values => ?_) _) _
  by_cases hquery : standsForQuery values
  · simp only [perform, if_pos hquery]
    exact .bind (fun source => .edits (h column source)) _
  · simp only [perform, if_neg hquery]
    exact .edits (h column values)

theorem null_parallel
    (h : ∀ column, Result.Paired R (Filter.null column (Verb.joinedBy c) (Verb.flag b))
      (Filter.null column (Verb.joinedBy c') (Verb.flag b'))) :
    Step.Parallel R
      (.mk .filterNull [some column, some (connectiveTerm c), some (boolTerm b)])
      (.mk .filterNull [some column, some (connectiveTerm c'), some (boolTerm b')]) := by
  refine parallel_of_perform rfl fun run id => ?_
  simp only [evalArgs_cons_bind, evalArgs_nil_bind, evalOption_some_bind, eval_connective_bind,
    eval_bool_bind]
  refine .bind (fun column => ?_) _
  exact .edits (h column)

theorem existing_parallel
    (h : ∀ query, Result.Paired R (Filter.existing query (Verb.joinedBy c) (Verb.flag b))
      (Filter.existing query (Verb.joinedBy c') (Verb.flag b'))) :
    Step.Parallel R
      (.mk .filterExists [some query, some (connectiveTerm c), some (boolTerm b)])
      (.mk .filterExists [some query, some (connectiveTerm c'), some (boolTerm b')]) := by
  refine parallel_of_perform rfl fun run id => ?_
  simp only [evalArgs_cons_bind, evalArgs_nil_bind, evalOption_some_bind, eval_connective_bind,
    eval_bool_bind]
  refine .bind (fun query => .bind (fun q => ?_) _) _
  exact .edits (h (.query q))

end Step

/-! ## Methods in pairs -/

/-- The methods that add filters have one name for each connective. -/
def Connective.methodName : Connective → String → String
  | .and, name => name
  | .or, name => "or_" ++ name

/-- The methods with two names, called with the same arguments, are two steps in parallel. -/
def Script.Parallel (R : Filter → Filter → Prop) (name name' : String) (args : List Term) : Prop :=
  ∃ s s', Step.ofCall? name ⟨args, []⟩ = some s ∧ Step.ofCall? name' ⟨args, []⟩ = some s'
    ∧ Step.Parallel R s s'

namespace Script

/-- Two methods for opposed filters, with the arguments that both take. -/
inductive Opposite : String → String → List Term → Prop where
  | compared (column : String) (operator : Term) (value : Option Term) :
    Opposite "where" "where_not" (.value (.text column) :: operator :: value.toList)
  | anyColumn (columns operator : Term) (value : Option Term) :
    Opposite "where_any" "where_none" (columns :: operator :: value.toList)
  | between (column values : Term) :
    Opposite "where_between" "where_not_between" [column, values]
  | among (column values : Term) : Opposite "where_in" "where_not_in" [column, values]
  | null (column : Term) : Opposite "where_null" "where_not_null" [column]
  | existing (query : Term) : Opposite "where_exists" "where_not_exists" [query]

variable {name name' : String} {args : List Term}

/-- **A negated filter has the opposite truth**, whatever it is given: of two opposite methods, both
refuse what they are given, or the filter that the second adds is true where that of the first is
false, false where it is true, and unknown where it is unknown. The methods for OR differ from them
in the connective of their filters, and in nothing else. -/
theorem opposite_methods (hd : d.HasLikeWords) (h : Opposite name name' args) :
    (∀ c : Connective,
      Parallel (Filter.Opposes d) (c.methodName name) (c.methodName name') args)
      ∧ Parallel Filter.Alternates name ("or_" ++ name) args
      ∧ Parallel Filter.Alternates name' ("or_" ++ name') args := by
  cases h with
  | compared column operator value =>
    refine ⟨fun c => ?_, ?_, ?_⟩
    · cases c <;> cases value <;> exact ⟨_, _, rfl, rfl, Step.compared_opposes hd⟩
    · cases value <;> exact ⟨_, _, rfl, rfl, Step.compared_alternates⟩
    · cases value <;> exact ⟨_, _, rfl, rfl, Step.complement_alternates⟩
  | anyColumn columns operator value =>
    refine ⟨fun c => ?_, ?_, ?_⟩
    · cases c <;> cases value <;>
        exact ⟨_, _, rfl, rfl, Step.anyColumn_parallel fun _ _ _ => Filter.anyColumn_opposes⟩
    · cases value <;>
        exact ⟨_, _, rfl, rfl, Step.anyColumn_parallel fun _ _ _ => Filter.anyColumn_alternates⟩
    · cases value <;>
        exact ⟨_, _, rfl, rfl, Step.anyColumn_parallel fun _ _ _ => Filter.anyColumn_alternates⟩
  | between column values =>
    refine ⟨fun c => ?_, ?_, ?_⟩
    · cases c <;>
        exact ⟨_, _, rfl, rfl, Step.between_parallel fun _ _ => Filter.between_opposes⟩
    · exact ⟨_, _, rfl, rfl, Step.between_parallel fun _ _ => Filter.between_alternates⟩
    · exact ⟨_, _, rfl, rfl, Step.between_parallel fun _ _ => Filter.between_alternates⟩
  | among column values =>
    refine ⟨fun c => ?_, ?_, ?_⟩
    · cases c <;> exact ⟨_, _, rfl, rfl, Step.among_parallel fun _ _ => Filter.among_opposes⟩
    · exact ⟨_, _, rfl, rfl, Step.among_parallel fun _ _ => Filter.among_alternates⟩
    · exact ⟨_, _, rfl, rfl, Step.among_parallel fun _ _ => Filter.among_alternates⟩
  | null column =>
    refine ⟨fun c => ?_, ?_, ?_⟩
    · cases c <;> exact ⟨_, _, rfl, rfl, Step.null_parallel fun _ => Filter.null_opposes⟩
    · exact ⟨_, _, rfl, rfl, Step.null_parallel fun _ => Filter.null_alternates⟩
    · exact ⟨_, _, rfl, rfl, Step.null_parallel fun _ => Filter.null_alternates⟩
  | existing query =>
    refine ⟨fun c => ?_, ?_, ?_⟩
    · cases c <;> exact ⟨_, _, rfl, rfl, Step.existing_parallel fun _ => Filter.existing_opposes⟩
    · exact ⟨_, _, rfl, rfl, Step.existing_parallel fun _ => Filter.existing_alternates⟩
    · exact ⟨_, _, rfl, rfl, Step.existing_parallel fun _ => Filter.existing_alternates⟩

/-- MySQL compares a column with a pattern by LIKE and by NOT LIKE. The filter is made. -/
theorem opposite_methods_ilike :
    Dialect.mysql.HasLikeWords
      ∧ Opposite "where" "where_not"
        [.value (.text "name"), .value (.text "ilike"), .value (.text "a%")]
      ∧ Parallel (Filter.Opposes .mysql) "or_where" "or_where_not"
        [.value (.text "name"), .value (.text "ilike"), .value (.text "a%")]
      ∧ ∃ s w, Step.ofCall? "or_where"
          ⟨[.value (.text "name"), .value (.text "ilike"), .value (.text "a%")], []⟩ = some s
        ∧ (Workspace.run 0 s).Returns
          { queries := [{}], builders := [{ query := 0, dialect := .mysql }] } () w := by
  have hfound : Registry.initial.find "MySQL" = .ok .mysql := rfl
  have hd : Dialect.mysql.HasLikeWords := Registry.hasLikeWords hfound
  have h : Opposite "where" "where_not"
      [.value (.text "name"), .value (.text "ilike"), .value (.text "a%")] :=
    .compared "name" _ (some _)
  exact ⟨hd, h, (opposite_methods hd h).1 .or, _, _, rfl, rfl⟩

end Script

end SqlQuery
