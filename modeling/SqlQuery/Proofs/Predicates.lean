import SqlQuery.Dialect.Registry
import SqlQuery.Proofs.Precedence

/-!
# Predicates as they are read

A database knows of a condition only what is written. `Predicate` has a form for each spelling of
the filters that compare, with the operator as text, and `Condition.predicate` says which of them a
dialect writes for a condition (`Predicate.template_eq`).

`Predicate.truth` gives the truth of a predicate for one row, with all that a database brings to it
as a `RowView`: the cells of the row, an order of values, what matches a pattern, and the rows of
sub-queries. A comparison with null is unknown. BETWEEN and IN and their negated forms are read as
the comparisons that they abbreviate, so that what is proved of NOT BETWEEN and NOT IN does not rest
on the word NOT.
-/

namespace SqlQuery

/-! ## Negation -/

namespace Truth

def not : Truth → Truth
  | yes => no
  | no => yes
  | unknown => unknown

def ofBool (b : Bool) : Truth :=
  if b then yes else no

/-- All of some. -/
def all (ts : List Truth) : Truth :=
  ts.foldr and yes

/-- Any of some. -/
def any (ts : List Truth) : Truth :=
  ts.foldr or no

@[simp] theorem not_not (t : Truth) : t.not.not = t := by
  cases t <;> rfl

theorem not_and (s t : Truth) : (s.and t).not = s.not.or t.not := by
  cases s <;> cases t <;> rfl

theorem not_or (s t : Truth) : (s.or t).not = s.not.and t.not := by
  cases s <;> cases t <;> rfl

theorem not_ofBool (b : Bool) : (ofBool b).not = ofBool !b := by
  cases b <;> rfl

theorem not_any (ts : List Truth) : (any ts).not = all (ts.map not) := by
  induction ts with
  | nil => rfl
  | cons t ts ih =>
    have hrest : any (t :: ts) = t.or (any ts) := rfl
    rw [hrest, not_or, ih]
    rfl

end Truth

/-! ## One row -/

def Value.isNull : Value → Bool
  | .null => true
  | _ => false

/-- What a database brings to the predicates of one row. -/
structure RowView where
  /-- The value of a column. -/
  cell : String → Value
  /-- The order of values. -/
  order : Value → Value → Ordering
  /-- Whether a value matches a pattern, for LIKE and for ILIKE. -/
  matched : String → Value → Value → Bool
  /-- The rows of a sub-query, by their first columns. -/
  rows : Query → List Value

namespace RowView

variable (r : RowView)

/-- What an operator says of two values that are not null. -/
def holds (operator : String) (a b : Value) : Option Bool :=
  match operator with
  | "=" => some (r.order a b == .eq)
  | "!=" | "<>" => some (r.order a b != .eq)
  | "<" => some (r.order a b == .lt)
  | ">=" => some (r.order a b != .lt)
  | ">" => some (r.order a b == .gt)
  | "<=" => some (r.order a b != .gt)
  | "LIKE" => some (r.matched "LIKE" a b)
  | "NOT LIKE" => some !r.matched "LIKE" a b
  | "ILIKE" => some (r.matched "ILIKE" a b)
  | "NOT ILIKE" => some !r.matched "ILIKE" a b
  | _ => none

/-- What an operator says of two values. -/
def compare (operator : String) (a b : Value) : Truth :=
  if a.isNull || b.isNull then .unknown
  else match r.holds operator a b with
    | some answer => .ofBool answer
    | none => .unknown

end RowView

/-- A dialect has the words for LIKE and ILIKE that MySQL has, or those that PostgreSQL has. -/
def Dialect.HasLikeWords (d : Dialect) : Prop :=
  d.like = Dialect.mysql.like ∨ d.like = Dialect.postgres.like

variable {d : Dialect} {r : RowView}

/-- All dialects that have a name from the start have the words. -/
theorem Registry.hasLikeWords {name : String} (h : Registry.initial.find name = .ok d) :
    d.HasLikeWords := by
  unfold Registry.find at h
  cases hfound : List.lookup (Text.lower name) Registry.initial with
  | none =>
    rw [hfound] at h
    cases h
  | some found =>
    rw [hfound] at h
    cases h
    obtain ⟨before, after, hnames, -⟩ := List.lookup_eq_some_iff.1 hfound
    have hmem : (Text.lower name, d) ∈ Registry.initial := by
      rw [hnames]
      exact List.mem_append_right _ List.mem_cons_self
    simp only [Registry.initial, List.mem_cons, List.not_mem_nil, or_false, Prod.mk.injEq] at hmem
    rcases hmem with ⟨-, rfl⟩ | ⟨-, rfl⟩ | ⟨-, rfl⟩ | ⟨-, rfl⟩
    · exact .inl rfl
    · exact .inl rfl
    · exact .inr rfl
    · exact .inr rfl

/-- The second of two operators says the opposite of the first. -/
def RowView.Opposite (r : RowView) (operator operator' : String) : Prop :=
  ∀ a b, r.holds operator' a b = (r.holds operator a b).map (!·)

/-- Of null both say nothing. -/
theorem RowView.Opposite.compare {operator operator' : String} (h : r.Opposite operator operator')
    (a b : Value) : r.compare operator' a b = (r.compare operator a b).not := by
  unfold RowView.compare
  split
  · rfl
  · rw [h]
    cases r.holds operator a b with
    | none => rfl
    | some answer => exact (Truth.not_ofBool answer).symm

/-- The complement of a comparison is written with the opposite operator. -/
theorem Comparison.complement_opposite (hd : d.HasLikeWords) (c : Comparison) :
    r.Opposite (d.comparisonText c) (d.comparisonText c.complement) := by
  intro a b
  rcases hd with hd | hd <;> cases c <;>
    simp [Dialect.comparisonText, Dialect.isLike, Comparison.complement, Comparison.text, hd,
      Dialect.mysql, Dialect.postgres, RowView.holds, bne]

theorem RowView.equal_opposite : r.Opposite "=" "<>" :=
  fun _ _ => rfl

theorem RowView.atLeast_opposite : r.Opposite ">=" "<" := by
  intro a b
  simp [RowView.holds, bne]

theorem RowView.atMost_opposite : r.Opposite "<=" ">" := by
  intro a b
  simp [RowView.holds, bne]

/-! ## Predicates -/

/-- A column, an operator and a value. -/
structure Compared where
  column : String
  operator : String
  value : Value

/-- A condition as it is written. -/
inductive Predicate where
  | compared (c : Compared)
  | between (column : String) (low high : Value)
  | notBetween (column : String) (low high : Value)
  | among (column : String) (values : List Value)
  | notAmong (column : String) (values : List Value)
  | amongRows (column : String) (query : Query)
  | notAmongRows (column : String) (query : Query)
  | isNull (column : String)
  | isNotNull (column : String)
  | hasRows (query : Query)
  | hasNoRows (query : Query)
  /-- Comparisons in parentheses, all of which or any of which are asked for. -/
  | joined (matchAll : Bool) (parts : List Compared)
  /-- NOT before such parentheses. -/
  | notJoined (matchAll : Bool) (parts : List Compared)

open Piece

def Compared.template (c : Compared) : Template :=
  [text (c.column ++ " " ++ c.operator ++ " "), slot (.plain c.value)]

/-- Comparisons with AND or OR between them. -/
def joinedTemplate (matchAll : Bool) (parts : List Compared) : Template :=
  [text (if matchAll then " AND " else " OR ")].intercalate (parts.map Compared.template)

namespace Predicate

/-- The text of a predicate, with a slot for each value. -/
def template (d : Dialect) : Predicate → Template
  | compared c => c.template
  | between column low high =>
    [text (column ++ " BETWEEN "), slot (.plain low), text " AND ", slot (.plain high)]
  | notBetween column low high =>
    [text (column ++ " NOT BETWEEN "), slot (.plain low), text " AND ", slot (.plain high)]
  | among column values => text (column ++ " IN (") :: listTemplate values ++ [text ")"]
  | notAmong column values => text (column ++ " NOT IN (") :: listTemplate values ++ [text ")"]
  | amongRows column query => text (column ++ " IN (") :: query.template d ++ [text ")"]
  | notAmongRows column query => text (column ++ " NOT IN (") :: query.template d ++ [text ")"]
  | isNull column => [text (column ++ " IS NULL")]
  | isNotNull column => [text (column ++ " IS NOT NULL")]
  | hasRows query => text "EXISTS (" :: query.template d ++ [text ")"]
  | hasNoRows query => text "NOT EXISTS (" :: query.template d ++ [text ")"]
  | joined matchAll parts => text "(" :: joinedTemplate matchAll parts ++ [text ")"]
  | notJoined matchAll parts => text "NOT (" :: joinedTemplate matchAll parts ++ [text ")"]

end Predicate

/-- The predicate that a dialect writes for a condition that compares, if it is one. -/
def Condition.predicate (d : Dialect) : Condition → Option Predicate
  | .compare column c v => some (.compared ⟨column, d.comparisonText c, v⟩)
  | .between column false low high => some (.between column low high)
  | .between column true low high => some (.notBetween column low high)
  | .inValues column false values => some (.among column values)
  | .inValues column true values => some (.notAmong column values)
  | .inQuery column false query => some (.amongRows column query)
  | .inQuery column true query => some (.notAmongRows column query)
  | .isNull column false => some (.isNull column)
  | .isNull column true => some (.isNotNull column)
  | .exists false query => some (.hasRows query)
  | .exists true query => some (.hasNoRows query)
  | .anyColumn names c v matchAll false =>
    some (.joined matchAll (names.map fun column => ⟨column, d.comparisonText c, v⟩))
  | .anyColumn names c v matchAll true =>
    some (.notJoined matchAll (names.map fun column => ⟨column, d.comparisonText c, v⟩))
  | _ => none

/-- The predicate of a condition is what a statement shows of it. -/
theorem Predicate.template_eq {c : Condition} {p : Predicate} (h : c.predicate d = some p) :
    p.template d = c.template d := by
  unfold Condition.predicate at h
  split at h <;> cases h <;>
    simp [Predicate.template, Condition.template, joinedTemplate, Compared.template,
      comparedTemplate, Function.comp_def]

/-! ## Truth -/

namespace RowView

variable (r : RowView)

def comparedTruth (c : Compared) : Truth :=
  r.compare c.operator (r.cell c.column) c.value

/-- A value is one of some. -/
def isOneOf (a : Value) (values : List Value) : Truth :=
  .any (values.map (r.compare "=" a))

/-- A value is different from all of some. -/
def isNoneOf (a : Value) (values : List Value) : Truth :=
  .all (values.map (r.compare "<>" a))

def joinedTruth (matchAll : Bool) (parts : List Compared) : Truth :=
  if matchAll then .all (parts.map r.comparedTruth) else .any (parts.map r.comparedTruth)

end RowView

/-- The truth of a predicate for a row. -/
def Predicate.truth (r : RowView) : Predicate → Truth
  | compared c => r.comparedTruth c
  | between column low high =>
    (r.compare ">=" (r.cell column) low).and (r.compare "<=" (r.cell column) high)
  | notBetween column low high =>
    (r.compare "<" (r.cell column) low).or (r.compare ">" (r.cell column) high)
  | among column values => r.isOneOf (r.cell column) values
  | notAmong column values => r.isNoneOf (r.cell column) values
  | amongRows column query => r.isOneOf (r.cell column) (r.rows query)
  | notAmongRows column query => r.isNoneOf (r.cell column) (r.rows query)
  | isNull column => .ofBool (r.cell column).isNull
  | isNotNull column => .ofBool !(r.cell column).isNull
  | hasRows query => .ofBool !(r.rows query).isEmpty
  | hasNoRows query => .ofBool (r.rows query).isEmpty
  | joined matchAll parts => r.joinedTruth matchAll parts
  | notJoined matchAll parts => (r.joinedTruth matchAll parts).not

/-- The second condition is written as a predicate that has the opposite truth of the first one's
for every row: true where that is false, false where it is true, and unknown with it. -/
def Condition.Opposes (d : Dialect) (c c' : Condition) : Prop :=
  ∃ p p', c.predicate d = some p ∧ c'.predicate d = some p' ∧ ∀ r, p'.truth r = (p.truth r).not

theorem RowView.isNoneOf_eq (r : RowView) (a : Value) (values : List Value) :
    r.isNoneOf a values = (r.isOneOf a values).not := by
  have hnot : ∀ v, r.compare "<>" a v = (r.compare "=" a v).not :=
    RowView.equal_opposite.compare a
  unfold isNoneOf isOneOf
  rw [Truth.not_any, List.map_map]
  congr 1
  exact List.map_congr_left fun v _ => hnot v

namespace Condition

variable {column : String} {v low high : Value} {values : List Value} {query : Query}
  {names : List String} {c : Comparison}

theorem Opposes.symm {c c' : Condition} (h : c.Opposes d c') : c'.Opposes d c := by
  obtain ⟨p, p', hp, hp', htruth⟩ := h
  refine ⟨p', p, hp', hp, ?_⟩
  intro r
  rw [htruth, Truth.not_not]

theorem compare_opposes (hd : d.HasLikeWords) :
    (compare column c v).Opposes d (compare column c.complement v) := by
  refine ⟨_, _, rfl, rfl, ?_⟩
  intro r
  exact (c.complement_opposite hd).compare _ v

theorem isNull_opposes : (isNull column false).Opposes d (isNull column true) := by
  refine ⟨_, _, rfl, rfl, ?_⟩
  intro r
  exact (Truth.not_ofBool _).symm

theorem between_opposes :
    (between column false low high).Opposes d (between column true low high) := by
  refine ⟨_, _, rfl, rfl, ?_⟩
  intro r
  simp only [Predicate.truth, Truth.not_and, ← RowView.atLeast_opposite.compare,
    ← RowView.atMost_opposite.compare]

theorem inValues_opposes :
    (inValues column false values).Opposes d (inValues column true values) := by
  refine ⟨_, _, rfl, rfl, ?_⟩
  intro r
  exact r.isNoneOf_eq _ values

theorem inQuery_opposes : (inQuery column false query).Opposes d (inQuery column true query) := by
  refine ⟨_, _, rfl, rfl, ?_⟩
  intro r
  exact r.isNoneOf_eq _ (r.rows query)

theorem exists_opposes : (Condition.exists false query).Opposes d (.exists true query) := by
  refine ⟨_, _, rfl, rfl, ?_⟩
  intro r
  simp only [Predicate.truth, Truth.not_ofBool, Bool.not_not]

theorem anyColumn_opposes {matchAll : Bool} :
    (anyColumn names c v matchAll false).Opposes d (anyColumn names c v matchAll true) := by
  refine ⟨_, _, rfl, rfl, ?_⟩
  intro r
  rfl

end Condition

end SqlQuery
