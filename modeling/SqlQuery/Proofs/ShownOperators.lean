import SqlQuery.Dialect.MySql
import SqlQuery.Proofs.CheckedClauses
import SqlQuery.Proofs.Phrases

/-!
# Operators between operands

A filter and a condition of HAVING hold a comparison, which is what their checks ask of an operator
that is shown between two operands (`FilterParts.operator_of_check`,
`KeyParts.operator_of_having`). The check of a join looks at the two sides of its ON condition and
not at the operator between them (`Join.check_any_operator`), so that is the one place for an
operator that compares nothing.
-/

namespace SqlQuery

open Piece

/-! ## What the clauses show -/

section Shown

variable {d : Dialect}

/-- The kind of filter that an operator is the words of, if it does not compare. -/
def Operator.ownKind? : Operator → Option FilterKind
  | .compare _ => none
  | .isIn | .notIn => some .isIn
  | .between | .notBetween => some .between
  | .isNull | .isNotNull => some .isNull
  | .exists | .notExists => some .exists

/-- An operator between operands is the one that the clause was given, and compares them unless
the clause is a join. An operator in words of its own belongs to a filter of its own kind. -/
def Phrase.Fits (k : Clause) : Phrase → Prop
  | .other _ => True
  | .operated _ _ op _ => k.operator? = some op ∧ ((∃ c, op = .compare c) ∨ ∃ j, k = .join j)
  | .worded _ op _ => ∃ x, k = .filter x ∧ op.ownKind? = some x.condition.kind

theorem forall_intercalate {P : Phrase → Prop} {separator : Template} (hP : P (.other separator))
    {pss : List (List Phrase)} (h : ∀ ps ∈ pss, ∀ p ∈ ps, P p) :
    ∀ p ∈ [Phrase.other separator].intercalate pss, P p := by
  induction pss with
  | nil => exact List.forall_mem_nil _
  | cons ps rest ih =>
    obtain ⟨hps, hrest⟩ := List.forall_mem_cons.1 h
    cases rest with
    | nil => rwa [List.intercalate_singleton]
    | cons qs rest =>
      rw [List.intercalate_cons_cons, List.forall_mem_append, List.forall_mem_append]
      exact ⟨⟨hps, List.forall_mem_singleton.2 hP⟩, ih hrest⟩

theorem Filter.fits (x : Filter) : (Clause.filter x).All d (Phrase.Fits (.filter x)) := by
  obtain ⟨connective, condition, unread⟩ := x
  show ∀ p ∈ condition.opening d, _
  -- A comparison shows the operator that the filter gives back as a part.
  have compares (left : String) {c : Comparison} (v : Value)
      (hc : (Clause.filter ⟨connective, condition, unread⟩).operator? = some (.compare c)) :
      ∀ p ∈ [comparedPhrase left c v], p.Fits (.filter ⟨connective, condition, unread⟩) :=
    List.forall_mem_singleton.2 ⟨hc, .inl ⟨c, rfl⟩⟩
  have plain (t : Template) :
      ∀ p ∈ [Phrase.other t], p.Fits (.filter ⟨connective, condition, unread⟩) :=
    List.forall_mem_singleton.2 trivial
  cases condition with
  | raw | group => exact plain _
  | compare column c v => exact compares column v rfl
  | columns first c second => exact List.forall_mem_singleton.2 ⟨rfl, .inl ⟨c, rfl⟩⟩
  | isNull column negated | «exists» negated query | inQuery column negated query =>
    cases negated <;> exact List.forall_mem_singleton.2 ⟨_, rfl, rfl⟩
  | between column negated low high | inValues column negated values =>
    cases negated <;> exact List.forall_mem_cons.2 ⟨⟨_, rfl, rfl⟩, plain _⟩
  | datePart | jsonLength | jsonPath =>
    unfold Condition.opening
    dsimp only
    split
    · exact compares _ _ rfl
    · exact List.forall_mem_nil _
  | jsonContains | fullText =>
    unfold Condition.opening
    dsimp only
    split
    · exact plain _
    · exact List.forall_mem_nil _
  | anyColumn columns c v matchAll negated =>
    refine List.forall_mem_append.2 ⟨List.forall_mem_cons.2 ⟨trivial, ?_⟩, plain _⟩
    refine forall_intercalate trivial (List.forall_mem_map.2 fun column _ => ?_)
    exact compares column v rfl

theorem Having.fits (h : Having) : (Clause.having h).All d (Phrase.Fits (.having h)) := by
  obtain ⟨connective, condition, unread⟩ := h
  cases condition with
  | compare left c right => exact List.forall_mem_singleton.2 ⟨rfl, .inl ⟨c, rfl⟩⟩
  | raw s values => exact List.forall_mem_singleton.2 trivial

theorem Join.fits (j : Join) : (Clause.join j).All d (Phrase.Fits (.join j)) := by
  show ∀ p ∈ j.phrases d, _
  unfold Join.phrases
  split
  · exact List.forall_mem_singleton.2 ⟨rfl, .inr ⟨j, rfl⟩⟩
  · exact List.forall_mem_nil _

theorem Clause.fits (k : Clause) : k.All d (Phrase.Fits k) := by
  cases k with
  | filter x => exact x.fits
  | having h => exact h.fits
  | join j => exact j.fits

/-- A clause that is no join compares wherever it shows an operator between operands. -/
theorem Clause.compares {k : Clause} (hk : ∀ j, k ≠ .join j) : k.All d Phrase.Compares := by
  intro p hp
  have fits := k.fits p hp
  cases p with
  | operated before left op right => exact fits.2.resolve_right fun ⟨j, h⟩ => hk j h
  | _ => trivial

/-- A join compares if its operator does. -/
theorem Join.compares_iff {j : Join} (h : Succeeds (d.joinKeyword j.kind)) :
    (Clause.join j).All d Phrase.Compares ↔ ∃ c, j.operator = .compare c := by
  obtain ⟨keyword, hkeyword⟩ := h
  show (∀ p ∈ j.phrases d, _) ↔ _
  rw [Join.phrases, hkeyword]
  exact List.forall_mem_singleton

end Shown

/-! ## What the checks ask -/

namespace FilterParts

variable {p : FilterParts}

/-- The operator of a filter that compares is the one of its description. -/
theorem operator_of_condition {c : Condition} {connective : Connective} (h : p.condition = .ok c) :
    (Filter.mk connective c (p.unread c)).parts.operator = p.operator := by
  cases describes_of_condition h with
  | compare _ hop | datePart _ hop | jsonLength _ hop | jsonPath _ hop | columns _ hop
  | anyColumn _ hop => exact hop.symm
  | _ => rfl

theorem operator_of_check {x : Filter} (h : p.check = .ok x) :
    (Clause.filter x).operator? = p.operator := by
  obtain ⟨c, hc, h⟩ := Result.bind_eq_ok.1 h
  cases h
  exact operator_of_condition hc

end FilterParts

theorem KeyParts.operator_of_having {p : KeyParts} {h : Having} (hp : p.having = .ok h) :
    (Clause.having h).operator? = p.operator := by
  unfold KeyParts.having at hp
  split at hp
  · obtain ⟨raw, rfl, -⟩ := fits_of_raw hp
    rfl
  · obtain ⟨column, -, hp⟩ := Result.bind_eq_ok.1 hp
    split at hp
    · next c hc =>
      cases hp
      obtain ⟨op, hop, hc⟩ := Option.bind_eq_some_iff.1 hc
      cases op <;> cases hc
      exact hop.symm
    · cases hp

/-- The check of a join accepts it with any operator if it accepts it with one. -/
theorem Join.check_any_operator {j k : Join} (h : j.check = .ok k) (op : Operator) :
    Join.check { j with operator := op } = .ok { k with operator := op } := by
  unfold Join.check at h ⊢
  split at h
  · cases h
  · next hsides =>
    cases h
    exact if_neg hsides

/-! ## The operators of a request -/

section Requests

variable {d : Dialect} {r : Request} {s : Statement}

theorem whereFragment_filters {q : Query} {f : Fragment} (h : q.whereFragment d = .ok f) :
    Succeeds (filterFragments d q.filters) := by
  unfold Query.whereFragment at h
  cases hfilters : q.filters with
  | nil => exact .ok []
  | cons x rest =>
    rw [hfilters] at h
    obtain ⟨items, hitems, -⟩ := Result.bind_eq_ok.1 h
    exact ⟨items, hitems⟩

theorem updateFragment_filters {q : Query} {sets : List Fragment} {f : Fragment}
    (h : updateFragment d q sets = .ok f) : Succeeds (filterFragments d q.filters) := by
  obtain ⟨t, -, h⟩ := Result.bind_eq_ok.1 h
  obtain ⟨condition, hcondition, -⟩ := Result.bind_eq_ok.1 h
  exact whereFragment_filters hcondition

/-- Whatever is in a request that can be written can be written. -/
theorem Request.writable (h : r.compile d = .ok s) : ∀ t ∈ r.statements, t.WritableIn d := by
  cases r with
  | select q =>
    obtain ⟨f, hf, -⟩ := Result.bind_eq_ok.1 h
    exact q.compiles_iff.1 ⟨f, hf⟩
  | update q values =>
    cases values with
    | nil => cases h
    | cons first rest =>
      obtain ⟨f, hf, -⟩ := Result.bind_eq_ok.1 h
      exact ((filters_compile_iff _).1 (updateFragment_filters hf)).2
  | increment q column amount extra =>
    obtain ⟨f, hf, -⟩ := Result.bind_eq_ok.1 h
    exact ((filters_compile_iff _).1 (updateFragment_filters hf)).2
  | jsonUpdate q column path v =>
    obtain ⟨stored, words, f, -, -, hf, -⟩ := Statement.jsonUpdate_eq_ok h
    exact ((filters_compile_iff _).1 (updateFragment_filters hf)).2
  | jsonRemove q column path =>
    obtain ⟨words, f, -, hf, -⟩ := Statement.jsonRemove_eq_ok h
    exact ((filters_compile_iff _).1 (updateFragment_filters hf)).2
  | delete q =>
    obtain ⟨t, -, h⟩ := Result.bind_eq_ok.1 h
    obtain ⟨f, hf, -⟩ := Result.bind_eq_ok.1 h
    exact ((filters_compile_iff _).1 (whereFragment_filters hf)).2
  | _ => exact List.forall_mem_nil _

theorem Request.mem_clauses_join {j : Join} :
    .join j ∈ r.clauses ↔ ∃ t ∈ r.statements, j ∈ t.joins ∧ j.kind ≠ .cross := by
  simp [Request.clauses, Query.clauses]

/-- What is known of the operators that a statement shows. -/
structure Request.OperatorsShown (d : Dialect) (r : Request) (s : Statement) : Prop where
  /-- The phrases are the text of the statement. -/
  text : s.sql = (phraseTemplate d (r.phrases d)).fill d.placeholder (r.numbers 0)
  /-- An operator is shown by a clause, and each clause shows its operators. -/
  clauses : ∀ p, p.operator?.isSome → (p ∈ r.phrases d ↔ ∃ k ∈ r.clauses, p ∈ k.phrases d)
  fits : ∀ k ∈ r.clauses, ∀ p ∈ k.phrases d, p.Fits k
  /-- All operators between operands compare them exactly if those of the joins do. -/
  compares_iff : (∀ p ∈ r.phrases d, p.Compares)
    ↔ ∀ t ∈ r.statements, ∀ j ∈ t.joins, j.kind ≠ .cross → ∃ c, j.operator = .compare c

/-- What is known of the operators that clauses are given. A filter and a condition of HAVING keep
theirs as they pass their checks. A join that passes passes with any operator. -/
structure OperatorsChecked : Prop where
  filter : ∀ (p : FilterParts) x, p.check = .ok x → (Clause.filter x).operator? = p.operator
  having : ∀ (p : KeyParts) x, p.having = .ok x → (Clause.having x).operator? = p.operator
  join : ∀ j k : Join, j.check = .ok k →
    ∀ op, Join.check { j with operator := op } = .ok { k with operator := op }

/-- **Between two operands there is an operator that compares them, unless it is that of a join.**
An operator in a statement is the one that a clause of its tree was given, or belongs to the words
of a filter of its own kind. A filter and a condition of HAVING only pass their checks with an
operator that compares if they show it between operands, and a join passes with any. -/
theorem Request.operators_shown (h : r.compile d = .ok s) :
    r.OperatorsShown d s ∧ OperatorsChecked := by
  refine ⟨⟨?_, fun p hp => ⟨fun hmem => ?_, ?_⟩, fun k _ => k.fits, ?_⟩, ?_⟩
  · rw [r.template_phrases]
    exact Request.sql_eq_fill h
  · have origin := (Request.forall_phrases (P := fun p => p.operator?.isSome →
      ∃ k ∈ r.clauses, p ∈ k.phrases d) (fun _ => nofun) h).2 fun k hk p hp _ => ⟨k, hk, hp⟩
    exact origin p hmem hp
  · rintro ⟨k, hk, hmem⟩
    have shown := (Request.forall_phrases (P := fun p => p.operator?.isSome → p ∈ r.phrases d)
      (fun _ => nofun) h).1 fun p hp _ => hp
    exact shown k hk p hmem hp
  · rw [Request.forall_phrases (fun _ => trivial) h]
    have joined {t : Query} (ht : t ∈ r.statements) {j : Join} (hj : j ∈ t.joins) :=
      Join.compares_iff ((Request.writable h t ht).joins j hj)
    constructor
    · intro hall t ht j hj hkind
      exact (joined ht hj).1 (hall _ (Request.mem_clauses_join.2 ⟨t, ht, hj, hkind⟩))
    · intro hjoins k hk
      cases k with
      | join j =>
        obtain ⟨t, ht, hj, hkind⟩ := Request.mem_clauses_join.1 hk
        exact (joined ht hj).2 (hjoins t ht j hj hkind)
      | _ => exact Clause.compares fun _ => nofun
  · exact ⟨fun _ _ => FilterParts.operator_of_check, fun _ _ => KeyParts.operator_of_having,
      fun _ _ => Join.check_any_operator⟩

/-- The posts of a user. -/
def postsOf (operator : Operator) : Join where
  table := "posts"
  first := some "users.id"
  operator := operator
  second := some "posts.user_id"

/-- The authors of notes. -/
def noteAuthors : Query where
  table := some "notes"
  selects := [.column "author" none]
  filters := [.of (.between "day" false (.int 1) (.int 9))]

/-- Users with posts. -/
def posters : Query where
  table := some "users"
  joins := [{ postsOf (.compare .eq) with filters := [.of (.compare "likes" .gte (.int 3))] }]
  filters := [.of (.group [
    .of (.compare "name" .like (.text "A%")),
    .of (.inQuery "id" false noteAuthors) .or])]
  groups := [.column "users.id" []]
  havings := [{ condition := .compare "COUNT(*)" .gt (.int 1) }]

/-- IN and BETWEEN stand in their own words, and every other operator compares. -/
theorem posters_operators_shown : ∃ s, (Request.select posters).compile .mysql = .ok s
    ∧ s.sql = "SELECT * FROM users INNER JOIN posts ON users.id = posts.user_id AND likes >= ?"
        ++ " WHERE (name LIKE ? OR id IN (SELECT author FROM notes WHERE day BETWEEN ? AND ?))"
        ++ " GROUP BY users.id HAVING COUNT(*) > ?"
    ∧ ∀ p ∈ (Request.select posters).phrases .mysql, p.Compares := by
  have run : ((Request.select posters).compile .mysql).toOption.map Statement.sql
      = some ("SELECT * FROM users INNER JOIN posts ON users.id = posts.user_id AND likes >= ?"
        ++ " WHERE (name LIKE ? OR id IN (SELECT author FROM notes WHERE day BETWEEN ? AND ?))"
        ++ " GROUP BY users.id HAVING COUNT(*) > ?") := by
    decide +kernel
  have tree : (Request.select posters).statements = [posters, noteAuthors] := by
    rfl
  obtain ⟨s, h, hs⟩ := Result.exists_of_map_eq_some run
  refine ⟨s, h, hs, (Request.operators_shown h).1.compares_iff.2 ?_⟩
  rw [tree, List.forall_mem_cons, List.forall_mem_singleton]
  exact ⟨List.forall_mem_singleton.2 fun _ => ⟨.eq, rfl⟩, List.forall_mem_nil _⟩

/-- The check of a join lets IN pass, which then stands between two columns. -/
theorem postsOf_shows_in :
    let r := Request.select { table := some "users", joins := [postsOf .isIn] }
    (postsOf .isIn).check = .ok (postsOf .isIn)
      ∧ (r.compile .mysql).toOption.map Statement.sql
        = some "SELECT * FROM users INNER JOIN posts ON users.id IN posts.user_id"
      ∧ ∃ p ∈ r.phrases .mysql, ¬p.Compares := by
  refine ⟨rfl, by decide +kernel,
    .operated "INNER JOIN posts ON " "users.id" .isIn (.text "posts.user_id"), ?_, ?_⟩
  · simp [Request.phrases, Query.phrases, postsOf, joinPhrases, Join.phrases, Dialect.joinKeyword,
      JoinKind.text]
  · rintro ⟨c, h⟩
    cases h

end Requests

end SqlQuery
