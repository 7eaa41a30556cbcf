import SqlQuery.Proofs.TextArrays

/-!
# Expressions with one literal

To a lexer of the standard, SQL text is made of literals and of characters that stand for
themselves (`tokens?`). A literal that `sqlLiteral` writes is one token, whatever it is made of, if
no quote follows it; a quote after it would be taken for the second half of a quote that is written
twice (`readStandard_sqlLiteral_iff`).

So where nothing around a literal has a quote, the whole is what is before it, one literal, and what
is after it (`tokens?_around`). In the JSON expressions of PostgreSQL what is around the literal is
made of fixed words, the column and the marker, and the path is in the literal alone.
-/

namespace SqlQuery.Text

variable {cs rest : List Char}

/-! ## Where a literal ends -/

/-- Reading goes beyond the characters that it reads. -/
theorem length_lt_of_readDoubled {value : List Char} (h : readDoubled cs = some (value, rest)) :
    rest.length < cs.length := by
  fun_induction readDoubled cs generalizing value with
  | case1 => cases h
  | case2 cs ih =>
    obtain ⟨tail, htail, -⟩ := prepend_eq_some.1 h
    exact Nat.lt_add_right 2 (ih htail)
  | case3 cs =>
    cases h
    exact Nat.lt_succ_self _
  | case4 c cs _ _ ih =>
    obtain ⟨tail, htail, -⟩ := prepend_eq_some.1 h
    exact Nat.lt_add_right 1 (ih htail)

/-- A quote after a literal is read as part of it, so that less is left than the quote and what
follows. -/
theorem readDoubled_quote_ne (t value : List Char) :
    readDoubled (doubleQuotes t ++ '\'' :: '\'' :: rest) ≠ some (value, '\'' :: rest) := by
  intro h
  induction t generalizing value with
  | nil =>
    obtain ⟨tail, htail, -⟩ := prepend_eq_some.1 h
    have hlength := length_lt_of_readDoubled htail
    simp only [List.length_cons] at hlength
    omega
  | cons c cs ih =>
    by_cases hc : c = '\''
    · rw [hc, doubleQuotes_quote] at h
      obtain ⟨tail, htail, -⟩ := prepend_eq_some.1 h
      exact ih tail htail
    · rw [doubleQuotes_plain hc, List.cons_append, readDoubled] at h
      · obtain ⟨tail, htail, -⟩ := prepend_eq_some.1 h
        exact ih tail htail
      · simp [hc]
      · simp [hc]

/-- A literal is read back, and what follows it is left, if and only if no quote follows it. -/
theorem readStandard_sqlLiteral_iff (s rest : String) :
    readStandard (sqlLiteral s ++ rest).toList = some (s.toList, rest.toList)
      ↔ rest.toList.head? ≠ some '\'' := by
  constructor
  · intro h hquote
    obtain ⟨cs, hrest⟩ := List.head?_eq_some_iff.1 hquote
    have hchars : (sqlLiteral s ++ rest).toList
        = '\'' :: (doubleQuotes s.toList ++ '\'' :: '\'' :: cs) := by
      simp [sqlLiteral, String.toList_append, hrest]
    rw [hchars, hrest] at h
    exact readDoubled_quote_ne s.toList s.toList h
  · exact readStandard_sqlLiteral s

/-! ## Whole expressions -/

/-- What SQL text is made of, if only its literals are told from the rest. -/
inductive Token where
  /-- A character outside literals. -/
  | plain (c : Char)
  /-- A literal, with the text that it denotes. -/
  | literal (value : List Char)

/-- The tokens of a text in which every literal ends. -/
def tokens? : List Char → Option (List Token)
  | [] => some []
  | '\'' :: cs =>
    match _h : readDoubled cs with
    | some (value, rest) => (tokens? rest).map (.literal value :: ·)
    | none => none
  | c :: cs => (tokens? cs).map (.plain c :: ·)
termination_by cs => cs.length
decreasing_by
  · have hlength := length_lt_of_readDoubled _h
    simp only [List.length_cons]
    omega
  · simp

theorem tokens?_plain {c : Char} (h : c ≠ '\'') (cs : List Char) :
    tokens? (c :: cs) = (tokens? cs).map (.plain c :: ·) := by
  rw [tokens?]
  simp [h]

theorem tokens?_append_plain (h : '\'' ∉ cs) (rest : List Char) :
    tokens? (cs ++ rest) = (tokens? rest).map (cs.map .plain ++ ·) := by
  induction cs with
  | nil => simp
  | cons c cs ih =>
    rw [List.mem_cons, not_or] at h
    rw [List.cons_append, tokens?_plain (Ne.symm h.1), ih h.2, Option.map_map]
    rfl

/-- A literal is one token if no quote follows it. -/
theorem tokens?_sqlLiteral (s : String) (h : rest.head? ≠ some '\'') :
    tokens? ((sqlLiteral s).toList ++ rest) = (tokens? rest).map (.literal s.toList :: ·) := by
  have hchars : (sqlLiteral s).toList ++ rest
      = '\'' :: (doubleQuotes s.toList ++ '\'' :: rest) := by
    simp [sqlLiteral]
  rw [hchars, tokens?]
  split
  · next value rest' hread =>
    rw [readDoubled_doubleQuotes s.toList h] at hread
    cases hread
    rfl
  · next hread =>
    rw [readDoubled_doubleQuotes s.toList h] at hread
    cases hread

/-- A text is one literal between two texts without literals. -/
def HasOneLiteral (value : String) (before after text : String) : Prop :=
  tokens? text.toList
    = some (before.toList.map .plain ++ .literal value.toList :: after.toList.map .plain)

theorem hasOneLiteral {before after : String} (hbefore : '\'' ∉ before.toList)
    (hafter : '\'' ∉ after.toList) (s : String) :
    HasOneLiteral s before after (before ++ sqlLiteral s ++ after) := by
  have hfollows : after.toList.head? ≠ some '\'' :=
    fun hquote => hafter (List.mem_of_mem_head? hquote)
  have hend : tokens? after.toList = some (after.toList.map .plain) := by
    have happend := tokens?_append_plain hafter []
    simpa [tokens?] using happend
  unfold HasOneLiteral
  rw [String.toList_append, String.toList_append, List.append_assoc,
    tokens?_append_plain hbefore, tokens?_sqlLiteral s hfollows, hend]
  rfl

end SqlQuery.Text

namespace SqlQuery.Dialect

open SqlQuery.Text SqlQuery.JsonPath

variable {column marker : String}

theorem postgresJsonPath_hasOneLiteral (hcolumn : '\'' ∉ column.toList) (path : String) :
    ∃ value operator,
      (segments path = [value] ∧ operator = " ->> "
        ∨ value = textArray (segments path) ∧ operator = " #>> ")
      ∧ HasOneLiteral value (column ++ operator) "" (postgresJsonPath column path) := by
  have hempty : '\'' ∉ "".toList := by decide
  have hwords (operator : String) (h : '\'' ∉ operator.toList) :
      '\'' ∉ (column ++ operator).toList := by
    simp [String.toList_append, hcolumn, h]
  unfold postgresJsonPath
  split
  next segment hsegments _ =>
    refine ⟨segment, " ->> ", .inl ⟨hsegments, rfl⟩, ?_⟩
    rw [← String.append_empty (s := column ++ " ->> " ++ sqlLiteral segment)]
    exact hasOneLiteral (hwords _ (by decide)) hempty segment
  next =>
    refine ⟨textArray (segments path), " #>> ", .inr ⟨rfl, rfl⟩, ?_⟩
    rw [← String.append_empty (s := column ++ " #>> " ++ _)]
    exact hasOneLiteral (hwords _ (by decide)) hempty _

/-- **A path does not leave its literal.** A literal is read back as the text it was made of, with
nothing of what follows, if and only if no quote follows. If column and marker have no quote, the
JSON expressions have one literal each. It denotes the one segment of the path or the text array of
all segments, and what is around it are fixed words, the column and the marker. -/
theorem postgres_path_enclosed :
    (∀ text rest : String,
      readStandard (sqlLiteral text ++ rest).toList = some (text.toList, rest.toList)
        ↔ rest.toList.head? ≠ some '\'')
    ∧ ∀ column path marker : String, '\'' ∉ column.toList → '\'' ∉ marker.toList →
      (∃ text value operator, postgres.requireJsonPath column path = .ok text
        ∧ (segments path = [value] ∧ operator = " ->> "
          ∨ value = textArray (segments path) ∧ operator = " #>> ")
        ∧ HasOneLiteral value (column ++ operator) "" text)
      ∧ (∃ write, postgres.requireJsonSet = .ok write
        ∧ HasOneLiteral (textArray (segments path)) ("jsonb_set(" ++ column ++ ", ")
          (", " ++ marker ++ "::jsonb)") ((write column path).fill marker))
      ∧ ∃ write, postgres.requireJsonRemove = .ok write
        ∧ HasOneLiteral (textArray (segments path)) (column ++ " #- ") "" (write column path) := by
  refine ⟨readStandard_sqlLiteral_iff, fun column path marker hcolumn hmarker => ⟨?_, ?_, ?_⟩⟩
  · obtain ⟨value, operator, hvalue, hone⟩ := postgresJsonPath_hasOneLiteral hcolumn path
    exact ⟨_, value, operator, rfl, hvalue, hone⟩
  · refine ⟨_, rfl, ?_⟩
    have hsame : (⟨"jsonb_set(" ++ column ++ ", " ++ postgresPath path ++ ", ", "::jsonb)"⟩
        : Around).fill marker
        = "jsonb_set(" ++ column ++ ", " ++ postgresPath path
          ++ (", " ++ marker ++ "::jsonb)") := by
      simp only [Around.fill, String.append_assoc]
    rw [hsame]
    apply hasOneLiteral
    · simp [String.toList_append, hcolumn]
    · simp [String.toList_append, hmarker]
  · refine ⟨_, rfl, ?_⟩
    have hsame : column ++ " #- " ++ postgresPath path
        = column ++ " #- " ++ postgresPath path ++ "" := by
      rw [String.append_empty]
    rw [hsame]
    apply hasOneLiteral
    · simp [String.toList_append, hcolumn]
    · decide

/-- A path that begins and ends like a literal stays in one. -/
theorem postgres_quoted_path_enclosed : '\'' ∉ "settings".toList ∧ '\'' ∉ "$1".toList
    ∧ segments "'') --'" = ["'') --'"]
    ∧ ∃ write, postgres.requireJsonRemove = .ok write
      ∧ write "settings" "'') --'" = "settings #- '\x7b'''') --''\x7d'"
      ∧ HasOneLiteral "\x7b'') --'\x7d" "settings #- " "" (write "settings" "'') --'") := by
  have hcolumn : '\'' ∉ "settings".toList := by decide
  have hmarker : '\'' ∉ "$1".toList := by decide
  have hsegments : segments "'') --'" = ["'') --'"] := by decide +kernel
  obtain ⟨write, hwrite, hone⟩ :=
    (postgres_path_enclosed.2 "settings" "'') --'" "$1" hcolumn hmarker).2.2
  have hvalue : textArray (segments "'') --'") = "\x7b'') --'\x7d" := by decide +kernel
  have hbefore : "settings" ++ " #- " = "settings #- " := by decide
  rw [hvalue, hbefore] at hone
  refine ⟨hcolumn, hmarker, hsegments, write, hwrite, ?_, hone⟩
  cases hwrite
  decide +kernel

end SqlQuery.Dialect
