import SqlQuery.Dialect.MySql
import SqlQuery.Error

/-!
# JSON paths as MySQL reads them

MySQL knows two ways to put a quote into a string literal: it is written twice, or a backslash
stands before it. A backslash opens an escape sequence before any other character too, so it stands
for itself only where the sequence says so, which is before `%` and `_`.

`sqlLiteral` writes quotes twice and leaves backslashes as they are. Its literals are read back as
the text they were made of if and only if no backslash in it opens a sequence that stands for
something else (`readQuoted_doubleQuotes_iff`). The paths of the JSON functions are such literals,
and nothing but them is between a column and the end of the call.
-/

namespace SqlQuery.Text

/-! ## Reading a literal -/

/-- What a backslash and the character after it stand for. Before the wildcards of LIKE the
backslash stays, and before a character that has no meaning of its own it is passed over. -/
def escaped : Char → List Char
  | '0' => ['\x00']
  | 'b' => ['\x08']
  | 'n' => ['\n']
  | 'r' => ['\r']
  | 't' => ['\t']
  | 'Z' => ['\x1a']
  | '%' => ['\\', '%']
  | '_' => ['\\', '_']
  | c => [c]

/-- More characters of a literal before those that were read. -/
def prepend (cs : List Char) (read : Option (List Char × List Char)) :
    Option (List Char × List Char) :=
  read.map fun (value, rest) => (cs ++ value, rest)

/-- The text that is denoted up to the closing quote of a literal, and what follows the quote. -/
def readQuoted : List Char → Option (List Char × List Char)
  | [] | ['\\'] => none
  | '\\' :: c :: cs => prepend (escaped c) (readQuoted cs)
  | '\'' :: '\'' :: cs => prepend ['\''] (readQuoted cs)
  | '\'' :: cs => some ([], cs)
  | c :: cs => prepend [c] (readQuoted cs)

/-- The text that a literal at the start of an expression denotes, and the rest of the
expression. -/
def readLiteral : List Char → Option (List Char × List Char)
  | '\'' :: cs => readQuoted cs
  | _ => none

/-- Every backslash of a text stands for itself in a literal. -/
def isInert : List Char → Bool
  | [] => true
  | '\\' :: '%' :: cs | '\\' :: '_' :: cs => isInert cs
  | '\\' :: _ => false
  | _ :: cs => isInert cs

theorem prepend_eq_some {cs value rest : List Char} {read : Option (List Char × List Char)} :
    prepend cs read = some (value, rest)
      ↔ ∃ tail, read = some (tail, rest) ∧ value = cs ++ tail := by
  unfold prepend
  constructor
  · intro h
    obtain ⟨⟨tail, rest'⟩, hread, hsame⟩ := Option.map_eq_some_iff.1 h
    cases hsame
    exact ⟨tail, hread, rfl⟩
  · rintro ⟨tail, rfl, rfl⟩
    rfl

theorem readQuoted_closing {rest : List Char} (h : rest.head? ≠ some '\'') :
    readQuoted ('\'' :: rest) = some ([], rest) := by
  cases rest with
  | nil => rfl
  | cons c cs =>
    have hc : c ≠ '\'' := fun e => h (congrArg some e)
    rw [readQuoted]
    intro cs' e
    exact hc (List.cons.inj e).1

theorem readQuoted_plain {c : Char} (hbackslash : c ≠ '\\') (hquote : c ≠ '\'')
    (cs : List Char) : readQuoted (c :: cs) = prepend [c] (readQuoted cs) := by
  rw [readQuoted] <;> intros <;> simp_all

theorem doubleQuotes_quote (cs : List Char) :
    doubleQuotes ('\'' :: cs) = '\'' :: '\'' :: doubleQuotes cs := by
  simp [doubleQuotes]

theorem doubleQuotes_plain {c : Char} (h : c ≠ '\'') (cs : List Char) :
    doubleQuotes (c :: cs) = c :: doubleQuotes cs := by
  simp [doubleQuotes, h]

theorem isInert_plain {c : Char} (h : c ≠ '\\') (cs : List Char) :
    isInert (c :: cs) = isInert cs := by
  rw [isInert] <;> intros <;> simp_all

/-! ## Literals with quotes written twice -/

/-- A backslash is written as it is, together with what it escapes unless that is a quote. -/
theorem readQuoted_backslash {c : Char} (h : c ≠ '\'') (cs rest : List Char) :
    readQuoted (doubleQuotes ('\\' :: c :: cs) ++ '\'' :: rest)
      = prepend (escaped c) (readQuoted (doubleQuotes cs ++ '\'' :: rest)) := by
  rw [doubleQuotes_plain (by decide), doubleQuotes_plain h]
  rfl

/-- Any other character is read as it was. -/
theorem readQuoted_character {c : Char} (h : c ≠ '\\') (cs rest : List Char) :
    readQuoted (doubleQuotes (c :: cs) ++ '\'' :: rest)
      = prepend [c] (readQuoted (doubleQuotes cs ++ '\'' :: rest)) := by
  by_cases hquote : c = '\''
  · subst hquote
    rw [doubleQuotes_quote]
    rfl
  · rw [doubleQuotes_plain hquote, List.cons_append, readQuoted_plain h hquote]

/-- A text without sequences that stand for something else is read back. -/
theorem readQuoted_of_isInert {t rest : List Char} (h : isInert t = true)
    (hrest : rest.head? ≠ some '\'') :
    readQuoted (doubleQuotes t ++ '\'' :: rest) = some (t, rest) := by
  fun_induction isInert t with
  | case1 => exact readQuoted_closing hrest
  | case2 cs ih =>
    rw [readQuoted_backslash (by decide), ih h]
    rfl
  | case3 cs ih =>
    rw [readQuoted_backslash (by decide), ih h]
    rfl
  | case4 => cases h
  | case5 c cs _ _ hbackslash ih =>
    rw [readQuoted_character hbackslash, ih h]
    rfl

/-- Reading goes beyond the characters that it reads. -/
theorem length_lt_of_readQuoted {cs value rest : List Char}
    (h : readQuoted cs = some (value, rest)) : rest.length < cs.length := by
  fun_induction readQuoted cs generalizing value with
  | case1 => cases h
  | case2 => cases h
  | case3 c cs ih =>
    obtain ⟨tail, htail, -⟩ := prepend_eq_some.1 h
    exact Nat.lt_add_right 2 (ih htail)
  | case4 cs ih =>
    obtain ⟨tail, htail, -⟩ := prepend_eq_some.1 h
    exact Nat.lt_add_right 2 (ih htail)
  | case5 cs =>
    cases h
    exact Nat.lt_succ_self _
  | case6 c cs _ _ _ _ ih =>
    obtain ⟨tail, htail, -⟩ := prepend_eq_some.1 h
    exact Nat.lt_add_right 1 (ih htail)

/-- Reading that ends right at a closing quote has read nothing. -/
theorem eq_nil_of_readQuoted_closing {value rest : List Char}
    (h : readQuoted ('\'' :: rest) = some (value, rest)) : value = [] := by
  by_cases hrest : rest.head? = some '\''
  · obtain ⟨cs, rfl⟩ := List.head?_eq_some_iff.1 hrest
    obtain ⟨tail, htail, -⟩ := prepend_eq_some.1 h
    have := length_lt_of_readQuoted htail
    simp only [List.length_cons] at this
    omega
  · rw [readQuoted_closing hrest] at h
    cases h
    rfl

/-- If the second half of a quote that is written twice is taken for a whole one, reading does not
end at the closing quote: it ends before it, or takes it for half of a quote as well. -/
theorem readQuoted_shifted (t value rest : List Char) :
    readQuoted ('\'' :: (doubleQuotes t ++ '\'' :: rest)) ≠ some (value, rest) := by
  intro h
  induction t generalizing value with
  | nil =>
    obtain ⟨tail, htail, -⟩ := prepend_eq_some.1 h
    exact Nat.lt_irrefl _ (length_lt_of_readQuoted htail)
  | cons c cs ih =>
    by_cases hquote : c = '\''
    · subst hquote
      rw [doubleQuotes_quote] at h
      obtain ⟨tail, htail, -⟩ := prepend_eq_some.1 h
      exact ih tail htail
    · have hnext : (doubleQuotes (c :: cs) ++ '\'' :: rest).head? ≠ some '\'' := by
        simpa [doubleQuotes_plain hquote] using hquote
      rw [readQuoted_closing hnext] at h
      have hlength := congrArg (List.length ∘ Prod.snd) (Option.some.inj h)
      simp only [Function.comp, List.length_append, List.length_cons] at hlength
      omega

theorem length_escaped (c : Char) :
    (escaped c).length = 1 ∨ (c = '%' ∨ c = '_') ∧ (escaped c).length = 2 := by
  unfold escaped
  split <;> simp

/-- If reading ends at the closing quote, the text that was read is no longer than the one that was
written, and as long only if every backslash stands for itself. -/
theorem length_of_readQuoted {value rest : List Char} : ∀ t : List Char,
    readQuoted (doubleQuotes t ++ '\'' :: rest) = some (value, rest) →
      value.length ≤ t.length ∧ (value.length = t.length → isInert t = true)
  | [], h => by
    rw [eq_nil_of_readQuoted_closing h]
    exact ⟨Nat.le_refl _, fun _ => rfl⟩
  | c :: cs, h => by
    by_cases hc : c = '\\'
    · subst hc
      cases cs with
      | nil =>
        obtain ⟨tail, htail, -⟩ := prepend_eq_some.1 h
        exact absurd (length_lt_of_readQuoted htail) (Nat.lt_irrefl _)
      | cons c cs =>
        by_cases hquote : c = '\''
        · -- the backslash takes the first half of the quote, and reading is out of step from here on
          subst hquote
          rw [doubleQuotes_plain (by decide), doubleQuotes_quote] at h
          obtain ⟨tail, htail, -⟩ := prepend_eq_some.1 h
          exact absurd htail (readQuoted_shifted cs tail rest)
        · rw [readQuoted_backslash hquote] at h
          obtain ⟨tail, htail, rfl⟩ := prepend_eq_some.1 h
          obtain ⟨hle, hinert⟩ := length_of_readQuoted cs htail
          simp only [List.length_append, List.length_cons]
          obtain hone | ⟨hwild, htwo⟩ := length_escaped c
          · rw [hone]
            exact ⟨by omega, fun heq => by omega⟩
          · rw [htwo]
            refine ⟨by omega, fun heq => ?_⟩
            have hcs := hinert (by omega)
            obtain rfl | rfl := hwild
            · exact hcs
            · exact hcs
    · rw [readQuoted_character hc] at h
      obtain ⟨tail, htail, rfl⟩ := prepend_eq_some.1 h
      obtain ⟨hle, hinert⟩ := length_of_readQuoted cs htail
      rw [isInert_plain hc]
      simp only [List.length_append, List.length_cons, List.length_nil]
      exact ⟨by omega, fun heq => hinert (by omega)⟩

/-- **When a literal is read back**: if and only if every backslash of its text stands for
itself. -/
theorem readQuoted_doubleQuotes_iff {t rest : List Char} (hrest : rest.head? ≠ some '\'') :
    readQuoted (doubleQuotes t ++ '\'' :: rest) = some (t, rest) ↔ isInert t = true :=
  ⟨fun h => (length_of_readQuoted t h).2 rfl, fun h => readQuoted_of_isInert h hrest⟩

theorem readLiteral_sqlLiteral_iff {s rest : String} (hrest : rest.toList.head? ≠ some '\'') :
    readLiteral (sqlLiteral s ++ rest).toList = some (s.toList, rest.toList)
      ↔ isInert s.toList = true := by
  rw [← readQuoted_doubleQuotes_iff hrest, sqlLiteral, String.toList_append, String.toList_ofList,
    List.cons_append, List.cons_append, List.append_assoc]
  rfl

/-! ## The characters of a path -/

theorem mem_of_mem_trimChars {p : Char → Bool} {cs : List Char} {c : Char}
    (h : c ∈ trimChars p cs) : c ∈ cs := by
  unfold trimChars dropEnd at h
  rw [List.mem_reverse] at h
  exact List.dropWhile_subset p (List.mem_reverse.1 (List.dropWhile_subset p h))

theorem mem_of_mem_splitChars {p : Char → Bool} {cs w : List Char} {c : Char}
    (hw : w ∈ splitChars p cs) (hc : c ∈ w) : c ∈ cs := by
  induction cs generalizing w with
  | nil =>
    rw [splitChars, List.mem_singleton] at hw
    rw [hw] at hc
    exact hc
  | cons d cs ih =>
    rw [splitChars] at hw
    by_cases hd : p d = true
    · rw [if_pos hd] at hw
      obtain rfl | hw := List.mem_cons.1 hw
      · cases hc
      · exact List.mem_cons_of_mem _ (ih hw hc)
    · rw [if_neg hd] at hw
      cases hsplit : splitChars p cs with
      | nil => exact absurd hsplit (splitChars_ne_nil p cs)
      | cons first others =>
        rw [hsplit] at hw ih
        obtain rfl | hw := List.mem_cons.1 hw
        · obtain rfl | hc := List.mem_cons.1 hc
          · exact List.mem_cons_self
          · exact List.mem_cons_of_mem _ (ih List.mem_cons_self hc)
        · exact List.mem_cons_of_mem _ (ih (List.mem_cons_of_mem _ hw) hc)

end SqlQuery.Text

namespace SqlQuery.JsonPath

open SqlQuery.Text

theorem mem_of_mem_dotArrows {cs : List Char} {c : Char} (h : c ∈ dotArrows cs) :
    c = '.' ∨ c ∈ cs := by
  fun_induction dotArrows cs with
  | case1 cs ih =>
    obtain rfl | h := List.mem_cons.1 h
    · exact .inl rfl
    · exact (ih h).imp_right fun h => List.mem_cons_of_mem _ (List.mem_cons_of_mem _ h)
  | case2 d cs _ ih =>
    obtain rfl | h := List.mem_cons.1 h
    · exact .inr List.mem_cons_self
    · exact (ih h).imp_right (List.mem_cons_of_mem _)
  | case3 => cases h

theorem mem_of_mem_dropRoot {cs : List Char} {c : Char} (h : c ∈ dropRoot cs) : c ∈ cs := by
  unfold dropRoot at h
  split at h
  · exact List.mem_cons_of_mem _ h
  · exact h

/-- The characters of a segment are those of its path, apart from dots that were arrows. -/
theorem mem_of_mem_segment {path : String} {segment : String} {c : Char}
    (hsegment : segment ∈ segments path) (hc : c ∈ segment.toList) :
    c = '.' ∨ c ∈ path.toList := by
  obtain ⟨cs, hcs, rfl⟩ := List.mem_map.1 hsegment
  rw [String.toList_ofList] at hc
  obtain ⟨piece, hpiece, rfl⟩ := List.mem_map.1 (List.mem_filter.1 hcs).1
  have hrooted := mem_of_mem_splitChars hpiece (mem_of_mem_trimChars hc)
  exact (mem_of_mem_dotArrows hrooted).imp_right fun h =>
    mem_of_mem_trimChars (mem_of_mem_dropRoot h)

theorem mem_of_mem_step {segment : String} {c : Char} (h : c ∈ (step segment).toList) :
    c = '.' ∨ c = '[' ∨ c = ']' ∨ c ∈ segment.toList := by
  unfold step at h
  split at h
  · simp only [String.toList_append, List.mem_append] at h
    obtain (h | h) | h := h
    · exact .inr (.inl (List.mem_singleton.1 h))
    · exact .inr (.inr (.inr h))
    · exact .inr (.inr (.inl (List.mem_singleton.1 h)))
  · rw [String.toList_append, List.mem_append] at h
    obtain h | h := h
    · exact .inl (List.mem_singleton.1 h)
    · exact .inr (.inr (.inr h))

/-- A backslash of a path from the root was there before. -/
theorem backslash_mem_of_mem_rooted {path : String} (h : '\\' ∈ (rooted path).toList) :
    '\\' ∈ path.toList := by
  rw [rooted, String.toList_append, List.mem_append, String.toList_join, List.mem_flatMap] at h
  obtain h | ⟨s, hs, h⟩ := h
  · cases List.mem_singleton.1 h
  · obtain ⟨segment, hsegment, rfl⟩ := List.mem_map.1 hs
    obtain h | h | h | h := mem_of_mem_step h
    · cases h
    · cases h
    · cases h
    · obtain h | h := mem_of_mem_segment hsegment h
      · cases h
      · exact h

end SqlQuery.JsonPath

namespace SqlQuery.Text

theorem isInert_of_not_mem {cs : List Char} (h : '\\' ∉ cs) : isInert cs = true := by
  induction cs with
  | nil => rfl
  | cons c cs ih =>
    rw [List.mem_cons, not_or] at h
    rw [isInert_plain (Ne.symm h.1)]
    exact ih h.2

end SqlQuery.Text

namespace SqlQuery.Dialect

open SqlQuery.Text

/-- Between `before` and `after` there is one literal and nothing else, and it denotes the path. -/
def DenotesPath (path before after text : String) : Prop :=
  ∃ literal, text = before ++ literal ++ after
    ∧ readLiteral (literal ++ after).toList = some ((JsonPath.rooted path).toList, after.toList)

theorem denotesPath_iff {path before after : String} (h : after.toList.head? ≠ some '\'') :
    DenotesPath path before after (before ++ mysqlPath path ++ after)
      ↔ isInert (JsonPath.rooted path).toList = true := by
  rw [← readLiteral_sqlLiteral_iff h]
  constructor
  · rintro ⟨literal, htext, hread⟩
    have hsame : mysqlPath path = literal := by
      simpa [← String.toList_inj, String.toList_append] using htext
    rw [← hsame] at hread
    exact hread
  · exact fun hread => ⟨mysqlPath path, rfl, hread⟩

/-- **When a path keeps to its literal.** What stands between the column and the end of a JSON
function is one literal that denotes the path if and only if every backslash of the path from the
root stands for itself, that is, stands before `%` or `_`. A path without backslashes always
does. -/
theorem mysql_denotesPath_iff (column path marker : String) :
    (∃ text, mysql.requireJsonPath column path = .ok text
      ∧ (DenotesPath path ("JSON_UNQUOTE(JSON_EXTRACT(" ++ column ++ ", ") "))" text
        ↔ isInert (JsonPath.rooted path).toList = true))
    ∧ (∃ write, mysql.requireJsonSet = .ok write
      ∧ (DenotesPath path ("JSON_SET(" ++ column ++ ", ") (", " ++ marker ++ ")")
          ((write column path).fill marker)
        ↔ isInert (JsonPath.rooted path).toList = true))
    ∧ (∃ write, mysql.requireJsonRemove = .ok write
      ∧ (DenotesPath path ("JSON_REMOVE(" ++ column ++ ", ") ")" (write column path)
        ↔ isInert (JsonPath.rooted path).toList = true))
    ∧ ('\\' ∉ path.toList → isInert (JsonPath.rooted path).toList = true) := by
  have hwrite : ("JSON_SET(" ++ column ++ ", " ++ mysqlPath path ++ ", ") ++ marker ++ ")"
      = "JSON_SET(" ++ column ++ ", " ++ mysqlPath path ++ (", " ++ marker ++ ")") := by
    simp only [String.append_assoc]
  have hmarker : (", " ++ marker ++ ")").toList.head? ≠ some '\'' := by
    simp [String.toList_append]
  refine ⟨⟨_, rfl, ?_⟩, ⟨_, rfl, ?_⟩, ⟨_, rfl, ?_⟩, ?_⟩
  · exact denotesPath_iff (by decide)
  · show DenotesPath _ _ _ (("JSON_SET(" ++ column ++ ", " ++ mysqlPath path ++ ", ") ++ marker
      ++ ")") ↔ _
    rw [hwrite]
    exact denotesPath_iff hmarker
  · exact denotesPath_iff (by decide)
  · intro h
    exact isInert_of_not_mem fun hmem => h (JsonPath.backslash_mem_of_mem_rooted hmem)

/-- A backslash at the end of a path takes the closing quote for itself, and the literal goes on
beyond the call. -/
theorem mysql_path_escapes :
    (mysql.requireJsonPath "c" "a\\").toOption = some "JSON_UNQUOTE(JSON_EXTRACT(c, '$.a\\'))"
    ∧ readLiteral "'$.a\\'))".toList = none
    ∧ ¬ DenotesPath "a\\" "JSON_UNQUOTE(JSON_EXTRACT(c, " "))"
      "JSON_UNQUOTE(JSON_EXTRACT(c, '$.a\\'))" := by
  refine ⟨by decide +kernel, by decide +kernel, ?_⟩
  have htext : "JSON_UNQUOTE(JSON_EXTRACT(c, '$.a\\'))"
      = "JSON_UNQUOTE(JSON_EXTRACT(c, " ++ mysqlPath "a\\" ++ "))" := by decide +kernel
  rw [htext, denotesPath_iff (by decide)]
  decide +kernel

end SqlQuery.Dialect
