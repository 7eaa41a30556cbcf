import SqlQuery.Dialect.Postgres
import SqlQuery.Proofs.RootedPaths

/-!
# Paths as text arrays

PostgreSQL takes a path into a JSON value as an array of texts, written as one string literal:
`'{a,b,0}'`. Two grammars lie over each other. In the literal only the quote has a meaning
(`readStandard`); in the text that it denotes, commas, braces, double quotes and backslashes have
one, blanks around an element go, and the word NULL is the null element (`readArray`).

The literal keeps whatever it is made of. The array does not: `textArray` puts the segments between
braces with commas and quotes none of them, so they are read back if and only if no segment has a
character with a meaning in it and none is the word NULL (`readArray_textArray_iff`). A segment
that has one makes another array: it falls into two elements, loses its backslash, becomes null, or
the text is no array at all. That no other text is read as the segments either is a matter of
counting: every character that has a meaning is one that is not part of an element.
-/

namespace SqlQuery.Text

/-! ## Literals of the standard -/

/-- The text up to the closing quote of a literal in which a quote is written twice and all else
stands for itself, and what follows the quote. -/
def readDoubled : List Char → Option (List Char × List Char)
  | [] => none
  | '\'' :: '\'' :: cs => prepend ['\''] (readDoubled cs)
  | '\'' :: cs => some ([], cs)
  | c :: cs => prepend [c] (readDoubled cs)

/-- The text that a literal at the start of an expression denotes, and the rest of the
expression. -/
def readStandard : List Char → Option (List Char × List Char)
  | '\'' :: cs => readDoubled cs
  | _ => none

theorem readDoubled_closing {rest : List Char} (h : rest.head? ≠ some '\'') :
    readDoubled ('\'' :: rest) = some ([], rest) := by
  cases rest with
  | nil => rfl
  | cons c cs =>
    have hc : c ≠ '\'' := fun e => h (congrArg some e)
    rw [readDoubled]
    intro cs' e
    exact hc (List.cons.inj e).1

theorem readDoubled_doubleQuotes (t : List Char) {rest : List Char}
    (h : rest.head? ≠ some '\'') :
    readDoubled (doubleQuotes t ++ '\'' :: rest) = some (t, rest) := by
  induction t with
  | nil => exact readDoubled_closing h
  | cons c cs ih =>
    by_cases hc : c = '\''
    · rw [hc, doubleQuotes_quote, List.cons_append, List.cons_append, readDoubled, ih]
      rfl
    · rw [doubleQuotes_plain hc, List.cons_append, readDoubled, ih]
      · rfl
      · simp [hc]
      · simp [hc]

/-- A literal denotes the text that it was made of. -/
theorem readStandard_sqlLiteral (s : String) {rest : String} (h : rest.toList.head? ≠ some '\'') :
    readStandard (sqlLiteral s ++ rest).toList = some (s.toList, rest.toList) := by
  have hchars : (sqlLiteral s ++ rest).toList
      = '\'' :: (doubleQuotes s.toList ++ '\'' :: rest.toList) := by
    simp [sqlLiteral, String.toList_append]
  rw [hchars]
  exact readDoubled_doubleQuotes s.toList h

/-! ## Array texts -/

/-- The blanks that are passed over around elements. -/
def isArraySpace (c : Char) : Bool :=
  c == ' ' || (0x09 ≤ c.toNat && c.toNat ≤ 0x0d)

/-- The characters that have a meaning in an array text. -/
def isArraySyntax (c : Char) : Bool :=
  c == ',' || c == '\x7b' || c == '\x7d' || c == '"' || c == '\\'

/-- The characters of an element without quotes, up to the comma or brace that ends it. With each
character stands whether a backslash was before it. -/
def readBare : List Char → Option (List (Char × Bool) × List Char)
  | [] | ['\\'] => none
  | '\\' :: c :: cs => (readBare cs).map fun (read, rest) => ((c, true) :: read, rest)
  | c :: cs =>
    if c = ',' ∨ c = '\x7d' then some ([], c :: cs)
    else if c = '\x7b' ∨ c = '"' then none
    else (readBare cs).map fun (read, rest) => ((c, false) :: read, rest)

/-- The characters of an element up to its closing quote, and what follows the blanks after it. -/
def readEnclosed : List Char → Option (List Char × List Char)
  | [] | ['\\'] => none
  | '\\' :: c :: cs => prepend [c] (readEnclosed cs)
  | '"' :: cs => some ([], cs.dropWhile isArraySpace)
  | c :: cs => prepend [c] (readEnclosed cs)

/-- A text, or null. -/
abbrev Element := Option (List Char)

/-- The element that characters without quotes stand for. Blanks at the end go unless a backslash
keeps them, nothing at all is no element, and the word NULL is null unless it has a backslash. -/
def bareElement (read : List (Char × Bool)) : Option Element :=
  let kept := read.rdropWhile fun (c, escaped) => !escaped && isArraySpace c
  if kept = [] then none
  else if kept.all (!·.2) ∧ kept.map (·.1.toLower) = ['n', 'u', 'l', 'l'] then some none
  else some (some (kept.map (·.1)))

/-- The element at the start of a text, and what follows it. -/
def readElement : List Char → Option (Element × List Char)
  | '"' :: cs => (readEnclosed cs).map fun (value, rest) => (some value, rest)
  | cs => (readBare cs).bind fun (read, rest) => (bareElement read).map fun e => (e, rest)

/-! ## How much is read -/

variable {cs rest : List Char}

theorem readBare_length {read : List (Char × Bool)} (h : readBare cs = some (read, rest)) :
    read.length + rest.length ≤ cs.length
      ∧ (read.length + rest.length = cs.length →
        ∀ p ∈ read, p.2 = false ∧ isArraySyntax p.1 = false) := by
  fun_induction readBare cs generalizing read with
  | case1 => cases h
  | case2 => cases h
  | case3 c cs ih =>
    obtain ⟨⟨tail, rest'⟩, htail, hread⟩ := Option.map_eq_some_iff.1 h
    simp only [Prod.mk.injEq] at hread
    obtain ⟨rfl, rfl⟩ := hread
    have hlength := (ih htail).1
    simp only [List.length_cons]
    omega
  | case4 c cs _ _ hend =>
    cases h
    simp
  | case5 => cases h
  | case6 c cs hlast hescape hend hopen ih =>
    obtain ⟨⟨tail, rest'⟩, htail, hread⟩ := Option.map_eq_some_iff.1 h
    simp only [Prod.mk.injEq] at hread
    obtain ⟨rfl, rfl⟩ := hread
    obtain ⟨hlength, hplain⟩ := ih htail
    simp only [List.length_cons]
    refine ⟨by omega, ?_⟩
    intro heq p hp
    rcases List.mem_cons.1 hp with rfl | hp
    · have hbackslash : c ≠ '\\' := by
        rintro rfl
        cases cs with
        | nil => exact hlast rfl rfl
        | cons d ds => exact hescape d ds rfl rfl
      rw [not_or] at hend hopen
      simp [isArraySyntax, hbackslash, hend.1, hend.2, hopen.1, hopen.2]
    · exact hplain (by omega) p hp

theorem readEnclosed_length {value : List Char} (h : readEnclosed cs = some (value, rest)) :
    value.length + rest.length < cs.length := by
  fun_induction readEnclosed cs generalizing value with
  | case1 => cases h
  | case2 => cases h
  | case3 c cs ih =>
    obtain ⟨tail, htail, rfl⟩ := prepend_eq_some.1 h
    have hlength := ih htail
    simp only [List.length_append, List.length_cons, List.length_nil]
    omega
  | case4 cs =>
    cases h
    have hlength := (List.dropWhile_suffix (l := cs) isArraySpace).length_le
    simp only [List.length_cons, List.length_nil]
    omega
  | case5 c cs _ _ _ ih =>
    obtain ⟨tail, htail, rfl⟩ := prepend_eq_some.1 h
    have hlength := ih htail
    simp only [List.length_append, List.length_cons, List.length_nil]
    omega

/-- No character of the text has a meaning in an array text, and the text is not the word NULL. -/
structure IsBare (t : List Char) : Prop where
  plain : ∀ c ∈ t, isArraySyntax c = false
  notNull : t.map Char.toLower ≠ ['n', 'u', 'l', 'l']

theorem bareElement_length {read : List (Char × Bool)} {e : Element}
    (h : bareElement read = some e) :
    (e.getD []).length ≤ read.length
      ∧ ∀ t, e = some t → t.length = read.length →
        (∀ p ∈ read, p.2 = false ∧ isArraySyntax p.1 = false) → IsBare t := by
  unfold bareElement at h
  have hprefix := List.rdropWhile_prefix (l := read)
    fun (c, escaped) => !escaped && isArraySpace c
  generalize List.rdropWhile (fun (c, escaped) => !escaped && isArraySpace c) read = kept
    at h hprefix
  simp only at h
  split at h
  · cases h
  · split at h
    · cases h
      simp
    next hnull =>
      cases h
      refine ⟨by simpa using hprefix.length_le, ?_⟩
      intro t ht hlength hplain
      cases ht
      have hkept : kept = read := by
        apply hprefix.eq_of_length
        simpa using hlength
      rw [hkept] at hnull ⊢
      constructor
      · intro c hc
        obtain ⟨p, hp, rfl⟩ := List.mem_map.1 hc
        exact (hplain p hp).2
      · intro hword
        apply hnull
        rw [List.map_map] at hword
        refine ⟨?_, hword⟩
        simpa using fun c b hp => (hplain (c, b) hp).1

/-- An element takes at least as many characters as it has, and as many only if it is bare. -/
theorem readElement_length {e : Element} (h : readElement cs = some (e, rest)) :
    (e.getD []).length + rest.length ≤ cs.length
      ∧ ∀ t, e = some t → t.length + rest.length = cs.length → IsBare t := by
  unfold readElement at h
  split at h
  · obtain ⟨⟨value, rest'⟩, hread, he⟩ := Option.map_eq_some_iff.1 h
    cases he
    have hlength := readEnclosed_length hread
    simp only [Option.getD_some, List.length_cons]
    refine ⟨by omega, ?_⟩
    intro t ht heq
    cases ht
    omega
  · obtain ⟨⟨read, rest'⟩, hread, h⟩ := Option.bind_eq_some_iff.1 h
    obtain ⟨e', helement, he⟩ := Option.map_eq_some_iff.1 h
    cases he
    obtain ⟨hle, hplain⟩ := readBare_length hread
    obtain ⟨hkept, hbare⟩ := bareElement_length helement
    refine ⟨by omega, ?_⟩
    intro t ht heq
    subst ht
    simp only [Option.getD_some] at hkept
    exact hbare t rfl (by omega) (hplain (by omega))

/-- The same for an element with the blanks before it and the comma or brace after it. -/
theorem readElement_width {e : Element} {c : Char}
    (h : readElement (cs.dropWhile isArraySpace) = some (e, c :: rest)) :
    (e.getD []).length + 1 + rest.length ≤ cs.length
      ∧ ∀ t, e = some t → t.length + 1 + rest.length = cs.length → IsBare t := by
  obtain ⟨hle, hbare⟩ := readElement_length h
  have hdrop := (List.dropWhile_suffix (l := cs) isArraySpace).length_le
  rw [List.length_cons] at hle hbare
  refine ⟨by omega, ?_⟩
  intro t ht heq
  apply hbare t ht
  rw [ht, Option.getD_some] at hle
  omega

/-- The elements up to the brace that ends them, and what follows it. -/
def readElements (cs : List Char) : Option (List Element × List Char) :=
  match _h : readElement (cs.dropWhile isArraySpace) with
  | some (element, ',' :: rest) =>
    (readElements rest).map fun (elements, rest) => (element :: elements, rest)
  | some (element, '\x7d' :: rest) => some ([element], rest)
  | _ => none
termination_by cs.length
decreasing_by
  have hwidth := (readElement_width _h).1
  omega

/-- The elements of an array text with one dimension. -/
def readArray (text : List Char) : Option (List Element) :=
  match text.dropWhile isArraySpace with
  | '\x7b' :: cs =>
    match cs.dropWhile isArraySpace with
    | '\x7d' :: rest => if rest.all isArraySpace then some [] else none
    | _ =>
      match readElements cs with
      | some (elements, rest) => if rest.all isArraySpace then some elements else none
      | none => none
  | _ => none

/-- The characters that elements take up at least, each with the comma or brace after it. -/
def width : List Element → Nat
  | [] => 0
  | e :: es => (e.getD []).length + 1 + width es

@[simp] theorem width_nil : width [] = 0 := rfl

@[simp] theorem width_cons (e : Element) (es : List Element) :
    width (e :: es) = (e.getD []).length + 1 + width es := rfl

theorem readElements_length {es : List Element} (h : readElements cs = some (es, rest)) :
    width es + rest.length ≤ cs.length
      ∧ (width es + rest.length = cs.length → ∀ t, some t ∈ es → IsBare t) := by
  fun_induction readElements cs generalizing es with
  | case1 cs e tail hread ih =>
    obtain ⟨⟨es', rest'⟩, htail, hes⟩ := Option.map_eq_some_iff.1 h
    cases hes
    obtain ⟨hle, hbare⟩ := readElement_width hread
    obtain ⟨hles, hbares⟩ := ih htail
    simp only [width_cons]
    refine ⟨by omega, ?_⟩
    intro heq t ht
    rcases List.mem_cons.1 ht with rfl | ht
    · rw [Option.getD_some] at hle heq
      exact hbare t rfl (by omega)
    · exact hbares (by omega) t ht
  | case2 cs e tail hread =>
    cases h
    obtain ⟨hle, hbare⟩ := readElement_width hread
    simp only [width_cons, width_nil]
    refine ⟨by omega, ?_⟩
    intro heq t ht
    rcases List.mem_singleton.1 ht with rfl
    rw [Option.getD_some] at heq
    exact hbare t rfl (by omega)
  | case3 => cases h

/-! ## Bare elements are read -/

variable {t : List Char}

/-- Bare characters are read up to the comma or brace after them. -/
theorem readBare_append {c : Char} (hc : c = ',' ∨ c = '\x7d')
    (ht : ∀ d ∈ t, isArraySyntax d = false) :
    readBare (t ++ c :: rest) = some (t.map fun d => (d, false), c :: rest) := by
  induction t with
  | nil => rcases hc with rfl | rfl <;> simp [readBare]
  | cons d ds ih =>
    rw [List.forall_mem_cons] at ht
    have hd : ¬d = ',' ∧ ¬d = '\x7b' ∧ ¬d = '\x7d' ∧ ¬d = '"' ∧ ¬d = '\\' := by
      simpa [isArraySyntax, and_assoc] using ht.1
    rw [List.cons_append, readBare, ih ht.2] <;> simp [hd]

theorem isBlank_of_isArraySpace {c : Char} (h : isArraySpace c = true) : isBlank c = true := by
  simp only [isArraySpace, Bool.or_eq_true, Bool.and_eq_true, beq_iff_eq, decide_eq_true_eq] at h
  rcases h with rfl | h
  · rfl
  · simp [isBlank, h.1, h.2]

theorem bareElement_map (hne : t ≠ []) (htrim : TrimmedOf isBlank t) (ht : IsBare t) :
    bareElement (t.map fun d => (d, false)) = some (some t) := by
  have hkept : (t.map fun d => (d, false)).rdropWhile
      (fun (c, escaped) => !escaped && isArraySpace c) = t.map fun d => (d, false) := by
    rw [List.rdropWhile_eq_self_iff]
    intro hne' hspace
    rw [List.getLast_map] at hspace
    have hblank := isBlank_of_isArraySpace (by simpa using hspace)
    rw [htrim.last _ (List.getLast?_eq_some_getLast hne)] at hblank
    cases hblank
  unfold bareElement
  simp only [hkept]
  have hnull := ht.notNull
  simp [hne, Function.comp_def, hnull]

/-- The first character of a bare element has no meaning and is kept. -/
theorem IsBare.first (hne : t ≠ []) (htrim : TrimmedOf isBlank t) (ht : IsBare t) :
    ∃ d ds, t = d :: ds ∧ isArraySpace d = false ∧ isArraySyntax d = false := by
  obtain ⟨d, ds, rfl⟩ := List.exists_cons_of_ne_nil hne
  refine ⟨d, ds, rfl, ?_, ht.plain d List.mem_cons_self⟩
  by_contra hspace
  have hblank := isBlank_of_isArraySpace (by simpa using hspace)
  rw [htrim.first d rfl] at hblank
  cases hblank

/-- A bare element is read before a comma or brace. -/
theorem readElement_bare {c : Char} (hc : c = ',' ∨ c = '\x7d') (hne : t ≠ [])
    (htrim : TrimmedOf isBlank t) (ht : IsBare t) :
    readElement ((t ++ c :: rest).dropWhile isArraySpace) = some (some t, c :: rest) := by
  obtain ⟨d, ds, rfl, hspace, hplain⟩ := ht.first hne htrim
  have hquote : d ≠ '"' := by
    rintro rfl
    cases hplain
  rw [List.cons_append, List.dropWhile_cons_of_neg (by simp [hspace]), readElement,
    ← List.cons_append, readBare_append hc ht.plain]
  · simp only [Option.bind_some, bareElement_map hne htrim ht, Option.map_some]
  · simp [hquote]

/-! ## Segments between braces -/

/-- Segments with a comma after each but the last, which has a brace. -/
def arrayBody : List (List Char) → List Char
  | [] => ['\x7d']
  | [t] => t ++ ['\x7d']
  | t :: ts => t ++ ',' :: arrayBody ts

theorem textArray_toList (ss : List String) :
    (JsonPath.textArray ss).toList = '\x7b' :: arrayBody (ss.map String.toList) := by
  have hbody : (",".intercalate ss).toList ++ ['\x7d'] = arrayBody (ss.map String.toList) := by
    induction ss with
    | nil => rfl
    | cons s ss ih =>
      cases ss with
      | nil => simp [arrayBody]
      | cons s' ss =>
        simp [arrayBody, String.intercalate_cons_cons] at ih ⊢
        exact ih
  simp [JsonPath.textArray, String.toList_append, ← hbody]

theorem length_arrayBody {ts : List (List Char)} (h : ts ≠ []) :
    (arrayBody ts).length = width (ts.map some) := by
  fun_induction arrayBody ts with
  | case1 => exact absurd rfl h
  | case2 t => simp
  | case3 t ts hts ih =>
    have hne : ts ≠ [] := fun e => hts e
    simp only [List.length_append, List.length_cons, ih hne, List.map_cons, width_cons,
      Option.getD_some]
    omega

variable {ts : List (List Char)}

/-- Bare elements are read from between the braces. -/
theorem readElements_arrayBody (hts : ts ≠ [])
    (hsegment : ∀ t ∈ ts, t ≠ [] ∧ TrimmedOf isBlank t) (h : ∀ t ∈ ts, IsBare t) :
    readElements (arrayBody ts) = some (ts.map some, []) := by
  fun_induction arrayBody ts with
  | case1 => exact absurd rfl hts
  | case2 t =>
    rw [List.forall_mem_singleton] at hsegment h
    rw [readElements, readElement_bare (.inr rfl) hsegment.1 hsegment.2 h]
    simp
  | case3 t ts hne ih =>
    rw [List.forall_mem_cons] at hsegment h
    have hts : ts ≠ [] := fun e => hne e
    rw [readElements, readElement_bare (.inl rfl) hsegment.1.1 hsegment.1.2 h.1]
    simp [ih hts hsegment.2 h.2]

/-- What an array text with elements holds between its braces. -/
theorem readElements_of_readArray {es : List Element} (hes : es ≠ [])
    (h : readArray ('\x7b' :: cs) = some es) : ∃ rest, readElements cs = some (es, rest) := by
  have hbrace : ('\x7b' :: cs).dropWhile isArraySpace = '\x7b' :: cs := rfl
  unfold readArray at h
  rw [hbrace] at h
  simp only at h
  split at h
  · split at h
    · cases h
      exact absurd rfl hes
    · cases h
  · split at h
    next es' rest hread =>
      split at h
      · cases h
        exact ⟨rest, hread⟩
      · cases h
    · cases h

theorem readArray_of_readElements {es : List Element} {c : Char} (hspace : isArraySpace c = false)
    (hbrace : c ≠ '\x7d') (h : readElements (c :: cs) = some (es, [])) :
    readArray ('\x7b' :: c :: cs) = some es := by
  have hopen : ('\x7b' :: c :: cs).dropWhile isArraySpace = '\x7b' :: c :: cs := rfl
  have hfirst : (c :: cs).dropWhile isArraySpace = c :: cs :=
    List.dropWhile_cons_of_neg (by simp [hspace])
  unfold readArray
  rw [hopen]
  simp [hfirst, hbrace, h]

theorem readArray_empty : readArray ('\x7b' :: arrayBody []) = some [] := by
  decide +kernel

/-- The segments are read back from their array if and only if all are bare. -/
theorem readArray_textArray_iff {ss : List String} (hss : ∀ s ∈ ss, JsonPath.IsSegment s) :
    readArray (JsonPath.textArray ss).toList = some (ss.map fun s => some s.toList)
      ↔ ∀ s ∈ ss, IsBare s.toList := by
  rw [textArray_toList]
  have hmap : (ss.map String.toList).map some = ss.map fun s => some s.toList := by simp
  by_cases hnil : ss = []
  · subst hnil
    simpa using readArray_empty
  have hne : ss.map String.toList ≠ [] := by simpa using hnil
  constructor
  · intro h s hs
    obtain ⟨rest, hread⟩ := readElements_of_readArray (by simpa using hnil) h
    obtain ⟨hle, hbare⟩ := readElements_length hread
    rw [length_arrayBody hne, hmap] at hle hbare
    exact hbare (by omega) s.toList (List.mem_map_of_mem hs)
  · intro h
    have hsegment : ∀ t ∈ ss.map String.toList, t ≠ [] ∧ TrimmedOf isBlank t := by
      intro t ht
      obtain ⟨s, hs, rfl⟩ := List.mem_map.1 ht
      exact ⟨(hss s hs).ne_nil, (hss s hs).trimmed⟩
    have hbare : ∀ t ∈ ss.map String.toList, IsBare t := by
      intro t ht
      obtain ⟨s, hs, rfl⟩ := List.mem_map.1 ht
      exact h s hs
    have hread := readElements_arrayBody hne hsegment hbare
    obtain ⟨t, ts, hts⟩ := List.exists_cons_of_ne_nil hne
    rw [hts] at hread hsegment hbare hmap ⊢
    rw [List.forall_mem_cons] at hsegment hbare
    obtain ⟨d, ds, rfl, hspace, hplain⟩ := hbare.1.first hsegment.1.1 hsegment.1.2
    have hbrace : d ≠ '\x7d' := by
      rintro rfl
      cases hplain
    obtain ⟨body, hbody⟩ : ∃ body, arrayBody ((d :: ds) :: ts) = d :: body := by
      cases ts <;> exact ⟨_, rfl⟩
    rw [hbody] at hread ⊢
    rw [← hmap]
    exact readArray_of_readElements hspace hbrace hread

end SqlQuery.Text

namespace SqlQuery.Dialect

open SqlQuery.Text SqlQuery.JsonPath

/-- Between `before` and `after` there is one literal and nothing else, and it denotes `value`. -/
def HoldsLiteral (value : List Char) (before after text : String) : Prop :=
  ∃ literal, text = before ++ literal ++ after
    ∧ readStandard (literal ++ after).toList = some (value, after.toList)

/-- Between `before` and `after` there is one literal and nothing else, and the array that it
denotes has the segments of the path for its elements. -/
def AddressesSegments (path before after text : String) : Prop :=
  ∃ value, HoldsLiteral value before after text
    ∧ readArray value = some ((segments path).map fun s => some s.toList)

theorem holdsLiteral_iff {s before after : String} {value : List Char}
    (h : after.toList.head? ≠ some '\'') :
    HoldsLiteral value before after (before ++ sqlLiteral s ++ after) ↔ value = s.toList := by
  constructor
  · rintro ⟨literal, htext, hread⟩
    have hsame : sqlLiteral s = literal := by
      simpa [← String.toList_inj, String.toList_append] using htext
    rw [← hsame, readStandard_sqlLiteral s h] at hread
    cases hread
    rfl
  · rintro rfl
    exact ⟨sqlLiteral s, rfl, readStandard_sqlLiteral s h⟩

theorem addressesSegments_iff {path before after : String} (h : after.toList.head? ≠ some '\'') :
    AddressesSegments path before after (before ++ postgresPath path ++ after)
      ↔ ∀ s ∈ segments path, IsBare s.toList := by
  rw [← readArray_textArray_iff fun s => isSegment_of_mem]
  constructor
  · rintro ⟨value, hvalue, hread⟩
    rw [(holdsLiteral_iff h).1 hvalue] at hread
    exact hread
  · intro hread
    exact ⟨_, (holdsLiteral_iff h).2 rfl, hread⟩

/-- One segment outside brackets is a literal of its own, and all else is a text array. -/
theorem postgresJsonPath_addresses (column path : String) :
    (∃ segment, segments path = [segment] ∧ '[' ∉ path.toList
      ∧ HoldsLiteral segment.toList (column ++ " ->> ") "" (postgresJsonPath column path))
    ∨ ¬((segments path).length = 1 ∧ '[' ∉ path.toList)
      ∧ (AddressesSegments path (column ++ " #>> ") "" (postgresJsonPath column path)
        ↔ ∀ s ∈ segments path, IsBare s.toList) := by
  have hempty : "".toList.head? ≠ some '\'' := by decide
  unfold postgresJsonPath
  split
  next segment hsegments hbracket =>
    left
    refine ⟨segment, hsegments, by simpa using hbracket, ?_⟩
    rw [← String.append_empty (s := column ++ " ->> " ++ sqlLiteral segment)]
    exact (holdsLiteral_iff hempty).2 rfl
  next hkey =>
    right
    constructor
    · rintro ⟨hone, hbracket⟩
      obtain ⟨segment, hsegments⟩ := List.length_eq_one_iff.1 hone
      exact hkey segment hsegments (by simpa using hbracket)
    · rw [← String.append_empty (s := column ++ " #>> " ++ _)]
      exact addressesSegments_iff hempty

/-- **When a path addresses its segments.** What stands between the column and the end of
`jsonb_set`, `#-` and `#>>` is one literal, and the array that it denotes has the segments of the
path for its elements if and only if every segment is bare. A path of one segment without brackets
is read with `->>` in place of `#>>`, and there the literal denotes the segment whatever its
characters are. -/
theorem postgres_addresses_iff (column path marker : String) :
    (∃ write, postgres.requireJsonSet = .ok write
      ∧ (AddressesSegments path ("jsonb_set(" ++ column ++ ", ") (", " ++ marker ++ "::jsonb)")
          ((write column path).fill marker)
        ↔ ∀ s ∈ segments path, IsBare s.toList))
    ∧ (∃ write, postgres.requireJsonRemove = .ok write
      ∧ (AddressesSegments path (column ++ " #- ") "" (write column path)
        ↔ ∀ s ∈ segments path, IsBare s.toList))
    ∧ (∃ text, postgres.requireJsonPath column path = .ok text
      ∧ ((∃ segment, segments path = [segment] ∧ '[' ∉ path.toList
          ∧ HoldsLiteral segment.toList (column ++ " ->> ") "" text)
        ∨ ¬((segments path).length = 1 ∧ '[' ∉ path.toList)
          ∧ (AddressesSegments path (column ++ " #>> ") "" text
            ↔ ∀ s ∈ segments path, IsBare s.toList))) := by
  have hempty : "".toList.head? ≠ some '\'' := by decide
  have hmarker : (", " ++ marker ++ "::jsonb)").toList.head? ≠ some '\'' := by
    simp [String.toList_append]
  refine ⟨⟨_, rfl, ?_⟩, ⟨_, rfl, ?_⟩, ⟨_, rfl, ?_⟩⟩
  · have hsame : (⟨"jsonb_set(" ++ column ++ ", " ++ postgresPath path ++ ", ", "::jsonb)"⟩
        : Around).fill marker
        = "jsonb_set(" ++ column ++ ", " ++ postgresPath path
          ++ (", " ++ marker ++ "::jsonb)") := by
      simp only [Around.fill, String.append_assoc]
    rw [hsame]
    exact addressesSegments_iff hmarker
  · have hsame : column ++ " #- " ++ postgresPath path
        = column ++ " #- " ++ postgresPath path ++ "" := by
      rw [String.append_empty]
    rw [hsame]
    exact addressesSegments_iff hempty
  · exact postgresJsonPath_addresses column path

/-- A key with a comma is read as one key, and set and removed as two. -/
theorem postgres_comma_splits :
    (postgres.requireJsonPath "c" "a,b").toOption = some "c ->> 'a,b'"
    ∧ postgres.requireJsonSet.toOption.map (fun write => (write "c" "a,b").fill "$1")
      = some "jsonb_set(c, '\x7ba,b\x7d', $1::jsonb)"
    ∧ readArray "\x7ba,b\x7d".toList = some [some ['a'], some ['b']]
    ∧ segments "a,b" = ["a,b"]
    ∧ ¬AddressesSegments "a,b" "jsonb_set(c, " ", $1::jsonb)"
        "jsonb_set(c, '\x7ba,b\x7d', $1::jsonb)" := by
  refine ⟨by decide +kernel, by decide +kernel, by decide +kernel, by decide +kernel, ?_⟩
  have htext : "jsonb_set(c, '\x7ba,b\x7d', $1::jsonb)"
      = "jsonb_set(c, " ++ postgresPath "a,b" ++ ", $1::jsonb)" := by decide +kernel
  have hsegments : segments "a,b" = ["a,b"] := by decide +kernel
  rw [htext, addressesSegments_iff (by decide), hsegments]
  intro h
  have hplain := (h "a,b" List.mem_cons_self).plain ',' (by decide)
  cases hplain

end SqlQuery.Dialect
