import Mathlib.Algebra.GroupWithZero.Nat
import SqlQuery.Dialect.MySql
import SqlQuery.Dialect.Postgres
import SqlQuery.Proofs.Sections
import SqlQuery.Proofs.TopLevelWords

/-!
# The texts of filters

A section is the texts of its filters with a word before each but the first (`sectionText`). If the
texts are balanced, so is the section, and its connectives are the words and those of the texts: an
OR among them joins two filters or comes from the text of one (`or_mem_connectives_sectionText`).

Raw text is shown as it is, with placeholders for its markers. A placeholder of a `Plain` dialect
opens and closes nothing, and a marker stands outside quotes, so raw text is as balanced with its
placeholders as it was with its markers (`balanced_raw`).
-/

namespace SqlQuery

open Fragment RawText

/-! ## Placeholders -/

/-- A character that is no quote, no parenthesis and no letter. -/
def isPlainChar (c : Char) : Bool :=
  !(isQuote c || c == '(' || c == ')' || c.isAlpha)

/-- Placeholders open and close nothing, and are no words. -/
def Dialect.Plain (d : Dialect) : Prop :=
  ∀ n, ∀ c ∈ (d.placeholder n).toList, isPlainChar c

theorem Dialect.plain_mysql : Dialect.mysql.Plain := by
  intro n c hc
  have hmark : c ∈ "?".toList := hc
  obtain rfl : c = '?' := by simpa using hmark
  decide

theorem isPlainChar_of_isDigit {c : Char} (h : c.isDigit) : isPlainChar c := by
  have hother : ∀ x : Char, x.isDigit = false → c ≠ x := by
    rintro x hx rfl
    exact absurd h (Bool.eq_false_iff.1 hx)
  have halpha : c.isAlpha = false := by
    have hlast : c.val ≤ '9'.val := of_decide_eq_true (Bool.and_eq_true_iff.1 h).2
    have hupper : ¬('A'.val ≤ c.val ∧ c.val ≤ 'Z'.val) := fun hc =>
      absurd (UInt32.le_trans hc.1 hlast) (by decide)
    have hlower : ¬('a'.val ≤ c.val ∧ c.val ≤ 'z'.val) := fun hc =>
      absurd (UInt32.le_trans hc.1 hlast) (by decide)
    exact Bool.or_eq_false_iff.2
      ⟨decide_eq_false hupper, (Bool.decide_and _ _).symm.trans (decide_eq_false hlower)⟩
  simp [isPlainChar, isQuote, halpha, hother '\'' rfl, hother '"' rfl, hother '\x60' rfl,
    hother '(' rfl, hother ')' rfl]

theorem Dialect.plain_postgres : Dialect.postgres.Plain := by
  intro n c hc
  have hmark : c ∈ "$".toList ++ (toString n).toList := by
    rw [← String.toList_append]
    exact hc
  obtain hsign | hnumber := List.mem_append.1 hmark
  · obtain rfl : c = '$' := by simpa using hsign
    decide
  · rw [Nat.toString_eq_ofList_toDigits, String.toList_ofList] at hnumber
    exact isPlainChar_of_isDigit
      (Nat.isDigit_of_mem_toDigits (b := 10) (by decide) (by decide) hnumber)

section Plain

variable {cs : List Char}

theorem Nest.step_plain {c : Char} (h : isPlainChar c) (depth : Nat) :
    Nest.step { depth } c = some { depth } := by
  simp only [isPlainChar, Bool.not_eq_true', Bool.or_eq_false_iff, beq_eq_false_iff_ne] at h
  obtain ⟨⟨⟨hquote, hopen⟩, hclose⟩, -⟩ := h
  simp [Nest.step, hquote, depthAfter, hopen, hclose]

theorem Nest.after_cons_plain {c : Char} (h : isPlainChar c) (depth : Nat) :
    Nest.after { depth } (c :: cs) = Nest.after { depth } cs := by
  unfold after
  rw [List.foldlM_cons, step_plain h]
  rfl

theorem Nest.after_plain (h : ∀ c ∈ cs, isPlainChar c) (depth : Nat) :
    Nest.after { depth } cs = some { depth } := by
  induction cs with
  | nil => rfl
  | cons c cs ih =>
    obtain ⟨hc, hcs⟩ := List.forall_mem_cons.1 h
    rw [after_cons_plain hc]
    exact ih hcs

theorem balanced_of_plain {s : String} (h : ∀ c ∈ s.toList, isPlainChar c) : Balanced s :=
  Nest.after_plain h 0

theorem connectives_of_plain {s : String} (h : ∀ c ∈ s.toList, isPlainChar c) :
    connectives s = [] := by
  refine connectives_of_no_letters fun c hc => ?_
  have hplain := h c hc
  simp only [isPlainChar, Bool.not_eq_true', Bool.or_eq_false_iff] at hplain
  exact hplain.2

end Plain

/-! ## Raw text -/

/-- Segments with placeholders between any two, the first of which follows number `start`. -/
def woven (placeholder : Nat → String) (start : Nat) : List (List Char) → List Char
  | [] => []
  | [s] => s
  | s :: ss => s ++ ((placeholder (start + 1)).toList ++ woven placeholder (start + 1) ss)

section Raw

variable {d : Dialect} {placeholder : Nat → String}

theorem woven_prepend {ss : List (List Char)} (h : ss ≠ []) (c : Char) (start : Nat) :
    woven placeholder start (prepend c ss) = c :: woven placeholder start ss := by
  cases ss with
  | nil => exact absurd rfl h
  | cons s ss => cases ss <;> rfl

theorem woven_marker {ss : List (List Char)} (h : ss ≠ []) (start : Nat) :
    woven placeholder start ([] :: ss)
      = (placeholder (start + 1)).toList ++ woven placeholder (start + 1) ss := by
  cases ss with
  | nil => exact absurd rfl h
  | cons => rfl

/-- Raw text is shown as its segments with placeholders between any two. -/
theorem toList_render_weave {ss : List (List Char)} {values : List Value}
    (h : ss.length = values.length + 1) (start : Nat) :
    ((weave (ss.map String.ofList) values).render placeholder start).toList
      = woven placeholder start ss := by
  induction values generalizing ss start with
  | nil =>
    obtain ⟨s, rfl⟩ := List.length_eq_one_iff.1 h
    exact String.toList_ofList
  | cons v vs ih =>
    match ss, h with
    | s :: t :: ss, h =>
      have hrest : ((weave ((t :: ss).map String.ofList) vs).render placeholder
          (start + 1)).toList = woven placeholder (start + 1) (t :: ss) :=
        ih (Nat.succ.inj h) (start + 1)
      show (String.ofList s ++ placeholder (start + 1)
        ++ (weave ((t :: ss).map String.ofList) vs).render placeholder (start + 1)).toList = _
      rw [String.toList_append, hrest, String.toList_append, String.toList_ofList,
        List.append_assoc]
      rfl

/-- What raw text opens and closes it opens and closes with its placeholders. -/
theorem Nest.after_woven (hplain : ∀ n, ∀ c ∈ (placeholder n).toList, isPlainChar c) {n m : Nest}
    {cs : List Char} (h : n.after cs = some m) (start : Nat) :
    n.after (woven placeholder start (segments n.quote cs)) = some m := by
  obtain ⟨quote, depth⟩ := n
  dsimp only at *
  -- a marker stands where no quote is open, so it changes nothing, and no more does a placeholder
  have hmarker : ∀ {quote : Option Char} {c : Char}, (quote.isNone && c == '?') = true →
      quote = none ∧ c = '?' := by
    intro quote c hmark
    simpa using hmark
  have hskip : ∀ depth cs, Nest.after { depth } ('?' :: cs) = Nest.after { depth } cs :=
    fun depth cs => after_cons_plain (by decide) depth
  fun_induction segments quote cs generalizing depth start with
  | case1 => exact h
  | case2 quote c hmark cs ih =>
    obtain ⟨rfl, rfl⟩ := hmarker hmark
    rw [hskip, hskip] at h
    rw [woven_prepend (segments_ne_nil none cs), hskip]
    exact ih start depth h
  | case3 quote c hmark cs hsingle ih =>
    obtain ⟨rfl, rfl⟩ := hmarker hmark
    rw [hskip] at h
    rw [woven_marker (segments_ne_nil none cs), after_append, after_plain (hplain _)]
    exact ih (start + 1) depth h
  | case4 quote c cs hkept ih =>
    obtain ⟨⟨quote', depth'⟩, hk, h⟩ := after_cons.1 h
    cases quote_step hk
    rw [woven_prepend (segments_ne_nil _ cs)]
    exact after_cons.2 ⟨_, hk, ih start depth' h⟩

/-- Raw text is as balanced with its placeholders as it was with its markers. -/
theorem balanced_raw (hd : d.Plain) {raw : String} {values : List Value} {f : Fragment}
    (hraw : Balanced raw) (hf : Fragment.ofRaw raw values = .ok f) (start : Nat) :
    Balanced (f.render d.placeholder start) := by
  obtain ⟨hcount, rfl⟩ := ofRaw_eq_ok hf
  have hlength : (segments none raw.toList).length = values.length + 1 := by
    have hsplit := RawText.length_split raw
    rw [hcount, RawText.split, List.length_map] at hsplit
    exact hsplit
  unfold Balanced RawText.split
  rw [toList_render_weave hlength]
  exact Nest.after_woven hd hraw start

end Raw

/-! ## Sections -/

/-- Texts that follow others, each after its word. -/
def laterText : List (Connective × String) → String
  | [] => ""
  | (c, s) :: rest => " " ++ c.text ++ " " ++ s ++ laterText rest

/-- Texts with their words between them. The word of the first is not shown. -/
def sectionText : List (Connective × String) → String
  | [] => ""
  | (_, s) :: rest => s ++ laterText rest

/-- What is shown of written filters, each with its word, where numbers go on after `start`. -/
def shownTexts (placeholder : Nat → String) :
    Nat → List (Connective × Fragment) → List (Connective × String)
  | _, [] => []
  | start, (c, f) :: rest =>
    (c, f.render placeholder start) :: shownTexts placeholder (start + f.size) rest

section Sections

variable {placeholder : Nat → String}

theorem render_later (items : List (Connective × Fragment)) (f : Fragment) (start : Nat) :
    (items.foldl (fun acc (c, g) => acc ++ text (" " ++ c.text ++ " ") ++ g) f).render
        placeholder start
      = f.render placeholder start
        ++ laterText (shownTexts placeholder (start + f.size) items) := by
  induction items generalizing f with
  | nil => exact String.append_empty.symm
  | cons item rest ih =>
    obtain ⟨c, g⟩ := item
    rw [List.foldl_cons, ih]
    show f.render placeholder start ++ (" " ++ c.text ++ " ")
        ++ g.render placeholder (start + (f.size + 0))
        ++ laterText (shownTexts placeholder (start + (f.size + 0 + g.size)) rest) = _
    rw [Nat.add_zero, ← Nat.add_assoc]
    simp only [shownTexts, laterText, String.append_assoc]

theorem render_connected (items : List (Connective × Fragment)) (start : Nat) :
    (connected items).render placeholder start
      = sectionText (shownTexts placeholder start items) := by
  cases items with
  | nil => rfl
  | cons item rest => exact render_later rest item.2 start

theorem shownTexts_append (items others : List (Connective × Fragment)) (start : Nat) :
    shownTexts placeholder start (items ++ others)
      = shownTexts placeholder start items
        ++ shownTexts placeholder (start + (items.map fun i => i.2.size).sum) others := by
  induction items generalizing start with
  | nil => rfl
  | cons item rest ih =>
    rw [List.cons_append, shownTexts, ih, shownTexts, List.map_cons, List.sum_cons, Nat.add_assoc]
    rfl

variable {s : String} {texts : List (Connective × String)}

theorem laterText_append (ts us : List (Connective × String)) :
    laterText (ts ++ us) = laterText ts ++ laterText us := by
  induction ts with
  | nil => exact String.empty_append.symm
  | cons t rest ih =>
    obtain ⟨c, s⟩ := t
    rw [List.cons_append, laterText, ih, laterText]
    simp only [String.append_assoc]

theorem sectionText_append (h : texts ≠ []) (later : List (Connective × String)) :
    sectionText (texts ++ later) = sectionText texts ++ laterText later := by
  cases texts with
  | nil => exact absurd rfl h
  | cons t rest =>
    obtain ⟨c, s⟩ := t
    rw [List.cons_append, sectionText, laterText_append, sectionText, String.append_assoc]

theorem balanced_word (c : Connective) : Balanced (" " ++ c.text ++ " ") := by
  cases c <;> decide

theorem balanced_laterText (h : ∀ t ∈ texts, Balanced t.2) : Balanced (laterText texts) := by
  induction texts with
  | nil => exact rfl
  | cons t rest ih =>
    obtain ⟨ht, hrest⟩ := List.forall_mem_cons.1 h
    exact ((balanced_word t.1).append ht).append (ih hrest)

theorem balanced_sectionText (h : ∀ t ∈ texts, Balanced t.2) : Balanced (sectionText texts) := by
  cases texts with
  | nil => exact rfl
  | cons t rest =>
    obtain ⟨ht, hrest⟩ := List.forall_mem_cons.1 h
    exact ht.append (balanced_laterText hrest)

theorem lexemes_laterText (hs : Balanced s) (h : ∀ t ∈ texts, Balanced t.2) :
    lexemes (s ++ laterText texts) = lexemes s ++ texts.flatMap fun (c, t) =>
      .char ' ' :: .word c :: .char ' ' :: lexemes t := by
  induction texts generalizing s with
  | nil => exact (congrArg lexemes String.append_empty).trans (List.append_nil _).symm
  | cons item rest ih =>
    obtain ⟨c, t⟩ := item
    obtain ⟨ht, hrest⟩ := List.forall_mem_cons.1 h
    have hword : Balanced c.text := by
      cases c <;> decide
    have hlexeme : lexemes c.text = [.word c] := by
      cases c <;> decide
    have hsplit : s ++ laterText ((c, t) :: rest)
        = s ++ " " ++ (c.text ++ " " ++ (t ++ laterText rest)) := by
      simp only [laterText, String.append_assoc]
    rw [hsplit, lexemes_append_blank hs, lexemes_append_blank hword, ih ht hrest, hlexeme]
    simp

theorem connectives_laterText (hs : Balanced s) (h : ∀ t ∈ texts, Balanced t.2) :
    connectives (s ++ laterText texts)
      = connectives s ++ texts.flatMap fun (c, t) => c :: connectives t := by
  unfold connectives
  rw [lexemes_laterText hs h, List.filterMap_append, List.filterMap_flatMap]
  rfl

/-- An OR of a section joins two of its texts or stands in one of them. -/
theorem or_mem_connectives_sectionText (h : ∀ t ∈ texts, Balanced t.2) :
    .or ∈ connectives (sectionText texts)
      ↔ (∃ t ∈ texts.tail, t.1 = .or) ∨ ∃ t ∈ texts, .or ∈ connectives t.2 := by
  cases texts with
  | nil =>
    have hnone : connectives "" = [] := by
      decide
    simp [sectionText, hnone]
  | cons item rest =>
    obtain ⟨hitem, hrest⟩ := List.forall_mem_cons.1 h
    rw [sectionText, connectives_laterText hitem hrest, List.mem_append, List.mem_flatMap]
    constructor
    · rintro (hor | ⟨t, ht, hor⟩)
      · exact .inr ⟨item, List.mem_cons_self, hor⟩
      · obtain hword | hor := List.mem_cons.1 hor
        · exact .inl ⟨t, ht, hword.symm⟩
        · exact .inr ⟨t, List.mem_cons_of_mem _ ht, hor⟩
    · rintro (⟨t, ht, hword⟩ | ⟨t, ht, hor⟩)
      · exact .inr ⟨t, ht, hword ▸ List.mem_cons_self⟩
      · obtain rfl | ht := List.mem_cons.1 ht
        · exact .inl hor
        · exact .inr ⟨t, ht, List.mem_cons_of_mem _ hor⟩

end Sections

/-! ## Balanced filters -/

mutual

/-- Raw text is balanced as it was given, and whatever else a filter shows is balanced as it is
shown. -/
def Condition.BalancedIn (d : Dialect) : Condition → Prop
  | .raw s _ => Balanced s
  | .group filters => BalancedFilters d filters
  | c => ∀ f, c.fragment d = .ok f → ∀ start, Balanced (f.render d.placeholder start)

def BalancedFilters (d : Dialect) : List Filter → Prop
  | [] => True
  | ⟨_, condition, _⟩ :: rest => condition.BalancedIn d ∧ BalancedFilters d rest

end

section BalancedFilters

variable {d : Dialect}

/-- A comparison is balanced if its column is. -/
theorem Condition.balancedIn_compare (hd : d.Plain) {column : String} {c : Comparison}
    (hcolumn : Balanced column) (hc : Balanced (d.comparisonText c)) (v : Value) :
    (Condition.compare column c v).BalancedIn d := by
  intro f hf start
  cases hf
  have hblank : Balanced " " := by
    decide
  have hmarker : Balanced (d.placeholder (start + 1)) := balanced_of_plain (hd (start + 1))
  exact (((hcolumn.append hblank).append hc).append hblank).append hmarker

mutual

theorem Condition.balanced_render (hd : d.Plain) (c : Condition) (h : c.BalancedIn d)
    {f : Fragment} (hf : c.fragment d = .ok f) (start : Nat) :
    Balanced (f.render d.placeholder start) := by
  cases c with
  | raw s values =>
    rw [Condition.fragment] at hf
    rw [Condition.BalancedIn] at h
    exact balanced_raw hd h hf start
  | group filters =>
    rw [Condition.fragment] at hf
    rw [Condition.BalancedIn] at h
    obtain ⟨items, hitems, hf⟩ := Result.bind_eq_ok.1 hf
    cases hf
    show Balanced ("(" ++ (connected items).render d.placeholder (start + 0) ++ ")")
    rw [render_connected]
    exact (balanced_sectionText (balanced_shownTexts hd filters h hitems _)).enclosed
  | _ => exact h f hf start

theorem balanced_shownTexts (hd : d.Plain) : ∀ (filters : List Filter),
    BalancedFilters d filters → ∀ {items : List (Connective × Fragment)},
    filterFragments d filters = .ok items → ∀ start,
    ∀ t ∈ shownTexts d.placeholder start items, Balanced t.2
  | [], _, items, hitems, start => by
    cases hitems
    exact List.forall_mem_nil _
  | ⟨connective, condition, unread⟩ :: rest, h, items, hitems, start => by
    rw [filterFragments] at hitems
    obtain ⟨first, hfirst, hitems⟩ := Result.bind_eq_ok.1 hitems
    obtain ⟨others, hothers, hitems⟩ := Result.bind_eq_ok.1 hitems
    cases hitems
    rw [BalancedFilters] at h
    exact List.forall_mem_cons.2 ⟨condition.balanced_render hd h.1 hfirst start,
      balanced_shownTexts hd rest h.2 hothers _⟩

end

end BalancedFilters

/-! ## Written filters -/

section Written

variable {d : Dialect} {filters : List Filter} {items : List (Connective × Fragment)}

theorem filterFragments_append {later : List Filter} {others : List (Connective × Fragment)}
    (h : filterFragments d filters = .ok items) (hlater : filterFragments d later = .ok others) :
    filterFragments d (filters ++ later) = .ok (items ++ others) := by
  induction filters generalizing items with
  | nil =>
    cases h
    exact hlater
  | cons f rest ih =>
    obtain ⟨connective, condition, unread⟩ := f
    rw [filterFragments] at h
    obtain ⟨first, hfirst, h⟩ := Result.bind_eq_ok.1 h
    obtain ⟨between, hbetween, h⟩ := Result.bind_eq_ok.1 h
    cases h
    rw [List.cons_append, filterFragments]
    exact Result.bind_eq_ok.2 ⟨first, hfirst, Result.bind_eq_ok.2 ⟨_, ih hbetween, rfl⟩⟩

/-- The words of filters are shown with their texts. -/
theorem any_shownTexts (placeholder : Nat → String) (h : filterFragments d filters = .ok items)
    (start : Nat) : (shownTexts placeholder start items).any (·.1 == .or)
      = filters.any (·.connective == .or) := by
  induction filters generalizing items start with
  | nil =>
    cases h
    rfl
  | cons f rest ih =>
    obtain ⟨connective, condition, unread⟩ := f
    rw [filterFragments] at h
    obtain ⟨first, -, h⟩ := Result.bind_eq_ok.1 h
    obtain ⟨others, hothers, h⟩ := Result.bind_eq_ok.1 h
    cases h
    rw [shownTexts, List.any_cons, List.any_cons, ih hothers]

end Written

/-! ## The WHERE section -/

/-- The WHERE section of a statement is the text of its filters. -/
theorem Query.Written.where_shown {d : Dialect} {q : Query} {f : Fragment} (h : q.Written d f)
    {items : List (Connective × Fragment)} (hitems : filterFragments d q.filters = .ok items)
    (hsome : items ≠ []) (placeholder : Nat → String) :
    ∃ before after start, f.render placeholder 0
      = before ++ " WHERE " ++ sectionText (shownTexts placeholder start items) ++ after := by
  obtain ⟨-, filters, -, -, -, -⟩ := h
  rename_i joined grouped branches tail conditions head
  obtain rfl : conditions = items := Except.ok.inj (filters.symm.trans hitems)
  have hsections : sourceFragments q.table ++ joined ++ whereFragments conditions ++ grouped
      ++ branches ++ tail = sourceFragments q.table ++ joined
        ++ (text "WHERE " ++ connected conditions) :: (grouped ++ branches ++ tail) := by
    rw [whereFragments, List.isEmpty_eq_false_iff.2 hsome]
    simp only [List.append_assoc]
    rfl
  rw [hsections]
  generalize sourceFragments q.table ++ joined = earlier
  generalize grouped ++ branches ++ tail = later
  generalize hstart : 0 + (spaced earlier).size = start
  generalize hpart : text "WHERE " ++ connected conditions = part
  have hwritten : part.render placeholder start
      = "WHERE " ++ sectionText (shownTexts placeholder start conditions) := by
    rw [← hpart, ← render_connected]
    rfl
  refine ⟨head.render placeholder (0 + (spaced (earlier ++ part :: later)).size)
    ++ (spaced earlier).render placeholder 0,
    (spaced later).render placeholder (start + part.size), start, ?_⟩
  show head.render placeholder _ ++ (spaced (earlier ++ part :: later)).render placeholder 0 = _
  rw [render_spaced_append, hstart, render_spaced_cons, hwritten,
    show " WHERE " = " " ++ "WHERE " from rfl]
  simp only [String.append_assoc]

end SqlQuery
