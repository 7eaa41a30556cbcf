import Mathlib.Algebra.BigOperators.Group.List.Basic
import Mathlib.Algebra.Ring.Int.Defs
import SqlQuery.Proofs.FilterTexts

/-!
# Question marks in shown text

Raw text is read for markers before it is shown. Where placeholders are question marks, what is
shown of it is text in which question marks stand for values, and may be read for markers again. The
two readings need not agree: of a pair of question marks one is left, which is no longer a pair.

Both readings depend on the runs of question marks outside quotes (`questionRuns`). A run is shown
with half its length, rounded up (`questionRuns_shown`), and has one marker if its length is odd
(`length_segments_append`). So the number of markers changes with the runs whose length is two or
three modulo four (`drift`), and with no others.
-/

namespace SqlQuery.RawText

/-! ## Runs of question marks -/

/-- The lengths of the runs of question marks outside quotes: one before each other character and
one at the end, most of them zero. `quote` is open at the start, and `run` question marks went
before. -/
def questionRuns (quote : Option Char) (run : Nat) : List Char → List Nat
  | [] => [run]
  | c :: cs =>
    if quote.isNone && c == '?' then questionRuns none (run + 1) cs
    else run :: questionRuns (quoteAfter quote c) 0 cs

/-- The markers in runs of these lengths. -/
def runMarkers (runs : List Nat) : Nat :=
  (runs.map (· % 2)).sum

/-- All quotes that are opened are closed. -/
def IsClosed (cs : List Char) : Prop :=
  cs.foldl quoteAfter none = none

variable {quote : Option Char} {c : Char} {cs rest : List Char}

theorem marks_iff : (quote.isNone && c == '?') = true ↔ quote = none ∧ c = '?' := by
  simp

theorem head?_ne_of_single (h : ∀ cs', cs = '?' :: cs' → False) : cs.head? ≠ some '?' := by
  cases cs with
  | nil => exact fun hhead => nomatch hhead
  | cons c cs => exact fun hhead => h cs (congrArg (· :: cs) (Option.some.inj hhead))

theorem questionRuns_mark (run : Nat) (cs : List Char) :
    questionRuns none run ('?' :: cs) = questionRuns none (run + 1) cs :=
  if_pos rfl

theorem questionRuns_other (h : ¬(quote.isNone && c == '?') = true) (run : Nat) (cs : List Char) :
    questionRuns quote run (c :: cs) = run :: questionRuns (quoteAfter quote c) 0 cs :=
  if_neg h

/-- Before anything but a question mark, a run ends. -/
theorem questionRuns_of_head (quote : Option Char) (h : cs.head? ≠ some '?') :
    ∃ runs, ∀ run, questionRuns quote run cs = run :: runs := by
  cases cs with
  | nil => exact ⟨[], fun _ => rfl⟩
  | cons c cs =>
    refine ⟨questionRuns (quoteAfter quote c) 0 cs, fun run => questionRuns_other ?_ run cs⟩
    rw [marks_iff]
    rintro ⟨-, rfl⟩
    exact h rfl

theorem runMarkers_cons (run : Nat) (runs : List Nat) :
    runMarkers (run :: runs) = run % 2 + runMarkers runs :=
  List.sum_cons

/-- Two question marks more are a pair more and no marker. -/
theorem runMarkers_pair (run : Nat) (quote : Option Char) (cs : List Char) :
    runMarkers (questionRuns quote (run + 2) cs) = runMarkers (questionRuns quote run cs) := by
  induction cs generalizing quote run with
  | nil => simp [questionRuns, runMarkers]
  | cons c cs ih =>
    by_cases hmark : (quote.isNone && c == '?') = true
    · obtain ⟨rfl, rfl⟩ := marks_iff.1 hmark
      rw [questionRuns_mark, questionRuns_mark]
      exact ih (run + 1) none
    · rw [questionRuns_other hmark, questionRuns_other hmark, runMarkers_cons, runMarkers_cons,
        Nat.add_mod_right]

/-! ## What is read -/

theorem length_prepend {ss : List (List Char)} (h : ss ≠ []) (c : Char) :
    (prepend c ss).length = ss.length := by
  cases ss with
  | nil => exact absurd rfl h
  | cons => rfl

theorem segments_pair (cs : List Char) :
    segments none ('?' :: '?' :: cs) = prepend '?' (segments none cs) :=
  if_pos rfl

theorem segments_single (h : cs.head? ≠ some '?') :
    segments none ('?' :: cs) = [] :: segments none cs := by
  rw [segments]
  · exact if_pos rfl
  · rintro cs rfl
    exact h rfl

theorem segments_other (h : ¬(quote.isNone && c == '?') = true) (cs : List Char) :
    segments quote (c :: cs) = prepend c (segments (quoteAfter quote c) cs) :=
  (segments.eq_def quote (c :: cs)).trans (if_neg h)

theorem length_segments_other (h : ¬(quote.isNone && c == '?') = true) (cs : List Char) :
    (segments quote (c :: cs)).length = (segments (quoteAfter quote c) cs).length := by
  rw [segments_other h, length_prepend (segments_ne_nil _ _)]

/-- Text whose quotes are closed has a marker for each run of odd length, unless it is followed by
more question marks. -/
theorem length_segments_append (hclosed : cs.foldl quoteAfter quote = none)
    (hrest : rest.head? ≠ some '?') :
    (segments quote (cs ++ rest)).length
      = runMarkers (questionRuns quote 0 cs) + (segments none rest).length := by
  fun_induction segments quote cs with
  | case1 quote =>
    cases hclosed
    exact (Nat.zero_add _).symm
  | case2 quote c hmark cs ih =>
    obtain ⟨rfl, rfl⟩ := marks_iff.1 hmark
    rw [List.cons_append, List.cons_append, segments_pair, length_prepend (segments_ne_nil _ _),
      ih hclosed, questionRuns_mark, questionRuns_mark, runMarkers_pair]
  | case3 quote c hmark cs hsingle ih =>
    obtain ⟨rfl, rfl⟩ := marks_iff.1 hmark
    have hhead := head?_ne_of_single hsingle
    obtain ⟨runs, hruns⟩ := questionRuns_of_head none hhead
    have hnext : (cs ++ rest).head? ≠ some '?' := by
      cases cs with
      | nil => exact hrest
      | cons => exact hhead
    rw [List.cons_append, segments_single hnext, List.length_cons, ih hclosed, questionRuns_mark,
      hruns, hruns, runMarkers_cons, runMarkers_cons]
    omega
  | case4 quote c cs hkept ih =>
    rw [List.cons_append, length_segments_other hkept, ih hclosed, questionRuns_other hkept,
      runMarkers_cons]
    omega

/-- The markers of closed text are those of its runs. -/
theorem markerCount_eq {raw : String} (h : IsClosed raw.toList) :
    markerCount raw = runMarkers (questionRuns none 0 raw.toList) := by
  have hempty : ([] : List Char).head? ≠ some '?' := fun hmark => nomatch hmark
  have hlength := length_segments_append h hempty
  rw [List.append_nil] at hlength
  unfold markerCount split
  rw [List.length_map, hlength]
  rfl

/-! ## What is shown -/

/-- Raw text as it is shown where placeholders are question marks. -/
abbrev shown (ss : List (List Char)) : List Char :=
  woven (fun _ => "?") 0 ss

theorem woven_start (start start' : Nat) (ss : List (List Char)) :
    woven (fun _ => "?") start ss = woven (fun _ => "?") start' ss := by
  induction ss generalizing start start' with
  | nil => rfl
  | cons s ss ih =>
    cases ss with
    | nil => rfl
    | cons t ss =>
      exact congrArg (fun later => s ++ ("?".toList ++ later)) (ih (start + 1) (start' + 1))

theorem shown_marker {ss : List (List Char)} (h : ss ≠ []) :
    shown ([] :: ss) = '?' :: shown ss := by
  unfold shown
  rw [woven_marker h, woven_start (0 + 1) 0]
  rfl

/-- **A run is shown with half its length, rounded up.** -/
theorem questionRuns_shown (quote : Option Char) (run : Nat) (cs : List Char) :
    questionRuns quote run (shown (segments quote cs))
      = (questionRuns quote (2 * run) cs).map fun r => (r + 1) / 2 := by
  have hhalf : ∀ run, (2 * run + 1) / 2 = run := fun run => by omega
  fun_induction segments quote cs generalizing run with
  | case1 quote =>
    show [run] = [(2 * run + 1) / 2]
    rw [hhalf]
  | case2 quote c hmark cs ih =>
    obtain ⟨rfl, rfl⟩ := marks_iff.1 hmark
    rw [shown, woven_prepend (segments_ne_nil none cs), questionRuns_mark, questionRuns_mark,
      questionRuns_mark]
    exact ih (run + 1)
  | case3 quote c hmark cs hsingle ih =>
    obtain ⟨rfl, rfl⟩ := marks_iff.1 hmark
    have hhead := head?_ne_of_single hsingle
    obtain ⟨runs, hruns⟩ := questionRuns_of_head none hhead
    rw [shown_marker (segments_ne_nil none cs), questionRuns_mark, questionRuns_mark, ih, hruns,
      hruns, List.map_cons, List.map_cons]
    congr 1
    omega
  | case4 quote c cs hkept ih =>
    rw [shown, woven_prepend (segments_ne_nil _ cs), questionRuns_other hkept,
      questionRuns_other hkept, List.map_cons, hhalf]
    exact congrArg _ (ih 0)

/-- What raw text opens and closes is opened and closed where it is shown. -/
theorem foldl_quoteAfter_shown (quote : Option Char) (cs : List Char) :
    (shown (segments quote cs)).foldl quoteAfter quote = cs.foldl quoteAfter quote := by
  fun_induction segments quote cs with
  | case1 => rfl
  | case2 quote c hmark cs ih =>
    obtain ⟨rfl, rfl⟩ := marks_iff.1 hmark
    rw [shown, woven_prepend (segments_ne_nil none cs)]
    exact ih
  | case3 quote c hmark cs hsingle ih =>
    obtain ⟨rfl, rfl⟩ := marks_iff.1 hmark
    rw [shown_marker (segments_ne_nil none cs)]
    exact ih
  | case4 quote c cs hkept ih =>
    rw [shown, woven_prepend (segments_ne_nil _ cs)]
    exact ih

/-! ## What changes -/

/-- How many markers more there are in a run once it is shown. -/
def runDrift (run : Nat) : Int :=
  if run % 4 = 2 then 1 else if run % 4 = 3 then -1 else 0

/-- How many markers more there are in raw text once it is shown. -/
def drift (raw : String) : Int :=
  ((questionRuns none 0 raw.toList).map runDrift).sum

theorem runMarkers_half (runs : List Nat) :
    (runMarkers (runs.map fun r => (r + 1) / 2) : Int)
      = runMarkers runs + (runs.map runDrift).sum := by
  induction runs with
  | nil => rfl
  | cons run runs ih =>
    have hrun : (((run + 1) / 2 % 2 : Nat) : Int) = (run % 2 : Nat) + runDrift run := by
      unfold runDrift
      split_ifs <;> omega
    rw [List.map_cons, runMarkers_cons, runMarkers_cons, List.map_cons, List.sum_cons]
    push_cast at ih hrun ⊢
    omega

/-- **Where markers change.** Shown raw text has as many markers as the raw text had, and its
drift. -/
theorem length_segments_shown {raw : String} (h : IsClosed raw.toList)
    (hrest : rest.head? ≠ some '?') :
    ((segments none (shown (segments none raw.toList) ++ rest)).length : Int)
      = markerCount raw + drift raw + (segments none rest).length := by
  have hclosed : (shown (segments none raw.toList)).foldl quoteAfter none = none :=
    (foldl_quoteAfter_shown none raw.toList).trans h
  rw [length_segments_append hclosed hrest, questionRuns_shown, markerCount_eq h]
  push_cast
  rw [runMarkers_half]
  rfl

/-- Single question marks keep their number. -/
theorem drift_of_singles {raw : String} (h : ∀ r ∈ questionRuns none 0 raw.toList, r ≤ 1) :
    drift raw = 0 := by
  unfold drift
  refine List.sum_eq_zero fun x hx => ?_
  obtain ⟨r, hr, rfl⟩ := List.mem_map.1 hx
  have hsmall := h r hr
  unfold runDrift
  rw [if_neg (by omega), if_neg (by omega)]

/-! ## Text without markers -/

/-- Text that leaves the markers after it as they are, and has none itself. -/
def IsSilent (s : String) : Prop :=
  ∀ rest, (segments none (s.toList ++ rest)).length = (segments none rest).length

/-- Text without quotes and question marks. -/
def isInert (s : String) : Bool :=
  s.toList.all fun c => !(isQuote c || c == '?')

theorem IsSilent.append {s t : String} (hs : IsSilent s) (ht : IsSilent t) : IsSilent (s ++ t) := by
  intro rest
  rw [String.toList_append, List.append_assoc, hs, ht]

theorem isSilent_of_inert {s : String} (h : isInert s = true) : IsSilent s := by
  intro rest
  have hchars : ∀ cs : List Char, (cs.all fun c => !(isQuote c || c == '?')) = true →
      (segments none (cs ++ rest)).length = (segments none rest).length := by
    intro cs
    induction cs with
    | nil => exact fun _ => rfl
    | cons c cs ih =>
      intro h
      rw [List.all_cons, Bool.and_eq_true, Bool.not_eq_true', Bool.or_eq_false_iff] at h
      obtain ⟨⟨hquote, hmark⟩, h⟩ := h
      rw [List.cons_append, length_segments_other (by simpa using hmark), quoteAfter_plain hquote,
        ih h]
  exact hchars s.toList h

/-- Whatever stands in a literal is inside its quotes. -/
theorem isSilent_sqlLiteral (s : String) : IsSilent (Text.sqlLiteral s) := by
  intro rest
  have hquoted : ∀ c cs, (segments (some '\'') (c :: cs)).length
      = (segments (quoteAfter (some '\'') c) cs).length :=
    fun c cs => length_segments_other (by simp) cs
  have hopen : ∀ cs, (segments none ('\'' :: cs)).length = (segments (some '\'') cs).length :=
    fun cs => length_segments_other (by decide) cs
  have hbody : ∀ cs : List Char,
      (segments (some '\'') (Text.doubleQuotes cs ++ '\'' :: rest)).length
        = (segments none rest).length := by
    intro cs
    induction cs with
    | nil => exact hquoted '\'' rest
    | cons c cs ih =>
      unfold Text.doubleQuotes
      split
      next =>
        rw [List.cons_append, List.cons_append, hquoted]
        exact (hopen _).trans ih
      next hc =>
        rw [List.cons_append, hquoted, quoteAfter_inside (by simpa using hc), ih]
  have hchars : (Text.sqlLiteral s).toList ++ rest
      = '\'' :: (Text.doubleQuotes s.toList ++ '\'' :: rest) := by
    simp [Text.sqlLiteral]
  rw [hchars, hopen, hbody]

theorem isSilent_intercalate {separator : String} (hseparator : IsSilent separator)
    {ss : List String} (h : ∀ s ∈ ss, IsSilent s) : IsSilent (separator.intercalate ss) := by
  intro rest
  rw [String.toList_intercalate]
  induction ss with
  | nil => rfl
  | cons s ss ih =>
    obtain ⟨hs, hss⟩ := List.forall_mem_cons.1 h
    cases ss with
    | nil =>
      rw [List.map_singleton, List.intercalate_singleton]
      exact hs rest
    | cons t ss =>
      rw [List.map_cons, List.map_cons, List.intercalate_cons_cons, List.append_assoc,
        List.append_assoc, hs, hseparator]
      exact ih hss

end SqlQuery.RawText
