import Mathlib.Logic.Function.Basic
import SqlQuery.Proofs.QuestionMarks
import SqlQuery.Steps.Numbering

/-!
# The segments of raw text

Raw text is split at its markers, and splitting loses nothing: if each question mark that stands
outside quotes in a segment is written twice (`doubledAfter`) and a marker is put between any two
segments, the raw text is there again (`joined_segments`). What is outside quotes is said without
the reader: no quote is open after characters that are no quotes and literals, each from a quote to
the next one of its kind (`EndsOutside`).

Not all segments are those of a raw text. A marker stands outside quotes, and a question mark does
not follow it, because two in a row are one that is escaped (`IsCut`). Each raw text has one cut,
and each cut is that of one raw text (`segments_eq_iff`).

Where placeholders are question marks, raw text is shown as it was exactly if no two question marks
in a row stand outside quotes (`shown_eq_iff`).
-/

namespace SqlQuery

namespace RawText

variable {quote : Option Char} {c q : Char} {before body cs s : List Char} {ss : List (List Char)}

/-! ## Outside quotes -/

/-- Text after which no quote is open: characters that are no quotes, and literals, each from a
quote to the next one of its kind. -/
inductive EndsOutside : List Char → Prop
  | nil : EndsOutside []
  | plain {c : Char} {cs : List Char} (hc : isQuote c = false) (hcs : EndsOutside cs) :
    EndsOutside (c :: cs)
  | literal {q : Char} {body cs : List Char} (hq : isQuote q = true) (hbody : q ∉ body)
    (hcs : EndsOutside cs) : EndsOutside (q :: (body ++ q :: cs))

theorem foldl_quoteAfter_body (h : q ∉ body) : body.foldl quoteAfter (some q) = some q := by
  induction body with
  | nil => rfl
  | cons c body ih =>
    obtain ⟨hc, hbody⟩ := not_or.1 (mt List.mem_cons.2 h)
    rw [List.foldl_cons, quoteAfter_inside (Ne.symm hc), ih hbody]

theorem EndsOutside.isClosed (h : EndsOutside cs) : IsClosed cs := by
  unfold IsClosed
  induction h with
  | nil => rfl
  | plain hc _ ih => rw [List.foldl_cons, quoteAfter_plain hc, ih]
  | literal hq hbody _ ih =>
    rw [List.foldl_cons, quoteAfter_opening hq, List.foldl_append, foldl_quoteAfter_body hbody,
      List.foldl_cons, quoteAfter_closing, ih]

/-- What is read with a quote open is the rest of a literal first. The induction needs both states,
because a quote leads from each to the other. -/
theorem endsOutside_of_foldl (cs : List Char) :
    (cs.foldl quoteAfter none = none → EndsOutside cs)
      ∧ ∀ q, cs.foldl quoteAfter (some q) = none →
        ∃ body rest, cs = body ++ q :: rest ∧ q ∉ body ∧ EndsOutside rest := by
  induction cs with
  | nil => exact ⟨fun _ => .nil, fun q h => nomatch h⟩
  | cons c cs ih =>
    obtain ⟨houtside, hinside⟩ := ih
    constructor
    · intro h
      rw [List.foldl_cons] at h
      cases hc : isQuote c with
      | false =>
        rw [quoteAfter_plain hc] at h
        exact .plain hc (houtside h)
      | true =>
        rw [quoteAfter_opening hc] at h
        obtain ⟨body, rest, rfl, hbody, hrest⟩ := hinside c h
        exact .literal hc hbody hrest
    · intro q h
      rw [List.foldl_cons] at h
      rcases eq_or_ne c q with rfl | hc
      · rw [quoteAfter_closing] at h
        exact ⟨[], cs, rfl, List.not_mem_nil, houtside h⟩
      · rw [quoteAfter_inside hc] at h
        obtain ⟨body, rest, rfl, hbody, hrest⟩ := hinside q h
        refine ⟨c :: body, rest, rfl, ?_, hrest⟩
        simp [hbody, Ne.symm hc]

theorem isClosed_iff_endsOutside : IsClosed cs ↔ EndsOutside cs :=
  ⟨(endsOutside_of_foldl cs).1, EndsOutside.isClosed⟩

instance (cs : List Char) : Decidable (EndsOutside cs) :=
  decidable_of_iff (cs.foldl quoteAfter none = none) isClosed_iff_endsOutside

/-- The quote that is open after a text. -/
abbrev openQuote (cs : List Char) : Option Char :=
  cs.foldl quoteAfter none

theorem openQuote_concat (cs : List Char) (c : Char) :
    openQuote (cs ++ [c]) = quoteAfter (openQuote cs) c := by
  simp [openQuote]

/-- A question mark opens no quote. -/
theorem openQuote_mark (h : openQuote cs = none) : openQuote (cs ++ ['?']) = none := by
  rw [openQuote_concat, h]
  rfl

/-- Where the reader sees the first question mark of a marker or a pair. -/
theorem marks_after_iff :
    ((openQuote before).isNone && c == '?') = true ↔ c = '?' ∧ EndsOutside before := by
  rw [marks_iff, and_comm]
  exact and_congr_right fun _ => isClosed_iff_endsOutside

/-! ## Segments put together -/

/-- Text with each question mark outside quotes twice, where `before` stands before it. -/
def doubledAfter (before : List Char) : List Char → List Char
  | [] => []
  | c :: cs =>
    if c = '?' ∧ EndsOutside before then '?' :: '?' :: doubledAfter (before ++ [c]) cs
    else c :: doubledAfter (before ++ [c]) cs

/-- Text with each question mark outside quotes twice. -/
def doubled (s : String) : String :=
  String.ofList (doubledAfter [] s.toList)

/-- Segments with their question marks doubled and a marker between any two. -/
def joined (ss : List (List Char)) : List Char :=
  ['?'].intercalate (ss.map (doubledAfter []))

theorem doubledAfter_mark (h : EndsOutside before) (cs : List Char) :
    doubledAfter before ('?' :: cs) = '?' :: '?' :: doubledAfter (before ++ ['?']) cs :=
  if_pos ⟨rfl, h⟩

theorem doubledAfter_other (h : ¬(c = '?' ∧ EndsOutside before)) (cs : List Char) :
    doubledAfter before (c :: cs) = c :: doubledAfter (before ++ [c]) cs :=
  if_neg h

theorem doubledAfter_append (before s cs : List Char) :
    doubledAfter before (s ++ cs) = doubledAfter before s ++ doubledAfter (before ++ s) cs := by
  induction s generalizing before with
  | nil => simp [doubledAfter]
  | cons c s ih =>
    rw [List.cons_append, doubledAfter, doubledAfter, ih, List.append_assoc, List.singleton_append]
    split <;> rfl

theorem joined_singleton (s : List Char) : joined [s] = doubledAfter [] s := by
  simp [joined]

theorem joined_cons (h : ss ≠ []) (s : List Char) :
    joined (s :: ss) = doubledAfter [] s ++ '?' :: joined ss := by
  cases ss with
  | nil => exact absurd rfl h
  | cons t ss => simp [joined, List.intercalate_cons_cons]

/-! ## More text in front of the first segment -/

/-- Segments with a text in front of the first. -/
def extend (before : List Char) : List (List Char) → List (List Char)
  | [] => []
  | s :: ss => (before ++ s) :: ss

theorem extend_nil (ss : List (List Char)) : extend [] ss = ss := by
  cases ss <;> rfl

theorem extend_prepend (h : ss ≠ []) (before : List Char) (c : Char) :
    extend before (prepend c ss) = extend (before ++ [c]) ss := by
  cases ss with
  | nil => exact absurd rfl h
  | cons s ss => simp [extend, prepend]

theorem prepend_extend (h : ss ≠ []) (c : Char) (s : List Char) :
    prepend c (extend s ss) = extend (c :: s) ss := by
  cases ss with
  | nil => exact absurd rfl h
  | cons t ss => rfl

/-! ## Splitting and joining -/

/-- Segments are put together where `before` is read already of the first of them. -/
theorem joined_extend_segments (before cs : List Char) (h : openQuote before = quote) :
    joined (extend before (segments quote cs)) = doubledAfter [] before ++ cs := by
  fun_induction segments quote cs generalizing before with
  | case1 quote => simp [extend, joined_singleton]
  | case2 quote c hmark cs ih =>
    obtain ⟨rfl, rfl⟩ := marks_iff.1 hmark
    have hpair : doubledAfter ([] ++ before) ['?'] = ['?', '?'] :=
      doubledAfter_mark (isClosed_iff_endsOutside.1 h) []
    rw [extend_prepend (segments_ne_nil none cs), ih _ (openQuote_mark h),
      doubledAfter_append, hpair, List.append_assoc]
    rfl
  | case3 quote c hmark cs hsingle ih =>
    obtain ⟨rfl, rfl⟩ := marks_iff.1 hmark
    have hrest : joined (segments none cs) = cs := by
      rw [← extend_nil (segments none cs), ih [] rfl]
      rfl
    rw [extend, joined_cons (segments_ne_nil none cs), hrest, List.append_nil]
  | case4 quote c cs hkept ih =>
    have hnext : openQuote (before ++ [c]) = quoteAfter quote c := by
      rw [openQuote_concat, h]
    have hother : doubledAfter ([] ++ before) [c] = [c] := by
      refine doubledAfter_other (fun hmark => hkept ?_) []
      rw [← h]
      exact marks_after_iff.2 hmark
    rw [extend_prepend (segments_ne_nil _ cs), ih _ hnext, doubledAfter_append, hother,
      List.append_assoc]
    rfl

/-- **Nothing is lost:** its segments make up raw text again. -/
theorem joined_segments (cs : List Char) : joined (segments none cs) = cs := by
  have hjoined := joined_extend_segments [] cs rfl
  rwa [extend_nil] at hjoined

/-- Segments that a raw text can have. A marker stands outside quotes and is not followed by a
question mark. -/
inductive IsCut : List (List Char) → Prop
  | last (s : List Char) : IsCut [s]
  | marker {s : List Char} {ss : List (List Char)} (hs : EndsOutside s) (hss : IsCut ss)
    (hnext : (joined ss).head? ≠ some '?') : IsCut (s :: ss)

theorem IsCut.ne_nil (h : IsCut ss) : ss ≠ [] := by
  cases h <;> exact List.cons_ne_nil _ _

theorem IsCut.closed (h : IsCut ss) : ∀ s ∈ ss.dropLast, EndsOutside s := by
  induction h with
  | last s => exact fun s hs => nomatch hs
  | marker hs hss _ ih =>
    rw [List.dropLast_cons_of_ne_nil hss.ne_nil]
    exact List.forall_mem_cons.2 ⟨hs, ih⟩

theorem isCut_extend_segments (before cs : List Char) (h : openQuote before = quote) :
    IsCut (extend before (segments quote cs)) := by
  fun_induction segments quote cs generalizing before with
  | case1 quote => exact .last _
  | case2 quote c hmark cs ih =>
    obtain ⟨rfl, rfl⟩ := marks_iff.1 hmark
    rw [extend_prepend (segments_ne_nil none cs)]
    exact ih _ (openQuote_mark h)
  | case3 quote c hmark cs hsingle ih =>
    obtain ⟨rfl, rfl⟩ := marks_iff.1 hmark
    have hcut := ih [] rfl
    rw [extend_nil] at hcut
    rw [extend, List.append_nil]
    refine .marker (isClosed_iff_endsOutside.1 h) hcut ?_
    rw [joined_segments]
    exact head?_ne_of_single hsingle
  | case4 quote c cs hkept ih =>
    rw [extend_prepend (segments_ne_nil _ cs)]
    apply ih
    rw [openQuote_concat, h]

theorem isCut_segments (cs : List Char) : IsCut (segments none cs) := by
  have hcut := isCut_extend_segments [] cs rfl
  rwa [extend_nil] at hcut

/-- Doubled text is read back as it was and ends no segment, whatever follows: its question marks
outside quotes are pairs. -/
theorem segments_doubledAfter (before s cs : List Char) :
    segments (openQuote before) (doubledAfter before s ++ cs)
      = extend s (segments (openQuote (before ++ s)) cs) := by
  induction s generalizing before with
  | nil => simp [doubledAfter, extend_nil]
  | cons c s ih =>
    have hstep : openQuote (before ++ c :: s) = openQuote (before ++ [c] ++ s) := by simp
    rw [hstep, ← prepend_extend (segments_ne_nil _ cs), ← ih]
    by_cases hmark : c = '?' ∧ EndsOutside before
    · obtain ⟨rfl, hbefore⟩ := hmark
      have hopen : openQuote before = none := hbefore.isClosed
      rw [doubledAfter_mark hbefore, List.cons_append, List.cons_append, openQuote_mark hopen,
        hopen, segments_pair]
    · rw [doubledAfter_other hmark, List.cons_append, segments_other (mt marks_after_iff.1 hmark),
        openQuote_concat]

theorem IsCut.segments_joined (h : IsCut ss) : segments none (joined ss) = ss := by
  induction h with
  | last s =>
    have hread := segments_doubledAfter [] s []
    rw [List.append_nil] at hread
    rw [joined_singleton]
    exact hread.trans (by simp [segments, extend])
  | @marker s ss hs hss hnext ih =>
    have hopen : openQuote ([] ++ s) = none := hs.isClosed
    have hread := segments_doubledAfter [] s ('?' :: joined ss)
    rw [hopen, segments_single hnext, ih] at hread
    rw [joined_cons hss.ne_nil]
    exact hread.trans (by simp [extend])

/-- **Splitting undoes joining, and nothing else.** -/
theorem segments_eq_iff : segments none cs = ss ↔ IsCut ss ∧ joined ss = cs := by
  constructor
  · rintro rfl
    exact ⟨isCut_segments cs, joined_segments cs⟩
  · rintro ⟨hcut, rfl⟩
    exact hcut.segments_joined

theorem toList_intercalate_doubled (ss : List String) :
    ("?".intercalate (ss.map doubled)).toList = joined (ss.map String.toList) := by
  simp [String.toList_intercalate, joined, doubled, Function.comp_def]

theorem split_eq_iff {raw : String} {ss : List String} :
    split raw = ss ↔ IsCut (ss.map String.toList) ∧ "?".intercalate (ss.map doubled) = raw := by
  have hchars : split raw = ss ↔ segments none raw.toList = ss.map String.toList := by
    unfold split
    constructor
    · rintro rfl
      simp [Function.comp_def]
    · intro h
      rw [h]
      simp [Function.comp_def]
  rw [hchars, segments_eq_iff, ← toList_intercalate_doubled, String.toList_inj]

/-- Of three question marks the first two are the pair. -/
example : split "a ??? b" = ["a ?", " b"] := by cbv

/-! ## Pairs of question marks -/

/-- No two question marks in a row stand outside quotes. -/
def Unpaired (raw : String) : Prop :=
  ∀ before after, raw.toList = before ++ '?' :: '?' :: after → ¬EndsOutside before

/-- The same of text that is read with `quote` open at the start. -/
def UnpairedFrom (quote : Option Char) (cs : List Char) : Prop :=
  ∀ before after, cs = before ++ '?' :: '?' :: after → before.foldl quoteAfter quote ≠ none

theorem unpaired_iff {raw : String} : Unpaired raw ↔ UnpairedFrom none raw.toList :=
  forall₃_congr fun _ _ _ => not_congr isClosed_iff_endsOutside.symm

theorem not_unpairedFrom_pair (cs : List Char) : ¬UnpairedFrom none ('?' :: '?' :: cs) :=
  fun h => h [] cs rfl rfl

theorem unpairedFrom_cons (h : (quote.isNone && c == '?') = true → cs.head? ≠ some '?') :
    UnpairedFrom quote (c :: cs) ↔ UnpairedFrom (quoteAfter quote c) cs := by
  constructor
  · intro hpair before after hcs
    exact hpair (c :: before) after (congrArg (c :: ·) hcs)
  · intro hpair before after hcs
    cases before with
    | nil =>
      cases hcs
      rintro rfl
      exact h rfl rfl
    | cons b before =>
      cases hcs
      exact hpair before after rfl

theorem length_shown_le (quote : Option Char) (cs : List Char) :
    (shown (segments quote cs)).length ≤ cs.length := by
  fun_induction segments quote cs with
  | case1 => exact Nat.le_refl 0
  | case2 quote c hmark cs ih =>
    rw [shown, woven_prepend (segments_ne_nil none cs)]
    exact Nat.succ_le_succ (Nat.le_succ_of_le ih)
  | case3 quote c hmark cs hsingle ih =>
    rw [shown_marker (segments_ne_nil none cs)]
    exact Nat.succ_le_succ ih
  | case4 quote c cs hkept ih =>
    rw [shown, woven_prepend (segments_ne_nil _ cs)]
    exact Nat.succ_le_succ ih

/-- **Raw text is shown as it was** exactly if it has no pair outside quotes: of a pair one question
mark is left, and the text gets shorter. -/
theorem shown_eq_iff (quote : Option Char) (cs : List Char) :
    shown (segments quote cs) = cs ↔ UnpairedFrom quote cs := by
  fun_induction segments quote cs with
  | case1 quote => simp [shown, woven, UnpairedFrom]
  | case2 quote c hmark cs ih =>
    obtain ⟨rfl, rfl⟩ := marks_iff.1 hmark
    refine iff_of_false (fun h => ?_) (not_unpairedFrom_pair cs)
    rw [shown, woven_prepend (segments_ne_nil none cs)] at h
    have hlonger : (shown (segments none cs)).length = cs.length + 1 :=
      congrArg List.length (List.cons.inj h).2
    have hshorter := length_shown_le none cs
    omega
  | case3 quote c hmark cs hsingle ih =>
    obtain ⟨rfl, rfl⟩ := marks_iff.1 hmark
    rw [shown_marker (segments_ne_nil none cs), List.cons_inj_right, ih,
      unpairedFrom_cons fun _ => head?_ne_of_single hsingle]
    rfl
  | case4 quote c cs hkept ih =>
    rw [shown, woven_prepend (segments_ne_nil _ cs), List.cons_inj_right,
      unpairedFrom_cons fun hmark => absurd hmark hkept]
    exact ih

instance (raw : String) : Decidable (Unpaired raw) :=
  decidable_of_iff (shown (segments none raw.toList) = raw.toList)
    ((shown_eq_iff none raw.toList).trans unpaired_iff.symm)

end RawText

/-! ## Bound raw text -/

open Fragment RawText

theorem Fragment.values_weave {ss : List String} {values : List Value}
    (h : ss.length = values.length + 1) : (weave ss values).values = values := by
  induction values generalizing ss with
  | nil =>
    obtain ⟨s, rfl⟩ := List.length_eq_one_iff.1 h
    rfl
  | cons v vs ih =>
    match ss, h with
    | s :: t :: ss, h => exact congrArg (v :: ·) (ih (Nat.succ.inj h))

/-- Raw text with one value for each marker takes the next placeholders and binds its values. -/
theorem Numbering.bind_raw {n : Numbering} {call : Call Term} {raw : String} {values : List Value}
    (hraw : call.dataAt 0 = .text raw) (hvalues : call.valuesAt 1 = .ok values)
    (hcount : values.length = markerCount raw) :
    n.bind "add_raw" call = .ok
      (.text ((weave (split raw) values).render n.dialect.placeholder n.values.length),
        { n with values := n.values ++ values }) := by
  have hfragment : ofSegments (.text raw) (split raw) values = .ok (weave (split raw) values) :=
    if_pos hcount.symm
  have hlength : (split raw).length = values.length + 1 := by
    rw [length_split, hcount]
  have hrun : n.bind "add_raw" call = (call.valuesAt 1).bind fun values =>
      ((Argument.value (call.dataAt 0)).rawSegments).bind fun segments =>
        (ofSegments (call.dataAt 0) segments values).bind fun f =>
          .ok (.text (n.render f).1, (n.render f).2) := rfl
  rw [hrun, hvalues, hraw]
  show (ofSegments (.text raw) (split raw) values).bind _ = _
  rw [hfragment]
  show Except.ok (_, { n with values := n.values ++ (weave (split raw) values).values }) = _
  rw [values_weave hlength]
  rfl

/-- Where placeholders are question marks, raw text is shown as itself exactly if it has no pair of
them outside quotes. -/
theorem RawText.render_split_eq_iff {d : Dialect} {raw : String} {values : List Value}
    (hd : ∀ k, d.placeholder k = "?") (hcount : values.length = markerCount raw) (start : Nat) :
    (weave (split raw) values).render d.placeholder start = raw ↔ Unpaired raw := by
  have hplaceholder : d.placeholder = fun _ => "?" := funext hd
  have hlength : (segments none raw.toList).length = values.length + 1 := by
    rw [hcount, ← length_split, split, List.length_map]
  rw [unpaired_iff, ← shown_eq_iff, ← String.toList_inj, hplaceholder, split,
    toList_render_weave hlength, woven_start start 0]

/-- **Splitting raw text loses nothing.** The segments with their question marks doubled, and a
marker between any two, are the raw text again, so no two texts have the same segments; each segment
before a marker ends outside quotes; and all segments that a raw text can have are read back. With
one value for each marker, what MySQL is shown of raw text is the raw text itself exactly if no two
question marks in a row stand outside quotes. -/
theorem RawText.split_lossless :
    (∀ raw, "?".intercalate ((split raw).map doubled) = raw)
      ∧ Function.Injective split
      ∧ (∀ raw, ∀ s ∈ (split raw).dropLast, EndsOutside s.toList)
      ∧ (∀ ss : List String, IsCut (ss.map String.toList) →
        split ("?".intercalate (ss.map doubled)) = ss)
      ∧ ∀ (n : Numbering) (call : Call Term) (raw : String) (values : List Value),
        n.dialect = .mysql → call.dataAt 0 = .text raw → call.valuesAt 1 = .ok values →
        values.length = markerCount raw →
        ∃ shown, n.bind "add_raw" call
            = .ok (.text shown, { n with values := n.values ++ values })
          ∧ (shown = raw ↔ Unpaired raw) := by
  have hjoined : ∀ raw, "?".intercalate ((split raw).map doubled) = raw := fun raw =>
    (split_eq_iff.1 rfl).2
  have hinverse : Function.LeftInverse (fun ss => "?".intercalate (ss.map doubled)) split :=
    hjoined
  refine ⟨hjoined, hinverse.injective, ?_, ?_, ?_⟩
  · intro raw s hs
    have hcut : IsCut ((split raw).map String.toList) := (split_eq_iff.1 rfl).1
    apply hcut.closed
    rw [← List.map_dropLast]
    exact List.mem_map_of_mem hs
  · intro ss hcut
    exact split_eq_iff.2 ⟨hcut, rfl⟩
  · intro n call raw values hmysql hraw hvalues hcount
    refine ⟨_, n.bind_raw hraw hvalues hcount, ?_⟩
    apply render_split_eq_iff _ hcount
    intro k
    rw [hmysql]
    rfl

/-- A pair in quotes is text. -/
theorem RawText.quotedPair_kept :
    let raw := "a = '??' AND b = ?"
    let n : Numbering := ⟨.mysql, [.int 7]⟩
    let call : Call Term := { positional := [.value (.text raw), .value (.list [.int 5])] }
    (split raw).dropLast = ["a = '??' AND b = "] ∧ EndsOutside "a = '??' AND b = ".toList
      ∧ IsCut (["a ? ", " b"].map String.toList)
      ∧ split ("?".intercalate (["a ? ", " b"].map doubled)) = ["a ? ", " b"]
      ∧ call.dataAt 0 = .text raw ∧ call.valuesAt 1 = .ok [.int 5] ∧ markerCount raw = 1
      ∧ Unpaired raw ∧ n.bind "add_raw" call = .ok (.text raw, ⟨.mysql, [.int 7, .int 5]⟩) := by
  intro raw n call
  obtain ⟨-, -, hclosed, hcut, hbind⟩ := split_lossless
  have hdropped : (split raw).dropLast = ["a = '??' AND b = "] := by decide +kernel
  have hsegments : IsCut (["a ? ", " b"].map String.toList) :=
    .marker (by decide +kernel) (.last _) (by decide +kernel)
  have hraw : call.dataAt 0 = .text raw := rfl
  have hvalues : call.valuesAt 1 = .ok [.int 5] := rfl
  have hcount : markerCount raw = 1 := by decide +kernel
  have hunpaired : Unpaired raw := by decide +kernel
  obtain ⟨shown, hrun, hsame⟩ := hbind n call raw [.int 5] rfl hraw hvalues hcount.symm
  rw [hsame.2 hunpaired] at hrun
  refine ⟨hdropped, hclosed raw _ ?_, hsegments, hcut _ hsegments, hraw, hvalues, hcount,
    hunpaired, hrun⟩
  rw [hdropped]
  exact List.mem_singleton_self _

end SqlQuery
