import Mathlib.Data.List.Chain
import Mathlib.Data.List.DropRight
import SqlQuery.Proofs.PathLiterals

/-!
# Paths that are written from the root

`rooted` writes the segments of a path as `$.a.b[0]`. Reading that path again takes five passes: the
blanks at both ends go, the dollar sign goes, arrows become dots, the text is split at dots and
brackets, and the pieces lose their blanks and those without characters go altogether. None of the
passes finds anything to do but the split, which takes the segments apart where `rooted` put them
together.

What each pass needs is that the segments are plain (`IsSegment`): no blanks at the ends, no dots or
brackets, and no arrows. The first two are what splitting and trimming give. The last is so because
the arrows were replaced before the text was split, and neither a split nor a trim brings the two
halves of an arrow together.
-/

namespace SqlQuery.Text

variable {p : Char → Bool} {cs ds : List Char}

/-! ## Trimming -/

/-- A character of class `p` neither begins nor ends a text. -/
structure TrimmedOf (p : Char → Bool) (cs : List Char) : Prop where
  first : ∀ c ∈ cs.head?, p c = false
  last : ∀ c ∈ cs.getLast?, p c = false

theorem dropWhile_eq_self (h : ∀ c ∈ cs.head?, p c = false) : cs.dropWhile p = cs := by
  cases cs with
  | nil => rfl
  | cons c cs => simp [h c rfl]

theorem head?_dropWhile (cs : List Char) : ∀ c ∈ (cs.dropWhile p).head?, p c = false := by
  intro c hc
  have hnot := List.head?_dropWhile_not p cs
  rw [Option.mem_def] at hc
  rw [hc] at hnot
  simpa using hnot

theorem prefix_dropEnd (cs : List Char) : dropEnd p cs <+: cs :=
  List.rdropWhile_prefix (l := cs) p

theorem infix_trimChars (cs : List Char) : trimChars p cs <:+: cs :=
  (prefix_dropEnd _).isInfix.trans (List.dropWhile_suffix p).isInfix

theorem trimChars_trimmed (cs : List Char) : TrimmedOf p (trimChars p cs) := by
  constructor
  · intro c hc
    obtain ⟨rest, hrest⟩ := prefix_dropEnd (p := p) (cs.dropWhile p)
    apply head?_dropWhile cs c
    rw [Option.mem_def] at hc ⊢
    rw [← hrest, List.head?_append]
    unfold trimChars at hc
    simp [hc]
  · intro c hc
    unfold trimChars dropEnd at hc
    rw [List.getLast?_reverse] at hc
    exact head?_dropWhile _ c hc

/-- A text that is trimmed already stays as it is. -/
theorem trimChars_eq_self (h : TrimmedOf p cs) : trimChars p cs = cs := by
  have hlast : ∀ c ∈ cs.reverse.head?, p c = false := by
    intro c hc
    rw [List.head?_reverse] at hc
    exact h.last c hc
  unfold trimChars dropEnd
  rw [dropWhile_eq_self h.first, dropWhile_eq_self hlast, List.reverse_reverse]

/-! ## Splitting -/

/-- The first piece is what the text begins with, and the others are somewhere in it. -/
theorem infix_of_splitChars {w : List Char} {ws : List (List Char)}
    (h : splitChars p cs = w :: ws) : w <+: cs ∧ ∀ v ∈ ws, v <:+: cs := by
  induction cs generalizing w ws with
  | nil =>
    simp only [splitChars, List.cons.injEq] at h
    simp [← h.1, ← h.2]
  | cons c cs ih =>
    cases hsplit : splitChars p cs with
    | nil => exact absurd hsplit (splitChars_ne_nil p cs)
    | cons first others =>
      obtain ⟨hfirst, hothers⟩ := ih hsplit
      have htail : cs <:+: c :: cs := (List.suffix_cons c cs).isInfix
      rw [splitChars, hsplit] at h
      by_cases hc : p c = true
      · simp only [hc, if_true, List.cons.injEq] at h
        rcases h with ⟨rfl, rfl⟩
        refine ⟨List.nil_prefix, ?_⟩
        intro v hv
        rcases List.mem_cons.1 hv with rfl | hv
        · exact hfirst.isInfix.trans htail
        · exact (hothers v hv).trans htail
      · simp only [hc, Bool.false_eq_true, if_false, List.cons.injEq] at h
        rcases h with ⟨rfl, rfl⟩
        refine ⟨List.prefix_cons_iff.2 (.inr ⟨first, rfl, hfirst⟩), ?_⟩
        intro v hv
        exact (hothers v hv).trans htail

theorem infix_of_mem_splitChars {w : List Char} (h : w ∈ splitChars p cs) : w <:+: cs := by
  cases hsplit : splitChars p cs with
  | nil => exact absurd hsplit (splitChars_ne_nil p cs)
  | cons first others =>
    obtain ⟨hfirst, hothers⟩ := infix_of_splitChars hsplit
    rw [hsplit] at h
    rcases List.mem_cons.1 h with rfl | h
    · exact hfirst.isInfix
    · exact hothers w h

/-- A split leaves no separators. -/
theorem eq_false_of_mem_splitChars {w : List Char} {c : Char} (hw : w ∈ splitChars p cs)
    (hc : c ∈ w) : p c = false := by
  induction cs generalizing w with
  | nil =>
    simp only [splitChars, List.mem_singleton] at hw
    simp [hw] at hc
  | cons d cs ih =>
    cases hsplit : splitChars p cs with
    | nil => exact absurd hsplit (splitChars_ne_nil p cs)
    | cons first others =>
      rw [hsplit] at ih
      rw [splitChars, hsplit] at hw
      by_cases hd : p d = true
      · simp only [hd, if_true, List.mem_cons] at hw
        rcases hw with rfl | hw
        · simp at hc
        · exact ih (List.mem_cons.2 hw) hc
      · simp only [hd, Bool.false_eq_true, if_false, List.mem_cons] at hw
        rcases hw with rfl | hw
        · rcases List.mem_cons.1 hc with rfl | hc
          · simpa using hd
          · exact ih List.mem_cons_self hc
        · exact ih (List.mem_cons_of_mem _ hw) hc

/-- A text without separators is one piece. -/
theorem splitChars_eq_singleton (h : ∀ c ∈ cs, p c = false) : splitChars p cs = [cs] := by
  induction cs with
  | nil => rfl
  | cons c cs ih =>
    rw [List.forall_mem_cons] at h
    simp [splitChars, h.1, ih h.2]

/-- A separator ends a piece whatever stands before it. -/
theorem splitChars_append {c : Char} (hc : p c = true) (cs ds : List Char) :
    splitChars p (cs ++ c :: ds) = splitChars p cs ++ splitChars p ds := by
  induction cs with
  | nil => simp [splitChars, hc]
  | cons b cs ih =>
    by_cases hb : p b = true
    · simp [splitChars, hb, ih]
    · cases hsplit : splitChars p cs with
      | nil => exact absurd hsplit (splitChars_ne_nil p cs)
      | cons first others => simp [splitChars, hb, ih, hsplit]

end SqlQuery.Text

namespace SqlQuery.JsonPath

open SqlQuery.Text

variable {cs ds : List Char} {s path : String}

/-! ## Arrows -/

/-- No `>` stands right after a `-`. -/
def ArrowFree (cs : List Char) : Prop :=
  cs.IsChain fun a b => ¬(a = '-' ∧ b = '>')

theorem dotArrows_eq_self (h : ArrowFree cs) : dotArrows cs = cs := by
  fun_induction dotArrows cs with
  | case1 cs ih =>
    unfold ArrowFree at h
    simp at h
  | case2 c cs _ ih => rw [ih (List.IsChain.tail h)]
  | case3 => rfl

/-- A dot in the place of an arrow makes no arrow with the characters next to it. -/
theorem dotArrows_arrowFree (cs : List Char) : ArrowFree (dotArrows cs) := by
  fun_induction dotArrows cs with
  | case1 cs ih =>
    apply List.IsChain.cons ih
    simp
  | case2 c cs harrow ih =>
    apply List.IsChain.cons ih
    rintro b hb ⟨rfl, rfl⟩
    -- what follows the `-` begins with `>` only if it did so before its arrows were replaced
    cases cs with
    | nil => simp [dotArrows] at hb
    | cons d ds =>
      have hd : d ≠ '>' := fun e => harrow ds rfl (by rw [e])
      rw [dotArrows.eq_def] at hb
      split at hb <;> simp_all
  | case3 => exact List.IsChain.nil

theorem ArrowFree.within (h : ArrowFree ds) (hin : cs <:+: ds) : ArrowFree cs :=
  List.IsChain.infix h hin

/-- A separator is no half of an arrow. -/
theorem ArrowFree.append_separator {c : Char} (hc : isSeparator c = true) (hcs : ArrowFree cs)
    (hds : ArrowFree ds) : ArrowFree (cs ++ c :: ds) := by
  have hseparator : c ≠ '-' ∧ c ≠ '>' := by
    constructor <;> rintro rfl <;> simp [isSeparator] at hc
  apply List.IsChain.append hcs
  · apply List.IsChain.cons hds
    rintro b - ⟨h, -⟩
    exact hseparator.1 h
  · rintro a - b hb ⟨-, h⟩
    rw [List.head?_cons, Option.mem_some_iff] at hb
    rw [← hb] at h
    exact hseparator.2 h

/-! ## Segments -/

/-- What the segments of a path have in common. -/
structure IsSegment (s : String) : Prop where
  ne_nil : s.toList ≠ []
  trimmed : TrimmedOf isBlank s.toList
  noSeparator : ∀ c ∈ s.toList, c ≠ '.' ∧ c ≠ '[' ∧ c ≠ ']'
  arrowFree : ArrowFree s.toList

theorem isSeparator_eq_false_iff {c : Char} :
    isSeparator c = false ↔ c ≠ '.' ∧ c ≠ '[' ∧ c ≠ ']' := by
  simp [isSeparator, and_assoc]

theorem isSegment_of_mem (h : s ∈ segments path) : IsSegment s := by
  obtain ⟨cs, hcs, rfl⟩ := List.mem_map.1 h
  obtain ⟨hcs, hne⟩ := List.mem_filter.1 hcs
  obtain ⟨piece, hpiece, rfl⟩ := List.mem_map.1 hcs
  constructor <;> rw [String.toList_ofList]
  · simpa using hne
  · exact trimChars_trimmed piece
  · intro c hc
    apply isSeparator_eq_false_iff.1
    exact eq_false_of_mem_splitChars hpiece (mem_of_mem_trimChars hc)
  · apply (dotArrows_arrowFree _).within
    exact (infix_trimChars piece).trans (infix_of_mem_splitChars hpiece)

/-- The pieces between separators that have characters other than blanks. -/
def pieces (cs : List Char) : List (List Char) :=
  ((splitChars isSeparator cs).map (trimChars isBlank)).filter (!·.isEmpty)

theorem segmentChars_eq (cs : List Char) :
    segmentChars cs = pieces (dotArrows (dropRoot (trimChars isBlank cs))) :=
  rfl

@[simp] theorem pieces_nil : pieces [] = [] := rfl

theorem pieces_append_separator {c : Char} (hc : isSeparator c = true) (cs ds : List Char) :
    pieces (cs ++ c :: ds) = pieces cs ++ pieces ds := by
  simp [pieces, splitChars_append hc]

theorem pieces_separator {c : Char} (hc : isSeparator c = true) (cs : List Char) :
    pieces (c :: cs) = pieces cs :=
  pieces_append_separator hc [] cs

theorem IsSegment.pieces_eq (h : IsSegment s) : pieces s.toList = [s.toList] := by
  have hplain : ∀ c ∈ s.toList, isSeparator c = false :=
    fun c hc => isSeparator_eq_false_iff.2 (h.noSeparator c hc)
  have hne := h.ne_nil
  simp [pieces, splitChars_eq_singleton hplain, trimChars_eq_self h.trimmed, hne]

/-! ## Steps from the root -/

/-- A separator, the segment, and a closing bracket if the separator is an opening one. -/
theorem step_toList (s : String) :
    (step s).toList = '.' :: s.toList ∨ (step s).toList = '[' :: (s.toList ++ [']']) := by
  by_cases h : isNumeral s = true <;> simp [step, h]

/-- The characters of the steps to `ss`. -/
def stepChars (ss : List String) : List Char :=
  ss.flatMap fun s => (step s).toList

theorem stepChars_cons (s : String) (ss : List String) :
    stepChars (s :: ss) = (step s).toList ++ stepChars ss :=
  List.flatMap_cons

/-- Steps begin with a separator. -/
theorem stepChars_eq (ss : List String) :
    stepChars ss = [] ∨ ∃ c rest, isSeparator c = true ∧ stepChars ss = c :: rest := by
  cases ss with
  | nil => exact .inl rfl
  | cons s ss =>
    right
    rcases step_toList s with h | h <;> simp [stepChars, h, isSeparator]

theorem pieces_append_steps (cs : List Char) (ss : List String) :
    pieces (cs ++ stepChars ss) = pieces cs ++ pieces (stepChars ss) := by
  rcases stepChars_eq ss with h | ⟨c, rest, hc, h⟩
  · simp [h]
  · rw [h, pieces_append_separator hc, pieces_separator hc]

theorem ArrowFree.append_steps {ss : List String} (hcs : ArrowFree cs)
    (hss : ArrowFree (stepChars ss)) : ArrowFree (cs ++ stepChars ss) := by
  rcases stepChars_eq ss with h | ⟨c, rest, hc, h⟩
  · simpa [h] using hcs
  · rw [h] at hss ⊢
    exact hcs.append_separator hc (List.IsChain.tail hss)

variable {ss : List String}

/-- Splitting undoes the steps. -/
theorem pieces_stepChars (h : ∀ s ∈ ss, IsSegment s) :
    pieces (stepChars ss) = ss.map String.toList := by
  induction ss with
  | nil => simp [stepChars]
  | cons s ss ih =>
    rw [List.forall_mem_cons] at h
    have hdot : isSeparator '.' = true := rfl
    have hopen : isSeparator '[' = true := rfl
    have hclose : isSeparator ']' = true := rfl
    rw [stepChars_cons, pieces_append_steps, ih h.2]
    rcases step_toList s with hs | hs
    · rw [hs, pieces_separator hdot, h.1.pieces_eq]
      simp
    · rw [hs, pieces_separator hopen, pieces_append_separator hclose, h.1.pieces_eq]
      simp

/-- The steps make no arrows. -/
theorem stepChars_arrowFree (h : ∀ s ∈ ss, IsSegment s) : ArrowFree (stepChars ss) := by
  induction ss with
  | nil => exact List.IsChain.nil
  | cons s ss ih =>
    rw [List.forall_mem_cons] at h
    have hnil : ArrowFree [] := List.IsChain.nil
    rw [stepChars_cons]
    apply ArrowFree.append_steps _ (ih h.2)
    rcases step_toList s with hs | hs <;> rw [hs]
    · exact hnil.append_separator rfl h.1.arrowFree
    · exact hnil.append_separator rfl (h.1.arrowFree.append_separator rfl hnil)

/-- The last character of the steps is a bracket or the last one of a segment. -/
theorem getLast?_stepChars (h : ∀ s ∈ ss, IsSegment s) :
    ∀ c ∈ (stepChars ss).getLast?, isBlank c = false := by
  induction ss with
  | nil => simp [stepChars]
  | cons s ss ih =>
    rw [List.forall_mem_cons] at h
    intro c hc
    rw [stepChars_cons, List.getLast?_append, Option.mem_def, Option.or_eq_some_iff] at hc
    rcases hc with hc | ⟨-, hc⟩
    · exact ih h.2 c hc
    · rcases step_toList s with hs | hs <;> rw [hs] at hc
      · have hne := h.1.ne_nil
        rw [List.getLast?_cons_of_ne_nil hne] at hc
        exact h.1.trimmed.last c hc
      · rw [List.getLast?_cons, List.getLast?_concat] at hc
        simp at hc
        rw [← hc]
        rfl

theorem rooted_toList (path : String) :
    (rooted path).toList = '$' :: stepChars (segments path) := by
  simp [rooted, stepChars, String.toList_join, List.flatMap_map]

theorem rooted_trimmed (path : String) : TrimmedOf isBlank (rooted path).toList := by
  constructor
  · intro c hc
    rw [rooted_toList, List.head?_cons, Option.mem_some_iff] at hc
    rw [← hc]
    rfl
  · intro c hc
    rw [rooted_toList, ← List.singleton_append, List.getLast?_append, Option.mem_def,
      Option.or_eq_some_iff] at hc
    rcases hc with hc | ⟨-, hc⟩
    · exact getLast?_stepChars (fun s => isSegment_of_mem) c hc
    · simp at hc
      rw [← hc]
      rfl

/-- The path from the root has the segments it was written from. -/
theorem segments_rooted (path : String) : segments (rooted path) = segments path := by
  have hsegment : ∀ s ∈ segments path, IsSegment s := fun s => isSegment_of_mem
  have hchars : segmentChars (rooted path).toList = (segments path).map String.toList := by
    rw [segmentChars_eq, trimChars_eq_self (rooted_trimmed path), rooted_toList]
    simp only [dropRoot]
    rw [dotArrows_eq_self (stepChars_arrowFree hsegment), pieces_stepChars hsegment]
  rw [segments, hchars]
  simp

/-- **A path from the root is read back as it was written.** Its segments are those of the path it
was made from, so writing it from the root again changes nothing; and every segment of a path is
free of dots, brackets and arrows, and neither empty nor blank at an end. -/
theorem segments_rooted_eq (path : String) :
    segments (rooted path) = segments path ∧ rooted (rooted path) = rooted path
      ∧ ∀ s ∈ segments path, IsSegment s := by
  refine ⟨segments_rooted path, ?_, fun s => isSegment_of_mem⟩
  show "$" ++ String.join ((segments (rooted path)).map step) = rooted path
  rw [segments_rooted path]
  rfl

example : rooted " $ a-[>b] . ->[07]" = "$.a-.>b[07]" := by decide +kernel

end SqlQuery.JsonPath
