import Mathlib.Data.List.Induction
import SqlQuery.Proofs.Precedence
import SqlQuery.RawText

/-!
# The connectives of SQL text

SQL text is read character by character. Quotes hide what they enclose, up to the closing quote, and
so do parentheses (`Nest.step`). A word that nothing hides is a connective if it is AND or OR in any
case, and the connectives cut a text into the texts of its conditions (`lexemes`).

Text that opens nothing it does not close is `Balanced`. Such a text keeps its connectives where
more text follows after a blank (`lexemes_append_blank`), and has none left in parentheses
(`connectives_enclosed`).

The connectives alone decide how the truth of a whole depends on its last condition: what comes
before it can make the whole true without it exactly if there is an OR (`last_bounds_iff`).
-/

namespace SqlQuery

open RawText

/-! ## Quotes and parentheses -/

/-- The number of open parentheses after a character, unless it closes one that is not open. -/
def depthAfter (c : Char) (depth : Nat) : Option Nat :=
  if c = '(' then some (depth + 1)
  else if c = ')' then if depth = 0 then none else some (depth - 1)
  else some depth

theorem depthAfter_succ {c : Char} {depth depth' : Nat} (h : depthAfter c depth = some depth') :
    depthAfter c (depth + 1) = some (depth' + 1) := by
  unfold depthAfter at h ⊢
  by_cases hopen : c = '('
  · rw [if_pos hopen] at h ⊢
    cases h
    rfl
  rw [if_neg hopen] at h ⊢
  by_cases hclose : c = ')'
  · rw [if_pos hclose] at h ⊢
    by_cases hzero : depth = 0
    · rw [if_pos hzero] at h
      cases h
    · rw [if_neg hzero] at h
      cases h
      rw [if_neg (Nat.succ_ne_zero depth), Nat.add_sub_cancel,
        Nat.sub_add_cancel (Nat.pos_of_ne_zero hzero)]
  · rw [if_neg hclose] at h ⊢
    cases h
    rfl

/-- What is open at a place of SQL text. -/
structure Nest where
  quote : Option Char := none
  /-- The number of open parentheses. -/
  depth : Nat := 0
  deriving DecidableEq, Repr

namespace Nest

/-- What is open after one more character. Parentheses in quotes are text. -/
def step (n : Nest) (c : Char) : Option Nest :=
  if n.quote.isSome || isQuote c then some { n with quote := quoteAfter n.quote c }
  else (depthAfter c n.depth).map fun depth => { depth }

/-- What is open after more text. -/
def after (n : Nest) (cs : List Char) : Option Nest :=
  cs.foldlM step n

/-- The same in one more parenthesis. -/
def deeper (n : Nest) : Nest :=
  { n with depth := n.depth + 1 }

variable {n m : Nest} {c : Char} {cs : List Char}

theorem after_cons : n.after (c :: cs) = some m ↔ ∃ k, n.step c = some k ∧ k.after cs = some m := by
  unfold after
  rw [List.foldlM_cons]
  exact Option.bind_eq_some_iff

theorem after_append {xs ys : List Char} :
    n.after (xs ++ ys) = (n.after xs).bind fun k => k.after ys :=
  List.foldlM_append

/-- Quotes are read as in raw text. -/
theorem quote_step (h : n.step c = some m) : m.quote = quoteAfter n.quote c := by
  unfold step at h
  split at h
  · cases h
    rfl
  · rename_i hplain
    obtain ⟨depth, -, rfl⟩ := Option.map_eq_some_iff.1 h
    rw [Bool.not_eq_true, Bool.or_eq_false_iff, Option.isSome_eq_false_iff,
      Option.isNone_iff_eq_none] at hplain
    simp [quoteAfter, hplain]

theorem step_deeper (h : n.step c = some m) : n.deeper.step c = some m.deeper := by
  unfold step at h ⊢
  split at h
  · rename_i hquoted
    cases h
    exact if_pos hquoted
  · rename_i hplain
    obtain ⟨depth, hdepth, rfl⟩ := Option.map_eq_some_iff.1 h
    refine (if_neg hplain).trans ?_
    rw [deeper, depthAfter_succ hdepth]
    rfl

theorem after_deeper (h : n.after cs = some m) : n.deeper.after cs = some m.deeper := by
  induction cs generalizing n with
  | nil =>
    cases h
    rfl
  | cons c cs ih =>
    obtain ⟨k, hk, h⟩ := after_cons.1 h
    exact after_cons.2 ⟨k.deeper, step_deeper hk, ih h⟩

end Nest

/-- Nothing is left open, and nothing is closed that was not open. -/
def Balanced (s : String) : Prop :=
  Nest.after {} s.toList = some {}

instance (s : String) : Decidable (Balanced s) :=
  inferInstanceAs (Decidable (_ = _))

namespace Balanced

variable {s t : String}

theorem append (hs : Balanced s) (ht : Balanced t) : Balanced (s ++ t) := by
  unfold Balanced at *
  rw [String.toList_append, Nest.after_append, hs]
  exact ht

theorem enclosed (hs : Balanced s) : Balanced ("(" ++ s ++ ")") := by
  unfold Balanced at *
  rw [String.toList_append, String.toList_append, Nest.after_append, Nest.after_append]
  show ((Nest.deeper {}).after s.toList).bind _ = _
  rw [Nest.after_deeper hs]
  rfl

end Balanced

/-! ## Connectives -/

/-- The characters of names and words. -/
def isWordChar (c : Char) : Bool :=
  c.isAlphanum || c == '_' || c == '$' || '\x7f' < c

/-- The connective that a word is, in any case. -/
def keyword? (w : List Char) : Option Connective :=
  Connective.ofText? (String.ofList (w.map Char.toUpper))

/-- What SQL text is made of, if only its connectives are looked at. -/
inductive Lexeme where
  | char (c : Char)
  | word (c : Connective)
  deriving DecidableEq, Repr

namespace Lexeme

def word? : Lexeme → Option Connective
  | char _ => none
  | word c => some c

/-- A whole word. -/
def ofWord (w : List Char) : List Lexeme :=
  match keyword? w with
  | some c => [word c]
  | none => w.map char

/-- The lexemes of text that follows the characters `w` of a word, where `n` is open. -/
def readFrom (n : Nest) (w : List Char) : List Char → List Lexeme
  | [] => ofWord w
  | c :: cs =>
    if n = {} ∧ isWordChar c then readFrom n (w ++ [c]) cs
    else ofWord w ++ char c :: readFrom ((n.step c).getD n) [] cs

/-- The texts between the words: one more than there are words. -/
def between : List Lexeme → List (List Char)
  | [] => [[]]
  | char c :: rest => prepend c (between rest)
  | word _ :: rest => [] :: between rest

@[simp] theorem filterMap_word_char (cs : List Char) :
    (cs.map char).filterMap word? = [] := by
  induction cs with
  | nil => rfl
  | cons c cs ih => exact ih

@[simp] theorem between_char (cs : List Char) : between (cs.map char) = [cs] := by
  induction cs with
  | nil => rfl
  | cons c cs ih => exact congrArg (prepend c) ih

theorem between_ne_nil (xs : List Lexeme) : between xs ≠ [] := by
  cases xs with
  | nil => exact List.cons_ne_nil _ _
  | cons x xs =>
    cases x with
    | char c => exact prepend_ne_nil c _
    | word c => exact List.cons_ne_nil _ _

theorem between_append_word (xs ys : List Lexeme) (c : Connective) :
    between (xs ++ word c :: ys) = between xs ++ between ys := by
  induction xs with
  | nil => rfl
  | cons x xs ih =>
    cases x with
    | word c' => exact congrArg ([] :: ·) ih
    | char a =>
      show prepend a (between (xs ++ word c :: ys)) = prepend a (between xs) ++ between ys
      rw [ih]
      cases hxs : between xs with
      | nil => exact absurd hxs (between_ne_nil xs)
      | cons => rfl

theorem length_between (xs : List Lexeme) :
    (between xs).length = (xs.filterMap word?).length + 1 := by
  induction xs with
  | nil => rfl
  | cons x xs ih =>
    cases x with
    | word c => exact congrArg (· + 1) ih
    | char a =>
      cases hxs : between xs with
      | nil => exact absurd hxs (between_ne_nil xs)
      | cons s ss =>
        rw [hxs] at ih
        show (prepend a (between xs)).length = _
        rw [hxs]
        exact ih

theorem ofWord_eq_of_no_word {w : List Char} (h : (ofWord w).filterMap word? = []) :
    ofWord w = w.map char := by
  unfold ofWord at h ⊢
  cases hw : keyword? w with
  | none => rfl
  | some c =>
    rw [hw] at h
    cases h

/-- Text without connectives is its characters. -/
theorem readFrom_eq_of_no_word {n : Nest} {w cs : List Char}
    (h : (readFrom n w cs).filterMap word? = []) : readFrom n w cs = (w ++ cs).map char := by
  induction cs generalizing n w with
  | nil =>
    rw [List.append_nil]
    exact ofWord_eq_of_no_word h
  | cons c cs ih =>
    rw [readFrom] at h ⊢
    by_cases hw : n = {} ∧ isWordChar c
    · rw [if_pos hw] at h ⊢
      rw [ih h, List.append_assoc, List.singleton_append]
    · rw [if_neg hw] at h ⊢
      rw [List.filterMap_append, List.append_eq_nil_iff] at h
      rw [ofWord_eq_of_no_word h.1, ih h.2, List.nil_append, List.map_append, List.map_cons]

/-- A connective has letters. -/
theorem keyword?_eq_none {w : List Char} (h : ∀ c ∈ w, c.isAlpha = false) :
    keyword? w = none := by
  have hupper : w.map Char.toUpper = w := by
    refine (List.map_congr_left fun c hc => ?_).trans (List.map_id w)
    have hlower : (decide (c.val ≥ 'a'.val) && decide (c.val ≤ 'z'.val)) = false :=
      (Bool.or_eq_false_iff.1 (h c hc)).2
    rw [← Bool.decide_and, decide_eq_false_iff_not] at hlower
    exact dif_neg hlower
  unfold keyword? Connective.ofText?
  rw [hupper, List.find?_eq_none]
  intro c _ htext
  have hw : c.text.toList = w := by
    rw [beq_iff_eq.1 htext, String.toList_ofList]
  cases c
  · exact absurd (h 'A' (hw ▸ by decide)) (by decide)
  · exact absurd (h 'O' (hw ▸ by decide)) (by decide)

/-- Text without letters has no connectives. -/
theorem filterMap_readFrom_of_no_letters {n : Nest} {w cs : List Char}
    (hw : ∀ c ∈ w, c.isAlpha = false) (hcs : ∀ c ∈ cs, c.isAlpha = false) :
    (readFrom n w cs).filterMap word? = [] := by
  have hword : ∀ w : List Char, (∀ c ∈ w, c.isAlpha = false) → ofWord w = w.map char := by
    intro w hw
    rw [ofWord, keyword?_eq_none hw]
  induction cs generalizing n w with
  | nil => rw [readFrom, hword w hw, filterMap_word_char]
  | cons c cs ih =>
    obtain ⟨hc, hcs⟩ := List.forall_mem_cons.1 hcs
    rw [readFrom]
    split
    · exact ih (List.forall_mem_append.2 ⟨hw, List.forall_mem_singleton.2 hc⟩) hcs
    · rw [List.filterMap_append, hword w hw, filterMap_word_char]
      exact ih (List.forall_mem_nil _) hcs

/-- Nothing is open after a character of a name. -/
theorem step_wordChar {c : Char} (h : isWordChar c) : Nest.step {} c = some {} := by
  have hquote : isQuote c = false := by
    refine Bool.eq_false_iff.2 fun hq => ?_
    simp only [isQuote, Bool.or_eq_true, beq_iff_eq] at hq
    obtain (rfl | rfl) | rfl := hq <;> exact absurd h (by decide)
  have hopen : c ≠ '(' := by
    rintro rfl
    exact absurd h (by decide)
  have hclose : c ≠ ')' := by
    rintro rfl
    exact absurd h (by decide)
  simp [Nest.step, hquote, depthAfter, hopen, hclose]

section Reading

variable {n : Nest} {cs : List Char}

/-- Where nothing is open, a blank ends what was read before it. -/
theorem readFrom_append_blank (w rest : List Char) (h : n.after cs = some {}) :
    readFrom n w (cs ++ ' ' :: rest) = readFrom n w cs ++ char ' ' :: readFrom {} [] rest := by
  induction cs generalizing n w with
  | nil =>
    cases h
    rfl
  | cons c cs ih =>
    obtain ⟨k, hk, h⟩ := Nest.after_cons.1 h
    rw [List.cons_append, readFrom, readFrom]
    by_cases hw : n = {} ∧ isWordChar c
    · rw [if_pos hw, if_pos hw]
      have hsame : k = {} := by
        rw [hw.1, step_wordChar hw.2] at hk
        exact (Option.some.inj hk).symm
      rw [hw.1]
      exact ih (n := {}) (w ++ [c]) (hsame ▸ h)
    · rw [if_neg hw, if_neg hw, hk, Option.getD_some, ih [] h, List.append_assoc]
      rfl

/-- Words in parentheses are text. -/
theorem readFrom_deeper (h : n.after cs = some {}) :
    readFrom n.deeper [] (cs ++ [')']) = (cs ++ [')']).map char := by
  have hopen : ∀ k : Nest, ∀ c, ¬(k.deeper = {} ∧ isWordChar c) := by
    intro k c hk
    exact Nat.succ_ne_zero k.depth (congrArg Nest.depth hk.1)
  induction cs generalizing n with
  | nil =>
    cases h
    rfl
  | cons c cs ih =>
    obtain ⟨k, hk, h⟩ := Nest.after_cons.1 h
    rw [List.cons_append, readFrom, if_neg (hopen n c), Nest.step_deeper hk, Option.getD_some,
      ih h]
    rfl

end Reading

end Lexeme

/-- The lexemes of a text. -/
def lexemes (s : String) : List Lexeme :=
  Lexeme.readFrom {} [] s.toList

/-- The connectives of a text outside quotes and parentheses. -/
def connectives (s : String) : List Connective :=
  (lexemes s).filterMap Lexeme.word?

/-- The texts of the conditions that the connectives of a text join. -/
def conditionTexts (s : String) : List String :=
  (Lexeme.between (lexemes s)).map String.ofList

theorem lexemes_append_blank {s : String} (hs : Balanced s) (t : String) :
    lexemes (s ++ " " ++ t) = lexemes s ++ .char ' ' :: lexemes t := by
  unfold lexemes
  rw [String.append_assoc, String.toList_append, String.toList_append]
  exact Lexeme.readFrom_append_blank [] t.toList hs

theorem lexemes_enclosed {s : String} (hs : Balanced s) :
    lexemes ("(" ++ s ++ ")") = ("(" ++ s ++ ")").toList.map .char := by
  unfold lexemes
  rw [String.append_assoc, String.toList_append, String.toList_append]
  exact congrArg (Lexeme.char '(' :: ·) (Lexeme.readFrom_deeper hs)

theorem connectives_enclosed {s : String} (hs : Balanced s) :
    connectives ("(" ++ s ++ ")") = [] := by
  unfold connectives
  rw [lexemes_enclosed hs, Lexeme.filterMap_word_char]

theorem connectives_of_no_letters {s : String} (h : ∀ c ∈ s.toList, c.isAlpha = false) :
    connectives s = [] :=
  Lexeme.filterMap_readFrom_of_no_letters (List.forall_mem_nil _) h

theorem lexemes_of_no_connectives {s : String} (h : connectives s = []) :
    lexemes s = s.toList.map .char :=
  Lexeme.readFrom_eq_of_no_word h

theorem length_conditionTexts (s : String) :
    (conditionTexts s).length = (connectives s).length + 1 := by
  unfold conditionTexts connectives
  rw [List.length_map, Lexeme.length_between]

example : conditionTexts "a = ' OR ' or (b OR c) And orders = 1"
    = ["a = ' OR ' ", " (b OR c) ", " orders = 1"] := by
  decide +kernel

/-! ## The truth of a text -/

section Truth

variable (row : Nat → Truth)

/-- What is read of conditions that words join, if `row` gives each condition its truth by its
place. -/
def wordsFrame (words : List Connective) : Frame :=
  words.zipIdx.foldl (fun f (c, i) => (f.joined c).factor (row (i + 1))) (Frame.factor {} (row 0))

theorem wordsFrame_concat (words : List Connective) (c : Connective) :
    wordsFrame row (words ++ [c])
      = ((wordsFrame row words).joined c).factor (row (words.length + 1)) := by
  simp [wordsFrame, List.zipIdx_append]

/-- The truth of a text for a row that gives each of its conditions a truth. AND binds tighter than
OR. -/
def textTruth (s : String) : Truth :=
  (wordsFrame row (connectives s)).value

variable {row} {words : List Connective}

/-- Without OR there is one alternative. -/
theorem wordsFrame_done_of_no_or (h : .or ∉ words) : (wordsFrame row words).done = .no := by
  induction words using List.reverseRecOn with
  | nil => rfl
  | append_singleton words c ih =>
    rw [List.mem_append, not_or, List.mem_singleton] at h
    rw [wordsFrame_concat]
    cases c with
    | and => exact ih h.1
    | or => exact absurd rfl h.2

/-- The last alternative holds only if its last condition does. -/
theorem wordsFrame_current_eq_yes (h : (wordsFrame row words).current = .yes) :
    row words.length = .yes := by
  induction words using List.reverseRecOn with
  | nil => exact (Truth.and_eq_yes.1 h).2
  | append_singleton words c ih =>
    rw [wordsFrame_concat] at h
    rw [List.length_append]
    exact (Truth.and_eq_yes.1 h).2

theorem wordsFrame_current_of_yes (h : ∀ i ≤ words.length, row i = .yes) :
    (wordsFrame row words).current = .yes := by
  induction words using List.reverseRecOn with
  | nil => exact Truth.and_eq_yes.2 ⟨rfl, h 0 (Nat.le_refl 0)⟩
  | append_singleton words c ih =>
    rw [List.length_append] at h
    rw [wordsFrame_concat]
    refine Truth.and_eq_yes.2 ⟨?_, h _ (Nat.le_refl _)⟩
    cases c with
    | and => exact ih fun i hi => h i (Nat.le_succ_of_le hi)
    | or => rfl

/-- Conditions that hold make an alternative hold that is complete, if there is one. -/
theorem wordsFrame_done_of_yes (hor : .or ∈ words) (h : ∀ i < words.length, row i = .yes) :
    (wordsFrame row words).done = .yes := by
  induction words using List.reverseRecOn with
  | nil => cases hor
  | append_singleton words c ih =>
    rw [List.length_append] at h
    have hearly : ∀ i ≤ words.length, row i = .yes := fun i hi => h i (Nat.lt_succ_of_le hi)
    rw [wordsFrame_concat]
    cases c with
    | or => exact Truth.or_eq_yes.2 (.inr (wordsFrame_current_of_yes hearly))
    | and =>
      have hrest : .or ∈ words := by
        simpa using hor
      exact ih hrest fun i hi => hearly i (Nat.le_of_lt hi)

/-- Exactly without OR a whole is true for no row for which its last condition is not. -/
theorem last_bounds_iff (words : List Connective) :
    (∀ row, row words.length ≠ .yes → (wordsFrame row words).value ≠ .yes) ↔ .or ∉ words := by
  constructor
  · intro h hor
    let early : Nat → Truth := fun i => if i < words.length then .yes else .no
    have hlast : early words.length ≠ .yes := by
      simp [early]
    have hdone : (wordsFrame early words).done = .yes :=
      wordsFrame_done_of_yes hor fun i hi => if_pos hi
    exact h early hlast (Truth.or_eq_yes.2 (.inl hdone))
  · intro hor row hlast htrue
    obtain hdone | hcurrent := Truth.or_eq_yes.1 htrue
    · rw [wordsFrame_done_of_no_or hor] at hdone
      cases hdone
    · exact hlast (wordsFrame_current_eq_yes hcurrent)

end Truth

end SqlQuery
