/-!
Raw SQL text with markers for bound values.

A question mark outside quotes marks a value; two of them in a row stand for a question mark of
the text itself. Inside single quotes, double quotes or backquotes nothing is special but the
closing quote.
-/

namespace SqlQuery.RawText

/-- The three quotes of SQL text. -/
def isQuote (c : Char) : Bool :=
  c == '\'' || c == '"' || c == '\x60'

/-- The quote that is open after `c`, given the one that was open before. -/
def quoteAfter (quote : Option Char) (c : Char) : Option Char :=
  match quote with
  | some q => if c == q then none else some q
  | none => if isQuote c then some c else none

theorem quoteAfter_plain {c : Char} (h : isQuote c = false) : quoteAfter none c = none :=
  if_neg (Bool.eq_false_iff.1 h)

theorem quoteAfter_opening {q : Char} (h : isQuote q = true) : quoteAfter none q = some q :=
  if_pos h

theorem quoteAfter_inside {c q : Char} (h : c ≠ q) : quoteAfter (some q) c = some q :=
  if_neg (by simpa using h)

theorem quoteAfter_closing (q : Char) : quoteAfter (some q) q = none :=
  if_pos (beq_self_eq_true q)

/-- Puts a character in front of the first segment. -/
def prepend (c : Char) : List (List Char) → List (List Char)
  | [] => [[c]]
  | s :: ss => (c :: s) :: ss

/-- The segments between markers, read with `quote` open at the start. -/
def segments (quote : Option Char) : List Char → List (List Char)
  | [] => [[]]
  | c :: cs =>
    if quote.isNone && c == '?' then
      match cs with
      | '?' :: cs => prepend '?' (segments none cs)
      | cs => [] :: segments none cs
    else prepend c (segments (quoteAfter quote c) cs)

/-- The segments of a raw text: one more than it has markers. -/
def split (raw : String) : List String :=
  (segments none raw.toList).map String.ofList

def markerCount (raw : String) : Nat :=
  (split raw).length - 1

theorem prepend_ne_nil (c : Char) (ss : List (List Char)) : prepend c ss ≠ [] := by
  cases ss <;> simp [prepend]

theorem segments_ne_nil (quote : Option Char) (cs : List Char) : segments quote cs ≠ [] := by
  fun_cases segments quote cs <;> simp [prepend_ne_nil]

theorem length_split (raw : String) : (split raw).length = markerCount raw + 1 := by
  have : segments none raw.toList ≠ [] := segments_ne_nil _ _
  have : 0 < (segments none raw.toList).length := List.length_pos_iff.2 this
  simp only [markerCount, split, List.length_map]
  omega

end SqlQuery.RawText
