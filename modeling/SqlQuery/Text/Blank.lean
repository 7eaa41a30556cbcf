/-!
Blank characters, and the two things done with them: cutting the blanks off both ends of a text,
and splitting a text into its words.

`isBlank` holds the separators of Unicode together with the control characters that act as
separators; it contains every character that `Char.isWhitespace` accepts.
-/

namespace SqlQuery.Text

/-- The characters that separate words: ASCII blanks, the four information separators, NEXT LINE,
and the space, line and paragraph separators of Unicode. -/
def isBlank (c : Char) : Bool :=
  let n := c.toNat
  (0x09 ≤ n && n ≤ 0x0d) || (0x1c ≤ n && n ≤ 0x20) || n == 0x85 || n == 0xa0 || n == 0x1680 ||
    (0x2000 ≤ n && n ≤ 0x200a) || n == 0x2028 || n == 0x2029 || n == 0x202f || n == 0x205f ||
    n == 0x3000

/-- White space in the narrower sense of Unicode's `White_Space` property, which leaves out the
information separators. -/
def isWhiteSpace (c : Char) : Bool :=
  isBlank c && !(0x1c ≤ c.toNat && c.toNat ≤ 0x1f)

/-- `cs` without the characters of class `p` at its end. -/
def dropEnd (p : Char → Bool) (cs : List Char) : List Char :=
  (cs.reverse.dropWhile p).reverse

/-- `cs` without the characters of class `p` at either end. -/
def trimChars (p : Char → Bool) (cs : List Char) : List Char :=
  dropEnd p (cs.dropWhile p)

/-- A text without the blanks at either end. -/
def trim (s : String) : String :=
  String.ofList (trimChars isBlank s.toList)

/-- Splits at every character of class `p`. There is one more piece than there are separators, so
pieces may be empty. -/
def splitChars (p : Char → Bool) : List Char → List (List Char)
  | [] => [[]]
  | c :: cs =>
    if p c then [] :: splitChars p cs
    else match splitChars p cs with
      | [] => [[c]]
      | w :: ws => (c :: w) :: ws

/-- The words of a text: its maximal pieces without blanks. -/
def words (s : String) : List String :=
  ((splitChars isBlank s.toList).filter (!·.isEmpty)).map String.ofList

/-- The words of a text, one space apart. -/
def squeeze (s : String) : String :=
  " ".intercalate (words s)

theorem isBlank_of_isWhitespace {c : Char} (h : c.isWhitespace = true) : isBlank c = true := by
  simp only [Char.isWhitespace, Bool.or_eq_true, decide_eq_true_eq] at h
  rcases h with ((h | h) | h) | h <;> subst h <;> rfl

theorem splitChars_ne_nil (p : Char → Bool) (cs : List Char) : splitChars p cs ≠ [] := by
  cases cs with
  | nil => simp [splitChars]
  | cons c cs => simp only [splitChars]; split <;> (try split) <;> simp

end SqlQuery.Text
