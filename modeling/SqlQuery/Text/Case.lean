import SqlQuery.Text.CaseTable

/-!
Upper and lower case of a whole text. A character may grow (`ß` becomes `SS`), so the result need
not have the length of the text; a capital sigma at the end of a word becomes the final sigma.
-/

namespace SqlQuery.Text

/-- Looks a code point up in a table of shifted ranges. -/
def shifted? (rows : List (Nat × Nat × Nat × Int)) (n : Nat) : Option Nat :=
  (rows.find? fun (lo, hi, step, _) => lo ≤ n && n ≤ hi && (n - lo) % step == 0).map
    fun (_, _, _, shift) => (n + shift).toNat

/-- The image of one code point: an expansion first, then a shift, else the code point itself. -/
def mapCase (expansions : List (Nat × List Nat)) (rows : List (Nat × Nat × Nat × Int))
    (c : Char) : List Char :=
  match expansions.lookup c.toNat with
  | some ns => ns.map Char.ofNat
  | none => [((shifted? rows c.toNat).map Char.ofNat).getD c]

def upperChar (c : Char) : List Char :=
  if c.toNat < 128 then [c.toUpper] else mapCase upperExpansions upperShifts c

/-- The lower case of one character outside any context. -/
def lowerChar (c : Char) : List Char :=
  if c.toNat < 128 then [c.toLower] else mapCase lowerExpansions lowerShifts c

/-- Characters that are lower case, upper case or title case. -/
def isCased (c : Char) : Bool :=
  c.isAlpha || casedRanges.any fun (lo, hi) => lo ≤ c.toNat && c.toNat ≤ hi

/-- Characters between letters that do not end a word. -/
def isCaseIgnorable (c : Char) : Bool :=
  caseIgnorableRanges.any fun (lo, hi) => lo ≤ c.toNat && c.toNat ≤ hi

/-- Whether the first character that is not looked through is a cased one. -/
def meetsCased (cs : List Char) : Bool :=
  match cs.dropWhile isCaseIgnorable with
  | [] => false
  | c :: _ => isCased c

/-- Lower case from left to right; `before` holds what was read, nearest first. A capital sigma
after a letter and not before one is final. -/
def lowerChars (before : List Char) : List Char → List Char
  | [] => []
  | c :: cs =>
    (if c == 'Σ' then [if meetsCased before && !meetsCased cs then 'ς' else 'σ']
     else lowerChar c) ++ lowerChars (c :: before) cs

def upper (s : String) : String :=
  String.ofList (s.toList.flatMap upperChar)

def lower (s : String) : String :=
  String.ofList (lowerChars [] s.toList)

end SqlQuery.Text
