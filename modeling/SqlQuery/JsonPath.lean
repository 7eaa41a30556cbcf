import SqlQuery.Text.Blank
import SqlQuery.Text.Digit

/-!
Paths into a JSON value, such as `$.a.b[0]`, `a.b.0` or `a->b`.

All spellings come down to a list of segments, from which each dialect writes a path of its own. A
segment is never empty, has no blanks at its ends and holds no dot and no bracket.
-/

namespace SqlQuery.JsonPath

open SqlQuery.Text

/-- The characters that end a segment. -/
def isSeparator (c : Char) : Bool :=
  c == '.' || c == '[' || c == ']'

/-- Writes a dot for every arrow, from the left. -/
def dotArrows : List Char → List Char
  | '-' :: '>' :: cs => '.' :: dotArrows cs
  | c :: cs => c :: dotArrows cs
  | [] => []

/-- A path without the dollar sign that may stand for the root. -/
def dropRoot : List Char → List Char
  | '$' :: cs => cs
  | cs => cs

def segmentChars (path : List Char) : List (List Char) :=
  ((splitChars isSeparator (dotArrows (dropRoot (trimChars isBlank path)))).map
    (trimChars isBlank)).filter (!·.isEmpty)

def segments (path : String) : List String :=
  (segmentChars path.toList).map String.ofList

/-- One step from the root: an index in brackets, or a key after a dot. -/
def step (segment : String) : String :=
  if isNumeral segment then "[" ++ segment ++ "]" else "." ++ segment

/-- A path from the root, `$.a.b[0]`. -/
def rooted (path : String) : String :=
  "$" ++ String.join ((segments path).map step)

/-- The segments as the body of a text array, `a,b,0` in braces. -/
def textArray (segments : List String) : String :=
  "\x7b" ++ ",".intercalate segments ++ "\x7d"

end SqlQuery.JsonPath
