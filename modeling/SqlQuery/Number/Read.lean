import SqlQuery.Number.Double
import SqlQuery.Text.Blank
import SqlQuery.Text.Digit

/-!
Reading numbers from text.

Integers may have digits of any script, a sign, blanks around, and single underscores between
digits. Doubles are ASCII: digits with an optional point and exponent, or one of the words for
infinity and not-a-number in any case.
-/

namespace SqlQuery.Number

open SqlQuery.Text

/-- The value of a list of decimal digits of any script. -/
def digitsValue? (cs : List Char) : Option Nat :=
  cs.foldlM (fun n c => (decimalDigit? c).map (10 * n + ·)) 0

def splitSign : List Char → Bool × List Char
  | '-' :: cs => (true, cs)
  | '+' :: cs => (false, cs)
  | cs => (false, cs)

/-- Whether every underscore stands between two other characters. -/
def underscoresSeparate (cs : List Char) : Bool :=
  (splitChars (· == '_') cs).all (!·.isEmpty)

/-- The most digits that are read as an integer. -/
def maxIntDigits : Nat := 4300

/-- An integer in decimal notation. -/
def readInt? (s : String) : Option Int :=
  let (negative, body) := splitSign (trimChars isBlank s.toList)
  let digits := body.filter (· != '_')
  if underscoresSeparate body && digits.length ≤ maxIntDigits then
    (digitsValue? digits).map fun n => if negative then -(n : Int) else n
  else none

/-- ASCII digits, as many as there are, and what follows them. -/
def spanDigits (cs : List Char) : List Char × List Char :=
  cs.span Char.isDigit

/-- An exponent `e±digits` up to the end of the text, zero if the text is over. -/
def readExponent? : List Char → Option Int
  | [] => some 0
  | c :: cs =>
    if c == 'e' || c == 'E' then
      let (negative, digits) := splitSign cs
      if digits.isEmpty || !digits.all Char.isDigit then none
      else (digitsValue? digits).map fun n => if negative then -(n : Int) else n
    else none

/-- An unsigned decimal with an optional point and exponent, as a coefficient and a power of ten.
There must be a digit on one side of the point. -/
def readScientific? (cs : List Char) : Option (Nat × Int) :=
  let (whole, rest) := spanDigits cs
  let (fraction, rest) := match rest with
    | '.' :: rest => spanDigits rest
    | _ => ([], rest)
  if whole.isEmpty && fraction.isEmpty then none
  else do
    let exponent ← readExponent? rest
    let coefficient ← digitsValue? (whole ++ fraction)
    return (coefficient, exponent - fraction.length)

end SqlQuery.Number

namespace SqlQuery.Double

open SqlQuery.Number

/-- A double in decimal notation or as a word, without blanks around. -/
def ofText? (s : String) : Option Double :=
  let (negative, body) := splitSign s.toList
  let word := String.ofList (body.map Char.toLower)
  if word == "nan" then some .nan
  else if word == "inf" || word == "infinity" then some (.infinite negative)
  else (readScientific? body).map fun (c, e) => ofScientific negative c e

end SqlQuery.Double
