import SqlQuery.Number.Read

/-!
Decimal numbers of any precision, with the exponent kept as it was written: `1.50` and `1.5` are
equal as numbers and differ as texts.
-/

namespace SqlQuery

/-- A decimal number `± coefficient · 10 ^ exponent`, an infinity, or a not-a-number with a
payload. -/
inductive Decimal where
  | nan (negative signaling : Bool) (payload : Nat)
  | infinite (negative : Bool)
  | finite (negative : Bool) (coefficient : Nat) (exponent : Int)
  deriving DecidableEq, Repr, Inhabited

namespace Decimal

open SqlQuery.Number SqlQuery.Text

/-- The largest exponent of a leading digit. -/
def maxAdjusted : Int := 999999999999999999

/-- The smallest exponent of a last digit. -/
def minExponent : Int := -1999999999999999997

/-- ASCII for a character of a decimal: other digits and blanks are replaced by theirs. -/
def asciiChar? (c : Char) : Option Char :=
  if 0 < c.toNat ∧ c.toNat < 128 then some c
  else if isBlank c then some ' '
  else (decimalDigit? c).map Nat.digitChar

/-- The payload after `nan`. -/
def readPayload? (cs : List Char) : Option Nat :=
  if cs.all Char.isDigit then digitsValue? cs else none

/-- A finite decimal if its exponent is in range. -/
def inRange? (negative : Bool) (coefficient : Nat) (exponent : Int) : Option Decimal :=
  let adjusted := exponent + (Nat.toDigits 10 coefficient).length - 1
  if adjusted ≤ maxAdjusted ∧ minExponent ≤ exponent then
    some (.finite negative coefficient exponent)
  else none

def readUnsigned? (negative : Bool) (body : List Char) : Option Decimal :=
  let word := body.map Char.toLower
  if word == "inf".toList || word == "infinity".toList then some (.infinite negative)
  else if word.take 3 == "nan".toList then
    (readPayload? (word.drop 3)).map (.nan negative false)
  else if word.take 4 == "snan".toList then
    (readPayload? (word.drop 4)).map (.nan negative true)
  else (readScientific? body).bind fun (c, e) => inRange? negative c e

/-- A decimal in text. Blanks around it and underscores anywhere are dropped. -/
def ofText? (s : String) : Option Decimal := do
  let ascii ← (trimChars isBlank s.toList).filter (· != '_') |>.mapM asciiChar?
  let (negative, body) := splitSign ascii
  readUnsigned? negative body

/-- The text of a decimal: without an exponent as long as the point stands in or next to the
digits, else with one digit before the point. -/
def format : Decimal → String
  | .nan s signaling payload =>
    (if s then "-" else "") ++ (if signaling then "sNaN" else "NaN")
      ++ (if payload = 0 then "" else toString payload)
  | .infinite s => if s then "-Infinity" else "Infinity"
  | .finite s coefficient exponent =>
    let digits := Nat.toDigits 10 coefficient
    let left := exponent + digits.length
    let point := if exponent ≤ 0 ∧ -6 < left then left else 1
    let body :=
      if point ≤ 0 then '0' :: '.' :: List.replicate (-point).toNat '0' ++ digits
      else if digits.length ≤ point then
        digits ++ List.replicate (point.toNat - digits.length) '0'
      else digits.take point.toNat ++ '.' :: digits.drop point.toNat
    let tail :=
      if left = point then []
      else 'E' :: (if left < point then '-' else '+') :: Nat.toDigits 10 (left - point).natAbs
    String.ofList ((if s then ['-'] else []) ++ body ++ tail)

/-- The exact value of a finite decimal. -/
def toRat? : Decimal → Option Rat
  | .finite s c e =>
    let v : Rat := if 0 ≤ e then mkRat (c * Nat.pow 10 e.toNat) 1 else mkRat c (Nat.pow 10 (-e).toNat)
    some (if s then -v else v)
  | _ => none

/-- Whether a finite decimal has nothing but zeros after the point. -/
def isIntegral : Decimal → Bool
  | .finite _ c e => 0 ≤ e || c == 0 || c % Nat.pow 10 (-e).toNat == 0
  | _ => false

def isFinite : Decimal → Bool
  | .finite .. => true
  | _ => false

/-- The integer part of a finite decimal. -/
def truncate? : Decimal → Option Int
  | .finite s c e =>
    let n : Int := if 0 ≤ e then c * Nat.pow 10 e.toNat else c / Nat.pow 10 (-e).toNat
    some (if s then -n else n)
  | _ => none

/-- The double nearest to a decimal. -/
def toDouble : Decimal → Double
  | .nan .. => .nan
  | .infinite s => .infinite s
  | .finite s c e => Double.ofScientific s c e

/-- The number of digits that arithmetic keeps. -/
def precision : Nat := 28

/-- A coefficient cut to `precision` digits; a half goes to the even neighbour. -/
def roundFinite (negative : Bool) (coefficient : Nat) (exponent : Int) : Decimal :=
  let excess := (Nat.toDigits 10 coefficient).length - precision
  if excess = 0 then .finite negative coefficient exponent
  else
    let q := Double.roundQuotient coefficient (Nat.pow 10 excess)
    if q = Nat.pow 10 precision then .finite negative (q / 10) (exponent + excess + 1)
    else .finite negative q (exponent + excess)

/-- The number with its sign turned and rounded to `precision` digits. Zero has no sign. Nothing
for a signaling not-a-number. -/
def negate? : Decimal → Option Decimal
  | .nan _ true _ => none
  | .nan s false p => some (.nan s false p)
  | .infinite s => some (.infinite (!s))
  | .finite _ 0 e => some (.finite false 0 e)
  | .finite s c e => some (roundFinite (!s) c e)

end Decimal

end SqlQuery
