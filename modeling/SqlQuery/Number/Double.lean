/-!
Double-precision numbers in exact arithmetic.

A finite double is `± significand · 2 ^ exponent`. Every operation goes through the exact rational
value and one rounding, `ofRatio`, so nothing here depends on the floating-point unit and every
result can be computed by a proof.
-/

namespace SqlQuery

/-- A double-precision number. Finite values are kept in one form: the significand is below
`2 ^ 53`, the exponent at least `-1074`, and the significand is at least `2 ^ 52` unless the
exponent is `-1074`. -/
inductive Double where
  | nan
  | infinite (negative : Bool)
  | finite (negative : Bool) (significand : Nat) (exponent : Int)
  deriving DecidableEq, Repr, Inhabited

namespace Double

/-- `num / den` rounded to a whole number; a half goes to the even neighbour. -/
def roundQuotient (num den : Nat) : Nat :=
  let q := num / den
  let r := num % den
  if 2 * r < den then q
  else if den < 2 * r then q + 1
  else q + q % 2

/-- `num / den · 2 ^ -e` as a quotient of natural numbers. -/
def scaleDown (num den : Nat) (e : Int) : Nat × Nat :=
  if 0 ≤ e then (num, den * Nat.pow 2 e.toNat) else (num * Nat.pow 2 (-e).toNat, den)

/-- The exponent of the last place for `num / den`: 53 significant bits, but not below the
smallest exponent. -/
def lastPlace (num den : Nat) : Int :=
  let e := max ((num.log2 : Int) - den.log2 - 53) (-1074)
  let (n, d) := scaleDown num den e
  if Nat.pow 2 53 ≤ n / d then e + 1 else e

/-- The number zero, of either sign. -/
def zero (negative : Bool) : Double :=
  .finite negative 0 (-1074)

/-- The double nearest to `± num / den`, of two nearest the one with an even significand. Values
that round beyond the largest finite double are infinite. -/
def ofRatio (negative : Bool) (num den : Nat) : Double :=
  if num = 0 then zero negative
  else
    let e := lastPlace num den
    let (n, d) := scaleDown num den e
    let m := roundQuotient n d
    let (m, e) := if m = Nat.pow 2 53 then (Nat.pow 2 52, e + 1) else (m, e)
    if 971 < e then .infinite negative else .finite negative m e

/-- The double nearest to an integer. -/
def ofInt (n : Int) : Double :=
  ofRatio (n < 0) n.natAbs 1

/-- The double nearest to `± coefficient · 10 ^ exponent`. Values far out of range are decided
without computing the power. -/
def ofScientific (negative : Bool) (coefficient : Nat) (exponent : Int) : Double :=
  let size := exponent + (Nat.toDigits 10 coefficient).length
  if coefficient = 0 || size < -400 then zero negative
  else if 400 < size then .infinite negative
  else if 0 ≤ exponent then ofRatio negative (coefficient * Nat.pow 10 exponent.toNat) 1
  else ofRatio negative coefficient (Nat.pow 10 (-exponent).toNat)

/-- The quotient of two integers, rounded once. Nothing for a zero divisor or for a result beyond
the largest finite double. -/
def quotient? (a b : Int) : Option Double :=
  if b = 0 then none
  else match ofRatio ((a < 0) != (b < 0)) a.natAbs b.natAbs with
    | .finite s m e => some (.finite s m e)
    | _ => none

/-- The exact value of a finite double. -/
def toRat? : Double → Option Rat
  | .finite s m e =>
    let v : Rat := if 0 ≤ e then mkRat (m * Nat.pow 2 e.toNat) 1 else mkRat m (Nat.pow 2 (-e).toNat)
    some (if s then -v else v)
  | _ => none

/-- The integer part of a finite double: what is after the point is dropped. -/
def truncate? : Double → Option Int
  | .finite s m e =>
    let n : Int := if 0 ≤ e then m * Nat.pow 2 e.toNat else m / Nat.pow 2 (-e).toNat
    some (if s then -n else n)
  | _ => none

/-- The least integer not below a finite double. -/
def ceiling? : Double → Option Int
  | .finite s m e =>
    if 0 ≤ e then some (if s then -(m * Nat.pow 2 e.toNat : Int) else m * Nat.pow 2 e.toNat)
    else
      let den := Nat.pow 2 (-e).toNat
      some (if s then -((m / den : Nat) : Int) else ((m + (den - 1)) / den : Nat))
  | _ => none

/-- Whether a finite double has nothing after the point. -/
def isIntegral : Double → Bool
  | .finite _ m e => 0 ≤ e || m % Nat.pow 2 (-e).toNat == 0
  | _ => false

def isFinite : Double → Bool
  | .finite .. => true
  | _ => false

/-- The number with its sign turned. -/
def negate : Double → Double
  | .nan => .nan
  | .infinite s => .infinite (!s)
  | .finite s m e => .finite (!s) m e

end Double

end SqlQuery
