import SqlQuery.Number.Decimal

/-!
Sums, products and quotients of decimals.

A result is computed exactly, or with one digit in place of all that are too far to the right to
matter, and is then rounded once to `precision` digits. The exponent of an exact result is that of
the written sum or product: `1.0 + 1` is `2.0`.
-/

namespace SqlQuery.Decimal

/-- Why an operation on decimals has no result. -/
inductive Undefined where
  | invalid
  /-- Zero divided by zero. -/
  | zeroByZero
  | byZero
  | overflow
  deriving DecidableEq, Repr

def digitCount (coefficient : Nat) : Nat :=
  (Nat.toDigits 10 coefficient).length

def adjusted (coefficient : Nat) (exponent : Int) : Int :=
  exponent + digitCount coefficient - 1

/-- The largest exponent that the first digit of a result may have. -/
def largestResult : Int := 999999

/-- A result rounded to `precision` digits. -/
def finish (negative : Bool) (coefficient : Nat) (exponent : Int) : Except Undefined Decimal :=
  match roundFinite negative coefficient exponent with
  | .finite s c e =>
    if c ≠ 0 ∧ largestResult < adjusted c e then .error .overflow else .ok (.finite s c e)
  | d => .ok d

/-- What an operation gives if one of its operands is not-a-number: the first such operand, unless
one of them is signaling. -/
def ofNaN? : Decimal → Decimal → Option (Except Undefined Decimal)
  | .nan _ true _, _ | _, .nan _ true _ => some (.error .invalid)
  | .nan s false p, _ | _, .nan s false p => some (.ok (.nan s false p))
  | _, _ => none

/-- A coefficient with zeros after it, up to a smaller exponent. -/
def padded (coefficient : Nat) (exponent smaller : Int) : Nat :=
  coefficient * Nat.pow 10 (exponent - smaller).toNat

/-- An operand of a sum beside one with the coefficient `c` and the exponent `e`, which is not
smaller than its own: a single digit if it is too small to be seen in the rounded sum. -/
def besideLarger (c : Nat) (e : Int) (coefficient : Nat) (exponent : Int) : Nat × Int :=
  let least := e + min (-1) ((digitCount c : Int) - precision - 2)
  if adjusted coefficient exponent < least then (1, least) else (coefficient, exponent)

/-- The sum of two integers with a sign and an exponent each, the first of which has the larger
exponent. -/
def addAligned (s : Bool) (c : Nat) (e : Int) (t : Bool) (d : Nat) (f : Int) :
    Except Undefined Decimal :=
  let (d, low) := besideLarger c e d f
  let a : Int := padded c e low
  let sum := (if s then -a else a) + (if t then -(d : Int) else d)
  if sum = 0 then .ok (.finite false 0 (min e f)) else finish (sum < 0) sum.natAbs low

/-- The sum of two finite decimals. -/
def addFinite (s : Bool) (c : Nat) (e : Int) (t : Bool) (d : Nat) (f : Int) :
    Except Undefined Decimal :=
  let low := min e f
  if c = 0 ∧ d = 0 then .ok (.finite (s && t) 0 low)
  else if c = 0 then
    let low := max low (f - precision - 1)
    finish t (padded d f low) low
  else if d = 0 then
    let low := max low (e - precision - 1)
    finish s (padded c e low) low
  else if f ≤ e then addAligned s c e t d f
  else addAligned t d f s c e

def add (a b : Decimal) : Except Undefined Decimal :=
  match ofNaN? a b, a, b with
  | some r, _, _ => r
  | none, .infinite s, .infinite t => if s = t then .ok (.infinite s) else .error .invalid
  | none, .infinite s, _ | none, _, .infinite s => .ok (.infinite s)
  | none, .finite s c e, .finite t d f => addFinite s c e t d f
  | none, a, _ => .ok a

/-- The number with its sign turned, and nothing else changed. -/
def flip : Decimal → Decimal
  | .finite s c e => .finite (!s) c e
  | .infinite s => .infinite (!s)
  | d => d

def subtract (a b : Decimal) : Except Undefined Decimal :=
  add a (flip b)

/-- Whether a decimal has a minus sign. -/
def isNegative : Decimal → Bool
  | .finite s .. | .infinite s | .nan s .. => s

def isZero : Decimal → Bool
  | .finite _ c _ => c == 0
  | _ => false

def multiply (a b : Decimal) : Except Undefined Decimal :=
  let negative := a.isNegative != b.isNegative
  match ofNaN? a b, a, b with
  | some r, _, _ => r
  | none, .finite _ c e, .finite _ d f => finish negative (c * d) (e + f)
  | none, a, b => if a.isZero || b.isZero then .error .invalid else .ok (.infinite negative)

/-- A coefficient and an exponent without as many zeros at the end as there are places from the
exponent up to `ideal`, `fuel` at most. -/
def dropZeros (ideal : Int) : Nat → Nat → Int → Nat × Int
  | 0, c, e => (c, e)
  | fuel + 1, c, e =>
    if e < ideal ∧ c % 10 = 0 then dropZeros ideal fuel (c / 10) (e + 1) else (c, e)

/-- The quotient of two finite decimals, the second of which is not zero. A digit that is cut off
is marked by a last digit that is neither zero nor five; an exact quotient has no more zeros at its
end than the exponents of the two call for. -/
def divideFinite (negative : Bool) (c : Nat) (e : Int) (d : Nat) (f : Int) :
    Except Undefined Decimal :=
  let shift : Int := (digitCount d : Int) - digitCount c + precision + 1
  let (num, den) := if 0 ≤ shift then (c * Nat.pow 10 shift.toNat, d)
    else (c, d * Nat.pow 10 (-shift).toNat)
  let q := num / den
  if num % den = 0 then
    let (q, low) := dropZeros (e - f) shift.toNat q (e - f - shift)
    finish negative q low
  else finish negative (if q % 5 = 0 then q + 1 else q) (e - f - shift)

def divide (a b : Decimal) : Except Undefined Decimal :=
  let negative := a.isNegative != b.isNegative
  match ofNaN? a b, a, b with
  | some r, _, _ => r
  | none, .infinite _, .infinite _ => .error .invalid
  | none, .infinite _, _ => .ok (.infinite negative)
  | none, _, .infinite _ => .ok (.finite negative 0 0)
  | none, .finite _ c e, .finite _ d f =>
    if d = 0 then .error (if c = 0 then .zeroByZero else .byZero)
    else if c = 0 then .ok (.finite negative 0 (e - f))
    else divideFinite negative c e d f
  | none, a, _ => .ok a

/-- The least integer not below a finite decimal. -/
def ceiling? : Decimal → Option Int
  | .finite s c e =>
    if 0 ≤ e then some (if s then -(c * Nat.pow 10 e.toNat : Int) else c * Nat.pow 10 e.toNat)
    else
      let den := Nat.pow 10 (-e).toNat
      some (if s then -((c / den : Nat) : Int) else ((c + (den - 1)) / den : Nat))
  | _ => none

/-- How far from one a decimal may be and still be compared by its exact value. -/
def comparedExponent : Int := 5000

/-- A rational number that compares with integers as a finite decimal does, unless they have
thousands of digits. -/
def comparable? : Decimal → Option Rat
  | .finite _ 0 _ => some 0
  | .finite s c e =>
    let size := adjusted c e
    if comparedExponent < size then (Decimal.finite s 1 comparedExponent).toRat?
    else if size < -comparedExponent then (Decimal.finite s 1 (-comparedExponent)).toRat?
    else (Decimal.finite s c e).toRat?
  | _ => none

end SqlQuery.Decimal
