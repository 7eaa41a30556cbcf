import SqlQuery.Number.Double

/-!
The text of a double: the fewest digits that read back as the same number.

`shortestDigits` is the mathematics: of all decimals in the interval that rounds to the double,
those with the fewest digits, and of these the nearest. `Double.format` is the notation: positional
from `0.0001` up to below `10 ^ 16`, else with a signed exponent of two digits or more.
-/

namespace SqlQuery.Double

/-- Whether `a / b < c / d`, for positive `b` and `d`. -/
def ratioLt (a b c d : Nat) : Bool :=
  a * d < c * b

/-- `10 ^ k` as a quotient. -/
def tenPower (k : Int) : Nat × Nat :=
  if 0 ≤ k then (Nat.pow 10 k.toNat, 1) else (1, Nat.pow 10 (-k).toNat)

/-- The `k` with `10 ^ (k - 1) ≤ num / den < 10 ^ k`, from an estimate by binary size. -/
def decimalPoint (num den : Nat) : Int :=
  let k := ((num.log2 : Int) - den.log2 - 1) * 30103 / 100000
  let below (k : Int) : Bool := let (a, b) := tenPower k; ratioLt num den a b
  if below k then k else if below (k + 1) then k + 1 else k + 2

/-- The decimals that read back as a double: `low / den` to `high / den` around `mid / den`, the
ends included when `closed`. -/
structure Interval where
  low : Nat
  mid : Nat
  high : Nat
  den : Nat
  closed : Bool

/-- The reals that round to `m · 2 ^ e`. The lower half is shorter at a power of two. -/
def roundingInterval (m : Nat) (e : Int) : Interval :=
  let low := if m = Nat.pow 2 52 ∧ -1074 < e then 4 * m - 1 else 4 * m - 2
  if 2 ≤ e then
    let unit := Nat.pow 2 (e - 2).toNat
    ⟨low * unit, 4 * m * unit, (4 * m + 2) * unit, 1, m % 2 == 0⟩
  else ⟨low, 4 * m, 4 * m + 2, Nat.pow 2 (2 - e).toNat, m % 2 == 0⟩

/-- Whether `d · 10 ^ p` lies in the interval. -/
def Interval.holds (i : Interval) (d : Nat) (p : Int) : Bool :=
  let (a, b) := tenPower p
  let above := ratioLt i.low i.den (d * a) b
  let below := ratioLt (d * a) b i.high i.den
  if i.closed then !ratioLt (d * a) b i.low i.den && !ratioLt i.high i.den (d * a) b
  else above && below

/-- The neighbours of the middle on the grid of `10 ^ p`, if one lies in the interval: the nearer
one, and the even one at equal distance. -/
def Interval.onGrid? (i : Interval) (p : Int) : Option Nat :=
  let (a, b) := tenPower p
  let d := i.mid * b / (i.den * a)
  match i.holds d p, i.holds (d + 1) p with
  | true, false => some d
  | false, true => some (d + 1)
  | false, false => none
  | true, true =>
    -- twice the middle against the sum of the neighbours
    let twice := 2 * i.mid * b
    let sum := (2 * d + 1) * (i.den * a)
    if twice < sum then some d
    else if sum < twice then some (d + 1)
    else some (d + d % 2)

/-- The first grid with a hit, from coarse to fine. -/
def Interval.firstHit (i : Interval) (k : Int) : Nat → Nat → Nat × Int
  | 0, n => (i.mid / i.den, k - n)
  | fuel + 1, n =>
    match i.onGrid? (k - n) with
    | some d => (d, k - n)
    | none => i.firstHit k fuel (n + 1)

/-- The shortest decimal `(d, p)` that reads back as `m · 2 ^ e`, standing for `d · 10 ^ p`.
Seventeen digits always suffice. -/
def shortestDecimal (m : Nat) (e : Int) : Nat × Int :=
  let i := roundingInterval m e
  i.firstHit (decimalPoint i.mid i.den) 17 1

def dropTrailingZeros (digits : List Char) : List Char :=
  (digits.reverse.dropWhile (· == '0')).reverse

/-- The digits of a positive double and the place of its point counted from their start. -/
def shortestDigits (m : Nat) (e : Int) : List Char × Int :=
  let (d, p) := shortestDecimal m e
  let digits := Nat.toDigits 10 d
  (dropTrailingZeros digits, p + digits.length)

/-- Digits with the point at `point`, without an exponent. -/
def positional (digits : List Char) (point : Int) : List Char :=
  if point ≤ 0 then '0' :: '.' :: List.replicate (-point).toNat '0' ++ digits
  else
    let k := point.toNat
    if digits.length ≤ k then digits ++ List.replicate (k - digits.length) '0' ++ ['.', '0']
    else digits.take k ++ '.' :: digits.drop k

/-- Digits with one before the point, and an exponent of two digits or more. -/
def exponential (digits : List Char) (point : Int) : List Char :=
  let exponent := point - 1
  let size := Nat.toDigits 10 exponent.natAbs
  let mantissa := match digits with
    | [] => ['0']
    | [d] => [d]
    | d :: ds => d :: '.' :: ds
  mantissa ++ ['e', if exponent < 0 then '-' else '+']
    ++ List.replicate (2 - size.length) '0' ++ size

def format : Double → String
  | .nan => "nan"
  | .infinite s => if s then "-inf" else "inf"
  | .finite s 0 _ => if s then "-0.0" else "0.0"
  | .finite s m e =>
    let (digits, point) := shortestDigits m e
    let body := if -4 < point ∧ point ≤ 16 then positional digits point
      else exponential digits point
    String.ofList (if s then '-' :: body else body)

end SqlQuery.Double
