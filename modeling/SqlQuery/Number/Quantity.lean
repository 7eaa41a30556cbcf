import SqlQuery.Value.Equality

/-!
Integers and doubles as quantities that can be added and compared, whichever of the two
they are. Integers stay integers as long as no double is added; comparisons are exact.
-/

namespace SqlQuery

namespace Double

/-- The double nearest to a rational number. -/
def ofRat (r : Rat) : Double :=
  ofRatio (r < 0) r.num.natAbs r.den

/-- The sum of two doubles, rounded once. -/
def add : Double → Double → Double
  | .nan, _ | _, .nan => .nan
  | .infinite s, .infinite t => if s = t then .infinite s else .nan
  | .infinite s, _ | _, .infinite s => .infinite s
  | .finite s 0 e, .finite t 0 _ => .finite (s && t) 0 e
  | a, b =>
    match a.toRat?, b.toRat? with
    | some x, some y => ofRat (x + y)
    | _, _ => .nan

/-- Whether a double lies below zero or is the negative zero. -/
def isNegative : Double → Bool
  | .finite s .. | .infinite s => s
  | .nan => false

/-- The product of two doubles, rounded once. -/
def multiply (a b : Double) : Double :=
  let negative := a.isNegative != b.isNegative
  match a, b with
  | .nan, _ | _, .nan => .nan
  | .infinite _, .finite _ 0 _ | .finite _ 0 _, .infinite _ => .nan
  | .infinite _, _ | _, .infinite _ => .infinite negative
  | a, b =>
    match a.toRat?, b.toRat? with
    | some x, some y => ofRatio negative (x * y).num.natAbs (x * y).den
    | _, _ => .nan

/-- The quotient of two doubles, rounded once. The divisor is not zero. -/
def divide (a b : Double) : Double :=
  let negative := a.isNegative != b.isNegative
  match a, b with
  | .nan, _ | _, .nan | .infinite _, .infinite _ => .nan
  | .infinite _, _ => .infinite negative
  | _, .infinite _ => zero negative
  | a, b =>
    match a.toRat?, b.toRat? with
    | some x, some y => ofRatio negative (x / y).num.natAbs (x / y).den
    | _, _ => .nan

end Double

/-- A quantity: an integer or a double. -/
inductive Quantity where
  | int (n : Int)
  | double (d : Double)
  deriving DecidableEq, Repr, Inhabited

namespace Quantity

def toValue : Quantity → Value
  | int n => .int n
  | double d => .double d

/-- The number that a value is, true and false counting as one and zero. -/
def ofValue? : Value → Option Quantity
  | .int n => some (int n)
  | .bool b => some (int (if b then 1 else 0))
  | .double d => some (double d)
  | _ => none

def toDouble : Quantity → Double
  | int n => .ofInt n
  | double d => d

/-- Whether one quantity is at most another. Not-a-number compares with nothing. -/
def le (a b : Quantity) : Bool :=
  match a.toValue.magnitude?, b.toValue.magnitude? with
  | some m, some n => m.le n
  | _, _ => false

/-- Whether one quantity is below another. -/
def lt (a b : Quantity) : Bool :=
  le a b && !le b a

instance : LE Quantity := ⟨fun a b => le a b = true⟩

instance : LT Quantity := ⟨fun a b => lt a b = true⟩

instance (a b : Quantity) : Decidable (a ≤ b) := inferInstanceAs (Decidable (_ = _))

instance (a b : Quantity) : Decidable (a < b) := inferInstanceAs (Decidable (_ = _))

instance : Add Quantity where
  add
    | int m, int n => int (m + n)
    | a, b => double (a.toDouble.add b.toDouble)

end Quantity

end SqlQuery
