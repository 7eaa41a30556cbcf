import SqlQuery.Value

/-!
Equality of values as rows and keys see it: numbers are equal when they stand for the same number,
whatever their type, and mappings are equal whatever the order of their keys.
-/

namespace SqlQuery.Value

/-- What a numeric value stands for. -/
inductive Magnitude where
  | nan
  | infinite (negative : Bool)
  | finite (value : Rat)
  deriving DecidableEq

/-- The number that a value stands for; true and false count as one and zero. -/
def magnitude? : Value → Option Magnitude
  | bool b => some (.finite (if b then 1 else 0))
  | int n => some (.finite n)
  | double .nan => some .nan
  | double (.infinite s) => some (.infinite s)
  | double d => d.toRat?.map .finite
  | decimal (.nan ..) => some .nan
  | decimal (.infinite s) => some (.infinite s)
  | decimal d => d.toRat?.map .finite
  | _ => none

/-- Not-a-number differs from everything, itself included. -/
def Magnitude.same : Magnitude → Magnitude → Bool
  | .nan, _ | _, .nan => false
  | a, b => a == b

/-- Whether one magnitude is at most another. Not-a-number compares with nothing. -/
def Magnitude.le : Magnitude → Magnitude → Bool
  | .nan, _ | _, .nan => false
  | .infinite s, m => s || m == .infinite false
  | .finite _, .infinite s => !s
  | .finite x, .finite y => x ≤ y

mutual

/-- Whether two values are equal. -/
def same : Value → Value → Bool
  | null, null => true
  | text s, text t => s == t
  | bytes _ a, bytes _ b => a == b
  | date a, date b => a == b
  | time a, time b => a == b
  | moment a, moment b => a == b
  | list a, list b => sameAll a b
  | tuple a, tuple b => sameAll a b
  | mapping a, mapping b => a.length == b.length && sameEntries a b
  | a, b => match a.magnitude?, b.magnitude? with
    | some m, some n => m.same n
    | _, _ => false

def sameAll : List Value → List Value → Bool
  | [], [] => true
  | a :: as, b :: bs => a.same b && sameAll as bs
  | _, _ => false

/-- Whether every entry has an equal one under its key in `other`. -/
def sameEntries : List (String × Value) → List (String × Value) → Bool
  | [], _ => true
  | (k, v) :: rest, other =>
    (match other.lookup k with
     | some w => v.same w
     | none => false) && sameEntries rest other

end

end SqlQuery.Value
