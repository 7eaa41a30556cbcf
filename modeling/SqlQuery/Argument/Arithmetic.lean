import SqlQuery.Argument
import SqlQuery.Number.Decimal.Arithmetic
import SqlQuery.Number.Quantity
import SqlQuery.Value.Negation

/-!
Arithmetic on arguments of any type.

Integers and doubles mix, and so do integers and decimals; truth values count as zero and one.
Texts, bytes and lists can be repeated a whole number of times. Every other pair of operands is an
error that names the operation and the two types.
-/

namespace SqlQuery

/-- A number of one of the three kinds that arithmetic knows. -/
inductive Numeral where
  | int (n : Int)
  | double (d : Double)
  | decimal (d : Decimal)
  deriving Repr

/-- An operation of arithmetic. -/
inductive Arithmetic where
  | add
  | subtract
  | multiply
  | divide
  deriving DecidableEq, Repr

def Arithmetic.symbol : Arithmetic → String
  | add => "+"
  | subtract => "-"
  | multiply => "*"
  | divide => "/"

def Decimal.Undefined.toError : Decimal.Undefined → Error
  | invalid => .foreign .arithmetic "[<class 'decimal.InvalidOperation'>]"
  | zeroByZero => .foreign .arithmetic "[<class 'decimal.DivisionUndefined'>]"
  | byZero => .foreign .decimalDivision "[<class 'decimal.DivisionByZero'>]"
  | overflow => .foreign .decimalOverflow "[<class 'decimal.Overflow'>]"

namespace Numeral

def toValue : Numeral → Value
  | int n => .int n
  | double d => .double d
  | decimal d => .decimal d

/-- The number that a value is, true and false counting as one and zero. -/
def ofValue? : Value → Option Numeral
  | .int n => some (int n)
  | .bool b => some (int (if b then 1 else 0))
  | .double d => some (double d)
  | .decimal d => some (decimal d)
  | _ => none

def magnitude : Numeral → Value.Magnitude
  | int n => .finite n
  | double .nan | decimal (.nan ..) => .nan
  | double (.infinite s) | decimal (.infinite s) => .infinite s
  | double d => .finite (d.toRat?.getD 0)
  | decimal d => .finite (d.comparable?.getD 0)

def isDecimal : Numeral → Bool
  | decimal _ => true
  | _ => false

/-- Whether a number is at most another. Not-a-number compares with nothing, and among decimals it
cannot be compared at all. -/
def isAtMost (a b : Numeral) : Result Bool :=
  if (a.isDecimal || b.isDecimal) && (a.magnitude == .nan || b.magnitude == .nan) then
    .error Decimal.Undefined.invalid.toError
  else .ok (a.magnitude.le b.magnitude)

/-- An integer as a double, if it is not too large. -/
def doubleOfInt (n : Int) : Result Double :=
  let d := Double.ofInt n
  if d.isFinite then .ok d else .error (.foreign .overflow "int too large to convert to float")

def onInts (op : Arithmetic) (m n : Int) : Result Numeral :=
  match op with
  | .add => .ok (int (m + n))
  | .subtract => .ok (int (m - n))
  | .multiply => .ok (int (m * n))
  | .divide =>
    if n = 0 then .error (.foreign .division "division by zero")
    else match Double.quotient? m n with
      | some d => .ok (double d)
      | none => .error (.foreign .overflow "integer division result too large for a float")

def onDoubles (op : Arithmetic) (a b : Double) : Result Numeral :=
  match op with
  | .add => .ok (double (a.add b))
  | .subtract => .ok (double (a.add b.negate))
  | .multiply => .ok (double (a.multiply b))
  | .divide =>
    match b with
    | .finite _ 0 _ => .error (.foreign .division "float division by zero")
    | b => .ok (double (a.divide b))

def onDecimals (op : Arithmetic) (a b : Decimal) : Result Numeral :=
  let r := match op with
    | .add => a.add b
    | .subtract => a.subtract b
    | .multiply => a.multiply b
    | .divide => a.divide b
  match r with
  | .ok d => .ok (decimal d)
  | .error u => .error u.toError

def decimalOfInt (n : Int) : Decimal :=
  .finite (n < 0) n.natAbs 0

/-- The result of an operation, unless the kinds of its operands do not mix. -/
def combine? (op : Arithmetic) : Numeral → Numeral → Option (Result Numeral)
  | int m, int n => some (onInts op m n)
  | int m, double b => some do onDoubles op (← doubleOfInt m) b
  | double a, int n => some do onDoubles op a (← doubleOfInt n)
  | double a, double b => some (onDoubles op a b)
  | decimal a, decimal b => some (onDecimals op a b)
  | decimal a, int n => some (onDecimals op a (decimalOfInt n))
  | int m, decimal b => some (onDecimals op (decimalOfInt m) b)
  | decimal _, double _ | double _, decimal _ => none

end Numeral

namespace Argument

def ofInt (n : Int) : Argument :=
  .value (.int n)

/-- The integer that an argument is. Truth values are none. -/
def int? : Argument → Option Int
  | value (.int n) => some n
  | _ => none

def numeral? : Argument → Option Numeral
  | value v => Numeral.ofValue? v
  | _ => none

/-! ## Comparing -/

/-- Operands that cannot be compared. -/
def incomparable (symbol : String) (a b : Argument) : Error :=
  .foreign .type ("'" ++ symbol ++ "' not supported between instances of '" ++ a.qualifiedTypeName
    ++ "' and '" ++ b.qualifiedTypeName ++ "'")

def comparing (symbol : String) (compare : Numeral → Numeral → Result Bool) (a b : Argument) :
    Result Bool :=
  match a.numeral?, b.numeral? with
  | some x, some y => compare x y
  | _, _ => .error (incomparable symbol a b)

/-- Whether a number is below another. -/
def isBelow : Argument → Argument → Result Bool :=
  comparing "<" fun a b => do return (← a.isAtMost b) && !(← b.isAtMost a)

def isAtMost : Argument → Argument → Result Bool :=
  comparing "<=" Numeral.isAtMost

def isAtLeast : Argument → Argument → Result Bool :=
  comparing ">=" fun a b => b.isAtMost a

/-- Whether a number is above another. -/
def isAbove : Argument → Argument → Result Bool :=
  comparing ">" fun a b => do return (← b.isAtMost a) && !(← a.isAtMost b)

/-! ## Calculating -/

/-- Operands that an operation does not have. -/
def unsupported (op : Arithmetic) (a b : Argument) : Error :=
  .foreign .type ("unsupported operand type(s) for " ++ op.symbol ++ ": '" ++ a.qualifiedTypeName
    ++ "' and '" ++ b.qualifiedTypeName ++ "'")

/-- Repeated text, bytes or lists. -/
def repeated? : Argument → Option (Nat → Argument)
  | value (.text s) => some fun n => text (String.join (List.replicate n s))
  | word w => some fun n => text (String.join (List.replicate n w.text))
  | value (.bytes .view _) => none
  | value (.bytes kind data) =>
    some fun n => value (.bytes kind (List.replicate n data).flatten)
  | list items => some fun n => list (List.replicate n items).flatten
  | tuple items => some fun n => tuple (List.replicate n items).flatten
  | value (.list items) => some fun n => value (.list (List.replicate n items).flatten)
  | value (.tuple items) => some fun n => value (.tuple (List.replicate n items).flatten)
  | _ => none

/-- The most times that anything is repeated. -/
def maxRepetitions : Int := Nat.pow 10 7

/-- Something repeated a number of times, not at all if the number is negative. -/
def times (make : Nat → Argument) (count : Argument) : Result Argument :=
  match count.numeral? with
  | some (.int n) =>
    if n ≤ maxRepetitions then .ok (make n.toNat)
    else .error (.foreign .overflow "cannot fit 'int' into an index-sized integer")
  | _ => .error (.foreign .type
      ("can't multiply sequence by non-int of type '" ++ count.qualifiedTypeName ++ "'"))

/-- The error of a sum whose first term is no number. -/
def notAppended (a b : Argument) : Error :=
  let toSame (type : String) : Error :=
    .foreign .type
      ("can only concatenate " ++ type ++ " (not \"" ++ b.qualifiedTypeName ++ "\") to " ++ type)
  match a with
  | value (.text _) | word _ => toSame "str"
  | list _ | value (.list _) => toSame "list"
  | tuple _ | value (.tuple _) => toSame "tuple"
  | value (.bytes .fixed _) | value (.bytes .growable _) =>
    .foreign .type ("can't concat " ++ b.qualifiedTypeName ++ " to " ++ a.typeName)
  | a => unsupported .add a b

/-- The result of an operation whose operands are not both numbers of kinds that mix. -/
def applyOthers (op : Arithmetic) (a b : Argument) : Result Argument :=
  match op, a.repeated?, b.repeated? with
  | .multiply, some make, _ => times make b
  | .multiply, none, some make => times make a
  | .add, _, _ => .error (notAppended a b)
  | op, _, _ => .error (unsupported op a b)

def apply (op : Arithmetic) (a b : Argument) : Result Argument :=
  match a.numeral?, b.numeral? with
  | some x, some y => match x.combine? op y with
    | some r => r.map fun n => value n.toValue
    | none => .error (unsupported op a b)
  | _, _ => applyOthers op a b

def plus : Argument → Argument → Result Argument := apply .add

def minus : Argument → Argument → Result Argument := apply .subtract

def multiply : Argument → Argument → Result Argument := apply .multiply

def dividedBy : Argument → Argument → Result Argument := apply .divide

/-- A number with its sign turned. -/
def negate : Argument → Result Value
  | value v => v.negate
  | a => .error (.foreign .type ("bad operand type for unary -: '" ++ a.qualifiedTypeName ++ "'"))

/-- The least integer that is not below a number. -/
def ceiling (a : Argument) : Result Int :=
  let infinite (what : String) : Result Int :=
    .error (.foreign .overflow ("cannot convert " ++ what ++ " to integer"))
  let undefined (what : String) : Result Int :=
    .error (.foreign .value ("cannot convert " ++ what ++ " to integer"))
  match a.numeral? with
  | some (.int n) => .ok n
  | some (.double .nan) => undefined "float NaN"
  | some (.double d) => d.ceiling?.elim (infinite "float infinity") .ok
  | some (.decimal (.nan ..)) => undefined "NaN"
  | some (.decimal d) => d.ceiling?.elim (infinite "Infinity") .ok
  | none => .error (.foreign .type ("must be real number, not " ++ a.typeName))

end Argument

end SqlQuery
