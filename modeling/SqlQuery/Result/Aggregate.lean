import SqlQuery.Result.Column
import SqlQuery.Number.Decimal

/-!
Aggregate results as numbers.

Databases report aggregates as integers, doubles, decimals or as text of any of these. Null is zero
for counts and sums and stays null for the rest; the least and greatest of dates are dates.
-/

namespace SqlQuery

open SqlQuery.Number

def countOfDouble : Double → Result Value
  | .nan => .error (.foreign .value "cannot convert float NaN to integer")
  | .infinite _ => .error (.foreign .overflow "cannot convert float infinity to integer")
  | d => .ok (.int (d.truncate?.getD 0))

/-- A decimal as an integer if it is whole, else as the nearest double. -/
def numberOfDecimal : Decimal → Result Value
  | .nan _ true _ =>
    .error (.foreign .arithmetic "[<class 'decimal.InvalidOperation'>]")
  | .infinite _ => .error (.foreign .overflow "cannot convert Infinity to integer")
  | d =>
    match d.isIntegral, d.truncate? with
    | true, some n => .ok (.int n)
    | _, _ => .ok (.double d.toDouble)

/-- The number that a text stands for, if it is finite. -/
def numberOfText? (function text : String) : Option Value :=
  let text := Text.trim text
  match readInt? text with
  | some n => some (.int n)
  | none =>
    match Decimal.ofText? text with
    | some (.finite s c e) =>
      let d := Decimal.finite s c e
      if function == "COUNT" then d.truncate?.map .int else some (.double d.toDouble)
    | _ => none

/-- An aggregate result as a number. `function` is in upper case; errors name it by `name`. -/
def aggregateOf (function : String) (name value : Value) : Result Value :=
  let wrong (v : Value) : Result Value := .error (.aggregate name v)
  let ofText (s : String) : Result Value :=
    match numberOfText? function s with
    | some v => .ok v
    | none => wrong (.text s)
  let isExtreme := function == "MIN" || function == "MAX"
  match value with
  | .null => .ok (if function == "COUNT" || function == "SUM" then .int 0 else .null)
  | .bool b => wrong (.bool b)
  | .date d => if isExtreme then .ok (.date d) else wrong (.date d)
  | .time t => if isExtreme then .ok (.time t) else wrong (.time t)
  | .moment m => if isExtreme then .ok (.moment m) else wrong (.moment m)
  | .int n => .ok (.int n)
  | .double d => if function == "COUNT" then countOfDouble d else .ok (.double d)
  | .decimal d => numberOfDecimal d
  | .text s => ofText s
  | .bytes kind data =>
    match (Value.bytes kind data).normalize with
    | .text s => ofText s
    | v => wrong v
  | v => wrong v

/-- An aggregate result as a number, for a function named in any case. -/
def normalizeAggregate (function : String) (value : Value) : Result Value :=
  let function := Text.upper function
  aggregateOf function (.text function) value

end SqlQuery
