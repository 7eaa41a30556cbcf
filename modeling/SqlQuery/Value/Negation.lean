import SqlQuery.Error

/-!
Numbers with their sign turned.
-/

namespace SqlQuery.Value

/-- A number with its sign turned; true and false count as one and zero. -/
def negate : Value → Result Value
  | int n => .ok (int (-n))
  | bool b => .ok (int (if b then -1 else 0))
  | double d => .ok (double d.negate)
  | decimal d =>
    match d.negate? with
    | some d => .ok (decimal d)
    | none => .error (.foreign .arithmetic "[<class 'decimal.InvalidOperation'>]")
  | v => .error (.foreign .type ("bad operand type for unary -: '" ++ v.qualifiedTypeName ++ "'"))

end SqlQuery.Value
