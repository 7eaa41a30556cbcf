import SqlQuery.Answer
import SqlQuery.Script.Form

/-!
Things worked on step by step. A step has a name and operands; it changes the thing and shows an
answer.
-/

namespace SqlQuery

/-- What the steps of a thing do, by their names. -/
abbrev Stepper (σ : Type) := String → Call Term → StateM σ Shown

def Shown.unknownStep (name : String) : Shown :=
  failed (.foreign .missingAttribute name)

namespace Call

/-- The value of an operand, null if it is left out. -/
def dataAt (c : Call Term) (i : Nat) : Value :=
  ((c.positional[i]?).map Term.data).getD .null

def operand? (c : Call Term) (i : Nat) (name : String) : Option Term :=
  c.positional[i]?.or (c.named.lookup name)

/-- The text of an operand, empty if it is none. -/
def textAt (c : Call Term) (i : Nat) : String :=
  match c.dataAt i with
  | .text s => s
  | _ => ""

/-- The number of an operand that may be left out. -/
def countAt? (c : Call Term) (i : Nat) : Option Nat :=
  match c.dataAt i with
  | .int n => some n.toNat
  | _ => none

def valuesAt (c : Call Term) (i : Nat) : Result (List Value) :=
  (Argument.value (c.dataAt i)).asValues

def rowsAt (c : Call Term) (i : Nat) : Result (List Row) := do
  (← (Argument.value (c.dataAt i)).parts).mapM Argument.toRow

/-- The error that an operand spells out by its kind and its text, if it is given. -/
def errorAt? (c : Call Term) (i : Nat) : Option Error :=
  match c.dataAt i with
  | .list [.text kind, .text text] => Error.ofText? kind text
  | _ => none

/-- The call without its first operands. -/
def drop {α : Type} (c : Call α) (n : Nat) : Call α :=
  { c with positional := c.positional.drop n }

end Call

end SqlQuery
