import SqlQuery.Argument.Arithmetic
import SqlQuery.Argument.Operand
import SqlQuery.Script.Call

/-!
Forms: what is called by name, with parameters, and makes something of the arguments.
-/

namespace SqlQuery

/-- What a call makes of its arguments, which are given in the order of the parameters. -/
structure Form (α : Type) where
  params : List (Param Argument) := []
  read : (Nat → Argument) → Result α

namespace Form

variable {α β : Type}

/-- What a call makes. An argument that is left out and has no default is null. -/
def call (form : Form α) (c : Call Argument) : Result α :=
  let args := c.bind form.params
  form.read fun i => ((args[i]?).getD none).getD .null

def of (names : List String) (read : (Nat → Argument) → Result α) : Form α :=
  ⟨paramsOf names, read⟩

/-- A form without parameters. -/
def constant (x : α) : Form α :=
  ⟨[], fun _ => .ok x⟩

def map (f : α → β) (form : Form α) : Form β :=
  ⟨form.params, fun a => do return f (← form.read a)⟩

end Form

/-- A parameter with a value that it has if it is left out. -/
def optional (name : String) (default : Value) : Param Argument :=
  ⟨name, some (.value default)⟩

/-! ## Reading operands -/

namespace Argument

def asValues (a : Argument) : Result (List Value) := do
  return toValues (← a.parts)

def ofTexts (texts : List String) : Argument :=
  .list (texts.map text)

end Argument

end SqlQuery
