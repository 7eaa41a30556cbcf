/-!
Calls with positional and named arguments, and how they are matched with parameters.
-/

namespace SqlQuery

/-- The arguments of a call. -/
structure Call (α : Type) where
  positional : List α
  named : List (String × α) := []
  deriving Repr

/-- A parameter: its name, and what it is if the call leaves it out. -/
structure Param (α : Type) where
  name : String
  default : Option α := none
  deriving Repr

namespace Call

variable {α : Type}

/-- The argument of the `i`-th parameter, by its place or by its name. -/
def arg? (c : Call α) (i : Nat) (name : String) : Option α :=
  c.positional[i]?.or (c.named.lookup name)

/-- The arguments in the order of the parameters, the first of which has the number `i`. -/
def bindFrom (c : Call α) (i : Nat) : List (Param α) → List (Option α)
  | [] => []
  | p :: ps => (c.arg? i p.name).or p.default :: bindFrom c (i + 1) ps

/-- The arguments in the order of the parameters. What is left out and has no default is
`none`. -/
def bind (c : Call α) (params : List (Param α)) : List (Option α) :=
  c.bindFrom 0 params

end Call

/-- Parameters without defaults. -/
def paramsOf {α : Type} (names : List String) : List (Param α) :=
  names.map fun name => { name }

end SqlQuery
