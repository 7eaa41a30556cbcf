import SqlQuery.Error

/-!
Named connections, one of which is the default.

The first connection that is added becomes the default, and so does every one that is added as
such. When the default is removed, the connection that was added earliest takes its place.
-/

namespace SqlQuery

/-- Connections under their names, in the order in which they were added. -/
structure Connections (α : Type) where
  entries : List (String × α) := []
  default : Option String := none
  deriving Repr

namespace Connections

variable {α : Type}

def names (c : Connections α) : List String :=
  c.entries.map (·.1)

def contains (c : Connections α) (name : String) : Bool :=
  (c.entries.lookup name).isSome

def add (c : Connections α) (name : String) (x : α) (asDefault : Bool) :
    Result (Connections α) :=
  if c.contains name then .error (.configuration (.duplicateName name))
  else .ok
    { entries := c.entries ++ [(name, x)]
      default := if asDefault || c.default.isNone then some name else c.default }

/-- The connection of a name, or the default. -/
def get (c : Connections α) (name : Option String) : Result α :=
  match name.or c.default with
  | none => .error (.configuration .noConnections)
  | some key =>
    match c.entries.lookup key with
    | some x => .ok x
    | none => .error (.configuration (.unknownName (.text key)))

def remove (c : Connections α) (name : String) : Result (α × Connections α) := do
  let x ← c.get (some name)
  let entries := c.entries.filter (·.1 != name)
  let default :=
    if c.default = some name then (entries.head?).map (·.1) else c.default
  return (x, { entries, default })

end Connections

end SqlQuery
