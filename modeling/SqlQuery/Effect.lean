import SqlQuery.Error

/-!
Effects: computations that may fail and that work on a state. What an effect did to the state
before it failed stays done.
-/

namespace SqlQuery

/-- A computation on a state that may fail. What it did before it failed stays done. -/
abbrev Effect (σ α : Type) := ExceptT Error (StateM σ) α

namespace Effect

variable {σ τ α : Type}

/-- A result as an effect that does nothing else. -/
def ofResult (r : Result α) : Effect σ α :=
  match r with
  | .ok x => return x
  | .error e => throw e

def attempt (x : Effect σ α) : Effect σ (Result α) :=
  ExceptT.mk do return .ok (← x.run)

/-- An effect with another after it, which takes place whether or not the first fails. If the second
fails, its failure takes the place of the first one's result. -/
def andThen (x : Effect σ α) (after : Effect σ Unit) : Effect σ α := do
  let result ← attempt x
  after
  ofResult result

def onPart (part : τ → σ) (put : σ → τ → τ) (x : Effect σ α) : Effect τ α :=
  ExceptT.mk do
    let s ← get
    let (result, p) := x.run.run (part s)
    set (put p s)
    return result

end Effect

end SqlQuery
