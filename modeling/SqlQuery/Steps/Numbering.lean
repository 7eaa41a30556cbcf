import SqlQuery.Statement
import SqlQuery.Steps.Basic

/-!
Placeholders step by step: values are bound one after the other and take the placeholders of their
dialect in that order.
-/

namespace SqlQuery

/-- The values that are bound so far. -/
structure Numbering where
  dialect : Dialect
  values : List Value := []

namespace Numbering

/-- The text of a fragment whose slots take the next placeholders. -/
def render (n : Numbering) (f : Fragment) : String × Numbering :=
  (f.render n.dialect.placeholder n.values.length, { n with values := n.values ++ f.values })

def placeholders (n : Numbering) : List Value → List String × Numbering
  | [] => ([], n)
  | v :: vs =>
    let (first, n) := n.render (.slot v)
    let (rest, n) := n.placeholders vs
    (first :: rest, n)

/-- What a step binds, and the text of its placeholders. -/
def bind (n : Numbering) (name : String) (call : Call Term) : Result (Answer × Numbering) := do
  match name with
  | "add_value" =>
    let (s, n) := n.render (.slot (call.dataAt 0))
    return (.text s, n)
  | "add_values" =>
    let (texts, n) := n.placeholders (← call.valuesAt 0)
    return (.list .text texts, n)
  | "add_raw" =>
    let values ← call.valuesAt 1
    let raw := call.dataAt 0
    let (s, n) := n.render (← Fragment.ofSegments raw (← (Argument.value raw).rawSegments) values)
    return (.text s, n)
  | name => .error (.foreign .missingAttribute name)

/-- Every step shows the values that are bound after it. -/
def step : Stepper Numbering := fun name call => do
  let shown ← match (← get).bind name call with
    | .ok (answer, n) =>
      set n
      pure (Shown.of answer)
    | .error e => pure (Shown.failed e)
  return shown.also "bindings" (.value (.list (← get).values))

end Numbering

end SqlQuery
