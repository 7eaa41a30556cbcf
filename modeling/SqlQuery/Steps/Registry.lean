import SqlQuery.Dialect.Registry
import SqlQuery.Steps.Basic

/-!
Registered dialects step by step.
-/

namespace SqlQuery.Registry

/-- The name that a step registers. Only a text can be one. -/
def nameOf (call : Call Term) : Result String :=
  match call.dataAt 0 with
  | .text name => .ok name
  | v => .error (.foreign .missingAttribute
      ("'" ++ v.qualifiedTypeName ++ "' object has no attribute 'lower'"))

/-- The steps, with the dialects that can be registered by name. -/
def step (dialectOf : String → Dialect) : Stepper Registry := fun name call => do
  match name with
  | "register" =>
    match nameOf call with
    | .error e => return .failed e
    | .ok name =>
      modify fun r => r.register name (dialectOf (call.textAt 1))
      return .of .null
  | "create" =>
    let registry ← get
    return .ofResult (fun d => .text d.name) (registry.findNamed (call.dataAt 0))
  | "targets" => return .of (.list .text (← get).names)
  | name => return .unknownStep name

end SqlQuery.Registry
