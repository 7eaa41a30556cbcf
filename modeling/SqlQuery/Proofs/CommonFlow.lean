import SqlQuery.Execution.Write

/-!
# What two operations have in common

`updateOrInsert` and `updateOrCreate` are written one beside the other. Both are one flow, of which
each makes an answer of its own at the end, so what the flow does is proved once for both.
-/

namespace SqlQuery.Engine

open Effect Run

variable {σ : Type}

/-- Sets the values on the rows with the attributes, if there is one, and answers the first of them
as it was found. Otherwise inserts a row with attributes and values and answers nothing. -/
def updateOr (e : Engine σ) (q : Query) (attributes values : Row) : Run σ (Option Row) := do
  let matched ← ofResult (q.matching attributes)
  match ← e.first matched with
  | some row =>
    if !values.isEmpty then
      let _ ← e.update matched values
    return some row
  | none =>
    let _ ← e.insert q (attributes.update values)
    return none

variable (e : Engine σ) (q : Query) (attributes values : Row)

/-- Whether a row was inserted because none had the attributes. -/
theorem updateOrInsert_eq : e.updateOrInsert q attributes values
    = (do return (← e.updateOr q attributes values).isNone) := by
  unfold updateOrInsert updateOr
  simp only [bind_assoc]
  refine congrArg _ (funext fun matched => congrArg _ (funext fun row => ?_))
  cases row with
  | none => simp only [bind_assoc, pure_bind, Option.isNone_none]
  | some row =>
    cases values with
    | nil => rfl
    | cons value rest =>
      simp only [List.isEmpty_cons, Bool.not_false, if_true, bind_assoc, pure_bind,
        Option.isNone_some]

/-- The row that was found, with the values, or the one that was inserted. -/
theorem updateOrCreate_eq : e.updateOrCreate q attributes values = (do
    match ← e.updateOr q attributes values with
    | some row => return row.update values
    | none => return attributes.update values) := by
  unfold updateOrCreate updateOr
  simp only [bind_assoc]
  refine congrArg _ (funext fun matched => congrArg _ (funext fun row => ?_))
  cases row with
  | none => simp only [bind_assoc, pure_bind]
  | some row =>
    cases values with
    | nil => rfl
    | cons value rest =>
      simp only [List.isEmpty_cons, Bool.not_false, if_true, bind_assoc, pure_bind]

end SqlQuery.Engine
