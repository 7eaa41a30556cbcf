import SqlQuery.Argument.Arithmetic
import SqlQuery.Argument.Operand
import SqlQuery.Layer.Limiter

/-!
How long to wait for a slot, from operands of any type.

Operands are taken as they come, and only a wait shows that one is unfit: first the time, which must
be a number that can be added to the clock, then the event.
-/

namespace SqlQuery.Wait

/-- Seconds on the clock, or nothing for null. -/
def secondsOf (timeout : Argument) : Result (Option Double) :=
  match timeout with
  | .value .null => .ok none
  | timeout => do
    match ← (Argument.value (.double (.zero false))).plus timeout with
    | .value (.double d) => return some d
    | _ => return none

def signalOf (signal : Argument) (isSet : Bool) : Result Bool :=
  match signal with
  | .value .null => .ok false
  | .event => .ok isSet
  | a => .error (a.lacks "is_set")

/-- The wait for a time and a signal, which may be the cancel event. -/
def of (timeout signal : Argument) (isSet : Bool) : Wait :=
  let wait : Result Wait := do
    return { timeout := ← secondsOf timeout, cancelled := ← signalOf signal isSet }
  match wait with
  | .ok w => w
  | .error e => { fault := some e }

end SqlQuery.Wait
