import SqlQuery.Error

/-!
A limit on how many statements run at once.

A slot is taken if one is free. Otherwise the wait ends when its time is over, or at once if the
caller has given up. Here nobody else gives a slot back while a caller waits, so a wait without a
free slot always ends in vain.
-/

namespace SqlQuery

/-- Slots: how many there are, how many are free, and how many are reported to be in use. The last
two part ways only when a slot is given back that nobody held. -/
structure Limiter where
  capacity : Nat
  free : Nat
  inFlight : Int := 0
  deriving DecidableEq, Repr

/-- How a caller waits for a slot. -/
structure Wait where
  /-- Seconds to wait; without it a caller waits as long as it takes. -/
  timeout : Option Double := none
  /-- Whether the caller has given up already. -/
  cancelled : Bool := false
  /-- Why the wait cannot even begin. -/
  fault : Option Error := none
  deriving Repr

namespace Limiter

/-- A limiter with all slots free. There must be one slot at least. -/
def make (capacity : Int) : Result Limiter :=
  if capacity < 1 then .error (.foreign .value "max_concurrent must be >= 1")
  else .ok { capacity := capacity.toNat, free := capacity.toNat }

/-- The least time that a clock tells from none, in seconds. -/
def tick : Rat := 1 / 100000000

/-- Whether a time to wait is over before it begins. -/
def isOver : Option Double → Bool
  | some (.infinite negative) => negative
  | some d => d.toRat?.any (· < tick)
  | none => false

def acquire (l : Limiter) (w : Wait) : Result Limiter :=
  match w.fault with
  | some e => .error e
  | none =>
    if w.cancelled then .error (.cancelled .signalled)
    else if isOver w.timeout || l.free = 0 then .error (.cancelled .timedOut)
    else .ok { l with free := l.free - 1, inFlight := l.inFlight + 1 }

/-- Gives a slot back. A slot that nobody held is an error, and is taken off the count all the
same. -/
def release (l : Limiter) : Limiter × Result Unit :=
  let l := { l with inFlight := l.inFlight - 1 }
  if l.free < l.capacity then ({ l with free := l.free + 1 }, .ok ())
  else (l, .error (.foreign .value "Semaphore released too many times"))

end Limiter

end SqlQuery
