import SqlQuery.Proofs.Slots
import SqlQuery.Steps.Layers

/-!
# Accounts of slots

A limiter is asked for slots and given slots back in any order, also by callers who hold none. What
became of the slots is told by the history of the calls: how many were taken, how many came back,
and how often one was given back that nobody held (`SlotHistory.overdrawn`).

The free slots are those that were not taken or have come back, whatever was overdrawn. The number
of slots in use is not kept as well: `Limiter.release` takes one off before it knows whether a slot
was held, so each overdraft stays in the number for good (`HeldLimiter.slots_balance`).
-/

namespace SqlQuery

namespace SlotCall

/-- Whether a call takes a slot. All others give one back. -/
def takes : SlotCall → Bool
  | acquire _ | enter _ => true
  | release | leave => false

end SlotCall

/-- The failure of a release when no slot is in use. -/
def Limiter.overdraft : Error :=
  .foreign .value "Semaphore released too many times"

/-- Calls and what they answered, the earliest first. -/
abbrev SlotHistory := List (SlotCall × Result Unit)

namespace SlotHistory

/-- Whether a slot was given back that nobody held. -/
def isOverdraft (event : SlotCall × Result Unit) : Bool :=
  !event.1.takes && match event.2 with
    | .error (.foreign .value _) => true
    | _ => false

def taken (h : SlotHistory) : Nat :=
  h.countP fun event => event.1.takes && event.2.isOk

def returned (h : SlotHistory) : Nat :=
  h.countP fun event => !event.1.takes && event.2.isOk

def overdrawn (h : SlotHistory) : Nat :=
  h.countP isOverdraft

section Concat

variable (h : SlotHistory) {call : SlotCall}

theorem counts_taken (takes : call.takes = true) :
    taken (h ++ [(call, .ok ())]) = h.taken + 1 ∧ returned (h ++ [(call, .ok ())]) = h.returned
      ∧ overdrawn (h ++ [(call, .ok ())]) = h.overdrawn := by
  simp [taken, returned, overdrawn, isOverdraft, takes, Except.isOk, Except.toBool]

theorem counts_returned (gives : call.takes = false) :
    taken (h ++ [(call, .ok ())]) = h.taken ∧ returned (h ++ [(call, .ok ())]) = h.returned + 1
      ∧ overdrawn (h ++ [(call, .ok ())]) = h.overdrawn := by
  simp [taken, returned, overdrawn, isOverdraft, gives, Except.isOk, Except.toBool]

theorem counts_failed (call : SlotCall) (err : Error) :
    taken (h ++ [(call, .error err)]) = h.taken ∧ returned (h ++ [(call, .error err)]) = h.returned
      ∧ overdrawn (h ++ [(call, .error err)])
        = h.overdrawn + if isOverdraft (call, .error err) then 1 else 0 := by
  simp [taken, returned, overdrawn, List.countP_singleton, Except.isOk, Except.toBool]

end Concat

theorem isOverdraft_of_takes {call : SlotCall} (takes : call.takes = true)
    (outcome : Result Unit) : isOverdraft (call, outcome) = false := by
  simp [isOverdraft, takes]

theorem isOverdraft_overdraft {call : SlotCall} (gives : call.takes = false) :
    isOverdraft (call, .error Limiter.overdraft) = true := by
  simp [isOverdraft, gives, Limiter.overdraft]

end SlotHistory

namespace HeldLimiter

/-- What one call can come to. -/
inductive Turn (x : HeldLimiter) : SlotCall → Result Unit → HeldLimiter → Prop
  | taken {call : SlotCall} (takes : call.takes = true) (free : 0 < x.limiter.free) (held : Nat) :
    Turn x call (.ok ())
      ⟨{ x.limiter with free := x.limiter.free - 1, inFlight := x.limiter.inFlight + 1 }, held⟩
  | returned {call : SlotCall} (gives : call.takes = false)
      (used : x.limiter.free < x.limiter.capacity) (held : Nat) :
    Turn x call (.ok ())
      ⟨{ x.limiter with free := x.limiter.free + 1, inFlight := x.limiter.inFlight - 1 }, held⟩
  | overdrawn {call : SlotCall} (gives : call.takes = false)
      (unused : x.limiter.capacity ≤ x.limiter.free) (held : Nat) :
    Turn x call (.error Limiter.overdraft)
      ⟨{ x.limiter with inFlight := x.limiter.inFlight - 1 }, held⟩
  | refused {call : SlotCall} (takes : call.takes = true) (err : Error) :
    Turn x call (.error err) x
  | absent (outside : x.held = 0) :
    Turn x .leave (.error (.foreign .index "pop from empty list")) x

section Turn

variable {x : HeldLimiter} {call : SlotCall}

/-- A slot that is asked for was free and is had, or nothing is changed. -/
theorem run_take (x : HeldLimiter) (wait : Wait) :
    (0 < x.limiter.free ∧ (take wait).run x = (.ok (), { x with
      limiter.free := x.limiter.free - 1, limiter.inFlight := x.limiter.inFlight + 1 }))
    ∨ ∃ err, (take wait).run x = (.error err, x) := by
  unfold take
  cases hacquire : x.limiter.acquire wait with
  | ok l =>
    obtain ⟨hfree, rfl⟩ := Limiter.acquire_eq_ok hacquire
    refine .inl ⟨hfree, ?_⟩
    simp only [StateT.run_bind, StateT.run_get, pure_bind, hacquire]
    rfl
  | error err =>
    refine .inr ⟨err, ?_⟩
    simp only [StateT.run_bind, StateT.run_get, pure_bind, hacquire]
    rfl

/-- A slot is given back if one is in use, and is taken off the number of slots in use in any
case. -/
theorem turn_give (gives : call.takes = false) (held : Nat) :
    Turn x call (give.run { x with held }).1 (give.run { x with held }).2 := by
  by_cases hused : x.limiter.free < x.limiter.capacity
  · have hrun : give.run { x with held } = (.ok (), ⟨{ x.limiter with
        free := x.limiter.free + 1, inFlight := x.limiter.inFlight - 1 }, held⟩) := by
      simp only [give, Limiter.release, StateT.run_bind, StateT.run_get, pure_bind, hused, if_true]
      rfl
    rw [hrun]
    exact .returned gives hused held
  · have hrun : give.run { x with held } = (.error Limiter.overdraft,
        ⟨{ x.limiter with inFlight := x.limiter.inFlight - 1 }, held⟩) := by
      simp only [give, Limiter.release, StateT.run_bind, StateT.run_get, pure_bind, hused, if_false]
      rfl
    rw [hrun]
    exact .overdrawn gives (Nat.le_of_not_lt hused) held

/-- **Every call is a turn.** -/
theorem turn (x : HeldLimiter) (call : SlotCall) :
    Turn x call ((perform call).run x).1 ((perform call).run x).2 := by
  cases call with
  | acquire wait =>
    obtain ⟨hfree, hrun⟩ | ⟨err, hrun⟩ := run_take x wait
    · simp only [perform, hrun]
      exact .taken rfl hfree x.held
    · simp only [perform, hrun]
      exact .refused rfl err
  | release => exact turn_give rfl x.held
  | enter wait =>
    obtain ⟨hfree, hrun⟩ | ⟨err, hrun⟩ := run_take x wait
    · simp only [perform, StateT.run_bind, hrun]
      exact .taken rfl hfree (x.held + 1)
    · simp only [perform, StateT.run_bind, hrun]
      exact .refused rfl err
  | leave =>
    by_cases hheld : x.held = 0
    · have hrun : (perform .leave).run x
          = (.error (.foreign .index "pop from empty list"), x) := by
        simp only [perform, StateT.run_bind, StateT.run_get, pure_bind, hheld, if_true]
        rfl
      rw [hrun]
      exact .absent hheld
    · have hrun : (perform .leave).run x = give.run { x with held := x.held - 1 } := by
        simp [perform, hheld]
      rw [hrun]
      exact turn_give rfl _

end Turn

/-! ## Runs -/

/-- A limiter after calls. -/
def after (x : HeldLimiter) (calls : List SlotCall) : HeldLimiter :=
  calls.foldl (fun x call => ((perform call).run x).2) x

/-- The calls with their answers. -/
def history (x : HeldLimiter) : List SlotCall → SlotHistory
  | [] => []
  | call :: calls => (call, ((perform call).run x).1) :: ((perform call).run x).2.history calls

/-- What a history of calls leaves of so many slots. -/
structure Balanced (x : HeldLimiter) (capacity : Nat) (h : SlotHistory) : Prop where
  capacity_eq : x.limiter.capacity = capacity
  free_add : x.limiter.free + h.taken = capacity + h.returned
  free_le : x.limiter.free ≤ capacity
  inFlight_eq : x.limiter.inFlight = (h.taken : Int) - h.returned - h.overdrawn

variable {x y : HeldLimiter} {capacity : Nat} {h : SlotHistory} {call : SlotCall}
  {outcome : Result Unit}

theorem balanced_of_make {m : Int} {l : Limiter} (hmake : Limiter.make m = .ok l) :
    Balanced ⟨l, 0⟩ m.toNat [] := by
  obtain ⟨-, hcapacity, hfree, hinFlight⟩ := Limiter.holds_of_make hmake
  exact ⟨hcapacity, hfree, Nat.le_of_eq hfree, hinFlight⟩

/-- Every turn is entered in the account. -/
theorem Balanced.enter (hx : Balanced x capacity h) (ht : Turn x call outcome y) :
    Balanced y capacity (h ++ [(call, outcome)]) := by
  obtain ⟨hcapacity, hadd, hle, hinFlight⟩ := hx
  cases ht with
  | taken takes free held =>
    obtain ⟨htaken, hreturned, hoverdrawn⟩ := h.counts_taken takes
    constructor <;> simp only [htaken, hreturned, hoverdrawn] <;> omega
  | returned gives used held =>
    obtain ⟨htaken, hreturned, hoverdrawn⟩ := h.counts_returned gives
    constructor <;> simp only [htaken, hreturned, hoverdrawn] <;> omega
  | overdrawn gives unused held =>
    obtain ⟨htaken, hreturned, hoverdrawn⟩ := h.counts_failed call Limiter.overdraft
    rw [if_pos (SlotHistory.isOverdraft_overdraft gives)] at hoverdrawn
    constructor <;> simp only [htaken, hreturned, hoverdrawn] <;> omega
  | refused takes err =>
    obtain ⟨htaken, hreturned, hoverdrawn⟩ := h.counts_failed call err
    rw [SlotHistory.isOverdraft_of_takes takes] at hoverdrawn
    exact ⟨hcapacity, by omega, hle, by simp [htaken, hreturned, hoverdrawn, hinFlight]⟩
  | absent outside =>
    obtain ⟨htaken, hreturned, hoverdrawn⟩ :=
      h.counts_failed .leave (.foreign .index "pop from empty list")
    exact ⟨hcapacity, by omega, hle, by simp [htaken, hreturned, hoverdrawn, hinFlight,
      SlotHistory.isOverdraft]⟩

theorem Balanced.run (hx : Balanced x capacity h) (calls : List SlotCall) :
    Balanced (x.after calls) capacity (h ++ x.history calls) := by
  induction calls generalizing x h with
  | nil => simpa [after, history] using hx
  | cons call calls ih =>
    have hrest := ih (hx.enter (turn x call))
    rw [List.append_assoc] at hrest
    exact hrest

/-- A call that fails leaves everything as it was, unless it gives back a slot while none is in use.
Then it takes one off the number of slots in use. -/
theorem Balanced.failed (hx : Balanced x capacity h) {err : Error}
    (ht : Turn x call (.error err) y) :
    if SlotHistory.isOverdraft (call, .error err) then
      h.taken = h.returned ∧ y.limiter = { x.limiter with inFlight := x.limiter.inFlight - 1 }
    else y = x := by
  obtain ⟨hcapacity, hadd, hle, hinFlight⟩ := hx
  cases ht with
  | overdrawn gives unused held =>
    rw [if_pos (SlotHistory.isOverdraft_overdraft gives)]
    exact ⟨by omega, rfl⟩
  | refused takes err => simp [SlotHistory.isOverdraft_of_takes takes]
  | absent outside => simp [SlotHistory.isOverdraft]

/-- A release succeeds if some slot is in use. -/
theorem Balanced.released_iff (hx : Balanced x capacity h) (ht : Turn x .release outcome y) :
    outcome = .ok () ↔ h.returned < h.taken := by
  obtain ⟨hcapacity, hadd, hle, hinFlight⟩ := hx
  cases ht with
  | taken takes => cases takes
  | returned gives used held => simp only [true_iff]; omega
  | overdrawn gives unused held => simp only [reduceCtorEq, false_iff]; omega
  | refused takes => cases takes

/-- **The free slots are kept, the number of slots in use is not.** After any calls on a limiter
with `m` slots, by holders or not:

* the free slots are those that were not taken or have come back, none to `m` of them;
* the number of slots in use is that of the slots taken, less those that came back, less one for
  each slot that was given back when nobody held one; it is `m` at most;
* so this number is in its range, and adds up to `m` with the free slots, exactly if no slot that
  nobody held was given back so far;
* a call that fails changes nothing, unless it gives back a slot that nobody holds: then all slots
  are free, they stay so, and the number of slots in use becomes one less;
* a release succeeds exactly if more slots were taken than have come back. -/
theorem slots_balance (m : Int) (l : Limiter) (hmake : Limiter.make m = .ok l)
    (calls : List SlotCall) :
    let x := after ⟨l, 0⟩ calls
    let h := history ⟨l, 0⟩ calls
    (x.limiter.free : Int) = m - (h.taken - h.returned)
    ∧ (x.limiter.free : Int) ≤ m
    ∧ x.limiter.inFlight = h.taken - h.returned - h.overdrawn
    ∧ x.limiter.inFlight ≤ m
    ∧ (0 ≤ x.limiter.inFlight ∧ x.limiter.inFlight ≤ m ∧ x.limiter.inFlight + x.limiter.free = m
        ↔ h.overdrawn = 0)
    ∧ (∀ call err, ((perform call).run x).1 = .error err →
        if SlotHistory.isOverdraft (call, .error err) then
          h.taken = h.returned ∧ ((perform call).run x).2.limiter
            = { x.limiter with inFlight := x.limiter.inFlight - 1 }
        else ((perform call).run x).2 = x)
    ∧ (((perform .release).run x).1 = .ok () ↔ h.returned < h.taken) := by
  intro x h
  obtain ⟨hone, -⟩ := Limiter.holds_of_make hmake
  have hx : Balanced x m.toNat h := (balanced_of_make hmake).run calls
  have ⟨hcapacity, hadd, hle, hinFlight⟩ := hx
  refine ⟨by omega, by omega, hinFlight, by omega, by omega, ?_, hx.released_iff (turn x _)⟩
  intro call err herr
  have ht := turn x call
  rw [herr] at ht
  exact hx.failed ht

/-- A slot that nobody holds is given back; then one is taken and comes back, a block that was never
entered is left, and a block is entered. -/
def overdrawnCalls : List SlotCall :=
  [.release, .acquire {}, .release, .leave, .enter {}]

/-- The one slot is in use, and none is reported. -/
theorem overdrawnCalls_balance :
    let x := after ⟨{ capacity := 1, free := 1 }, 0⟩ overdrawnCalls
    Limiter.make 1 = .ok { capacity := 1, free := 1 }
    ∧ x.limiter.free = 0 ∧ x.limiter.inFlight = 0
    ∧ ((perform .release).run x).1 = .ok () := by
  intro x
  have hmake : Limiter.make 1 = .ok { capacity := 1, free := 1 } := rfl
  have htaken : (history ⟨{ capacity := 1, free := 1 }, 0⟩ overdrawnCalls).taken = 2 := by
    decide +kernel
  have hreturned : (history ⟨{ capacity := 1, free := 1 }, 0⟩ overdrawnCalls).returned = 1 := by
    decide +kernel
  have hoverdrawn : (history ⟨{ capacity := 1, free := 1 }, 0⟩ overdrawnCalls).overdrawn = 1 := by
    decide +kernel
  obtain ⟨hfree, -, hinFlight, -, -, -, hrelease⟩ := slots_balance 1 _ hmake overdrawnCalls
  rw [htaken, hreturned] at hfree hrelease
  rw [htaken, hreturned, hoverdrawn] at hinFlight
  have hnone : (x.limiter.free : Int) = 0 := hfree
  exact ⟨hmake, Int.natCast_eq_zero.1 hnone, hinFlight, hrelease.2 (by decide)⟩

/-- A release when no slot is in use fails and leaves the number of slots in use below zero. -/
theorem release_unheld_miscounts :
    let x : HeldLimiter := ⟨{ capacity := 1, free := 1 }, 0⟩
    Limiter.make 1 = .ok x.limiter
    ∧ (perform .release).run x
      = (.error Limiter.overdraft, ⟨{ capacity := 1, free := 1, inFlight := -1 }, 0⟩) :=
  ⟨rfl, rfl⟩

end HeldLimiter

end SqlQuery
