import Mathlib.Algebra.Order.Archimedean.Basic
import Mathlib.Tactic.Linarith
import SqlQuery.Proofs.SlotAccounts

/-!
# Slots that are waited for

A caller who waits for a slot looks again and again: at the event, at the deadline, and then for a
slot, for a twentieth of a second or until the deadline if that is nearer (`Polls`). Meanwhile
others take slots and give them back, and the event may be set.

The order of the three decides what is had at the edges. A time to wait that is not zero is over
only if no slot was free before its end. A time of zero is over at the first look, before anything
was asked of the slots, so a slot that is free is refused (`HeldLimiter.free_slot_granted`). Where
nobody else does anything, all looks find the same, and the loop comes to what `Limiter.acquire`
says at once (`acquire_polls`).
-/

namespace SqlQuery

/-- What goes on around a caller who waits for a slot, by the seconds since the call. -/
structure Vicinity where
  /-- The limiter, as the others leave it to the caller. -/
  limiter : Rat → Limiter
  /-- Whether the event is set. -/
  cancelled : Rat → Bool

namespace Limiter

/-- For how long a slot is waited for before the event is looked at again, in seconds. -/
def pollInterval : Rat := 1 / 20

/-- The end of a wait that begins at a time. -/
def nextPoll (deadline : Option Rat) (now : Rat) : Rat :=
  match deadline with
  | none => now + pollInterval
  | some d => min (now + pollInterval) d

/-- A limiter with one slot more in use. -/
def taking (l : Limiter) : Limiter :=
  { l with free := l.free - 1, inFlight := l.inFlight + 1 }

/-- Nobody else takes slots or gives any back, and the event stays as it is. -/
def still (l : Limiter) (cancelled : Bool) : Vicinity :=
  ⟨fun _ => l, fun _ => cancelled⟩

end Limiter

open Limiter

/-- A caller who looks at a time goes on to wait for a slot. -/
structure Vicinity.Waits (s : Vicinity) (deadline : Option Rat) (now : Rat) : Prop where
  uncancelled : s.cancelled now = false
  early : ∀ d ∈ deadline, now < d

/-- What a caller who looks at a time, and again after every wait, comes to. A wait for a slot gets
the first that is free before the wait ends. -/
inductive Polls (s : Vicinity) (deadline : Option Rat) : Rat → Result Limiter → Prop
  | signalled {now : Rat} (set : s.cancelled now = true) :
    Polls s deadline now (.error (.cancelled .signalled))
  | timedOut {now d : Rat} (unset : s.cancelled now = false) (due : d ∈ deadline)
      (late : d ≤ now) : Polls s deadline now (.error (.cancelled .timedOut))
  | granted {now t : Rat} (waits : s.Waits deadline now) (after : now ≤ t)
      (before : t < nextPoll deadline now) (free : 0 < (s.limiter t).free)
      (first : ∀ u, now ≤ u → u < t → (s.limiter u).free = 0) :
    Polls s deadline now (.ok (s.limiter t).taking)
  | again {now : Rat} {r : Result Limiter} (waits : s.Waits deadline now)
      (full : ∀ t, now ≤ t → t < nextPoll deadline now → (s.limiter t).free = 0)
      (rest : Polls s deadline (nextPoll deadline now) r) : Polls s deadline now r

section Polls

variable {s : Vicinity} {deadline : Option Rat} {now d : Rat} {r r₀ : Result Limiter}

/-! ## Waits -/

theorem pollInterval_pos : 0 < pollInterval := by
  unfold pollInterval
  norm_num

/-- A wait takes time. -/
theorem Vicinity.Waits.lt_nextPoll (h : s.Waits deadline now) :
    now < nextPoll deadline now := by
  have hlater : now < now + pollInterval := lt_add_of_pos_right now pollInterval_pos
  cases deadline with
  | none => exact hlater
  | some d => exact lt_min hlater (h.early d rfl)

/-- No wait goes on beyond the deadline. -/
theorem lt_of_lt_nextPoll {t : Rat} (h : t < nextPoll deadline now) : ∀ d ∈ deadline, t < d := by
  rintro d rfl
  exact lt_of_lt_of_le h (min_le_right _ _)

/-- A wait that does not reach the deadline lasts for the whole interval. -/
theorem sub_nextPoll_le {n : Nat} (h : d - now ≤ (n + 1 : Nat) • pollInterval) :
    d - nextPoll (some d) now ≤ n • pollInterval := by
  have hn : 0 ≤ n • pollInterval := nsmul_nonneg (le_of_lt pollInterval_pos) n
  rw [succ_nsmul] at h
  rcases min_choice (now + pollInterval) d with hmin | hmin
  · change d - min _ _ ≤ _
    rw [hmin]
    linarith
  · change d - min _ _ ≤ _
    rw [hmin, sub_self]
    exact hn

/-! ## The end of polling -/

/-- There is one end to come to at most. -/
theorem Polls.unique (h : Polls s deadline now r) :
    ∀ {r'}, Polls s deadline now r' → r = r' := by
  induction h with
  | signalled set =>
    intro r' h'
    cases h' with
    | signalled => rfl
    | timedOut unset => simp [unset] at set
    | granted waits => simp [waits.uncancelled] at set
    | again waits => simp [waits.uncancelled] at set
  | timedOut unset due late =>
    intro r' h'
    cases h' with
    | signalled set => simp [unset] at set
    | timedOut => rfl
    | granted waits => exact absurd (waits.early _ due) (not_lt_of_ge late)
    | again waits => exact absurd (waits.early _ due) (not_lt_of_ge late)
  | @granted now t waits after before free first =>
    intro r' h'
    cases h' with
    | signalled set => simp [waits.uncancelled] at set
    | timedOut _ due late => exact absurd (waits.early _ due) (not_lt_of_ge late)
    | @granted _ t' _ after' _ free' first' =>
      -- each of two first free slots is not free before the other
      rcases lt_trichotomy t t' with hlt | rfl | hlt
      · exact absurd (first' t after hlt) (Nat.ne_of_gt free)
      · rfl
      · exact absurd (first t' after' hlt) (Nat.ne_of_gt free')
    | again _ full => exact absurd (full t after before) (Nat.ne_of_gt free)
  | again waits full _ ih =>
    intro r' h'
    cases h' with
    | signalled set => simp [waits.uncancelled] at set
    | timedOut _ due late => exact absurd (waits.early _ due) (not_lt_of_ge late)
    | @granted _ t _ after before free => exact absurd (full t after before) (Nat.ne_of_gt free)
    | again _ _ rest => exact ih rest

theorem Polls.iff_eq (h : Polls s deadline now r₀) (r : Result Limiter) :
    Polls s deadline now r ↔ r = r₀ := by
  constructor
  · intro hr
    exact hr.unique h
  · rintro rfl
    exact h

/-- A caller who gave up saw that the event was set. -/
theorem Polls.set_of_signalled (h : Polls s deadline now (.error (.cancelled .signalled))) :
    ∃ t, now ≤ t ∧ s.cancelled t = true := by
  generalize hr : (Except.error (.cancelled .signalled) : Result Limiter) = r at h
  induction h with
  | @signalled now set => exact ⟨now, le_rfl, set⟩
  | timedOut => cases hr
  | granted => cases hr
  | again waits _ _ ih =>
    obtain ⟨t, hnext, hset⟩ := ih hr
    exact ⟨t, le_trans (le_of_lt waits.lt_nextPoll) hnext, hset⟩

/-- A wait that timed out found no slot before the deadline. -/
theorem Polls.full_of_timedOut (h : Polls s deadline now (.error (.cancelled .timedOut))) :
    ∃ d ∈ deadline, ∀ t, now ≤ t → t < d → (s.limiter t).free = 0 := by
  generalize hr : (Except.error (.cancelled .timedOut) : Result Limiter) = r at h
  induction h with
  | signalled => cases hr
  | @timedOut now d _ due late =>
    refine ⟨d, due, ?_⟩
    intro t hnow hd
    exact absurd (lt_of_le_of_lt (le_trans late hnow) hd) (lt_irrefl d)
  | granted => cases hr
  | again waits full _ ih =>
    obtain ⟨d, hd, hrest⟩ := ih hr
    refine ⟨d, hd, ?_⟩
    intro t hnow htd
    rcases lt_or_ge t (nextPoll deadline _) with hfirst | hlater
    · exact full t hnow hfirst
    · exact hrest t hlater htd

/-- A slot that is granted was free before the deadline, and none was free before it. -/
theorem Polls.free_of_granted {l : Limiter} (h : Polls s deadline now (.ok l)) :
    ∃ t, now ≤ t ∧ (∀ d ∈ deadline, t < d) ∧ 0 < (s.limiter t).free
      ∧ (∀ u, now ≤ u → u < t → (s.limiter u).free = 0) ∧ l = (s.limiter t).taking := by
  generalize hr : (Except.ok l : Result Limiter) = r at h
  induction h with
  | signalled => cases hr
  | timedOut => cases hr
  | @granted now t waits after before free first =>
    cases hr
    exact ⟨t, after, lt_of_lt_nextPoll before, free, first, rfl⟩
  | @again now r waits full _ ih =>
    obtain ⟨t, hnext, hdeadline, hfree, hfirst, rfl⟩ := ih hr
    refine ⟨t, le_trans (le_of_lt waits.lt_nextPoll) hnext, hdeadline, hfree, ?_, rfl⟩
    intro u hnow hut
    rcases lt_or_ge u (nextPoll deadline now) with hearly | hlater
    · exact full u hnow hearly
    · exact hfirst u hlater hut

/-- A wait without a free slot before the deadline times out, if the event is not set. The induction
is on the number of waits until the deadline. -/
theorem polls_timedOut (hunset : ∀ t, s.cancelled t = false)
    (hfull : ∀ t, now ≤ t → t < d → (s.limiter t).free = 0) :
    Polls s (some d) now (.error (.cancelled .timedOut)) := by
  obtain ⟨n, hn⟩ := Archimedean.arch (d - now) pollInterval_pos
  induction n generalizing now with
  | zero =>
    rw [zero_nsmul] at hn
    exact .timedOut (hunset now) rfl (sub_nonpos.1 hn)
  | succ n ih =>
    rcases le_or_gt d now with hlate | hearly
    · exact .timedOut (hunset now) rfl hlate
    · have hwaits : s.Waits (some d) now := by
        refine ⟨hunset now, ?_⟩
        rintro d' ⟨⟩
        exact hearly
      apply Polls.again hwaits
      · intro t hnow ht
        exact hfull t hnow (lt_of_lt_nextPoll ht d rfl)
      · apply ih _ (sub_nextPoll_le hn)
        intro t hnext htd
        exact hfull t (le_trans (le_of_lt hwaits.lt_nextPoll) hnext) htd

/-- A slot that is free at a look before the deadline is granted at once. -/
theorem polls_granted (hwaits : s.Waits deadline now) (hfree : 0 < (s.limiter now).free) :
    Polls s deadline now (.ok (s.limiter now).taking) := by
  apply Polls.granted hwaits le_rfl hwaits.lt_nextPoll hfree
  intro u hnow hu
  exact absurd hu (not_lt_of_ge hnow)

end Polls

/-! ## The limiter by itself -/

/-- A time to wait that is not below zero, or none. -/
def AtLeastZero (timeout : Option Double) : Prop :=
  ∀ d ∈ timeout, d = .infinite false ∨ ∃ r, d.toRat? = some r ∧ 0 ≤ r

/-- When a time to wait is over, in seconds after the call. An infinite one never is. -/
def Wait.deadline (w : Wait) : Option Rat :=
  w.timeout.bind Double.toRat?

theorem Wait.deadline_nonneg {w : Wait} (h : AtLeastZero w.timeout) : ∀ d ∈ w.deadline, 0 ≤ d := by
  intro d hd
  obtain ⟨x, hx, hxd⟩ := Option.bind_eq_some_iff.1 hd
  rcases h x hx with rfl | ⟨r, hr, hnonneg⟩
  · cases hxd
  · rw [hr] at hxd
    cases hxd
    exact hnonneg

/-- A time is over before it begins if it is shorter than the clock can tell. -/
theorem Limiter.isOver_iff {w : Wait} (h : AtLeastZero w.timeout) :
    isOver w.timeout = true ↔ ∃ d ∈ w.deadline, d < tick := by
  unfold Wait.deadline
  cases htimeout : w.timeout with
  | none => simp [isOver]
  | some x =>
    rcases h x htimeout with rfl | ⟨r, hr, -⟩
    · simp [isOver, Double.toRat?]
    · cases x with
      | nan => cases hr
      | infinite negative => cases hr
      | finite negative m e => simp [isOver, hr]

/-- **Where nobody else does anything, polling comes to what the limiter says at once**, as soon as
the clock has moved on by what it can tell. Without a free slot and without a deadline there is no
end to come to. -/
theorem Limiter.acquire_polls {l : Limiter} {w : Wait} {now : Rat} (hfault : w.fault = none)
    (htimeout : AtLeastZero w.timeout) (hnow : ∀ d ∈ w.deadline, d ≤ now ↔ d < tick)
    (hends : w.cancelled = true ∨ 0 < l.free ∨ w.deadline.isSome) :
    Polls (l.still w.cancelled) w.deadline now (l.acquire w) := by
  have hover := isOver_iff htimeout
  unfold Limiter.acquire
  rw [hfault]
  cases hcancelled : w.cancelled with
  | true => exact .signalled rfl
  | false =>
    by_cases hisOver : isOver w.timeout = true
    · obtain ⟨d, hd, hshort⟩ := hover.1 hisOver
      simp only [hisOver, Bool.true_or, if_true]
      exact .timedOut rfl hd ((hnow d hd).2 hshort)
    · have hwaits : (l.still false).Waits w.deadline now := by
        refine ⟨rfl, ?_⟩
        intro d hd
        apply lt_of_not_ge
        intro hlate
        exact hisOver (hover.2 ⟨d, hd, (hnow d hd).1 hlate⟩)
      rcases Nat.eq_zero_or_pos l.free with hfull | hfree
      · simp only [hfull, decide_true, Bool.or_true, if_true]
        rw [hcancelled, hfull] at hends
        obtain ⟨d, hd⟩ : ∃ d, w.deadline = some d := by
          simpa [Option.isSome_iff_exists] using hends
        rw [hd]
        exact polls_timedOut (fun _ => rfl) fun _ _ _ => hfull
      · simp only [hisOver, Nat.ne_of_gt hfree, decide_false, Bool.or_self]
        exact polls_granted hwaits hfree

/-! ## Limiters that are in use -/

/-- What polling from the time of the call comes to, whatever others do meanwhile. -/
structure Vicinity.Answers (v : Vicinity) (deadline : Option Rat) : Prop where
  /-- A caller who finds the event set gives up, whatever is free. -/
  of_set : v.cancelled 0 = true →
    ∀ r, Polls v deadline 0 r ↔ r = .error (.cancelled .signalled)
  /-- A slot that is free is had at once, but is refused if the time to wait is zero. -/
  of_free : v.cancelled 0 = false → 0 < (v.limiter 0).free → ∀ r, Polls v deadline 0 r
    ↔ r = if deadline = some 0 then .error (.cancelled .timedOut) else .ok (v.limiter 0).taking
  /-- A wait times out only if no slot was free before its deadline. -/
  timedOut : Polls v deadline 0 (.error (.cancelled .timedOut)) →
    ∃ d ∈ deadline, ∀ t, 0 ≤ t → t < d → (v.limiter t).free = 0
  /-- It does time out then, if the event is never set. -/
  of_full : (∀ t, v.cancelled t = false) →
    ∀ d ∈ deadline, (∀ t, 0 ≤ t → t < d → (v.limiter t).free = 0) →
    Polls v deadline 0 (.error (.cancelled .timedOut))
  /-- A slot is granted only before the deadline, and it is the first that is free. -/
  granted : ∀ l, Polls v deadline 0 (.ok l) →
    ∃ t, 0 ≤ t ∧ (∀ d ∈ deadline, t < d) ∧ 0 < (v.limiter t).free
      ∧ (∀ u, 0 ≤ u → u < t → (v.limiter u).free = 0) ∧ l = (v.limiter t).taking
  /-- A wait is given up only if the event was set. -/
  signalled : Polls v deadline 0 (.error (.cancelled .signalled)) →
    ∃ t, 0 ≤ t ∧ v.cancelled t = true

theorem Vicinity.answers (v : Vicinity) {deadline : Option Rat}
    (hdeadline : ∀ d ∈ deadline, 0 ≤ d) :
    v.Answers deadline where
  of_set hset := (Polls.signalled hset).iff_eq
  of_free hunset hfree := by
    by_cases hzero : deadline = some 0
    · rw [if_pos hzero]
      exact (Polls.timedOut hunset hzero le_rfl).iff_eq
    · rw [if_neg hzero]
      apply (polls_granted ⟨hunset, ?_⟩ hfree).iff_eq
      intro d hd
      apply lt_of_le_of_ne (hdeadline d hd)
      rintro rfl
      exact hzero hd
  timedOut := Polls.full_of_timedOut
  of_full hunset d hd hfull := by
    rw [Option.mem_def.1 hd]
    exact polls_timedOut hunset hfull
  granted _ := Polls.free_of_granted
  signalled := Polls.set_of_signalled

namespace HeldLimiter

theorem Balanced.free_iff {x : HeldLimiter} {capacity : Nat} {h : SlotHistory}
    (hx : Balanced x capacity h) :
    0 < x.limiter.free ↔ (h.taken : Int) - h.returned < capacity := by
  have hadd := hx.free_add
  omega

/-- A call that is refused leaves everything as it was. -/
theorem run_acquire_error {x : HeldLimiter} {wait : Wait} {err : Error}
    (h : x.limiter.acquire wait = .error err) :
    (perform (.acquire wait)).run x = (.error err, x) := by
  simp only [perform, take, StateT.run_bind, StateT.run_get, pure_bind, h]
  rfl

/-- **A slot that is free is granted, unless the time to wait is zero.** After any calls on a
limiter with `m` slots, and for any time to wait that is not below zero:

* a slot is free exactly if fewer than `m` of those that were taken have not come back; if no slot
  was given back that nobody held, that is if less than `m` are reported to be in use;
* a caller who polls is answered as `Vicinity.Answers` says: at the first look if the event is set
  or a slot is free, and refused there if the time to wait is zero; without a slot only if none was
  free before the deadline;
* if others do nothing, polling comes to what the limiter says at once, as soon as the clock has
  moved on by what it can tell;
* a refusal leaves the limiter as it was. -/
theorem free_slot_granted (m : Int) (l : Limiter) (hmake : Limiter.make m = .ok l)
    (calls : List SlotCall) (wait : Wait) (hfault : wait.fault = none)
    (htimeout : AtLeastZero wait.timeout) :
    let y := after ⟨l, 0⟩ calls
    let x := y.limiter
    let h := history ⟨l, 0⟩ calls
    (0 < x.free ↔ (h.taken : Int) - h.returned < m)
    ∧ (h.overdrawn = 0 → (0 < x.free ↔ x.inFlight < m))
    ∧ (∀ v : Vicinity, v.limiter 0 = x → v.Answers wait.deadline)
    ∧ (∀ now, (∀ d ∈ wait.deadline, d ≤ now ↔ d < tick) →
      wait.cancelled = true ∨ 0 < x.free ∨ wait.deadline.isSome →
      ∀ r, Polls (x.still wait.cancelled) wait.deadline now r ↔ r = x.acquire wait)
    ∧ (∀ err, x.acquire wait = .error err → (perform (.acquire wait)).run y = (.error err, y)) := by
  intro y x h
  obtain ⟨hone, -⟩ := Limiter.holds_of_make hmake
  have hy : Balanced y m.toNat h := (balanced_of_make hmake).run calls
  have hfree : 0 < x.free ↔ (h.taken : Int) - h.returned < m := by
    rw [hy.free_iff, Int.toNat_of_nonneg (by omega)]
  refine ⟨hfree, ?_, ?_, ?_, fun err herr => run_acquire_error herr⟩
  · intro hnone
    have hinFlight : x.inFlight = (h.taken : Int) - h.returned - h.overdrawn := hy.inFlight_eq
    rw [hfree, hinFlight, hnone]
    omega
  · intro v _
    exact v.answers (wait.deadline_nonneg htimeout)
  · intro now hnow hends
    exact (Limiter.acquire_polls hfault htimeout hnow hends).iff_eq

/-- One of two slots is in use: one was taken, and another came back. -/
def lentCalls : List SlotCall :=
  [.acquire {}, .enter {}, .leave]

/-- A quarter of a second. -/
def quarter : Wait :=
  { timeout := some (.finite false 4503599627370496 (-54)) }

/-- The other slot is granted to a caller who would wait for a quarter of a second. -/
theorem lentCalls_granted :
    let x := (after ⟨{ capacity := 2, free := 2 }, 0⟩ lentCalls).limiter
    Limiter.make 2 = .ok { capacity := 2, free := 2 } ∧ quarter.fault = none
    ∧ AtLeastZero quarter.timeout
    ∧ Polls (x.still false) quarter.deadline 0
      (.ok { capacity := 2, free := 0, inFlight := 2 }) := by
  intro x
  have hmake : Limiter.make 2 = .ok { capacity := 2, free := 2 } := rfl
  have hquarter : quarter.deadline = some (1 / 4) := by
    decide +kernel
  have htimeout : AtLeastZero quarter.timeout := by
    rintro d ⟨⟩
    exact .inr ⟨1 / 4, hquarter, by norm_num⟩
  have hx : x = { capacity := 2, free := 1, inFlight := 1 } := by
    decide +kernel
  obtain ⟨-, -, hpolls, -⟩ := free_slot_granted 2 _ hmake lentCalls quarter rfl htimeout
  refine ⟨hmake, rfl, htimeout, ((hpolls (x.still false) rfl).of_free rfl ?_ _).2 ?_⟩
  · change 0 < x.free
    rw [hx]
    decide
  · rw [hquarter, if_neg (by norm_num)]
    exact congrArg (fun l => Except.ok (Limiter.taking l)) hx.symm

/-- With no time to wait, the only slot is refused to the first caller. -/
theorem zero_wait_refuses_free :
    let l : Limiter := { capacity := 1, free := 1 }
    let wait : Wait := { timeout := some (.zero false) }
    Limiter.make 1 = .ok l ∧ wait.cancelled = false ∧ l.inFlight < 1
    ∧ l.acquire wait = .error (.cancelled .timedOut)
    ∧ Polls (l.still false) wait.deadline 0 (.error (.cancelled .timedOut)) := by
  intro l wait
  have hdeadline : wait.deadline = some 0 := by
    decide +kernel
  have hover : isOver wait.timeout = true := by
    decide +kernel
  refine ⟨rfl, rfl, by decide, ?_, .timedOut rfl hdeadline le_rfl⟩
  simp [Limiter.acquire, l, hover, show wait.fault = none from rfl,
    show wait.cancelled = false from rfl]

end HeldLimiter

end SqlQuery
