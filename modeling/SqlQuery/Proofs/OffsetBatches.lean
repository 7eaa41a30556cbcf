import SqlQuery.Proofs.FixedResults
import SqlQuery.Proofs.Histories

/-!
# Batches that count the rows before them

Batches of a fixed result that count the rows before them are its blocks, for each batch begins
where the one before ended. A batch is asked for when it is needed: none after one that is not full,
and so an empty one only if all blocks are full.

How many calls reach the executor follows from what was handed over. If nobody stopped, there is one
for each block and one more for an empty batch; if the visitor stopped, or rows were taken one by
one, there is one for each block that was begun.
-/

namespace SqlQuery

open Effect

variable {σ : Type}

/-- The query in the order in which its rows are counted: by `id` if it has no order. -/
def Query.inOrder (q : Query) : Query :=
  if q.orders.isEmpty then { q with orders := [.column "id" .asc []] } else q

/-- The calls of a history ask for blocks, a number of them from one on. -/
def AsksFor (d : Dialect) (q : Query) (size first count : Nat) (events : List Event) : Prop :=
  List.Forall₂
    (fun k call => ∃ s, Statement.select d (q.inOrder.rows (k * size) size) = .ok s
      ∧ call = (s.sql, s.bindings))
    (List.range' first count) (Event.calls events)

/-- The number of calls for all blocks from one on. Without a block that is not full, the last call
finds nothing. -/
def callsFrom (size first total : Nat) : Nat :=
  (total - first * size) ⌈/⌉ size + if size ∣ total then 1 else 0

/-- The number of calls of a loop over blocks that hold `per` values each. A loop that ends early
has begun as many blocks as the visits fill. -/
def callsOf (per all : Nat) (outcome : Result Bool) (visits : Nat) : Nat :=
  match outcome with
  | .ok true => all
  | _ => visits ⌈/⌉ per

/-! ## One batch -/

/-- The batches of a query after a number of blocks. -/
def Batches.counted (q : Query) (size : Nat) (R : List Row) : Nat → Batches
  | 0 => { query := q, size, place := .offset 0 }
  | k + 1 => { query := q, size, place := .offset (k * size), previous := some (block size R k) }

section Pull

variable {e : Engine σ} {w : World (Observed σ)} {q : Query} {R : List Row} {size k : Nat}

theorem BatchPlace.batch_offset (q : Query) (rows size : Nat) :
    (BatchPlace.offset rows).batch q size = .ok (q.inOrder.rows rows size) := by
  unfold Query.inOrder
  show (do
    let orders ← if q.orders.isEmpty then (OrderKey.ascending "id").map ([·]) else .ok q.orders
    return { q with orders }.rows rows size : Result Query) = _
  rw [OrderKey.ascending_ok (by decide)]
  cases q.orders.isEmpty <;> rfl

theorem Batches.counted_open : (counted q size R k).finished = false := by
  cases k <;> rfl

theorem Batches.counted_size : (counted q size R k).size = size := by
  cases k <;> rfl

theorem Batches.counted_advance :
    (counted q size R k).advance = .ok { query := q, size, place := .offset (k * size) } := by
  cases k with
  | zero =>
    rw [Nat.zero_mul]
    rfl
  | succ k =>
    rw [Nat.succ_mul]
    rfl

/-- The block before is the last if the rows end in it. -/
theorem Batches.counted_isLast (hsize : 0 < size) :
    ((counted q size R k).previous.map (counted q size R k).isLast).getD false
      = decide (R.length < k * size) := by
  cases k with
  | zero => exact (decide_eq_false (by omega)).symm
  | succ k =>
    have hfull : (block size R k).length = size ↔ (k + 1) * size ≤ R.length :=
      length_block_eq_iff hsize
    have hle : (block size R k).length ≤ size := length_block_le
    show decide (((block size R k).length : Int) < size) = _
    exact decide_eq_decide.2 (by omega)

theorem Batches.returns_pull_ended (hsize : 0 < size) (hended : R.length < k * size) :
    ∃ b, ((counted q size R k).pull e.observed).Returns w (none, b) w := by
  rw [pull_eq counted_open (counted_size ▸ Int.natCast_pos.2 hsize), counted_isLast hsize,
    decide_eq_true hended]
  exact ⟨_, returns_pure.2 ⟨rfl, rfl⟩⟩

/-- The next block is asked for with one call. If it is empty, that is the end. -/
theorem Batches.returns_pull_counted (hsize : 0 < size) (hlists : e.Lists q.inOrder size R)
    (hopen : e.observed.Open w) (hmore : k * size ≤ R.length) :
    ∃ next events w', ((counted q size R k).pull e.observed).Returns w next w'
      ∧ (if k * size < R.length then next = (some (block size R k), counted q size R (k + 1))
        else next.1 = none)
      ∧ w.Goes events w' ∧ AsksFor e.dialect q size k 1 events ∧ Event.visits events = [] := by
  obtain ⟨s, hs⟩ := hlists.written (k * size)
  obtain ⟨x, hrows⟩ := hlists.answers _ s w.outside.state hs
  obtain ⟨w', hget, hgoes⟩ := Engine.returns_get_observed hopen hs hrows
  have hlast : ((counted q size R k).previous.map (counted q size R k).isLast).getD false
      = false := by
    rw [counted_isLast hsize]
    exact decide_eq_false (by omega)
  have hpull := returns_pull_of_get counted_open (counted_size ▸ Int.natCast_pos.2 hsize) hlast
    counted_advance (BatchPlace.batch_offset q (k * size) size) hget
  refine ⟨_, [.call s.sql s.bindings], w', hpull, ?_, hgoes, .cons ⟨s, hs, rfl⟩ .nil, rfl⟩
  have hempty : block size R k = [] ↔ R.length ≤ k * size := block_eq_nil_iff hsize
  by_cases hsome : k * size < R.length
  · have hrows : ¬(block size R k).isEmpty = true :=
      fun hnil => absurd (hempty.1 (List.isEmpty_iff.1 hnil)) (by omega)
    rw [if_pos hsome]
    exact Prod.ext (if_neg hrows) (if_neg hrows)
  · rw [if_neg hsome]
    exact if_pos (List.isEmpty_iff.2 (hempty.2 (by omega)))

end Pull

/-! ## Batch after batch -/

namespace AsksFor

variable {d : Dialect} {q : Query} {size first count more : Nat} {events later : List Event}

theorem nil (h : Event.calls events = []) : AsksFor d q size first 0 events := by
  unfold AsksFor
  rw [h]
  exact .nil

theorem append (h : AsksFor d q size first count events)
    (hmore : AsksFor d q size (first + count) more later) :
    AsksFor d q size first (count + more) (events ++ later) := by
  unfold AsksFor at *
  rw [Event.calls_append, ← List.range'_append_1]
  exact List.rel_append h hmore

/-- Visits make no calls. -/
theorem visited (h : AsksFor d q size first count events) {visits : List Event}
    (hvisits : Event.calls visits = []) : AsksFor d q size first count (events ++ visits) :=
  h.append (.nil hvisits)

end AsksFor

section CallCounts

variable {size per first total : Nat}

/-- Before a block that has rows, one call more is needed than after it. -/
theorem callsFrom_succ (hsize : 0 < size) (hmore : first * size < total) :
    callsFrom size first total = 1 + callsFrom size (first + 1) total := by
  unfold callsFrom
  rw [ceilDiv_left hsize hmore, Nat.add_assoc]

/-- When the rows end with a block that is full, nothing is found with one call. -/
theorem callsFrom_end (hend : first * size = total) :
    callsFrom size first total = 1 := by
  unfold callsFrom
  rw [← hend, Nat.sub_self, zero_ceilDiv, if_pos (Nat.dvd_mul_left size first)]

/-- After a block that is not full nothing is asked for. -/
theorem callsFrom_beyond (hend : total < first * size)
    (hlast : first * size < total + size) : callsFrom size first total = 0 := by
  unfold callsFrom
  have hnot : ¬size ∣ total := by
    rintro ⟨k, rfl⟩
    have hlt : k < first := Nat.lt_of_mul_lt_mul_left (by rw [Nat.mul_comm size first]; exact hend)
    have hle : (k + 1) * size ≤ first * size := Nat.mul_le_mul_right size hlt
    rw [Nat.succ_mul, Nat.mul_comm k] at hle
    omega
  rw [Nat.sub_eq_zero_of_le (by omega), zero_ceilDiv, if_neg hnot]

variable {all visits later : Nat} {outcome : Result Bool}

theorem callsOf_of_stop (hstop : outcome ≠ .ok true) :
    callsOf per all outcome visits = visits ⌈/⌉ per := by
  unfold callsOf
  split
  · exact absurd rfl hstop
  · rfl

/-- A loop that ends in its first block makes one call. -/
theorem callsOf_first (hper : 0 < per) (hstop : outcome ≠ .ok true) (hsome : 0 < visits)
    (hle : visits ≤ per) : callsOf per all outcome visits = 1 := by
  rw [callsOf_of_stop hstop, ceilDiv_succ_block hper hsome, Nat.sub_eq_zero_of_le hle,
    zero_ceilDiv, Nat.add_zero]

/-- A loop that goes on after its first block makes one call more than it does from there. -/
theorem callsOf_succ (hper : 0 < per) (hfull : outcome ≠ .ok true → visits = per) :
    callsOf per (1 + all) outcome (visits + later) = 1 + callsOf per all outcome later := by
  by_cases hstop : outcome = .ok true
  · rw [hstop]
    rfl
  · rw [callsOf_of_stop hstop, callsOf_of_stop hstop, hfull hstop,
      ceilDiv_succ_block hper (by omega), Nat.add_sub_cancel_left]

end CallCounts

section Drive

/-- The values of the blocks from one on. -/
def itemsFrom (size : Nat) (R : List Row) (items : List Row → List Value) (k : Nat) : List Value :=
  (List.range' k ((R.length - k * size) ⌈/⌉ size)).flatMap fun i => items (block size R i)

variable {d : Dialect} {e : Engine σ} {q : Query} {R : List Row} {size per k : Nat}
  {items : List Row → List Value} {events visits later : List Event} {outcome : Result Bool}

theorem itemsFrom_succ (hsize : 0 < size) (hmore : k * size < R.length) :
    itemsFrom size R items k = items (block size R k) ++ itemsFrom size R items (k + 1) := by
  unfold itemsFrom
  rw [ceilDiv_left hsize hmore, Nat.add_comm 1, List.range'_succ, List.flatMap_cons]

theorem itemsFrom_end (hend : R.length ≤ k * size) : itemsFrom size R items k = [] := by
  unfold itemsFrom
  rw [Nat.sub_eq_zero_of_le hend, zero_ceilDiv]
  rfl

/-- What is handed over of a block: `per` values if it is full, and no more otherwise. -/
structure Fills (size per : Nat) (items : List Row → List Value) : Prop where
  pos : 0 < per
  le : ∀ rows : List Row, rows.length ≤ size → (items rows).length ≤ per
  full : ∀ rows : List Row, rows.length = size → (items rows).length = per

/-- The history of a loop over the blocks from one on: their values are handed over until the
visitor wants no more, and each block is asked for before its values are handed over. -/
structure Delivers (d : Dialect) (q : Query) (size per : Nat) (items : List Row → List Value)
    (R : List Row) (k : Nat) (outcome : Result Bool) (events : List Event) : Prop where
  hears : Hears (itemsFrom size R items k) (Event.visits events) outcome
  asks : AsksFor d q size k
    (callsOf per (callsFrom size k R.length) outcome (Event.visits events).length) events

namespace Delivers

theorem ended (hended : R.length < k * size) (hlast : k * size < R.length + size) :
    Delivers d q size per items R k (.ok true) [] where
  hears := by
    rw [itemsFrom_end hended.le]
    exact .all
  asks := by
    rw [callsFrom_beyond hended hlast]
    exact .nil rfl

theorem nothing_found (hasks : AsksFor d q size k 1 events) (hvisits : Event.visits events = [])
    (hend : k * size = R.length) : Delivers d q size per items R k (.ok true) events where
  hears := by
    rw [itemsFrom_end hend.ge, hvisits]
    exact .all
  asks := by
    rw [callsFrom_end hend]
    exact hasks

variable (hasks : AsksFor d q size k 1 events) (hnone : Event.visits events = [])
  (hcalls : Event.calls visits = []) (hfills : Fills size per items) (hsize : 0 < size)
  (hmore : k * size < R.length)

include hasks hnone hcalls hfills hsize hmore

theorem stopped (hears : Hears (items (block size R k)) (Event.visits visits) outcome)
    (hstop : outcome ≠ .ok true) :
    Delivers d q size per items R k outcome (events ++ visits) where
  hears := by
    rw [itemsFrom_succ hsize hmore, Event.visits_append, hnone]
    exact hears.append_of_stop hstop
  asks := by
    have hle := hears.length_le.trans (hfills.le _ length_block_le)
    rw [Event.visits_append, hnone, List.nil_append,
      callsOf_first hfills.pos hstop (hears.length_pos hstop) hle]
    exact hasks.visited hcalls

theorem more (hears : Hears (items (block size R k)) (Event.visits visits) (.ok true))
    (hrest : Delivers d q size per items R (k + 1) outcome later) :
    Delivers d q size per items R k outcome (events ++ visits ++ later) where
  hears := by
    rw [itemsFrom_succ hsize hmore, Event.visits_append, Event.visits_append, hnone]
    exact hears.append hrest.hears
  asks := by
    -- a loop that ends later hears more, so there is a block after this one, and this one is full
    have hfull : outcome ≠ .ok true → (Event.visits visits).length = per := by
      intro hstop
      have hsome := (hrest.hears.length_pos hstop).trans_le hrest.hears.length_le
      have hinside : ¬R.length ≤ (k + 1) * size := by
        intro hend
        rw [itemsFrom_end hend] at hsome
        exact Nat.lt_irrefl 0 hsome
      rw [hears.length_of_true]
      exact hfills.full _ ((length_block_eq_iff hsize).2 (Nat.le_of_not_le hinside))
    rw [Event.visits_append, Event.visits_append, hnone, List.nil_append, List.length_append,
      callsFrom_succ hsize hmore, callsOf_succ hfills.pos hfull]
    exact (hasks.visited hcalls).append hrest.asks

end Delivers

variable {visit : List Row → Run (Observed σ) Bool}

/-- Block after block is handed over until the visitor wants no more. -/
theorem Batches.drive_counted (hsize : 0 < size) (hlists : e.Lists q.inOrder size R)
    (hvisit : ∀ rows, Run.HandsOver (visit rows) (items rows)) (hfills : Fills size per items)
    {fuel : Nat} {w : World (Observed σ)} (hopen : e.observed.Open w)
    (hlast : k * size < R.length + size) (hfuel : (R.length - k * size) ⌈/⌉ size < fuel) :
    ∃ outcome events w', (drive e.observed visit fuel (counted q size R k)).run.run w
        = (outcome, w')
      ∧ w.Goes events w' ∧ Delivers e.dialect q size per items R k outcome events := by
  induction fuel generalizing k w with
  | zero => omega
  | succ fuel ih =>
    rw [drive]
    by_cases hended : R.length < k * size
    · obtain ⟨b, hpull⟩ := returns_pull_ended hsize hended
      exact ⟨_, [], w, hpull.run_bind _, .refl w, .ended hended hlast⟩
    obtain ⟨⟨found, next⟩, events, w₁, hpull, hnext, hgoes, hasks, hnone⟩ :=
      returns_pull_counted hsize hlists hopen (Nat.not_lt.1 hended)
    rw [hpull.run_bind]
    by_cases hmore : k * size < R.length
    · rw [if_pos hmore] at hnext
      cases hnext
      obtain ⟨outcome, visits, w₂, hrun, hgoes', hcalls, hears⟩ := hvisit (block size R k) w₁
      cases outcome with
      | error err =>
        have hstopped : (.error err : Result Bool) ≠ .ok true := by simp
        exact ⟨_, _, w₂, run_bind_error hrun _, hgoes.trans hgoes',
          .stopped hasks hnone hcalls hfills hsize hmore hears hstopped⟩
      | ok wants =>
        cases wants with
        | false =>
          have hstopped : (.ok false : Result Bool) ≠ .ok true := by simp
          exact ⟨_, _, w₂, Returns.run_bind hrun _, hgoes.trans hgoes',
            .stopped hasks hnone hcalls hfills hsize hmore hears hstopped⟩
        | true =>
          have hleft := ceilDiv_left hsize hmore
          have hopen' := hopen.leaves (hgoes.trans hgoes').leaves
          obtain ⟨outcome, later, w₃, hrest, hgoes'', hdelivers⟩ :=
            ih (k := k + 1) hopen' (by rw [Nat.succ_mul]; omega) (by omega)
          exact ⟨outcome, _, w₃, (Returns.run_bind hrun _).trans hrest,
            (hgoes.trans hgoes').trans hgoes'',
            .more hasks hnone hcalls hfills hsize hmore hears hdelivers⟩
    · rw [if_neg hmore] at hnext
      obtain rfl : found = none := hnext
      exact ⟨_, events, w₁, rfl, hgoes, .nothing_found hasks hnone (by omega)⟩

end Drive

/-! ## Row after row -/

section Take

open RowSource

section Steps

variable {e : Engine σ} {source next left : RowSource} {row : Row} {w w' w'' : World σ}
  {rows : List Row} {ending : Ending} {fuel count : Nat}

theorem RowSource.take_of_row (hpull : (source.pull e).Returns w (some row, next) w')
    (hrest : (take e fuel (some count) next).run w' = ((rows, left, ending), w'')) :
    (take e (fuel + 1) (some (count + 1)) source).run w = ((row :: rows, left, ending), w'') := by
  unfold Effect.Returns at hpull
  rw [take, StateT.run_bind, hpull]
  · show (take e fuel (some count) next >>= fun taken =>
      pure (row :: taken.1, taken.2) : StateM (World σ) _).run w' = _
    rw [StateT.run_bind, hrest]
    rfl
  · exact fun h => absurd h (by simp)

theorem RowSource.take_of_none (hpull : (source.pull e).Returns w (none, next) w') :
    (take e (fuel + 1) (some (count + 1)) source).run w = (([], next, .exhausted), w') := by
  unfold Effect.Returns at hpull
  rw [take, StateT.run_bind, hpull]
  · rfl
  · exact fun h => absurd h (by simp)

end Steps

variable {e : Engine σ} {q : Query} {R : List Row} {size k : Nat}

/-- The number of calls for a number of rows, if some rows are ready, and then come those of the
blocks from one on. -/
def callsForRows (size k total ready count : Nat) : Nat :=
  if count ≤ ready + (total - k * size) then (count - ready) ⌈/⌉ size else callsFrom size k total

theorem callsForRows_ready (total ready count : Nat) :
    callsForRows size k total (ready + 1) (count + 1) = callsForRows size k total ready count := by
  unfold callsForRows
  simp only [Nat.add_sub_add_right, Nat.add_right_comm, Nat.add_le_add_iff_right]

/-- With none ready, the next block is asked for. -/
theorem callsForRows_block (hsize : 0 < size) {row : Row} {rest : List Row}
    (hblock : block size R k = row :: rest) (count : Nat) :
    callsForRows size k R.length 0 (count + 1)
      = 1 + callsForRows size (k + 1) R.length rest.length count := by
  have hlength := congrArg List.length hblock
  rw [length_block, List.length_cons] at hlength
  have hmore : k * size < R.length := by omega
  have hnext : (k + 1) * size = k * size + size := Nat.succ_mul ..
  unfold callsForRows
  by_cases henough : count + 1 ≤ R.length - k * size
  · rw [if_pos (by omega), if_pos (by omega), ceilDiv_succ_block hsize (by omega)]
    -- a block that is not full is the last, and then nothing is left to ask for
    by_cases hfull : rest.length + 1 = size
    · rw [← hfull, Nat.sub_zero, Nat.add_sub_add_right]
    · rw [Nat.sub_eq_zero_of_le (by omega), Nat.sub_eq_zero_of_le (by omega)]
  · rw [if_neg (by omega), if_neg (by omega), callsFrom_succ hsize hmore]

/-- What is taken of the rows that are ready and of those of the blocks from one on. -/
structure Takes (d : Dialect) (q : Query) (size : Nat) (R : List Row) (k : Nat) (ready : List Row)
    (count : Nat) (rows : List Row) (ending : Ending) (events : List Event) : Prop where
  rows : rows = (ready ++ R.drop (k * size)).take count
  ending : ending
    = if count ≤ ready.length + (R.length - k * size) then .enough else .exhausted
  silent : Event.visits events = []
  asks : AsksFor d q size k (callsForRows size k R.length ready.length count) events

namespace Takes

variable {d : Dialect} {ready rows : List Row} {row : Row} {count : Nat} {ending : Ending}
  {events later : List Event}

theorem start : Takes d q size R k ready 0 [] .enough [] where
  rows := rfl
  ending := (if_pos (Nat.zero_le _)).symm
  silent := rfl
  asks := by
    unfold callsForRows
    rw [if_pos (Nat.zero_le _), Nat.zero_sub, zero_ceilDiv]
    exact .nil rfl

theorem of_ready (h : Takes d q size R k ready count rows ending events) :
    Takes d q size R k (row :: ready) (count + 1) (row :: rows) ending events where
  rows := congrArg (row :: ·) h.rows
  ending := by
    rw [h.ending, List.length_cons]
    simp only [Nat.add_right_comm, Nat.add_le_add_iff_right]
  silent := h.silent
  asks := by
    rw [List.length_cons, callsForRows_ready]
    exact h.asks

theorem of_block (hsize : 0 < size) (hblock : block size R k = row :: ready)
    (hasks : AsksFor d q size k 1 events) (hnone : Event.visits events = [])
    (h : Takes d q size R (k + 1) ready count rows ending later) :
    Takes d q size R k [] (count + 1) (row :: rows) ending (events ++ later) where
  rows := by
    rw [List.nil_append, drop_eq_block_append, hblock, h.rows]
    rfl
  ending := by
    have hlength := congrArg List.length hblock
    rw [length_block, List.length_cons] at hlength
    have hnext : (k + 1) * size = k * size + size := Nat.succ_mul ..
    have hsame : count ≤ ready.length + (R.length - (k + 1) * size)
        ↔ count + 1 ≤ ([] : List Row).length + (R.length - k * size) := by
      rw [List.length_nil]
      omega
    rw [h.ending]
    simp only [hsame]
  silent := by rw [Event.visits_append, hnone, h.silent]; rfl
  asks := by
    rw [List.length_nil, callsForRows_block hsize hblock]
    exact hasks.append h.asks

theorem of_end {calls : Nat} (hasks : AsksFor d q size k calls events)
    (hnone : Event.visits events = []) (hend : R.length ≤ k * size)
    (hcalls : callsFrom size k R.length = calls) :
    Takes d q size R k [] (count + 1) [] .exhausted events where
  rows := by rw [List.drop_eq_nil_of_le hend]; rfl
  ending := by rw [if_neg]; simp [Nat.sub_eq_zero_of_le hend]
  silent := hnone
  asks := by
    unfold callsForRows
    rw [if_neg (by simp [Nat.sub_eq_zero_of_le hend]), hcalls]
    exact hasks

end Takes

/-- Rows are taken one by one: those that are ready, and then those of the next blocks, each of
which is asked for when its first row is needed. -/
theorem RowSource.take_counted (hsize : 0 < size) (hlists : e.Lists q.inOrder size R)
    {fuel count : Nat} {ready : List Row} {w : World (Observed σ)} (hopen : e.observed.Open w)
    (hlast : k * size < R.length + size) (hfuel : count ≤ fuel) :
    ∃ rows source ending events w', (take e.observed fuel (some count)
        (.batches ⟨.counted q size R k, ready⟩)).run w = ((rows, source, ending), w')
      ∧ w.Goes events w' ∧ Takes e.dialect q size R k ready count rows ending events := by
  induction fuel generalizing count k ready w with
  | zero =>
    obtain rfl : count = 0 := Nat.le_zero.1 hfuel
    exact ⟨_, _, _, _, w, rfl, .refl w, .start⟩
  | succ fuel ih =>
    cases count with
    | zero => exact ⟨_, _, _, _, w, rfl, .refl w, .start⟩
    | succ count =>
      cases ready with
      | cons row ready =>
        obtain ⟨rows, source, ending, events, w', hrun, hgoes, htakes⟩ :=
          ih hopen hlast (Nat.le_of_succ_le_succ hfuel)
        exact ⟨_, source, ending, events, w', take_of_row rfl hrun, hgoes, htakes.of_ready⟩
      | nil =>
        by_cases hended : R.length < k * size
        · obtain ⟨b, hpull⟩ := Batches.returns_pull_ended hsize hended
          exact ⟨_, _, _, [], w, take_of_none (returns_pull_none hpull), .refl w,
            .of_end (.nil rfl) rfl hended.le (callsFrom_beyond hended hlast)⟩
        obtain ⟨⟨found, next⟩, events, w₁, hpull, hnext, hgoes, hasks, hnone⟩ :=
          Batches.returns_pull_counted hsize hlists hopen (Nat.not_lt.1 hended)
        by_cases hmore : k * size < R.length
        · obtain ⟨row, ready, hblock⟩ : ∃ row ready, block size R k = row :: ready := by
            refine List.exists_cons_of_ne_nil fun hnil => ?_
            exact absurd ((block_eq_nil_iff hsize).1 hnil) (Nat.not_le.2 hmore)
          rw [if_pos hmore, hblock] at hnext
          cases hnext
          obtain ⟨rows, source, ending, later, w₂, hrun, hgoes', htakes⟩ :=
            ih (k := k + 1) (hopen.leaves hgoes.leaves) (by rw [Nat.succ_mul]; omega)
              (Nat.le_of_succ_le_succ hfuel)
          exact ⟨_, source, ending, _, w₂, take_of_row (returns_pull_some hpull) hrun,
            hgoes.trans hgoes', .of_block hsize hblock hasks hnone htakes⟩
        · rw [if_neg hmore] at hnext
          obtain rfl : found = none := hnext
          exact ⟨_, _, _, events, w₁, take_of_none (returns_pull_none hpull), hgoes,
            .of_end hasks hnone (Nat.not_lt.1 hmore) (callsFrom_end (by omega))⟩

end Take

/-! ## All ways to iterate -/

section Iteration

variable {α : Type}

/-- A run hands values over until the visitor wants no more, and asks for the blocks of a result. If
nobody stopped it, it asks for all of them, and once more if the last is full. Otherwise it asks for
those that were begun by the visits there were. -/
def Run.DeliversAll (x : Run (Observed σ) α) (answer : Bool → α) (w : World (Observed σ))
    (d : Dialect) (q : Query) (size : Nat) (R : List Row) (values : List Value)
    (begun : Nat → Nat) : Prop :=
  ∃ outcome events w', x.run.run w = (outcome.map answer, w') ∧ w.Goes events w'
    ∧ Hears values (Event.visits events) outcome
    ∧ (outcome = .ok true →
      AsksFor d q size 0 (R.length ⌈/⌉ size + if size ∣ R.length then 1 else 0) events)
    ∧ (outcome ≠ .ok true → AsksFor d q size 0 (begun (Event.visits events).length) events)

variable {d : Dialect} {e : Engine σ} {q : Query} {R : List Row} {size per : Nat}
  {w : World (Observed σ)} {x : Run (Observed σ) Bool} {values : List Value} {begun : Nat → Nat}

theorem Run.DeliversAll.map (h : x.DeliversAll id w d q size R values begun) (answer : Bool → α) :
    Run.DeliversAll (do return answer (← x)) answer w d q size R values begun := by
  obtain ⟨outcome, events, w', hrun, hgoes, hhistory⟩ := h
  refine ⟨outcome, events, w', ?_, hgoes, hhistory⟩
  cases outcome with
  | error err => exact run_bind_error hrun _
  | ok wants => exact Returns.run_bind hrun _

theorem Batches.drive_delivers (hsize : 0 < size) (hlists : e.Lists q.inOrder size R)
    (hopen : e.observed.Open w) {visit : List Row → Run (Observed σ) Bool}
    {items : List Row → List Value} (hvisit : ∀ rows, Run.HandsOver (visit rows) (items rows))
    (hfills : Fills size per items) {fuel : Nat} (hfuel : R.length ⌈/⌉ size < fuel) :
    Run.DeliversAll (drive e.observed visit fuel { query := q, size, place := .offset 0 }) id w
      e.dialect q size R ((blocks size R).flatMap items) (· ⌈/⌉ per) := by
  have hstart : R.length - 0 * size = R.length := by rw [Nat.zero_mul, Nat.sub_zero]
  have hitems : itemsFrom size R items 0 = (blocks size R).flatMap items := by
    unfold itemsFrom blocks
    rw [hstart, List.flatMap_map, List.range_eq_range']
  have hcalls : callsFrom size 0 R.length
      = R.length ⌈/⌉ size + if size ∣ R.length then 1 else 0 := by
    unfold callsFrom
    rw [hstart]
  obtain ⟨outcome, events, w', hrun, hgoes, hears, hasks⟩ :=
    drive_counted (k := 0) hsize hlists hvisit hfills hopen (by omega) (hstart.symm ▸ hfuel)
  rw [hitems] at hears
  rw [hcalls] at hasks
  refine ⟨outcome, events, w', ?_, hgoes, hears, ?_, ?_⟩
  · cases outcome <;> exact hrun
  · rintro rfl
    exact hasks
  · intro hstop
    rw [callsOf_of_stop hstop] at hasks
    exact hasks

theorem Fills.batch : Fills size 1 fun rows => [.list (rows.map .mapping)] where
  pos := Nat.one_pos
  le _ _ := le_rfl
  full _ _ := rfl

theorem Fills.rows (hsize : 0 < size) : Fills size size fun rows => rows.map .mapping where
  pos := hsize
  le rows hle := by rwa [List.length_map]
  full rows hfull := by rwa [List.length_map]

theorem blocks_batches (R : List Row) :
    (blocks size R).flatMap (fun rows => [Value.list (rows.map .mapping)])
      = (blocks size R).map fun rows => .list (rows.map .mapping) :=
  List.map_eq_flatMap.symm

theorem blocks_rows (hsize : 0 < size) (R : List Row) :
    (blocks size R).flatMap (fun rows => rows.map Value.mapping) = R.map .mapping := by
  conv_rhs => rw [← flatten_blocks hsize R]
  rw [List.map_flatten, List.flatMap_def]

end Iteration

/-- Whichever way the rows of a result are gone through, each is delivered once. -/
structure Engine.DeliversOnce (e : Engine σ) (settings : Settings) (visitor : Visitor σ) (q : Query)
    (R : List Row) (size : Nat) (w : World (Observed σ)) : Prop where
  batches : ∀ fuel, R.length ⌈/⌉ size < fuel → Run.DeliversAll
    (Batches.drive e.observed visitor.observed.batch fuel
      { query := q, size, place := .offset 0 })
    id w e.dialect q size R ((blocks size R).map fun rows => .list (rows.map .mapping)) id
  rows : ∀ fuel, R.length ⌈/⌉ size < fuel → Run.DeliversAll
    (Batches.drive e.observed (Batches.visitRows visitor.observed.row) fuel
      { query := q, size, place := .offset 0 })
    id w e.dialect q size R (R.map .mapping) (· ⌈/⌉ size)
  chunk : R.length ⌈/⌉ size < Operation.maxBatches → Run.DeliversAll
    ((Operation.chunk size (.offset 0)).run e.observed settings visitor.observed q)
    Answer.bool w e.dialect q size R
    ((blocks size R).map fun rows => .list (rows.map .mapping)) id
  each : R.length ⌈/⌉ size < Operation.maxBatches → ∀ given, batchSize settings given = size →
    Run.DeliversAll
      ((Operation.each given (.offset 0)).run e.observed settings visitor.observed q)
      Answer.bool w e.dialect q size R (R.map .mapping) (· ⌈/⌉ size)
  taken : ∀ given, batchSize settings given = size → ∃ source,
    RowSource.make e.dialect settings q (.batches given (.offset 0)) = .ok source
    ∧ ∀ count fuel, count ≤ fuel → ∃ rest events w',
      (source.take e.observed fuel (some count)).run w
        = ((R.take count, rest, if count ≤ R.length then .enough else .exhausted), w')
      ∧ w.Goes events w' ∧ Event.visits events = []
      ∧ AsksFor e.dialect q size 0
        (if count ≤ R.length then count ⌈/⌉ size
          else R.length ⌈/⌉ size + if size ∣ R.length then 1 else 0) events

/-- **Counted batches deliver the result once.** Let an executor answer with a stretch of one list
of rows whenever it is asked for a number of rows from an offset.

A visitor of batches is handed the blocks of the list in their order, and a visitor of rows its
rows, until it answers no, which the run then answers as well, or fails, and then the run fails in
the same way. If it does neither, one call is made for each block, and one more that finds nothing
exactly if the last block is full. Otherwise as many calls are made as batches were handed over, or
as blocks were begun.

Rows that are taken one by one are the first of the list. A number of them takes as many calls as
there are blocks begun. If more are wanted than there are, all are delivered once, with the calls of
a whole run. -/
theorem Engine.counted_batches_deliver_once (e : Engine σ) (settings : Settings)
    (visitor : Visitor σ) (q : Query) (R : List Row) (size : Nat) (w : World (Observed σ))
    (hsize : 0 < size) (hopen : e.observed.Open w) (hlists : e.Lists q.inOrder size R) :
    e.DeliversOnce settings visitor q R size w := by
  have hone : (fun visits : Nat => visits ⌈/⌉ 1) = id := by
    funext visits
    rw [Nat.ceilDiv_eq_add_pred_div, Nat.div_one]
    rfl
  have hbatches {fuel : Nat} (hfuel : R.length ⌈/⌉ size < fuel) := Batches.drive_delivers hsize
    hlists hopen (.batch visitor) .batch hfuel
  have hrows {fuel : Nat} (hfuel : R.length ⌈/⌉ size < fuel) := Batches.drive_delivers hsize
    hlists hopen (.visitRows visitor) (.rows hsize) hfuel
  simp only [blocks_batches, hone] at hbatches
  simp only [blocks_rows hsize] at hrows
  exact {
    batches := fun fuel hfuel => hbatches hfuel
    rows := fun fuel hfuel => hrows hfuel
    chunk := fun hfuel => (hbatches hfuel).map Answer.bool
    each := by
      intro hfuel given hgiven
      have heach := hrows hfuel
      rw [← hgiven] at heach
      exact heach.map Answer.bool
    taken := by
      intro given hgiven
      refine ⟨_, rfl, fun count fuel hfuel => ?_⟩
      obtain ⟨rows, rest, ending, events, w', hrun, hgoes, htakes⟩ :
          ∃ rows rest ending events w', (RowSource.take e.observed fuel (some count)
              (.batches ⟨.counted q size R 0, []⟩)).run w = ((rows, rest, ending), w')
            ∧ w.Goes events w' ∧ Takes e.dialect q size R 0 [] count rows ending events :=
        RowSource.take_counted hsize hlists hopen (by omega) hfuel
      have hasks := htakes.asks
      have hends := htakes.ending
      unfold callsForRows callsFrom at hasks
      unfold Batches.counted at hrun
      rw [← hgiven] at hrun
      simp only [List.length_nil, Nat.zero_add, Nat.zero_mul, Nat.sub_zero] at hasks hends
      refine ⟨rest, events, w', ?_, hgoes, htakes.silent, hasks⟩
      rw [hrun, htakes.rows, hends, Nat.zero_mul]
      rfl }

/-- Three rows come in a batch of two and another of one. -/
theorem three_rows_delivered_once : 0 < 2 ∧ (numberedEngine 3 2).DeliversOnce {} keepAll everyNumber
    (numberedRows 3) 2 { outside := { state := [], record := [] } } := by
  have hopen : (numberedEngine 3 2).observed.Open { outside := { state := [], record := [] } } :=
    { uncached := fun _ => rfl, ready := fun _ hlimiter => nomatch hlimiter }
  exact ⟨by decide, Engine.counted_batches_deliver_once (numberedEngine 3 2) {} keepAll everyNumber
    (numberedRows 3) 2 { outside := { state := [], record := [] } } (by decide) hopen
    (numberedEngine_lists 3 2 ⟨_, rfl⟩ rfl)⟩

/-- Four rows are two batches, and a third call finds nothing. -/
example : ((Batches.drive (numberedEngine 4 2).observed keepAll.observed.batch 3
    { query := everyNumber, size := 2, place := .offset 0 }).run.run
      { outside := { state := [], record := [] } }).2.outside.record.map
        (fun | .call _ _ => "call" | .visit _ _ => "visit")
      = ["call", "visit", "call", "visit", "call"] := by
  decide +kernel

end SqlQuery
