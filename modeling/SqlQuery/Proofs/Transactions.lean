import SqlQuery.Proofs.Recording

/-!
# One transaction at a time

A connection and the handles of the transactions that were begun on it are used by calls in any
order: statements on the connection or on a handle, new transactions, commits and rollbacks, also
on handles that are finished. Any call of the driver may fail.

What the calls keep is `Client.Sound`: all transactions are finished except that, while the flag of
the connection is set, the last one is not. A handle closes its transaction once, since it is
finished from then on whether or not the driver fails, and the connection commits by itself only
while the flag is not set.
-/

namespace SqlQuery

open Effect Recorded

variable {δ α : Type}

/-! ## Calls of the driver that close a transaction -/

/-- The two ways to close a transaction. -/
inductive Closing where
  | commit
  | rollback
  deriving DecidableEq, Repr

/-- The driver with its commits and rollbacks noted beside its state, also those that fail. -/
def CursorDriver.noting (d : CursorDriver δ) : CursorDriver (Recorded (List Closing) δ) where
  openCursor := act d.openCursor
  closeCursor := act d.closeCursor
  execute sql bindings := do return executed (← act (d.execute sql bindings))
  commit := do
    write (· ++ [.commit])
    act d.commit
  rollback := do
    write (· ++ [.rollback])
    act d.rollback

def CursorDriver.close (d : CursorDriver δ) : Closing → Effect δ Unit
  | .commit => d.commit
  | .rollback => d.rollback

def Transaction.close (tx : Transaction δ) : Closing → Effect δ Unit
  | .commit => tx.commit
  | .rollback => tx.rollback

/-- The three ways to run a statement. -/
inductive Way where
  | query
  | queryOne
  | execute
  deriving DecidableEq, Repr

/-- Runs a statement and passes over its answer. -/
def Statements.send (st : Statements δ) (way : Way) (sql : String) (bindings : List Value) :
    Effect δ Unit :=
  match way with
  | .query => do let _ ← st.query sql bindings
  | .queryOne => do let _ ← st.queryOne sql bindings
  | .execute => do let _ ← st.execute sql bindings

namespace Connection

/-- A connection whose driver notes what it closes. -/
abbrev Noted (δ : Type) := Connection (Recorded (List Closing) δ)

/-- The handle of a transaction by its number. -/
def handle (d : CursorDriver δ) (autocommit : Bool) (i : Nat) : Transaction (Connection δ) where
  statements := statements d autocommit
  commit := finish i d.commit
  rollback := finish i d.rollback

end Connection

/-! ## Histories of calls -/

/-- A call on a connection, or on a transaction that was begun on it. -/
inductive ClientCall where
  | begin
  /-- A statement on the transaction of a number, or on the connection itself. -/
  | send (handle : Option Nat) (way : Way) (sql : String) (bindings : List Value)
  | close (handle : Nat) (closing : Closing)

/-- A connection and the handles that it returned, in order. -/
structure Client (δ : Type) where
  connection : Connection.Noted δ
  handles : List (Transaction (Connection.Noted δ)) := []

namespace Client

/-- A connection on which nothing was done yet. -/
def fresh (s : δ) : Client δ where
  connection := { driver := { state := s, record := [] } }

/-- Carries out an effect on the connection, whatever its answer. -/
def after (x : Client δ) (effect : Effect (Connection.Noted δ) α) : Client δ :=
  { x with connection := (effect.run.run x.connection).2 }

/-- The client after a call. A call on a handle that was never returned cannot be made. -/
def call (d : CursorDriver δ) (autocommit : Bool) (x : Client δ) : ClientCall → Client δ
  | .begin =>
    match (Connection.begin d.noting autocommit).run.run x.connection with
    | (.ok tx, connection) => { connection, handles := x.handles ++ [tx] }
    | (.error _, connection) => { x with connection }
  | .send none way sql bindings =>
    x.after ((Connection.statements d.noting autocommit).send way sql bindings)
  | .send (some i) way sql bindings =>
    match x.handles[i]? with
    | some tx => x.after (tx.statements.send way sql bindings)
    | none => x
  | .close i closing =>
    match x.handles[i]? with
    | some tx => x.after (tx.close closing)
    | none => x

/-- The transaction of a number was begun and is not finished. -/
def IsOpen (x : Client δ) (i : Nat) : Prop :=
  i < x.handles.length ∧ x.connection.finished[i]? = some false

/-- The client after calls one after the other. -/
def run (d : CursorDriver δ) (autocommit : Bool) (x : Client δ) (calls : List ClientCall) :
    Client δ :=
  calls.foldl (call d autocommit) x

end Client

/-- One call of a history. -/
structure ClientStep (δ : Type) where
  call : ClientCall
  before : Client δ
  after : Client δ

namespace ClientStep

/-- The commits and rollbacks that the driver was asked for. -/
def closings (t : ClientStep δ) : List Closing :=
  t.after.connection.driver.record.drop t.before.connection.driver.record.length

/-- The call asks a handle to close its transaction. -/
def isCloseOf (t : ClientStep δ) (i : Nat) : Bool :=
  match t.call with
  | .close j _ => j == i
  | _ => false

/-- What the handle of a number asked the driver for. -/
def closedBy (i : Nat) (steps : List (ClientStep δ)) : List Closing :=
  (steps.filter (·.isCloseOf i)).flatMap closings

end ClientStep

/-- Calls with the client before and after each. -/
def Client.history (d : CursorDriver δ) (autocommit : Bool) (x : Client δ) :
    List ClientCall → List (ClientStep δ)
  | [] => []
  | c :: calls =>
    let y := x.call d autocommit c
    ⟨c, x, y⟩ :: y.history d autocommit calls

/-! ## What a call does to the connection -/

namespace Connection

variable {d : CursorDriver δ} {autocommit : Bool} {c : Noted δ} {sql : String}
  {bindings : List Value}

/-- The flag, the finished transactions and what was closed are the same as before. -/
structure Same (c c' : Noted δ) : Prop where
  inTransaction : c'.inTransaction = c.inTransaction
  finished : c'.finished = c.finished
  record : c'.driver.record = c.driver.record

theorem noting_recordsBy (d : CursorDriver δ) : d.noting.RecordsBy fun _ _ k => k where
  openCursor _ := act_keeps
  closeCursor _ := act_keeps
  executed h := by
    obtain ⟨y, _, hrun, hanswer⟩ := returns_bind.1 h
    obtain ⟨rfl, rfl⟩ := returns_pure.1 hanswer
    exact ⟨record_of_act hrun, y, rfl⟩
  failed h := act_keeps.bind (fun _ => .of_pure _) |>.of_run h rfl

theorem withStatement_keeps
    {use : Executed (Recorded (List Closing) δ) → Effect (Recorded (List Closing) δ) α}
    (huse : ∀ (y : Executed δ) k, Keeps (fun r => r.record = k) (use (executed y))) :
    Keeps (Same c) (withStatement d.noting sql bindings use) := by
  intro b hb
  rcases hrun : (withStatement d.noting sql bindings use).run.run b with ⟨answer, b'⟩
  obtain ⟨hflag, hfinished, hrecord⟩ := run_withStatement (noting_recordsBy d) hrun huse
  have hsame : b'.driver.record = b.driver.record := hrecord.elim id And.left
  exact ⟨hflag.trans hb.inTransaction, hfinished.trans hb.finished, hsame.trans hb.record⟩

theorem query_keeps : Keeps (Same c) (query d.noting sql bindings) :=
  withStatement_keeps fun y _ => readAll_keeps y y.fetches

theorem queryOne_keeps : Keeps (Same c) (queryOne d.noting sql bindings) :=
  withStatement_keeps fun y _ => readFirst_keeps y

/-- What a statement may have done: it may be committed, but not in a transaction. -/
structure Sent (c c' : Noted δ) : Prop where
  inTransaction : c'.inTransaction = c.inTransaction
  finished : c'.finished = c.finished
  record : c'.driver.record = c.driver.record
    ∨ c.inTransaction = false ∧ c'.driver.record = c.driver.record ++ [.commit]

theorem Same.sent {c' : Noted δ} (h : Same c c') : Sent c c' :=
  ⟨h.inTransaction, h.finished, .inl h.record⟩

theorem Same.refl (c : Noted δ) : Same c c :=
  ⟨rfl, rfl, rfl⟩

theorem handle_close (i : Nat) (closing : Closing) :
    (handle d.noting autocommit i).close closing = finish i (d.noting.close closing) := by
  cases closing <;> rfl

theorem record_of_close (closing : Closing) (r : Recorded (List Closing) δ) :
    ((d.noting.close closing).run.run r).2.record = r.record ++ [closing] := by
  cases closing <;> rfl

theorem execute_sent (c : Noted δ) :
    Sent c ((execute d.noting autocommit sql bindings).run.run c).2 := by
  have hstatement : Keeps (Same c)
      (withStatement d.noting sql bindings fun x => return x.result) :=
    withStatement_keeps fun _ _ => .of_pure _
  unfold execute
  refine Keeps.bind_last (J := Sent c) hstatement (fun _ hsame => hsame.sent)
    (fun result t hsame => ?_) (.refl c)
  change Sent c ((if autocommit && !t.inTransaction
    then call d.noting.commit >>= fun _ => return result
    else return result : Effect _ _).run.run t).2
  split
  · next hcommit =>
    have hidle : t.inTransaction = false := by
      simp only [Bool.and_eq_true, Bool.not_eq_true'] at hcommit
      exact hcommit.2
    have hrecord : ((call d.noting.commit).run.run t).2.driver.record
        = t.driver.record ++ [.commit] :=
      record_of_close .commit t.driver
    rw [state_bind_pure (call d.noting.commit) fun _ => result]
    refine ⟨hsame.inTransaction, hsame.finished, .inr ⟨?_, ?_⟩⟩
    · rw [← hsame.inTransaction, hidle]
    · rw [hrecord, hsame.record]
  · exact hsame.sent

theorem send_sent (c : Noted δ) (way : Way) :
    Sent c (((statements d.noting autocommit).send way sql bindings).run.run c).2 := by
  cases way with
  | query =>
    have hsame : Same c ((query d.noting sql bindings).run.run c).2 := query_keeps c (.refl c)
    unfold Statements.send
    rw [state_bind_pure]
    exact hsame.sent
  | queryOne =>
    have hsame : Same c ((queryOne d.noting sql bindings).run.run c).2 :=
      queryOne_keeps c (.refl c)
    unfold Statements.send
    rw [state_bind_pure]
    exact hsame.sent
  | execute =>
    unfold Statements.send
    rw [state_bind_pure]
    exact execute_sent c

/-! ### Beginning and finishing -/

section Finishing

variable {d : CursorDriver δ} {c : Connection δ} {i : Nat} {x : Effect δ Unit}

/-- An open transaction is finished, whatever the driver answers. -/
theorem run_finish_of_open (h : c.finished[i]? = some false) :
    (finish i x).run.run c = ((x.run.run c.driver).1,
      { driver := (x.run.run c.driver).2, inTransaction := false
        finished := c.finished.set i true }) := by
  have hopen : ¬ (c.finished[i]?).getD true = true := by
    rw [h]
    decide
  unfold finish
  change (if (c.finished[i]?).getD true = true then _ else _ : Effect _ _).run.run c = _
  rw [if_neg hopen]
  rw [(returns_modify.2 rfl : (modify _ : Effect (Connection δ) Unit).Returns c () _).run_bind]
  exact run_andThen rfl (returns_modify.2 rfl)

theorem run_finish_of_finished (h : c.finished[i]? ≠ some false) :
    (finish i x).run.run c = (.error (.transaction .alreadyFinished), c) := by
  have hfinished : (c.finished[i]?).getD true = true := by
    rcases hi : c.finished[i]? with _ | _ | _ <;> simp_all
  unfold finish
  change (if (c.finished[i]?).getD true = true then _ else _ : Effect _ _).run.run c = _
  rw [if_pos hfinished]
  rfl

theorem run_begin_of_open (h : c.inTransaction = true) :
    (begin d autocommit).run.run c = (.error (.transaction .alreadyOpen), c) := by
  unfold begin
  change (if c.inTransaction = true then _ else _ : Effect _ _).run.run c = _
  rw [if_pos h]
  rfl

theorem run_begin_of_idle (h : c.inTransaction = false) :
    (begin d autocommit).run.run c
      = (.ok (handle d autocommit c.finished.length),
        { c with inTransaction := true, finished := c.finished ++ [false] }) := by
  unfold begin
  change (if c.inTransaction = true then _ else _ : Effect _ _).run.run c = _
  rw [h]
  rfl

end Finishing

end Connection

/-! ## What every call keeps -/

namespace Client

variable {d : CursorDriver δ} {autocommit : Bool} {x y : Client δ} {c : ClientCall}

/-- Each transaction that was begun has its handle, and all are finished but the last one, which is
open while the flag is set. -/
structure Sound (d : CursorDriver δ) (autocommit : Bool) (x : Client δ) : Prop where
  handles : x.handles
    = (List.range x.connection.finished.length).map (Connection.handle d.noting autocommit)
  finished : ∃ n, x.connection.finished
    = List.replicate n true ++ if x.connection.inTransaction then [false] else []

/-- What a call may do. -/
inductive Turn (d : CursorDriver δ) (autocommit : Bool) (x : Client δ) :
    ClientCall → Client δ → Prop
  | idle c : Turn d autocommit x c x
  | sent handle way sql bindings {c' : Connection.Noted δ} (h : x.connection.Sent c') :
    Turn d autocommit x (.send handle way sql bindings) { x with connection := c' }
  | begun (h : x.connection.inTransaction = false) :
    Turn d autocommit x .begin {
      connection := { x.connection with
        inTransaction := true, finished := x.connection.finished ++ [false] }
      handles := x.handles
        ++ [Connection.handle d.noting autocommit x.connection.finished.length] }
  | closed i closing {driver : Recorded (List Closing) δ} (h : x.IsOpen i)
    (hrecord : driver.record = x.connection.driver.record ++ [closing]) :
    Turn d autocommit x (.close i closing) { x with
      connection := {
        driver, inTransaction := false, finished := x.connection.finished.set i true } }

namespace Sound

theorem fresh (s : δ) : Sound d autocommit (fresh s) :=
  ⟨rfl, 0, rfl⟩

theorem handles_length (h : x.Sound d autocommit) :
    x.handles.length = x.connection.finished.length := by
  rw [h.handles, List.length_map, List.length_range]

theorem handle_of_getElem? (h : x.Sound d autocommit) {i : Nat}
    {tx : Transaction (Connection.Noted δ)} (hi : x.handles[i]? = some tx) :
    tx = Connection.handle d.noting autocommit i := by
  rw [h.handles, List.getElem?_map] at hi
  obtain ⟨j, hj, rfl⟩ := Option.map_eq_some_iff.1 hi
  obtain ⟨hlt, hval⟩ := List.getElem?_eq_some_iff.1 hj
  rw [List.getElem_range] at hval
  rw [hval]

/-- The last transaction that was begun is open while the flag is set, and no other ever is. -/
theorem isOpen_iff (h : x.Sound d autocommit) {i : Nat} :
    x.IsOpen i ↔ x.connection.inTransaction = true ∧ i + 1 = x.connection.finished.length := by
  obtain ⟨n, hn⟩ := h.finished
  unfold IsOpen
  rw [h.handles_length, hn]
  cases x.connection.inTransaction with
  | false => simp [List.getElem?_replicate]
  | true => grind

theorem isOpen_unique (h : x.Sound d autocommit) {i j : Nat} (hi : x.IsOpen i) (hj : x.IsOpen j) :
    i = j := by
  have hilast := (h.isOpen_iff.1 hi).2
  have hjlast := (h.isOpen_iff.1 hj).2
  omega

theorem inTransaction_iff (h : x.Sound d autocommit) :
    x.connection.inTransaction = true ↔ ∃ i, x.IsOpen i := by
  constructor
  · intro hset
    obtain ⟨n, hn⟩ := h.finished
    rw [hset] at hn
    refine ⟨n, h.isOpen_iff.2 ⟨hset, ?_⟩⟩
    simp [hn]
  · rintro ⟨i, hi⟩
    exact (h.isOpen_iff.1 hi).1

/-- A handle that is not open is refused, and the driver is not asked. -/
theorem run_close_of_finished (h : x.Sound d autocommit) {i : Nat}
    {tx : Transaction (Connection.Noted δ)} (hi : x.handles[i]? = some tx) (hopen : ¬ x.IsOpen i)
    (closing : Closing) :
    (tx.close closing).run.run x.connection
      = (.error (.transaction .alreadyFinished), x.connection) := by
  obtain ⟨hlt, -⟩ := List.getElem?_eq_some_iff.1 hi
  have hfinished : x.connection.finished[i]? ≠ some false := fun hfalse => hopen ⟨hlt, hfalse⟩
  rw [h.handle_of_getElem? hi, Connection.handle_close]
  exact Connection.run_finish_of_finished hfinished

/-- The handle that is open asks the driver once, and is finished whatever the driver answers. -/
theorem state_close_of_open (h : x.Sound d autocommit) {i : Nat}
    {tx : Transaction (Connection.Noted δ)} (hi : x.handles[i]? = some tx) (hopen : x.IsOpen i)
    (closing : Closing) :
    ∃ driver, driver.record = x.connection.driver.record ++ [closing]
      ∧ ((tx.close closing).run.run x.connection).2
        = { driver, inTransaction := false, finished := x.connection.finished.set i true } := by
  rw [h.handle_of_getElem? hi, Connection.handle_close, Connection.run_finish_of_open hopen.2]
  exact ⟨_, Connection.record_of_close closing x.connection.driver, rfl⟩

theorem turn (h : x.Sound d autocommit) (c : ClientCall) :
    Turn d autocommit x c (x.call d autocommit c) := by
  cases c with
  | begin =>
    unfold call
    cases hflag : x.connection.inTransaction with
    | true =>
      rw [Connection.run_begin_of_open hflag]
      exact .idle _
    | false =>
      rw [Connection.run_begin_of_idle hflag]
      exact .begun hflag
  | send handle way sql bindings =>
    cases handle with
    | none => exact .sent none way sql bindings (Connection.send_sent x.connection way)
    | some i =>
      change Turn d autocommit x _ (match x.handles[i]? with
        | some tx => x.after (tx.statements.send way sql bindings)
        | none => x)
      cases hi : x.handles[i]? with
      | none => exact .idle _
      | some tx =>
        rw [h.handle_of_getElem? hi]
        exact .sent (some i) way sql bindings (Connection.send_sent x.connection way)
  | close i closing =>
    change Turn d autocommit x _ (match x.handles[i]? with
      | some tx => x.after (tx.close closing)
      | none => x)
    cases hi : x.handles[i]? with
    | none => exact .idle _
    | some tx =>
      change Turn d autocommit x _ (x.after (tx.close closing))
      unfold after
      by_cases hopen : x.IsOpen i
      · obtain ⟨driver, hrecord, hstate⟩ := h.state_close_of_open hi hopen closing
        rw [hstate]
        exact .closed i closing hopen hrecord
      · rw [h.run_close_of_finished hi hopen]
        exact .idle _

theorem of_turn (h : x.Sound d autocommit) (ht : Turn d autocommit x c y) :
    y.Sound d autocommit := by
  obtain ⟨n, hn⟩ := h.finished
  cases ht with
  | idle => exact h
  | sent handle way sql bindings hsent =>
    refine ⟨?_, n, ?_⟩
    · change x.handles = _
      rw [hsent.finished, h.handles]
    · change _ = _ ++ if _ then _ else _
      rw [hsent.finished, hsent.inTransaction, hn]
  | begun hidle =>
    refine ⟨?_, n, ?_⟩
    · change x.handles ++ _ = List.map _ (List.range (x.connection.finished ++ [false]).length)
      rw [List.length_append, List.length_singleton, List.range_succ, List.map_append, ← h.handles]
      rfl
    · change x.connection.finished ++ [false] = List.replicate n true ++ [false]
      rw [hn, hidle]
      simp
  | closed i closing hopen hrecord =>
    obtain ⟨hflag, hlast⟩ := h.isOpen_iff.1 hopen
    refine ⟨?_, n + 1, ?_⟩
    · change x.handles = List.map _ (List.range (x.connection.finished.set i true).length)
      rw [List.length_set, h.handles]
    · change x.connection.finished.set i true = List.replicate (n + 1) true ++ []
      rw [hflag] at hn
      rw [hn] at hlast ⊢
      have hi : i = n := by
        simpa using hlast
      simp [hi, List.replicate_succ']

end Sound

/-! ## Histories -/

theorem Sound.run (h : x.Sound d autocommit) (calls : List ClientCall) :
    (x.run d autocommit calls).Sound d autocommit := by
  induction calls generalizing x with
  | nil => exact h
  | cons c calls ih => exact ih (h.of_turn (h.turn c))

theorem Sound.of_mem_history (h : x.Sound d autocommit) {calls : List ClientCall}
    {t : ClientStep δ} (ht : t ∈ x.history d autocommit calls) :
    t.before.Sound d autocommit ∧ Turn d autocommit t.before t.call t.after := by
  induction calls generalizing x with
  | nil => cases ht
  | cons c calls ih =>
    obtain rfl | hlater := List.mem_cons.1 ht
    · exact ⟨h, h.turn c⟩
    · exact ih (h.of_turn (h.turn c)) hlater

/-- A transaction that is finished stays finished. -/
theorem Turn.finished_stays (ht : Turn d autocommit x c y) {i : Nat}
    (hi : x.connection.finished[i]? = some true) : y.connection.finished[i]? = some true := by
  cases ht with
  | idle => exact hi
  | sent handle way sql bindings hsent =>
    rw [← hi, ← hsent.finished]
  | begun => grind
  | closed j closing hopen hrecord =>
    change (x.connection.finished.set j true)[i]? = some true
    grind

/-- A call asks the driver to close nothing, or is a statement while no transaction is open, or
closes the one that is open. -/
theorem Turn.closings_cases {t : ClientStep δ} (ht : Turn d autocommit t.before t.call t.after) :
    t.closings = []
    ∨ (t.before.connection.inTransaction = false ∧ ∀ i, t.isCloseOf i = false)
    ∨ ∃ i closing, t.call = .close i closing ∧ t.before.IsOpen i ∧ t.closings = [closing]
      ∧ t.after.connection.finished[i]? = some true := by
  obtain ⟨c, x, y⟩ := t
  change Turn d autocommit x c y at ht
  unfold ClientStep.closings
  cases ht with
  | idle => exact .inl (by simp)
  | sent handle way sql bindings hsent =>
    obtain hsame | ⟨hidle, -⟩ := hsent.record
    · refine .inl ?_
      simp [hsame]
    · exact .inr (.inl ⟨hidle, fun _ => rfl⟩)
  | begun => exact .inl (by simp)
  | closed i closing hopen hrecord =>
    refine .inr (.inr ⟨i, closing, rfl, hopen, ?_, ?_⟩)
    · simp [hrecord]
    · have hi := hopen.2
      grind

/-- While a transaction is open, the driver commits at the request of its handle only. -/
theorem Sound.call_of_commit {t : ClientStep δ} (h : t.before.Sound d autocommit)
    (ht : Turn d autocommit t.before t.call t.after) {i : Nat} (hi : t.before.IsOpen i)
    (hcommit : .commit ∈ t.closings) : t.call = .close i .commit := by
  obtain hnone | ⟨hidle, -⟩ | ⟨j, closing, hcall, hopen, hclosed, -⟩ := ht.closings_cases
  · rw [hnone] at hcommit
    cases hcommit
  · have hset := h.inTransaction_iff.2 ⟨i, hi⟩
    rw [hidle] at hset
    cases hset
  · rw [hclosed, List.mem_singleton] at hcommit
    rw [hcall, h.isOpen_unique hi hopen, hcommit]

/-- How often a handle can still close its transaction. -/
def remaining (x : Client δ) (i : Nat) : Nat :=
  if x.connection.finished[i]? = some true then 0 else 1

theorem Turn.remaining_le (ht : Turn d autocommit x c y) (i : Nat) :
    y.remaining i ≤ x.remaining i := by
  unfold remaining
  by_cases hi : x.connection.finished[i]? = some true
  · rw [if_pos (ht.finished_stays hi)]
    exact Nat.zero_le _
  · rw [if_neg hi]
    split <;> omega

/-- A handle that closes its transaction cannot do so again. -/
theorem Turn.closings_add_remaining_le {t : ClientStep δ}
    (ht : Turn d autocommit t.before t.call t.after) {i : Nat} (hi : t.isCloseOf i = true) :
    t.closings.length + t.after.remaining i ≤ t.before.remaining i := by
  obtain hnone | ⟨-, hother⟩ | ⟨j, closing, hcall, hopen, hclosed, hdone⟩ := ht.closings_cases
  · have hle := ht.remaining_le i
    rw [hnone, List.length_nil]
    omega
  · rw [hother] at hi
    cases hi
  · have hij : j = i := by
      unfold ClientStep.isCloseOf at hi
      rw [hcall] at hi
      exact beq_iff_eq.1 hi
    subst hij
    have hbefore : t.before.remaining j = 1 := by
      unfold remaining
      rw [hopen.2]
      rfl
    have hafter : t.after.remaining j = 0 := if_pos hdone
    have hlength : t.closings.length = 1 := congrArg List.length hclosed
    omega

theorem Sound.closedBy_length_le (h : x.Sound d autocommit) (calls : List ClientCall) (i : Nat) :
    (ClientStep.closedBy i (x.history d autocommit calls)).length ≤ x.remaining i := by
  induction calls generalizing x with
  | nil => exact Nat.zero_le _
  | cons c calls ih =>
    let t : ClientStep δ := ⟨c, x, x.call d autocommit c⟩
    have ht : Turn d autocommit t.before t.call t.after := h.turn c
    have hrest := ih (h.of_turn ht)
    -- what the call closes is paid for by what is left before it
    change (ClientStep.closedBy i (t :: t.after.history d autocommit calls)).length
      ≤ t.before.remaining i
    unfold ClientStep.closedBy at hrest ⊢
    by_cases hi : t.isCloseOf i = true
    · have hspent := ht.closings_add_remaining_le hi
      rw [List.filter_cons, if_pos hi, List.flatMap_cons, List.length_append]
      omega
    · have hle := ht.remaining_le i
      rw [List.filter_cons, if_neg hi]
      omega

/-- **One transaction at a time.** After any calls on a fresh connection and on the handles that it
returned, finished ones too, whichever calls of the driver fail:

* the flag of the connection is set exactly while a transaction is open, and one at most is;
* a transaction begins if none is open; else the call fails and nothing is changed;
* the handle that is open asks the driver once, and the flag is not set then;
* a handle that is not open is refused, and neither the driver nor the flag is touched;
* a handle asked the driver for one commit or rollback at most;
* while a transaction is open, only its own commit made the driver commit.

A handle that is finished runs its statements as the connection does. -/
theorem one_transaction (d : CursorDriver δ) (autocommit : Bool) (s : δ)
    (calls : List ClientCall) :
    let x := (fresh s).run d autocommit calls
    let steps := (fresh s).history d autocommit calls
    (x.connection.inTransaction = true ↔ ∃ i, x.IsOpen i)
    ∧ (∀ i j, x.IsOpen i → x.IsOpen j → i = j)
    ∧ ((∃ i, x.IsOpen i) → (Connection.begin d.noting autocommit).run.run x.connection
        = (.error (.transaction .alreadyOpen), x.connection))
    ∧ ((¬ ∃ i, x.IsOpen i) → ∃ tx c,
        (Connection.begin d.noting autocommit).Returns x.connection tx c)
    ∧ (∀ (i : Nat) tx closing, x.handles[i]? = some tx → x.IsOpen i →
        let c := ((tx.close closing).run.run x.connection).2
        c.inTransaction = false ∧ c.driver.record = x.connection.driver.record ++ [closing])
    ∧ (∀ (i : Nat) tx closing, x.handles[i]? = some tx → ¬ x.IsOpen i →
        (tx.close closing).run.run x.connection
          = (.error (.transaction .alreadyFinished), x.connection))
    ∧ (∀ i, (ClientStep.closedBy i steps).length ≤ 1)
    ∧ ∀ t ∈ steps, ∀ i, t.before.IsOpen i → .commit ∈ t.closings → t.call = .close i .commit := by
  intro x steps
  have hfresh : (fresh s).Sound d autocommit := .fresh s
  have hsound : x.Sound d autocommit := hfresh.run calls
  refine ⟨hsound.inTransaction_iff, ?_, ?_, ?_, ?_, ?_, ?_, ?_⟩
  · intro i j hi hj
    exact hsound.isOpen_unique hi hj
  · intro hopen
    exact Connection.run_begin_of_open (hsound.inTransaction_iff.2 hopen)
  · intro hnone
    have hidle : x.connection.inTransaction = false := by
      rw [← hsound.inTransaction_iff, Bool.not_eq_true] at hnone
      exact hnone
    exact ⟨_, _, Connection.run_begin_of_idle hidle⟩
  · intro i tx closing hi hopen
    obtain ⟨driver, hrecord, hstate⟩ := hsound.state_close_of_open hi hopen closing
    rw [hstate]
    exact ⟨rfl, hrecord⟩
  · intro i tx closing hi hopen
    exact hsound.run_close_of_finished hi hopen closing
  · intro i
    have hle : (ClientStep.closedBy i steps).length ≤ (fresh s).remaining i :=
      hfresh.closedBy_length_le calls i
    have hremaining : (fresh s).remaining i = 1 := rfl
    omega
  · intro t ht i hi hcommit
    obtain ⟨hbefore, hturn⟩ := hfresh.of_mem_history ht
    exact hbefore.call_of_commit hturn hi hcommit

end Client

end SqlQuery
