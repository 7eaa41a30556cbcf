import SqlQuery.Proofs.Durability
import SqlQuery.Proofs.Transactions

/-!
# Blocks in a transaction

A block of statements is run in a transaction that is begun for it: it is committed if the block
comes to its end, and rolled back if the block fails. An `Account` beside the driver's state holds
what is pending, what is committed, and which commits and rollbacks were asked for.

Inside the transaction a block only adds to what is pending (`Connection.Within`). What happens
afterwards depends on how the block ended and on nothing else: a rollback is asked for exactly if the
block failed. A commit that fails is not followed by one, so the block's statements stay pending and
the next write outside a transaction commits them, as if the commit had succeeded.
-/

namespace SqlQuery

open Effect Recorded

variable {δ σ α β : Type}

/-! ## Blocks -/

/-- A block of statements. What it does after a statement depends on how the statement ended. -/
inductive Block (α : Type) where
  | done (result : Result α)
  | query (sql : String) (bindings : List Value) (next : Result Reading → Block α)
  | queryOne (sql : String) (bindings : List Value) (next : Result (Option Row) → Block α)
  | execute (sql : String) (bindings : List Value) (next : Result ExecResult → Block α)

def Block.run (st : Statements σ) : Block α → Effect σ α
  | done result => ofResult result
  | query sql bindings next => do (next (← attempt (st.query sql bindings))).run st
  | queryOne sql bindings next => do (next (← attempt (st.queryOne sql bindings))).run st
  | execute sql bindings next => do (next (← attempt (st.execute sql bindings))).run st

/-- Runs a block in a transaction of its own. -/
def Connection.scope (d : CursorDriver δ) (autocommit : Bool) (block : Block α) :
    Effect (Connection δ) α :=
  (executor d autocommit).opening.transaction (fun x => x) fun tx => block.run tx.statements

/-! ## Accounts -/

namespace Ledger

/-- All that is committed or may still be, in order. -/
def entries (l : Ledger) : List (String × List Value) :=
  l.committed ++ l.pending

theorem entries_add {sql : String} {bindings : List Value} (l : Ledger) :
    (l.add sql bindings).entries = l.entries ++ [(sql, bindings)] :=
  (List.append_assoc l.committed l.pending [(sql, bindings)]).symm

theorem entries_commit (l : Ledger) : l.commit.entries = l.entries :=
  List.append_nil (l.committed ++ l.pending)

end Ledger

/-- What is pending and committed, and what the driver was asked to close. -/
structure Account where
  ledger : Ledger := {}
  asked : List Closing := []

namespace Account

def add (sql : String) (bindings : List Value) (a : Account) : Account :=
  { a with ledger := a.ledger.add sql bindings }

def ask (closing : Closing) (a : Account) : Account :=
  { a with asked := a.asked ++ [closing] }

def commit (a : Account) : Account :=
  { a with ledger := a.ledger.commit }

def discard (a : Account) : Account :=
  { a with ledger := a.ledger.discard }

end Account

/-- The driver with an account beside its state. A commit takes effect if it succeeds; a rollback
drops what is pending in any case. -/
def CursorDriver.accounted (d : CursorDriver δ) : CursorDriver (Recorded Account δ) where
  openCursor := act d.openCursor
  closeCursor := act d.closeCursor
  execute sql bindings := enter (d.execute sql bindings) (Account.add sql bindings)
  commit := do
    write (Account.ask .commit)
    act d.commit
    write Account.commit
  rollback := do
    write fun a => (a.ask .rollback).discard
    act d.rollback

theorem CursorDriver.accounted_recordsBy (d : CursorDriver δ) :
    d.accounted.RecordsBy Account.add where
  openCursor _ := act_keeps
  closeCursor _ := act_keeps
  executed := returns_enter
  failed := record_of_enter_error

theorem CursorDriver.run_accounted_commit (d : CursorDriver δ) (r : Recorded Account δ) :
    ∃ answer r', d.accounted.commit.run.run r = (answer, r')
      ∧ r'.record.asked = r.record.asked ++ [.commit]
      ∧ (answer = .ok () ∧ r'.record.ledger = r.record.ledger.commit
        ∨ (∃ e, answer = .error e) ∧ r'.record.ledger = r.record.ledger) := by
  let M : Result Unit × Recorded Account δ → Prop := fun (answer, r') =>
    r'.record.asked = r.record.asked ++ [.commit]
      ∧ (answer = .ok () ∧ r'.record.ledger = r.record.ledger.commit
        ∨ (∃ e, answer = .error e) ∧ r'.record.ledger = r.record.ledger)
  suffices hM : M (d.accounted.commit.run.run r) from ⟨_, _, rfl, hM⟩
  unfold CursorDriver.accounted
  refine run_bind_elim (fun e t h => by cases h) ?_
  intro _ asked hask
  have hrecord := record_of_write hask
  refine run_bind_elim ?_ ?_
  · intro e t hcommit
    have hsame : t.record = asked.record := act_keeps.of_run hcommit rfl
    rw [hrecord] at hsame
    refine ⟨?_, .inr ⟨⟨e, rfl⟩, ?_⟩⟩
    · rw [hsame]
      rfl
    · rw [hsame]
      rfl
  · intro _ t hcommit
    have hsame : t.record = asked.record := record_of_act hcommit
    rw [hrecord] at hsame
    refine ⟨?_, .inl ⟨rfl, ?_⟩⟩
    · change t.record.asked = _
      rw [hsame]
      rfl
    · change t.record.ledger.commit = _
      rw [hsame]
      rfl

theorem CursorDriver.run_accounted_rollback (d : CursorDriver δ) (r : Recorded Account δ) :
    ∃ answer r', d.accounted.rollback.run.run r = (answer, r')
      ∧ r'.record.asked = r.record.asked ++ [.rollback]
      ∧ r'.record.ledger = r.record.ledger.discard := by
  refine ⟨_, _, rfl, rfl, rfl⟩

namespace Connection

/-- A connection with an account beside its driver's state. -/
abbrev Accounted (δ : Type) := Connection (Recorded Account δ)

def ledger (c : Accounted δ) : Ledger :=
  c.driver.record.ledger

/-- The commits and rollbacks that the driver was asked for. -/
def asked (c : Accounted δ) : List Closing :=
  c.driver.record.asked

/-! ## Inside the transaction -/

/-- What statements do in an open transaction: they add to what is pending. -/
structure Within (c c' : Accounted δ) : Prop where
  inTransaction : c'.inTransaction = true
  finished : c'.finished = c.finished
  asked : c'.asked = c.asked
  ledger : ∃ sent, c'.ledger = { c.ledger with pending := c.ledger.pending ++ sent }

variable {d : CursorDriver δ} {autocommit : Bool} {c c' : Accounted δ} {sql : String}
  {bindings : List Value}

theorem Within.refl (h : c.inTransaction = true) : Within c c :=
  ⟨h, rfl, rfl, [], by rw [List.append_nil]⟩

theorem Within.trans {c'' : Accounted δ} (h : Within c c') (h' : Within c' c'') :
    Within c c'' := by
  obtain ⟨sent, hsent⟩ := h.ledger
  obtain ⟨more, hmore⟩ := h'.ledger
  refine ⟨h'.inTransaction, h'.finished.trans h.finished, h'.asked.trans h.asked, ?_⟩
  refine ⟨sent ++ more, ?_⟩
  rw [hmore, hsent, List.append_assoc]

theorem withStatement_within {use : Executed (Recorded Account δ) → Effect (Recorded Account δ) α}
    (huse : ∀ (y : Executed δ) k, Keeps (fun r => r.record = k) (use (executed y))) :
    Keeps (Within c) (withStatement d.accounted sql bindings use) := by
  intro b hb
  rcases hrun : (withStatement d.accounted sql bindings use).run.run b with ⟨answer, b'⟩
  obtain ⟨hflag, hfinished, hrecord⟩ := run_withStatement d.accounted_recordsBy hrun huse
  have hopen : b'.inTransaction = true := hflag.trans hb.inTransaction
  refine hb.trans ?_
  rcases hrecord with hadded | ⟨hsame, -⟩
  · have hasked : b'.asked = b.asked := by
      unfold Connection.asked
      rw [hadded]
      rfl
    refine ⟨hopen, hfinished, hasked, [(sql, bindings)], ?_⟩
    unfold Connection.ledger
    rw [hadded]
    rfl
  · have hasked : b'.asked = b.asked := by
      unfold Connection.asked
      rw [hsame]
    refine ⟨hopen, hfinished, hasked, [], ?_⟩
    unfold Connection.ledger
    rw [hsame, List.append_nil]

theorem query_within : Keeps (Within c) (query d.accounted sql bindings) :=
  withStatement_within fun y _ => readAll_keeps y y.fetches

theorem queryOne_within : Keeps (Within c) (queryOne d.accounted sql bindings) :=
  withStatement_within fun y _ => readFirst_keeps y

theorem execute_within : Keeps (Within c) (execute d.accounted autocommit sql bindings) := by
  have hstatement : Keeps (Within c)
      (withStatement d.accounted sql bindings fun x => return x.result) :=
    withStatement_within fun _ _ => .of_pure _
  unfold execute
  refine hstatement.bind fun result => ?_
  intro b hb
  -- the flag is set, so nothing is committed by itself
  have hrest : (autocommit && !b.inTransaction) = false := by
    simp [hb.inTransaction]
  change Within c ((if autocommit && !b.inTransaction then _ else _ : Effect _ _).run.run b).2
  rw [hrest]
  exact hb

/-- A block adds to what is pending, whatever it does and however it ends. -/
theorem block_within (block : Block α) :
    Keeps (Within c) (block.run (statements d.accounted autocommit)) := by
  induction block with
  | done result => exact .of_result result
  | query sql bindings next ih => exact query_within.attempt.bind ih
  | queryOne sql bindings next ih => exact queryOne_within.attempt.bind ih
  | execute sql bindings next ih => exact execute_within.attempt.bind ih

/-! ## Outside a transaction -/

/-- What statements do while no transaction is open. Some of what is pending may be committed, and
the statements come last. -/
structure Outside (c c' : Accounted δ) : Prop where
  inTransaction : c'.inTransaction = false
  entries : ∃ more, c'.ledger.entries = c.ledger.entries ++ more

theorem Outside.refl (h : c.inTransaction = false) : Outside c c :=
  ⟨h, [], by rw [List.append_nil]⟩

theorem withStatement_outside {use : Executed (Recorded Account δ) → Effect (Recorded Account δ) α}
    (huse : ∀ (y : Executed δ) k, Keeps (fun r => r.record = k) (use (executed y))) :
    Keeps (Outside c) (withStatement d.accounted sql bindings use) := by
  intro b hb
  rcases hrun : (withStatement d.accounted sql bindings use).run.run b with ⟨answer, b'⟩
  obtain ⟨hflag, -, hrecord⟩ := run_withStatement d.accounted_recordsBy hrun huse
  obtain ⟨more, hmore⟩ := hb.entries
  refine ⟨hflag.trans hb.inTransaction, ?_⟩
  rcases hrecord with hadded | ⟨hsame, -⟩
  · have hentries : b'.ledger.entries = b.ledger.entries ++ [(sql, bindings)] := by
      unfold Connection.ledger
      rw [hadded]
      exact Ledger.entries_add b.ledger
    refine ⟨more ++ [(sql, bindings)], ?_⟩
    rw [hentries, hmore, List.append_assoc]
  · refine ⟨more, ?_⟩
    rw [← hmore]
    unfold Connection.ledger
    rw [hsame]

theorem commit_outside : Keeps (Outside c) (call d.accounted.commit) := by
  intro b hb
  obtain ⟨answer, r', hrun, -, hledger⟩ := d.run_accounted_commit b.driver
  have hentries : r'.record.ledger.entries = b.ledger.entries := by
    rcases hledger with ⟨-, hcommitted⟩ | ⟨-, hsame⟩
    · rw [hcommitted]
      exact Ledger.entries_commit b.ledger
    · rw [hsame]
      rfl
  obtain ⟨more, hmore⟩ := hb.entries
  have hdriver : ((call d.accounted.commit).run.run b).2 = { b with driver := r' } := by
    change { b with driver := (d.accounted.commit.run.run b.driver).2 } = _
    rw [hrun]
  rw [hdriver]
  exact ⟨hb.inTransaction, more, hentries.trans hmore⟩

theorem execute_outside : Keeps (Outside c) (execute d.accounted autocommit sql bindings) := by
  have hstatement : Keeps (Outside c)
      (withStatement d.accounted sql bindings fun x => return x.result) :=
    withStatement_outside fun _ _ => .of_pure _
  unfold execute
  refine hstatement.bind fun result => ?_
  intro b hb
  change Outside c ((if autocommit && !b.inTransaction then _ else _ : Effect _ _).run.run b).2
  split
  · exact (commit_outside.bind fun _ => .of_pure result) b hb
  · exact hb

theorem block_outside (block : Block α) :
    Keeps (Outside c) (block.run (statements d.accounted autocommit)) := by
  induction block with
  | done result => exact .of_result result
  | query sql bindings next ih =>
    have hquery : Keeps (Outside c) (query d.accounted sql bindings) :=
      withStatement_outside fun y _ => readAll_keeps y y.fetches
    exact hquery.attempt.bind ih
  | queryOne sql bindings next ih =>
    have hquery : Keeps (Outside c) (queryOne d.accounted sql bindings) :=
      withStatement_outside fun y _ => readFirst_keeps y
    exact hquery.attempt.bind ih
  | execute sql bindings next ih => exact execute_outside.attempt.bind ih

/-- A write outside a transaction commits everything that is pending. -/
theorem ledger_of_execute {result : ExecResult} (hidle : c.inTransaction = false)
    (h : (execute d.accounted true sql bindings).Returns c result c') :
    c'.ledger = (c.ledger.add sql bindings).commit := by
  unfold execute at h
  obtain ⟨x, c₁, hstatement, hrest⟩ := returns_bind.1 h
  obtain ⟨hflag, -, hadded | ⟨-, e, he⟩⟩ :=
    run_withStatement d.accounted_recordsBy hstatement fun _ _ => .of_pure _
  · have hstill : c₁.inTransaction = false := hflag.trans hidle
    have hend := returns_get_bind.1 hrest
    rw [hstill] at hend
    obtain ⟨_, c₂, hcommit, hend⟩ := returns_bind.1 hend
    obtain ⟨-, rfl⟩ := returns_pure.1 hend
    obtain ⟨r, hcalled, rfl⟩ := returns_onPart.1 hcommit
    obtain ⟨answer, r', hrun, -, ⟨-, hledger⟩ | ⟨⟨e, rfl⟩, -⟩⟩ :=
      d.run_accounted_commit c₁.driver
    · cases hcalled.symm.trans hrun
      rw [hadded] at hledger
      exact hledger
    · cases hcalled.symm.trans hrun
  · cases he

/-! ## The end of the transaction -/

section Ending

variable {d : CursorDriver δ} {c c' : Connection δ} {block : Block α}

/-- A connection with a transaction that was just begun. -/
def begun (c : Connection δ) : Connection δ :=
  { c with inTransaction := true, finished := c.finished ++ [false] }

theorem run_scope_of_open (h : c.inTransaction = true) :
    (scope d autocommit block).run.run c = (.error (.transaction .alreadyOpen), c) :=
  run_bind_error (run_begin_of_open h) _

/-- A block that fails is rolled back. -/
theorem run_scope_of_failed (hidle : c.inTransaction = false) {e : Error}
    (hblock : (block.run (statements d autocommit)).run.run (begun c) = (.error e, c')) :
    ∃ e', (scope d autocommit block).run.run c
      = (.error e', ((finish c.finished.length d.rollback).run.run c').2) := by
  have hbegin : (begin d autocommit).Returns c (handle d autocommit c.finished.length) (begun c) :=
    run_begin_of_idle hidle
  -- the handler rolls back and then fails in either case
  have hhandler : ∃ e', (finish c.finished.length d.rollback >>= fun _ => throw e :
      Effect (Connection δ) α).run.run c'
      = (.error e', ((finish c.finished.length d.rollback).run.run c').2) := by
    rcases hfinish : (finish c.finished.length d.rollback).run.run c' with ⟨answer, t⟩
    cases answer with
    | error e' => exact ⟨e', run_bind_error hfinish _⟩
    | ok u => exact ⟨e, Returns.run_bind hfinish _⟩
  obtain ⟨e', hhandler⟩ := hhandler
  refine ⟨e', ?_⟩
  refine (hbegin.run_bind _).trans (run_bind_error ?_ _)
  exact (run_tryCatch_error hblock _).trans hhandler

/-- A block that comes to its end is committed, and nothing else takes place. -/
theorem run_scope_of_ended (hidle : c.inTransaction = false) {a : α}
    (hblock : (block.run (statements d autocommit)).Returns (begun c) a c') :
    (scope d autocommit block).run.run c
      = (((finish c.finished.length d.commit).run.run c').1.map fun _ => a,
        ((finish c.finished.length d.commit).run.run c').2) := by
  have hbegin : (begin d autocommit).Returns c (handle d autocommit c.finished.length) (begun c) :=
    run_begin_of_idle hidle
  refine (hbegin.run_bind _).trans ?_
  refine ((hblock.tryCatch _).run_bind _).trans ?_
  rcases hfinish : (finish c.finished.length d.commit).run.run c' with ⟨answer, t⟩
  cases answer with
  | error e => exact run_bind_error hfinish _
  | ok u => exact Returns.run_bind hfinish _

end Ending

/-! ## What a block leaves behind -/

section Leaving

variable {c : Accounted δ}

theorem begun_within {block : Block α} {answer : Result α} {c' : Accounted δ}
    (h : (block.run (statements d.accounted autocommit)).run.run (begun c) = (answer, c')) :
    Within (begun c) c' :=
  (block_within block).of_run h (.refl rfl)

/-- The transaction that was begun for a block is still open when the block ends. -/
theorem Within.isOpen {c' : Accounted δ} (h : Within (begun c) c') :
    c'.finished[c.finished.length]? = some false := by
  rw [h.finished]
  exact List.getElem?_concat_length

/-- A later write commits all that a connection can still commit, whatever was run in between. -/
theorem ledger_of_later {later : Block β} {idle c' : Accounted δ} {answer : Result β}
    {sql : String} {bindings : List Value} {result : ExecResult} (hidle : c.inTransaction = false)
    (hlater : (later.run (statements d.accounted autocommit)).run.run c = (answer, idle))
    (h : (execute d.accounted true sql bindings).Returns idle result c') :
    ∃ more, c'.ledger
      = { pending := [], committed := c.ledger.entries ++ more ++ [(sql, bindings)] } := by
  have houtside : Outside c idle := (block_outside later).of_run hlater (.refl hidle)
  obtain ⟨more, hmore⟩ := houtside.entries
  refine ⟨more, ?_⟩
  rw [ledger_of_execute houtside.inTransaction h, ← hmore, ← Ledger.entries_add]
  rfl

/-- How a block that failed leaves the connection: rolled back. -/
theorem scope_of_failed {block : Block α} {e : Error} {c' : Accounted δ}
    (hidle : c.inTransaction = false)
    (hblock : (block.run (statements d.accounted autocommit)).run.run (begun c) = (.error e, c')) :
    ∃ e' s, (scope d.accounted autocommit block).run.run c = (.error e', s)
      ∧ s.inTransaction = false ∧ s.asked = c.asked ++ [.rollback]
      ∧ s.ledger = c.ledger.discard := by
  have hwithin := begun_within hblock
  obtain ⟨e', hscope⟩ := run_scope_of_failed hidle hblock
  rw [run_finish_of_open hwithin.isOpen] at hscope
  obtain ⟨answer, r, hrollback, hasked, hledger⟩ := d.run_accounted_rollback c'.driver
  rw [hrollback] at hscope
  refine ⟨e', _, hscope, rfl, ?_, ?_⟩
  · refine hasked.trans ?_
    change c'.asked ++ _ = _
    rw [hwithin.asked]
    rfl
  · obtain ⟨sent, hsent⟩ := hwithin.ledger
    refine hledger.trans ?_
    change c'.ledger.discard = _
    rw [hsent]
    rfl

/-- How a block that came to its end leaves the connection: committed, or as it was if the commit
failed. -/
theorem scope_of_ended {block : Block α} {a : α} {c' : Accounted δ}
    (hidle : c.inTransaction = false)
    (hblock : (block.run (statements d.accounted autocommit)).Returns (begun c) a c') :
    ∃ answer s, (scope d.accounted autocommit block).run.run c = (answer, s)
      ∧ s.inTransaction = false ∧ s.asked = c.asked ++ [.commit]
      ∧ (answer = .ok a ∧ s.ledger = c'.ledger.commit
        ∨ (∃ e, answer = .error e) ∧ s.ledger = c'.ledger) := by
  have hwithin := begun_within hblock
  have hscope := run_scope_of_ended hidle hblock
  rw [run_finish_of_open hwithin.isOpen] at hscope
  obtain ⟨answer, r, hcommit, hasked, hledger⟩ := d.run_accounted_commit c'.driver
  rw [hcommit] at hscope
  refine ⟨_, _, hscope, rfl, ?_, ?_⟩
  · refine hasked.trans ?_
    change c'.asked ++ _ = _
    rw [hwithin.asked]
    rfl
  · rcases hledger with ⟨rfl, hcommitted⟩ | ⟨⟨e, rfl⟩, hsame⟩
    · exact .inl ⟨rfl, hcommitted⟩
    · exact .inr ⟨⟨e, rfl⟩, hsame⟩

/-- **What a block in a transaction leaves behind**, whatever it does and whichever calls of the
driver fail. If a transaction is open already, nothing takes place. Else the block's statements are
pending when it ends, no transaction is open afterwards, and:

* a block that fails is rolled back, and the failure is passed on;
* a block that comes to its end is committed; if the commit fails, the failure is passed on, no
  rollback is asked for, and the statements stay pending;
* a later write that is committed by itself commits all that is in the ledger, whatever was run in
  between: also the statements of a block whose commit failed. -/
theorem scope_leaves (d : CursorDriver δ) (autocommit : Bool) (block : Block α) (later : Block β)
    (c : Accounted δ) :
    let inside := (block.run (statements d.accounted autocommit)).run.run (begun c)
    let left := (scope d.accounted autocommit block).run.run c
    let idle := ((later.run (statements d.accounted autocommit)).run.run left.2).2
    (c.inTransaction = true → left = (.error (.transaction .alreadyOpen), c))
    ∧ (c.inTransaction = false →
      (∃ sent, inside.2.ledger = { c.ledger with pending := c.ledger.pending ++ sent })
      ∧ left.2.inTransaction = false
      ∧ (∀ e, inside.1 = .error e → (∃ e', left.1 = .error e')
        ∧ left.2.asked = c.asked ++ [.rollback] ∧ left.2.ledger = c.ledger.discard)
      ∧ (∀ a, inside.1 = .ok a → left.2.asked = c.asked ++ [.commit]
        ∧ (left.1 = .ok a ∧ left.2.ledger = inside.2.ledger.commit
          ∨ (∃ e, left.1 = .error e) ∧ left.2.ledger = inside.2.ledger))
      ∧ ∀ sql bindings result c', (execute d.accounted true sql bindings).Returns idle result c' →
        ∃ more, c'.ledger = { pending := []
                              committed := left.2.ledger.entries ++ more ++ [(sql, bindings)] }) := by
  intro inside left idle
  refine ⟨run_scope_of_open, fun hidle => ?_⟩
  have hwithin : Within (begun c) inside.2 := begun_within rfl
  have hclosed : left.2.inTransaction = false := by
    rcases hblock : inside with ⟨answer, c'⟩
    cases answer with
    | error e =>
      obtain ⟨e', s, hscope, hflag, -⟩ := scope_of_failed hidle hblock
      exact (congrArg (·.2.inTransaction) hscope).trans hflag
    | ok a =>
      obtain ⟨answer, s, hscope, hflag, -⟩ := scope_of_ended hidle hblock
      exact (congrArg (·.2.inTransaction) hscope).trans hflag
  refine ⟨hwithin.ledger, hclosed, ?_, ?_, ?_⟩
  · intro e he
    have hblock : inside = (.error e, inside.2) := Prod.ext he rfl
    obtain ⟨e', s, hscope, -, hasked, hledger⟩ := scope_of_failed hidle hblock
    change left = _ at hscope
    rw [hscope]
    exact ⟨⟨e', rfl⟩, hasked, hledger⟩
  · intro a ha
    have hblock : inside = (.ok a, inside.2) := Prod.ext ha rfl
    obtain ⟨answer, s, hscope, -, hasked, hledger⟩ := scope_of_ended hidle hblock
    change left = _ at hscope
    rw [hscope]
    exact ⟨hasked, hledger⟩
  · intro sql bindings result c' h
    exact ledger_of_later hclosed rfl h

end Leaving

/-- A driver whose next commit fails, if its state says so. -/
def fullDisk : CursorDriver Bool where
  openCursor := return
  closeCursor := return
  execute _ _ := return {}
  commit := do
    if ← get then
      set false
      throw (.foreign .os "disk full")
  rollback := return

/-- A commit that fails is followed by no rollback, and the next write commits the block's
statement. -/
theorem failed_commit_stays_pending :
    let c : Accounted Bool := { driver := { state := true, record := {} } }
    let block : Block ExecResult := .execute "DELETE FROM t" [] .done
    ∃ s, (scope fullDisk.accounted true block).run.run c
        = (.error (.foreign .os "disk full"), s)
      ∧ s.asked = [.commit]
      ∧ ∃ result c', (execute fullDisk.accounted true "INSERT INTO u DEFAULT VALUES" []).Returns
          s result c'
        ∧ c'.ledger.committed = [("DELETE FROM t", []), ("INSERT INTO u DEFAULT VALUES", [])] :=
  ⟨_, rfl, rfl, _, _, rfl, rfl⟩

end Connection

end SqlQuery
