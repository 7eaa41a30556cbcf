import SqlQuery.Execution.Operation
import SqlQuery.Dialect.Postgres
import SqlQuery.Dialect.MySql
import SqlQuery.Proofs.Recording

/-!
# Writes that last

What a statement changes is pending until it is committed. A connection keeps what is pending until
its next commit or rollback. A pool hands out connections with nothing pending: what is pending on
one when it is given back is lost, and a block that ends well is committed. A `Ledger` beside the
driver's state says which statements are pending and which are committed.

Every operation that writes runs one statement (`Operation.statement_runs`), and outside a
transaction both executors commit what is run by `execute`. A key that the statement itself answers
with is read by `queryOne`, which commits nothing: that is how a row is inserted for its key in a
dialect that can answer with one.
-/

namespace SqlQuery

open Effect

/-! ## What is pending and what is committed -/

/-- Statements in the order in which they were executed. -/
structure Ledger where
  pending : List (String × List Value) := []
  committed : List (String × List Value) := []

namespace Ledger

/-- One more pending statement. -/
def add (l : Ledger) (sql : String) (bindings : List Value) : Ledger :=
  { l with pending := l.pending ++ [(sql, bindings)] }

def commit (l : Ledger) : Ledger :=
  { pending := [], committed := l.committed ++ l.pending }

def discard (l : Ledger) : Ledger :=
  { l with pending := [] }

/-- A statement that is executed is pending. -/
def execute {δ : Type} (run : String → List Value → Effect δ (Executed δ)) (sql : String)
    (bindings : List Value) : Effect (Recorded Ledger δ) (Executed (Recorded Ledger δ)) := do
  let x ← Recorded.act (run sql bindings)
  Recorded.write fun l => l.add sql bindings
  return Recorded.executed x

end Ledger

/-- The driver with a ledger beside its state. -/
def CursorDriver.booked {δ : Type} (d : CursorDriver δ) : CursorDriver (Recorded Ledger δ) where
  openCursor := Recorded.act d.openCursor
  closeCursor := Recorded.act d.closeCursor
  execute := Ledger.execute d.execute
  commit := do
    Recorded.act d.commit
    Recorded.write Ledger.commit
  rollback := do
    Recorded.act d.rollback
    Recorded.write Ledger.discard

/-- The driver with a ledger beside its state, which belongs to the connection in use. -/
def PoolDriver.booked {δ : Type} (d : PoolDriver δ) : PoolDriver (Recorded Ledger δ) where
  connect := fresh d.connect
  close := fresh d.close
  execute := Ledger.execute d.execute
  begin := Recorded.act d.begin
  commit := settled d.commit
  rollback := fresh d.rollback
  blockBegin := fresh d.blockBegin
  blockCommit := settled d.blockCommit
  blockRollback := fresh d.blockRollback
where
  /-- After the call nothing is pending, and nothing more is committed. -/
  fresh (x : Effect δ Unit) : Effect (Recorded Ledger δ) Unit := do
    Recorded.act x
    Recorded.write Ledger.discard
  settled (x : Effect δ Unit) : Effect (Recorded Ledger δ) Unit := do
    Recorded.act x
    Recorded.write Ledger.commit

/-! ## Executors and the ledger -/

section Executors

variable {δ α : Type} {sql : String} {bindings : List Value}

theorem Ledger.returns_execute {run : String → List Value → Effect δ (Executed δ)}
    {r r' : Recorded Ledger δ} {x : Executed (Recorded Ledger δ)}
    (h : (Ledger.execute run sql bindings).Returns r x r') :
    r'.record = r.record.add sql bindings ∧ ∃ y, x = Recorded.executed y :=
  Recorded.returns_enter h

theorem Recorded.returns_act_write {ρ : Type} {x : Effect δ Unit} {f : ρ → ρ}
    {r r' : Recorded ρ δ} {u : Unit} (h : (act x >>= fun _ => write f).Returns r u r') :
    r'.record = f r.record := by
  obtain ⟨_, s, hx, h⟩ := returns_bind.1 h
  rw [record_of_write h, record_of_act hx]

namespace Connection

variable {d : CursorDriver δ} {c c' : Connection (Recorded Ledger δ)}

theorem returns_call {x : Effect (Recorded Ledger δ) α} {a : α} (h : (call x).Returns c a c') :
    ∃ r, x.Returns c.driver a r ∧ c' = { c with driver := r } :=
  returns_onPart.1 h

theorem booked_recordsBy (d : CursorDriver δ) :
    d.booked.RecordsBy fun sql bindings l => l.add sql bindings where
  openCursor _ := Recorded.act_keeps
  closeCursor _ := Recorded.act_keeps
  executed := Ledger.returns_execute
  failed := Recorded.record_of_enter_error

/-- A statement is pending once it was used, and whether a transaction is open is as before. -/
theorem returns_withStatement {use : Executed (Recorded Ledger δ) → Effect (Recorded Ledger δ) α}
    {a : α} (h : (withStatement d.booked sql bindings use).Returns c a c')
    (huse : ∀ (y : Executed δ) k, Keeps (fun r => r.record = k) (use (Recorded.executed y))) :
    c'.driver.record = c.driver.record.add sql bindings
      ∧ c'.inTransaction = c.inTransaction := by
  obtain ⟨hflag, -, hadded | ⟨-, e, he⟩⟩ := run_withStatement (booked_recordsBy d) h huse
  · exact ⟨hadded, hflag⟩
  · cases he

theorem returns_queryOne {row : Option Row}
    (h : (queryOne d.booked sql bindings).Returns c row c') :
    c'.driver.record = c.driver.record.add sql bindings :=
  (returns_withStatement h fun y _ => Recorded.readFirst_keeps y).1

/-- A statement that is executed outside a transaction is committed. -/
theorem returns_execute {result : ExecResult} (hidle : c.inTransaction = false)
    (h : (execute d.booked true sql bindings).Returns c result c') :
    c'.driver.record = (c.driver.record.add sql bindings).commit := by
  unfold execute at h
  obtain ⟨x, c₁, hstatement, hrest⟩ := returns_bind.1 h
  obtain ⟨hadded, hstill⟩ := returns_withStatement hstatement fun _ _ => .of_pure _
  have hend := returns_get_bind.1 hrest
  rw [hstill, hidle] at hend
  obtain ⟨_, c₂, hcommit, hend⟩ := returns_bind.1 hend
  obtain ⟨-, rfl⟩ := returns_pure.1 hend
  obtain ⟨r, hcalled, rfl⟩ := returns_call hcommit
  rw [← hadded]
  exact Recorded.returns_act_write hcalled

end Connection

namespace Pool

variable {d : PoolDriver δ} {r r' : Recorded Ledger δ}

/-- A statement that is run for its first row is lost with its connection. -/
theorem returns_queryOne {row : Option Row}
    (h : ((statements d.booked).queryOne sql bindings).Returns r row r') :
    r'.record = { pending := [], committed := r.record.committed } := by
  obtain ⟨_, s, hconnect, hborrowed⟩ := returns_bind.1 h
  obtain ⟨t, hquery, hclose⟩ := returns_andThen.1 hborrowed
  obtain ⟨x, u, hexecute, hfirst⟩ := returns_bind.1 hquery
  obtain ⟨hadded, y, rfl⟩ := Ledger.returns_execute hexecute
  rw [Recorded.returns_act_write hclose, (Recorded.readFirst_keeps y).of_returns hfirst rfl,
    hadded, Recorded.returns_act_write hconnect]
  rfl

/-- A statement that is executed is committed with its block. -/
theorem returns_execute {result : ExecResult}
    (h : ((statements d.booked).execute sql bindings).Returns r result r') :
    r'.record
      = { pending := [], committed := r.record.committed ++ [(sql, bindings)] } := by
  obtain ⟨_, s, hbegin, hblock⟩ := returns_bind.1 h
  obtain ⟨answer, t, hattempt, hend⟩ := returns_bind.1 hblock
  cases answer with
  | error e =>
    obtain ⟨_, _, -, hthrow⟩ := returns_bind.1 hend
    exact absurd hthrow (not_returns_throw e)
  | ok x =>
    obtain ⟨y, u, hexecute, hresult⟩ := returns_bind.1 (returns_attempt.1 hattempt)
    obtain ⟨-, rfl⟩ := returns_pure.1 hresult
    obtain ⟨_, v, hcommit, hanswer⟩ := returns_bind.1 hend
    obtain ⟨-, rfl⟩ := returns_pure.1 hanswer
    rw [Recorded.returns_act_write hcommit, (Ledger.returns_execute hexecute).1,
      Recorded.returns_act_write hbegin]
    rfl

end Pool

end Executors

/-! ## The statement of an operation that writes -/

namespace Operation

/-- The statement of an operation that writes. The other operations read, or read and then write. -/
def statement? (d : Dialect) (q : Query) : Operation → Option (Result Statement)
  | insert values => some (Statement.insert d q.table values)
  | insertGetId values key => some (Statement.insert d q.table values key)
  | insertBatch rows => some (Statement.insertBatch d q.table rows)
  | update values => some (Statement.update d q values)
  | delete => some (Statement.delete d q)
  | increment column amount extra => some (Statement.increment d q column amount extra)
  | decrement column amount extra => some do
    Statement.increment d q column (← amount.negate) extra
  | jsonUpdate column path v => some (Statement.jsonUpdate d q column path v)
  | jsonRemove column path => some (Statement.jsonRemove d q column path)
  | upsert rows target overwrite action =>
    some (Statement.upsert d q.table rows target overwrite action)
  | insertOrIgnore rows => some (Statement.insertOrIgnore d q.table rows)
  | replace rows => some (Statement.replace d q.table rows)
  | change make _ => some (make d q)
  | insertReturning make _ => some (make d q)
  | _ => none

/-- The statement of an operation answers with the key of its row. -/
def answersKey (d : Dialect) : Operation → Bool
  | insertGetId .. | insertReturning .. => d.supportsReturning
  | _ => false

end Operation

section Running

variable {σ : Type} {e : Engine σ} {w w' : World σ}

/-- A statement was run: for its first row if it answers with a key, else for its effect. -/
def Engine.RunsStatement (e : Engine σ) (r : Result Statement) (answersKey : Bool)
    (w w' : World σ) : Prop :=
  ∃ s, r = .ok s ∧
    if answersKey then
      ∃ row, (e.statements.queryOne s.sql s.bindings).Returns w.outside row w'.outside
    else ∃ x, (e.statements.execute s.sql s.bindings).Returns w.outside x w'.outside

theorem Engine.runsStatement_of_perform {r : Result Statement} {action : String} {x : ExecResult}
    (h : (e.perform r action).Returns w x w') : e.RunsStatement r false w w' := by
  obtain ⟨s, _, hs, hrun⟩ := returns_bind.1 h
  obtain ⟨rfl, rfl⟩ := returns_ofResult.1 hs
  exact ⟨s, rfl, x, returns_run hrun⟩

theorem Engine.runsStatement_of_change {r : Result Statement} {action : String} {v : Value}
    (h : (e.change r action).Returns w v w') : e.RunsStatement r false w w' := by
  obtain ⟨x, _, hperform, hanswer⟩ := returns_bind.1 h
  obtain ⟨-, rfl⟩ := returns_pure.1 hanswer
  exact runsStatement_of_perform hperform

theorem Engine.runsStatement_of_insertReturning {r : Result Statement}
    {read : Row → Result Value} {v : Value}
    (h : (e.insertReturning r read).Returns w v w') :
    e.RunsStatement r e.dialect.supportsReturning w w' := by
  obtain ⟨s, _, hs, hinsert⟩ := returns_bind.1 h
  obtain ⟨rfl, rfl⟩ := returns_ofResult.1 hs
  refine ⟨s, rfl, ?_⟩
  by_cases hreturning : e.dialect.supportsReturning = true
  · rw [if_pos hreturning] at hinsert ⊢
    obtain ⟨row, w₁, hfetch, hread⟩ := returns_bind.1 hinsert
    obtain ⟨reported, hquery⟩ := returns_fetchOne hfetch
    have hsame : w' = w₁ := by
      cases row with
      | none => exact (returns_pure.1 hread).2
      | some row => exact (returns_ofResult.1 hread).2
    rw [hsame]
    exact ⟨reported, hquery⟩
  · rw [if_neg hreturning] at hinsert ⊢
    obtain ⟨x, w₁, hrun, hanswer⟩ := returns_bind.1 hinsert
    rw [(returns_pure.1 hanswer).2]
    exact ⟨x, returns_run hrun⟩

/-- An operation that writes, and that succeeds, has run its statement. -/
theorem Operation.statement_runs {op : Operation} {q : Query} {settings : Settings}
    {visitor : Visitor σ} {answer : Answer} {r : Result Statement}
    (hop : op.statement? e.dialect q = some r)
    (h : (op.run e settings visitor q).Returns w answer w') :
    e.RunsStatement r (op.answersKey e.dialect) w w' := by
  -- every operation wraps up what the engine answers
  have wrapped : ∀ {α : Type} {x : Run σ α} {wrap : α → Answer},
      (do return wrap (← x) : Run σ Answer).Returns w answer w' → ∃ a, x.Returns w a w' := by
    intro α x wrap hx
    obtain ⟨a, _, hx, hanswer⟩ := returns_bind.1 hx
    rw [(returns_pure.1 hanswer).2]
    exact ⟨a, hx⟩
  cases op with
  | insert | insertBatch | upsert | insertOrIgnore | replace | change =>
    cases hop
    obtain ⟨_, hperform⟩ := wrapped h
    exact Engine.runsStatement_of_perform hperform
  | update | delete | increment | jsonUpdate | jsonRemove =>
    cases hop
    obtain ⟨_, hchange⟩ := wrapped h
    exact Engine.runsStatement_of_change hchange
  | decrement =>
    cases hop
    obtain ⟨_, hdecrement⟩ := wrapped h
    obtain ⟨amount, _, hnegate, hchange⟩ := returns_bind.1 hdecrement
    obtain ⟨hamount, rfl⟩ := returns_ofResult.1 hnegate
    rw [hamount]
    exact Engine.runsStatement_of_change hchange
  | insertGetId | insertReturning =>
    cases hop
    obtain ⟨_, hinsert⟩ := wrapped h
    exact Engine.runsStatement_of_insertReturning hinsert
  | _ => cases hop

end Running

/-! ## What is committed when an operation succeeds -/

/-- The engine on other statements. -/
def Engine.on {σ : Type} (e : Engine σ) (statements : Statements σ) : Engine σ :=
  { e with statements }

/-- **What an operation that writes leaves behind when it succeeds.** Its statement was made. On a
connection that commits by itself and has no open transaction, and on a pool, the statement is
committed, unless it answers with a key: then the connection still has it pending, and the pool has
lost it. -/
theorem Operation.committed_unless_answersKey {δ : Type} (op : Operation) (settings : Settings)
    (q : Query) (answer : Answer) (r : Result Statement) :
    (∀ (d : CursorDriver δ) (e : Engine (Connection (Recorded Ledger δ))) visitor w w',
      op.statement? e.dialect q = some r → w.outside.inTransaction = false →
      (op.run (e.on (Connection.statements d.booked true)) settings visitor q).Returns w answer w' →
      ∃ s, r = .ok s ∧ w'.outside.driver.record =
        if op.answersKey e.dialect then w.outside.driver.record.add s.sql s.bindings
        else (w.outside.driver.record.add s.sql s.bindings).commit)
    ∧ ∀ (d : PoolDriver δ) (e : Engine (Recorded Ledger δ)) visitor w w',
      op.statement? e.dialect q = some r →
      (op.run (e.on (Pool.statements d.booked)) settings visitor q).Returns w answer w' →
      ∃ s, r = .ok s ∧ w'.outside.record =
        { pending := []
          committed := w.outside.record.committed
            ++ if op.answersKey e.dialect then [] else [(s.sql, s.bindings)] } := by
  constructor
  · intro d e visitor w w' hop hidle hrun
    have hwrite : op.statement? (e.on (Connection.statements d.booked true)).dialect q = some r :=
      hop
    obtain ⟨s, hs, hran⟩ := Operation.statement_runs hwrite hrun
    refine ⟨s, hs, ?_⟩
    change if op.answersKey e.dialect then _ else _ at hran
    by_cases hkey : op.answersKey e.dialect = true
    · rw [if_pos hkey] at hran ⊢
      obtain ⟨row, hquery⟩ := hran
      exact Connection.returns_queryOne hquery
    · rw [if_neg hkey] at hran ⊢
      obtain ⟨x, hexecute⟩ := hran
      exact Connection.returns_execute hidle hexecute
  · intro d e visitor w w' hop hrun
    have hwrite : op.statement? (e.on (Pool.statements d.booked)).dialect q = some r := hop
    obtain ⟨s, hs, hran⟩ := Operation.statement_runs hwrite hrun
    refine ⟨s, hs, ?_⟩
    change if op.answersKey e.dialect then _ else _ at hran
    by_cases hkey : op.answersKey e.dialect = true
    · rw [if_pos hkey] at hran ⊢
      obtain ⟨row, hquery⟩ := hran
      rw [List.append_nil]
      exact Pool.returns_queryOne hquery
    · rw [if_neg hkey] at hran ⊢
      obtain ⟨x, hexecute⟩ := hran
      exact Pool.returns_execute hexecute

/-- A driver for which every statement answers with one key. -/
def keyDriver : CursorDriver Unit where
  openCursor := return
  closeCursor := return
  execute _ _ := return { columns := ["id"], fetches := [return [.int 7]] }
  commit := return
  rollback := return

/-- A pool of such connections. -/
def keyPool : PoolDriver Unit where
  connect := return
  close := return
  execute := keyDriver.execute
  begin := return
  commit := return
  rollback := return
  blockBegin := return
  blockCommit := return
  blockRollback := return

/-- A connection on which nothing was done yet. -/
def keyWorld : World (Connection (Recorded Ledger Unit)) where
  outside := { driver := { state := (), record := {} } }

/-- An engine on a connection with the key driver. -/
def keyEngine (dialect : Dialect) : Engine (Connection (Recorded Ledger Unit)) where
  dialect := dialect
  statements := Connection.statements keyDriver.booked true

/-- A row that is inserted is committed. -/
theorem insert_committed : ∃ answer w' s,
    ((Operation.insert [("a", .int 1)]).run
      ((keyEngine .postgres).on (Connection.statements keyDriver.booked true)) {}
      (fun v => return v) { table := some "t" }).Returns keyWorld answer w'
    ∧ Statement.insert .postgres "t" [("a", .int 1)] = .ok s
    ∧ w'.outside.driver.record = { pending := [], committed := [(s.sql, s.bindings)] } := by
  have hrun : ((Operation.insert [("a", .int 1)]).run
      ((keyEngine .postgres).on (Connection.statements keyDriver.booked true)) {}
      (fun v => return v) { table := some "t" }).Returns keyWorld _ _ := rfl
  obtain ⟨s, hs, hrecord⟩ := (Operation.committed_unless_answersKey _ _ _ _ _).1 keyDriver
    (keyEngine .postgres) _ keyWorld _ rfl rfl hrun
  exact ⟨_, _, s, hrun, hs, hrecord⟩

/-- A row that is inserted for its key is pending on a connection, and lost in a pool. -/
theorem insertGetId_not_committed :
    (∃ w', ((Operation.insertGetId [("a", .int 1)] "id").run (keyEngine .postgres) {}
        (fun v => return v) { table := some "t" }).Returns keyWorld (.value (.int 7)) w'
      ∧ w'.outside.driver.record.pending.map Prod.fst
        = ["INSERT INTO t (a) VALUES ($1) RETURNING id"]
      ∧ w'.outside.driver.record.committed = [])
    ∧ ∃ w', ((Operation.insertGetId [("a", .int 1)] "id").run
        { dialect := .postgres, statements := Pool.statements keyPool.booked } {}
        (fun v => return v) { table := some "t" }).Returns
          { outside := { state := (), record := {} } } (.value (.int 7)) w'
      ∧ w'.outside.record.pending = []
      ∧ w'.outside.record.committed = [] :=
  ⟨⟨_, rfl, by decide +kernel, rfl⟩, ⟨_, rfl, rfl, rfl⟩⟩

end SqlQuery
