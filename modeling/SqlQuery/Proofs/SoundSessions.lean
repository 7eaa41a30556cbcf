import SqlQuery.Session.Command
import SqlQuery.Proofs.SettledQueries

/-!
# Sessions stay sound

In every session that is started and given commands, names are names of builders and every builder
is on a query that exists. Each command keeps this, also if it fails; a transaction keeps it because
the commands in it do.
-/

namespace SqlQuery

open Effect

variable {σ α β : Type}

namespace Workspace

variable {w w' : Workspace} {id : BuilderId} {x : Work α}

theorem Quiet.sound (h : Quiet w w') (hw : w.Sound) : w'.Sound where
  names p hp := by
    rw [h.names] at hp
    exact Nat.lt_of_lt_of_le (hw.names p hp) h.builders_length_le
  filed := h.filed hw.filed

theorem Quietly.keeps_sound (h : Quietly x) : Keeps Sound x :=
  fun w hw => (h w).sound hw

/-- What can be done with a book beside it leaves a workspace sound. -/
theorem keeps_sound_of_mirrors
    (h : ∀ w : Workspace, w.Sound →
      ∃ y post, Booking.Mirrors { state := w, record := {} } x y post) : Keeps Sound x := by
  intro w hw
  obtain ⟨y, post, answer, r, news, -, hrun, hmoves, -⟩ := h w hw
  change x.run.run w = _ at hrun
  rw [hrun]
  exact .of_booked (hmoves.sound hw.booked)

theorem run_keeps_sound (id : BuilderId) (s : Step) : Keeps Sound (run id s) :=
  keeps_sound_of_mirrors fun _ hw => ⟨_, _, Booking.runStep_mirrors hw.booked s⟩

theorem evaluate_keeps_sound (t : Term) : Keeps Sound (evaluate t) :=
  keeps_sound_of_mirrors fun _ hw => ⟨_, _, Booking.evaluate_mirrors hw.booked t⟩

theorem clone_keeps_sound (id : BuilderId) : Keeps Sound (clone id) :=
  keeps_sound_of_mirrors fun _ hw => ⟨_, _, Booking.clone_mirrors hw.booked⟩

theorem settle_keeps_sound (id : BuilderId) : Keeps Sound (settle id) := by
  intro w hw
  by_cases hid : id < w.builders.length
  · exact (hw.settle hid rfl).2
  · have hmissing : (builder id).run.run w = (.error (missing "builder"), w) := by
      unfold builder
      rw [run_get_bind, List.getElem?_eq_none (Nat.le_of_not_lt hid)]
      rfl
    have hfails : (settle id).run.run w = (.error (missing "builder"), w) :=
      run_bind_error hmissing _
    rw [hfails]
    exact hw

theorem toSql_keeps_sound (id : BuilderId) : Keeps Sound (toSql id) :=
  (settle_keeps_sound id).bind fun _ => (written_quietly id).keeps_sound

theorem rename_keeps_sound (name : String) (hid : id < w.builders.length) (hw : w.Sound) :
    ((rename name id).run.run w).2.Sound where
  names p hp := by
    rcases List.mem_cons.1 hp with rfl | hold
    · exact hid
    · exact hw.names p (List.mem_of_mem_filter hold)
  filed := hw.filed

/-- A workspace that is sound and has a builder. -/
def SoundWith (id : BuilderId) (w : Workspace) : Prop :=
  w.Sound ∧ id < w.builders.length

theorem Quietly.keeps_soundWith (h : Quietly x) (id : BuilderId) : Keeps (SoundWith id) x :=
  fun w hw => ⟨(h w).sound hw.1, Nat.lt_of_lt_of_le hw.2 (h w).builders_length_le⟩

/-- A builder may share the query of another. -/
theorem share_keeps (j id other : BuilderId) : Keeps (SoundWith j) (do
    let b ← builder id
    setBuilder id { b with query := (← builder other).query }) := by
  intro w hw
  refine run_bind_elim (M := fun outcome => SoundWith j outcome.2) (fun e t hrun => ?_)
    fun b t hb => ?_
  · exact ((builder_quietly id).keeps_soundWith j).of_run hrun hw
  obtain ⟨-, rfl⟩ := returns_builder.1 hb
  refine run_bind_elim (M := fun outcome => SoundWith j outcome.2) (fun e u hrun => ?_)
    fun c u hc => ?_
  · exact ((builder_quietly other).keeps_soundWith j).of_run hrun hw
  obtain ⟨hc, rfl⟩ := returns_builder.1 hc
  have hlength : (u.builders.set id { b with query := c.query }).length = u.builders.length :=
    List.length_set
  refine ⟨⟨fun p hp => ?_, fun d hd => ?_⟩, ?_⟩
  · exact Nat.lt_of_lt_of_eq (hw.1.names p hp) hlength.symm
  · rcases List.mem_or_eq_of_mem_set hd with hold | rfl
    · exact hw.1.filed d hold
    · exact hw.1.filed c (List.mem_of_getElem? hc)
  · exact Nat.lt_of_lt_of_eq hw.2 hlength.symm

/-! ## New builders -/

/-- An effect on a state with a workspace that leaves it sound and answers with one of its builders.
-/
structure Makes (part : σ → Workspace) (x : Effect σ BuilderId) : Prop where
  sound : Keeps (fun s => (part s).Sound) x
  lt : ∀ {s s' id}, (part s).Sound → x.Returns s id s' → id < (part s').builders.length

namespace Makes

variable {part : σ → Workspace} {x : Effect σ BuilderId}

/-- What is done before. -/
theorem after {y : Effect σ β} {f : β → Effect σ BuilderId}
    (hy : Keeps (fun s => (part s).Sound) y) (hf : ∀ b, Makes part (f b)) :
    Makes part (y >>= f) where
  sound := hy.bind fun b => (hf b).sound
  lt hs h := by
    obtain ⟨b, t, hb, hid⟩ := returns_bind.1 h
    exact (hf b).lt (hy.of_returns hb hs) hid

/-- What is done with the new builder. -/
theorem bind_sound {f : BuilderId → Effect σ β} (hx : Makes part x)
    (hf : ∀ id s, SoundWith id (part s) → (part ((f id).run.run s).2).Sound) :
    Keeps (fun s => (part s).Sound) (x >>= f) := by
  intro s hs
  refine run_bind_elim (M := fun outcome => (part outcome.2).Sound) (fun e t hrun => ?_)
    fun id t hid => ?_
  · exact hx.sound.of_run hrun hs
  · exact hf id t ⟨hx.sound.of_returns hid hs, hx.lt hs hid⟩

theorem then_pure {f : BuilderId → Effect σ β} (hx : Makes part x)
    (hf : ∀ id, Keeps (fun s => SoundWith id (part s)) (f id)) :
    Makes part (x >>= fun id => f id >>= fun _ => pure id) where
  sound := by
    refine hx.bind_sound fun id s hs => ?_
    have hkeeps : Keeps (fun s => SoundWith id (part s)) (f id >>= fun _ => pure id) :=
      (hf id).bind fun _ => .of_pure id
    exact (hkeeps s hs).1
  lt {s s' id} hs h := by
    obtain ⟨j, t, hj, hrest⟩ := returns_bind.1 h
    obtain ⟨_, u, hu, hend⟩ := returns_bind.1 hrest
    obtain ⟨rfl, rfl⟩ := returns_pure.1 hend
    exact ((hf id).of_returns hu ⟨hx.sound.of_returns hj hs, hx.lt hs hj⟩).2

end Makes

theorem makes_clone (id : BuilderId) : Makes (fun w => w) (clone id) where
  sound := clone_keeps_sound id
  lt {w w' copy} hw h := by
    obtain ⟨answer, r, news, -, hrun, -, hok⟩ := Booking.clone_mirrors hw.booked
    cases hrun.symm.trans h
    exact (hok copy rfl).2.lt

theorem makes_addOnQuery (q : Query) {f : QueryId → Builder} (hquery : ∀ k, (f k).query = k)
    (hpending : ∀ k, (f k).pending = []) :
    Makes (fun w => w) (addQuery q >>= fun k => addBuilder (f k)) where
  sound := (addOnQuery_quietly q hquery hpending).keeps_sound
  lt _ h := (isNew_of_addOnQuery h).lt

theorem makes_detached (table dialect : Option Value) (settings : Settings) :
    Makes (fun w => w) (detached table dialect settings) where
  sound := (detached_quietly table dialect settings).keeps_sound
  lt _ h := (isNew_of_detached h).lt

end Workspace

namespace Session

open Workspace

variable {s s' : Session} {id : BuilderId} {x : Play α}

/-- A session with a sound workspace. -/
def Sound (s : Session) : Prop :=
  s.workspace.Sound

/-! ## What commands are made of -/

theorem work_keeps_sound {x : Work α} (hx : Keeps Workspace.Sound x) : Keeps Sound (work x) :=
  work_keeps hx

theorem quietly_keeps_sound {x : Work α} (hx : Quietly x) : Keeps Sound (work x) :=
  work_keeps hx.keeps_sound

/-- Whatever is done to the other parts. -/
theorem modify_keeps_sound {f : Session → Session} (hf : ∀ s, (f s).workspace = s.workspace) :
    Keeps Sound (modify f) := by
  intro s hs
  change (f s).workspace.Sound
  rw [hf]
  exact hs

theorem execute_keeps_sound (x : Run Script α) : Keeps Sound (execute x) :=
  execute_keeps (J := Workspace.Sound) x

theorem current?_keeps (I : Session → Prop) : Keeps I current? := by
  refine .get_bind fun s => ?_
  cases s.current with
  | none => exact .of_throw _
  | some id => exact .of_pure id

theorem database?_keeps (I : Session → Prop) : Keeps I database? := by
  refine .get_bind fun s => ?_
  cases s.database with
  | none => exact .of_throw _
  | some i => exact .of_pure i

theorem rowsNamed_keeps (I : Session → Prop) (name : String) : Keeps I (rowsNamed name) := by
  refine .get_bind fun s => ?_
  cases s.rows.lookup name with
  | none => exact .of_throw _
  | some r => exact .of_pure r

theorem databaseEngine_keeps (I : Session → Prop) : Keeps I databaseEngine :=
  .get_bind fun _ => (database?_keeps I).bind fun i => (handleAt_keeps I i).bind fun _ => .of_pure _

theorem mapM_keeps {I : Session → Prop} {f : β → Play α} (hf : ∀ b, Keeps I (f b)) (bs : List β) :
    Keeps I (bs.mapM f) := by
  induction bs with
  | nil => exact .of_pure []
  | cons b rest ih =>
    rw [List.mapM_cons]
    exact (hf b).bind fun _ => ih.bind fun _ => .of_pure _

theorem evaluate_keeps (t : Term) : Keeps Sound (evaluate t) :=
  work_keeps_sound (evaluate_keeps_sound t)

theorem evaluateCall_keeps (c : Call Term) : Keeps Sound (evaluateCall c) := by
  refine (mapM_keeps evaluate_keeps c.positional).bind fun _ => ?_
  have hnamed : ∀ p : String × Term, Keeps Sound (do return (p.1, ← evaluate p.2)) :=
    fun p => (evaluate_keeps p.2).bind fun _ => .of_pure _
  exact (mapM_keeps hnamed c.named).bind fun _ => .of_pure _

/-! ## Running queries -/

theorem snapshot_keeps (id : BuilderId) : Keeps Sound (snapshot id) :=
  work_keeps_sound ((settle_keeps_sound id).bind fun _ => (copyOf_quietly id).keeps_sound)

theorem settled_keeps (id : BuilderId) : Keeps Sound (settled id) := by
  have hbuilder : Keeps Sound (work (builder id)) := quietly_keeps_sound (builder_quietly id)
  refine hbuilder.bind fun b => (builderEngine_keeps Sound b).bind fun _ => ?_
  exact (work_keeps_sound (settle_keeps_sound id)).bind fun _ => hbuilder

/-- Noting the statement of a builder. -/
theorem observed_keeps_sound {b : Builder} (hx : Keeps Sound x) :
    Keeps Sound (observed id b x) := by
  refine observed_keeps (J := Workspace.Sound) (fun statement => Quietly.keeps_sound ?_) hx
  exact setOptions_quietly id (fun _ => ⟨rfl, rfl, rfl, rfl⟩) fun _ => rfl

theorem operate_keeps (id : BuilderId) (approach : Approach) (op : Result Operation) :
    Keeps Sound (operate id approach op) := by
  have hrun : ∀ b q, Keeps Sound (runOn id b q op) := fun b q =>
    (builderEngine_keeps Sound b).bind fun _ => (Keeps.of_result op).bind fun _ =>
      observed_keeps_sound (execute_keeps_sound _)
  cases approach with
  | inPlace =>
    exact (settled_keeps id).bind fun b =>
      (quietly_keeps_sound (queryOf_quietly id)).bind fun q => hrun b q
  | onCopy =>
    exact (settled_keeps id).bind fun b =>
      (quietly_keeps_sound (copyOf_quietly id)).bind fun q => hrun b q
  | onSnapshot =>
    exact (settled_keeps id).bind fun b => (snapshot_keeps id).bind fun q => hrun b q
  | beside =>
    exact (snapshot_keeps id).bind fun q => (settled_keeps id).bind fun b =>
      hrun { b with cancelEvent := .null } q

theorem supply_keeps (id : BuilderId) (form : Result Supply) : Keeps Sound (supply id form) :=
  (settled_keeps id).bind fun _ => (snapshot_keeps id).bind fun _ => (Keeps.of_result _).bind
    fun _ => (Keeps.of_result _).bind fun _ => .of_pure _

theorem putRows_keeps (name : String) (r : OpenRows) : Keeps Sound (putRows name r) :=
  modify_keeps_sound fun _ => rfl

theorem pull_keeps (name : String) (count : Option Nat) : Keeps Sound (pull name count) := by
  refine (rowsNamed_keeps Sound name).bind fun r => (builderEngine_keeps Sound _).bind fun e => ?_
  refine (observed_keeps_sound (execute_keeps_sound _)).bind fun pulled => ?_
  exact (putRows_keeps name _).bind fun _ => .of_pure _

theorem close_keeps (name : String) : Keeps Sound (close name) :=
  (rowsNamed_keeps Sound name).bind fun _ => (putRows_keeps name _).bind fun _ =>
    execute_keeps_sound _

theorem openRows_keeps (name : String) (id : BuilderId) (form : Result Supply) :
    Keeps Sound (openRows name id form) := by
  refine (supply_keeps id form).bind fun r => .get_bind fun s => ?_
  refine (putRows_keeps name r).bind fun _ => ?_
  cases s.rows.lookup name with
  | none => exact .of_pure ()
  | some old => exact execute_keeps_sound _

/-! ## Builders in a session -/

theorem work_makes {x : Work BuilderId} (hx : Makes (fun w => w) x) :
    Makes Session.workspace (work x) where
  sound := work_keeps_sound hx.sound
  lt hs h := by
    obtain ⟨w, hid, rfl⟩ := returns_work.1 h
    exact hx.lt hs hid

theorem attached_makes (table : Option Value) : Makes Session.workspace (attached table) := by
  refine .after (database?_keeps _) fun i => .after (handleAt_keeps _ i) fun h => work_makes ?_
  have hnew := makes_addOnQuery {} (f := fun query =>
    { query, dialect := h.dialect, settings := h.settings, handle := some i,
      debug := h.settings.debug }) (fun _ => rfl) fun _ => rfl
  have hmade := hnew.then_pure fun id => (setTable_quietly id table).keeps_soundWith id
  rw [bind_assoc] at hmade
  exact hmade

/-- A builder without a handle may be put on the query of another. -/
theorem makes_detachedOn (other : Option BuilderId) (dialect : Option Value) (settings : Settings)
    (table : Option Value) : Makes (fun w => w) (do
      let id ← detached none dialect settings
      match other with
      | none => pure ()
      | some other => do
        let b ← builder id
        setBuilder id { b with query := (← builder other).query }
      setTable id table
      return id) := by
  have hnew := makes_detached none dialect settings
  cases other with
  | none => exact hnew.then_pure fun id => (setTable_quietly id table).keeps_soundWith id
  | some other =>
    have hboth := hnew.then_pure fun id =>
      (share_keeps id id other).bind fun _ => (setTable_quietly id table).keeps_soundWith id
    simp only [bind_assoc] at hboth
    exact hboth

theorem unattached_makes (table dialect : Option Value) (shared : Option String) :
    Makes Session.workspace (unattached table dialect shared) := by
  have hnamed : ∀ name, Keeps Workspace.Sound (some <$> lookup name) :=
    fun name => ((lookup_quietly name).bind fun id => .of_pure (some id)).keeps_sound
  refine .after (.get_bind fun s => .of_pure s) fun s => work_makes ?_
  have hmade := fun other => makes_detachedOn other (dialect.or s.dialect) s.settings table
  cases shared with
  | none => exact .after (.of_pure none) hmade
  | some name => exact .after (hnamed name) hmade

theorem create_makes (table dialect : Option Value) (shared : Option String) (detached : Bool) :
    Makes Session.workspace (create table dialect shared detached) := by
  refine .after (.get_bind fun s => .of_pure s) fun s => ?_
  by_cases hdetached : (detached || s.database.isNone) = true
  · rw [if_pos hdetached]
    exact unattached_makes table dialect shared
  · rw [if_neg hdetached]
    exact attached_makes table

theorem shown_keeps : Keeps Sound shown := by
  refine .get_bind fun s => ?_
  by_cases htrace : (!s.trace) = true
  · rw [if_pos htrace]
    exact .of_pure _
  · rw [if_neg htrace]
    refine (current?_keeps Sound).bind fun id => ?_
    have hcopy := (clone_keeps_sound id).bind fun copy => toSql_keeps_sound copy
    exact (work_keeps_sound hcopy).attempt.bind fun _ => .of_pure _

theorem use_keeps (id : BuilderId) : Keeps Sound (use id) :=
  modify_keeps_sound fun _ => rfl

/-- A new builder is named, and then put to use. -/
theorem named_keeps {x : Play BuilderId} (hx : Makes Session.workspace x) (name : String)
    {f : BuilderId → Play β} (hf : ∀ id, Keeps Sound (f id)) :
    Keeps Sound (x >>= fun id => work (rename name id) >>= fun _ => f id) := by
  refine hx.bind_sound fun id s hs => ?_
  have hrename : (work (rename name id)).Returns s ()
      { s with workspace := ((rename name id).run.run s.workspace).2 } := rfl
  rw [hrename.run_bind]
  exact hf id _ (rename_keeps_sound name hs.2 hs.1)

theorem adopt_keeps {x : Play BuilderId} (hx : Makes Session.workspace x) (name : String) :
    Keeps Sound (x >>= adopt name) :=
  named_keeps hx name fun id => (use_keeps id).bind fun _ => shown_keeps

/-! ## Blocks -/

theorem report_sound {x : Play Outcome} (hx : Keeps Sound x) (hs : s.Sound) :
    ((report x).run s).2.Sound := by
  rcases hrun : x.run.run s with ⟨answer, t⟩
  have ht : t.Sound := hx.of_run hrun hs
  have hafter : ((report x).run s).2 = (takeNotes.run t).2 := by
    unfold report
    rw [StateT.run_bind]
    erw [hrun]
    cases answer <;> rfl
  rw [hafter]
  exact ht

theorem inBlock_keeps (hx : Keeps Sound x) : Keeps (fun p => p.1.Sound) (inBlock x) :=
  fun p hp => hx p.1 hp

theorem follow_keeps {x : Play Outcome} (hx : Keeps Sound x) :
    Keeps (fun p => p.1.Sound) (follow x) := by
  have hreport : Keeps Sound (liftM (report x) : Play Report) := fun _ hs => report_sound hx hs
  refine (inBlock_keeps hreport).bind fun r => Keeps.bind (fun _ hp => hp) fun _ => ?_
  cases r.failure? with
  | none => exact .of_pure ()
  | some e => exact .of_throw e

theorem inTransaction_keeps {block : Block Unit} (hblock : Keeps (fun p => p.1.Sound) block) :
    Keeps (fun p => p.1.Sound) (inTransaction inBlock block) := by
  have hrestore : ∀ outer, Keeps (fun p => p.1.Sound) (inTransaction.restore inBlock outer) :=
    fun outer => inBlock_keeps (modify_keeps_sound fun _ => rfl)
  have hcall : ∀ {β : Type} (x : Effect Script β),
      Keeps (fun p => p.1.Sound) (inBlock (execute (Run.outside x))) :=
    fun x => inBlock_keeps (execute_keeps_sound _)
  have hhandle : ∀ i, Keeps (fun p => p.1.Sound) (inBlock (handleAt i)) :=
    fun i => inBlock_keeps (handleAt_keeps Sound i)
  have hget : Keeps Sound (get : Play Session) := fun _ hs => hs
  refine (inBlock_keeps hget).bind fun outer => ?_
  refine (inBlock_keeps (database?_keeps Sound)).bind fun i => (hhandle i).bind fun h => ?_
  have hbody : Keeps (fun p => p.1.Sound) (do
      inBlock (modify fun s => { s with
        handles := s.handles ++ [{ h with inTransaction := true }]
        database := some s.handles.length })
      let result ← tryCatch block fun e => do
        inTransaction.restore inBlock outer
        throw e
      inTransaction.restore inBlock outer
      return result) := by
    refine Keeps.bind (inBlock_keeps (modify_keeps_sound fun _ => rfl)) fun _ => ?_
    have hcaught := hblock.tryCatch fun e => (hrestore outer).bind fun _ => .of_throw e
    exact hcaught.bind fun _ => (hrestore outer).bind fun _ => .of_pure _
  change Keeps _ (Opening.transaction _ _ _)
  unfold Opening.transaction
  split
  · exact .of_throw _
  · exact .of_throw _
  · refine (hcall _).bind fun tx => ?_
    have hcaught := hbody.tryCatch fun e => (hcall tx.rollback).bind fun _ => .of_throw e
    exact hcaught.bind fun _ => (hcall tx.commit).bind fun _ => .of_pure _

theorem runBlock_keeps {block : Block Unit} (hblock : Keeps (fun p => p.1.Sound) block) :
    Keeps Sound (runBlock block) :=
  fun s hs => inTransaction_keeps hblock (s, []) hs

/-! ## Commands -/

theorem rawStatement_keeps (sql : String) (values : List Term) :
    Keeps Sound (rawStatement sql values) :=
  (mapM_keeps evaluate_keeps values).bind fun _ => (database?_keeps Sound).bind fun i =>
    (handleAt_keeps Sound i).bind fun _ => .of_pure _

theorem aggregate_keeps (function : Argument) (column : Option Argument) :
    Keeps Sound (aggregate function column) := by
  refine (databaseEngine_keeps Sound).bind fun e => (current?_keeps Sound).bind fun id => ?_
  refine (quietly_keeps_sound (queryOf_quietly id)).bind fun q => ?_
  refine (Keeps.of_result _).bind fun name => (Keeps.of_result _).bind fun fn => ?_
  exact (Keeps.of_result _).bind fun q => execute_keeps_sound _

theorem aboutLog_keeps (f : QueryLog → Result Answer) : Keeps Sound (aboutLog f) := by
  refine .get_bind fun s => ?_
  cases s.world.log with
  | none => exact .of_pure _
  | some log => exact (Keeps.of_result _).bind fun _ => .of_pure _

theorem slotsInUse_keeps : Keeps Sound slotsInUse :=
  .get_bind fun _ => .of_pure _

theorem layers_keeps : Keeps Sound layers :=
  (database?_keeps Sound).bind fun i => (handleAt_keeps Sound i).bind fun _ =>
    .get_bind fun _ => .of_pure _

theorem cache?_keeps : Keeps Sound cache? :=
  (database?_keeps Sound).bind fun i => (handleAt_keeps Sound i).bind fun _ =>
    .get_bind fun _ => .of_pure _

theorem prepareVisitor_keeps (visitor : Option Argument) :
    Keeps Sound (prepareVisitor visitor) := by
  unfold prepareVisitor
  exact modify_keeps_sound fun _ => rfl

mutual

/-- **Every command keeps a session sound.** -/
theorem play_keeps (c : Command) : Keeps Sound (play c) := by
  have hcurrent := current?_keeps Sound
  cases c with
  | build s =>
    refine hcurrent.bind fun id => ?_
    exact (work_keeps_sound (run_keeps_sound id s)).bind fun _ => shown_keeps
  | operate form approach call =>
    refine (evaluateCall_keeps call).bind fun call => (prepareVisitor_keeps _).bind fun _ => ?_
    exact hcurrent.bind fun id => (operate_keeps id approach _).bind fun _ => .of_pure _
  | new name table dialect shared detached =>
    exact adopt_keeps (create_makes table dialect shared detached) name
  | use name =>
    refine (quietly_keeps_sound (lookup_quietly name)).bind fun id => ?_
    exact (use_keeps id).bind fun _ => shown_keeps
  | clone name => exact hcurrent.bind fun id => adopt_keeps (work_makes (makes_clone id)) name
  | sql =>
    exact hcurrent.bind fun id => (work_keeps_sound (toSql_keeps_sound id)).bind fun _ => .of_pure _
  | values =>
    exact hcurrent.bind fun id => (work_keeps_sound (toSql_keeps_sound id)).bind fun _ => .of_pure _
  | query =>
    exact hcurrent.bind fun id =>
      (quietly_keeps_sound (queryOf_quietly id)).bind fun _ => .of_pure _
  | dialect =>
    exact hcurrent.bind fun id =>
      (quietly_keeps_sound (builder_quietly id)).bind fun _ => .of_pure _
  | lastDebug =>
    refine hcurrent.bind fun id => (quietly_keeps_sound (builder_quietly id)).bind fun b => ?_
    cases b.lastDebug with
    | none => exact .of_pure _
    | some s => exact .of_pure _
  | openRows name form call =>
    refine (evaluateCall_keeps call).bind fun call => hcurrent.bind fun id => ?_
    exact (openRows_keeps name id _).bind fun _ => .of_pure _
  | pull name count => exact (pull_keeps name count).bind fun _ => .of_pure _
  | close name => exact (close_keeps name).bind fun _ => .of_pure _
  | queue responses => exact Keeps.bind (modify_keeps_sound fun _ => rfl) fun _ => .of_pure _
  | rawQuery sql values =>
    refine Keeps.bind ?_ fun _ => .of_pure _
    exact (rawStatement_keeps sql values).bind fun _ => (databaseEngine_keeps Sound).bind fun _ =>
      execute_keeps_sound _
  | rawExecute sql values =>
    refine Keeps.bind ?_ fun _ => .of_pure _
    exact (rawStatement_keeps sql values).bind fun _ => (databaseEngine_keeps Sound).bind fun _ =>
      execute_keeps_sound _
  | aggregate call =>
    exact (evaluateCall_keeps call).bind fun _ => (aggregate_keeps _ _).bind fun _ => .of_pure _
  | log => exact aboutLog_keeps _
  | logStats => exact aboutLog_keeps _
  | cacheStats =>
    refine cache?_keeps.bind fun cache => ?_
    cases cache with
    | none => exact .of_pure _
    | some c => exact .of_pure _
  | clearCache =>
    refine cache?_keeps.bind fun cache => ?_
    by_cases hcache : cache.isSome = true
    · rw [if_pos hcache]
      exact Keeps.bind (modify_keeps_sound fun _ => rfl) fun _ => .of_pure _
    · rw [if_neg hcache]
      exact .of_pure _
  | takeSlot => exact (execute_keeps_sound _).bind fun _ => slotsInUse_keeps
  | giveSlot => exact (execute_keeps_sound _).bind fun _ => slotsInUse_keeps
  | inFlight => exact slotsInUse_keeps
  | layers => exact layers_keeps.bind fun _ => .of_pure _
  | transaction commands failure => exact runBlock_keeps (playAll_keeps failure commands)

theorem playAll_keeps (failure : Option Error) (commands : List Command) :
    Keeps (fun p => p.1.Sound) (playAll failure commands) := by
  cases commands with
  | nil =>
    cases failure with
    | none => exact .of_pure ()
    | some e => exact .of_throw e
  | cons c rest => exact (follow_keeps (play_keeps c)).bind fun _ => playAll_keeps failure rest

end

/-! ## Sessions that are started -/

theorem playEach_sound (commands : List Command) (hs : s.Sound) :
    ((playEach commands).run s).2.Sound := by
  induction commands generalizing s with
  | nil => exact hs
  | cons c rest ih => exact ih (report_sound (play_keeps c) hs)

/-- The first builder is made and named as by a command. -/
theorem first_sound {t : Session} (ht : t.Sound) (table : Option Value)
    (h : (match table with
      | none => pure t
      | some table =>
        let (result, t) := (do
          let id ← create (some table) none none false
          work (rename "q" id)
          use id : Play Unit).run.run t
        match result with
        | .ok () => pure t
        | .error e => .error e : Result Session) = .ok s) : s.Sound := by
  split at h
  · cases h
    exact ht
  · rename_i table
    have hkeeps := named_keeps (create_makes (some table) none none false) "q" use_keeps
    split at h
    rename_i result t' hrun
    cases result with
    | ok u =>
      cases h
      exact hkeeps.of_run hrun ht
    | error e => cases h

theorem start_sound {o : Setup} (h : start o = .ok s) : s.Sound := by
  have hempty : ({ registry := o.registry, now := o.now.getD ({} : Workspace).now } :
      Workspace).Sound :=
    ⟨fun _ hp => absurd hp List.not_mem_nil, fun _ hb => absurd hb List.not_mem_nil⟩
  obtain ⟨world, -, h⟩ := Result.bind_eq_ok.1 h
  dsimp only at h
  split at h
  · obtain ⟨t, ht, h⟩ := Result.bind_eq_ok.1 h
    cases ht
    refine first_sound ?_ o.table h
    exact hempty
  · obtain ⟨dialect, -, h⟩ := Result.bind_eq_ok.1 h
    obtain ⟨t, ht, h⟩ := Result.bind_eq_ok.1 h
    cases ht
    refine first_sound ?_ o.table h
    exact hempty

/-- **A session that was started and given commands is sound.** -/
theorem sound_of_started {o : Setup} (h : start o = .ok s) (commands : List Command) :
    ((playEach commands).run s).2.Sound :=
  playEach_sound commands (start_sound h)

end Session

end SqlQuery
