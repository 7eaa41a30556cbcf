import SqlQuery.Proofs.ScopeBooks
import SqlQuery.Proofs.WorkspaceGrowth
import Mathlib.Data.Multiset.AddSub

/-!
# Accounts of scopes

What was registered on a builder, together with what was pending on it, is what ran, what was lost
and what is pending now. `Booking.Moves` says this of two states and of the entries that were made
between them, and besides: a scope that ran did so between the two, no builder of a group had its
scopes applied, and where a builder was settled all its scopes ran.
-/

namespace SqlQuery

open Effect Recorded Workspace

namespace Fate

def isRegistered : Fate → Bool
  | registered => true
  | _ => false

def isRan : Fate → Bool
  | ran .. => true
  | _ => false

def isLost : Fate → Bool
  | lost => true
  | _ => false

end Fate

namespace ScopeBook

/-- The scopes of a builder that met with one of some fates. -/
def scopes (b : ScopeBook) (p : Fate → Bool) (id : BuilderId) : Multiset Argument :=
  ((b.events.filter fun e => p e.fate && e.builder == id).map ScopeEvent.scope : List Argument)

def registered (b : ScopeBook) : BuilderId → Multiset Argument :=
  b.scopes Fate.isRegistered

def ran (b : ScopeBook) : BuilderId → Multiset Argument :=
  b.scopes Fate.isRan

def lost (b : ScopeBook) : BuilderId → Multiset Argument :=
  b.scopes Fate.isLost

/-- The scopes of a builder that came to an end. -/
def ended (b : ScopeBook) (id : BuilderId) : Multiset Argument :=
  b.ran id + b.lost id

theorem scopes_append (b b' : ScopeBook) (p : Fate → Bool) (id : BuilderId) :
    (b ++ b').scopes p id = b.scopes p id + b'.scopes p id := by
  change ((((b.events ++ b'.events).filter _).map _ : List Argument) : Multiset Argument) = _
  rw [List.filter_append, List.map_append]
  rfl

theorem scopes_eq_zero {b : ScopeBook} {p : Fate → Bool} {id : BuilderId}
    (h : ∀ e ∈ b.events, p e.fate = true → e.builder ≠ id) : b.scopes p id = 0 := by
  unfold scopes
  rw [List.filter_eq_nil_iff.2]
  · rfl
  · intro e he hscope
    rw [Bool.and_eq_true, beq_iff_eq] at hscope
    exact h e he hscope.1 hscope.2

/-- Some scopes of one builder, and none of the others. -/
def owing (id : BuilderId) (scopes : List Argument) (j : BuilderId) : Multiset Argument :=
  if j = id then scopes else 0

theorem owing_nil (id : BuilderId) : owing id [] = fun _ => 0 := by
  funext j
  unfold owing
  split <;> rfl

theorem owing_cons (id : BuilderId) (scope : Argument) (rest : List Argument) :
    owing id (scope :: rest) = fun j => owing id [scope] j + owing id rest j := by
  funext j
  unfold owing
  split
  · rfl
  · rfl

/-- What is read off entries for some scopes of a builder. -/
theorem scopes_of_entries (id : BuilderId) (fate : Fate) (scopes : List Argument) (p : Fate → Bool)
    (j : BuilderId) :
    (entries id fate scopes).scopes p j = if p fate then owing id scopes j else 0 := by
  unfold ScopeBook.scopes owing entries
  cases hp : p fate with
  | false => simp [List.filter_map, Function.comp_def, hp]
  | true =>
    by_cases hj : j = id
    · subst hj
      simp [List.filter_map, Function.comp_def, hp]
    · simp [List.filter_map, Function.comp_def, hp, hj, Ne.symm hj]

theorem ended_append (b b' : ScopeBook) (id : BuilderId) :
    (b ++ b').ended id = b.ended id + b'.ended id := by
  unfold ended ran lost
  rw [scopes_append, scopes_append, add_add_add_comm]

/-- Scopes that ran or were lost. -/
theorem ended_entries {id : BuilderId} {fate : Fate} (hfate : fate.isRegistered = false)
    (scopes : List Argument) (j : BuilderId) :
    (entries id fate scopes).ended j = owing id scopes j := by
  unfold ended ran lost
  rw [scopes_of_entries, scopes_of_entries]
  cases fate with
  | registered => cases hfate
  | ran before after => exact add_zero _
  | lost => exact zero_add _

theorem owing_self (id : BuilderId) (scopes : List Argument) : owing id scopes id = scopes :=
  if_pos rfl

theorem append_assoc (a b c : ScopeBook) : a ++ b ++ c = a ++ (b ++ c) := by
  change append (append a b) c = append a (append b c)
  unfold append
  simp only [List.append_assoc]

theorem nil_append (a : ScopeBook) : ({} : ScopeBook) ++ a = a :=
  rfl

theorem append_nil (a : ScopeBook) : a ++ ({} : ScopeBook) = a := by
  change append a {} = a
  unfold append
  simp only [List.append_nil]

theorem mem_events_append {a b : ScopeBook} {e : ScopeEvent} :
    e ∈ (a ++ b).events ↔ e ∈ a.events ∨ e ∈ b.events :=
  List.mem_append

theorem mem_settlements_append {a b : ScopeBook} {s : Settlement} :
    s ∈ (a ++ b).settlements ↔ s ∈ a.settlements ∨ s ∈ b.settlements :=
  List.mem_append

theorem mem_copies_append {a b : ScopeBook} {c : Copied} :
    c ∈ (a ++ b).copies ↔ c ∈ a.copies ∨ c ∈ b.copies :=
  List.mem_append

theorem mem_groups_append {a b : ScopeBook} {id : BuilderId} :
    id ∈ (a ++ b).groups ↔ id ∈ a.groups ∨ id ∈ b.groups :=
  List.mem_append

/-- Nothing was lost. -/
def Lossless (b : ScopeBook) : Prop :=
  ∀ e ∈ b.events, e.fate ≠ .lost

theorem Lossless.append {a b : ScopeBook} (ha : a.Lossless) (hb : b.Lossless) :
    (a ++ b).Lossless := by
  intro e he
  rcases mem_events_append.1 he with hold | hnew
  · exact ha e hold
  · exact hb e hnew

theorem Lossless.entries {id : BuilderId} {fate : Fate} (h : fate ≠ .lost)
    (scopes : List Argument) : (entries id fate scopes).Lossless := by
  intro e he
  obtain ⟨scope, -, rfl⟩ := List.mem_map.1 he
  exact h

end ScopeBook

/-- What is known of an event between two workspaces: a scope that ran did so between them. -/
def ScopeEvent.Between (e : ScopeEvent) (w w' : Workspace) : Prop :=
  ∀ before after, e.fate = .ran before after → w.Grows before ∧ before.Grows after ∧ after.Grows w'
    ∧ ∃ fuel, (Workspace.call (Workspace.step fuel) e.builder e.scope).Returns before () after

/-- A scope of a builder ran between two workspaces. -/
def RanBetween (events : List ScopeEvent) (id : BuilderId) (scope : Argument)
    (w w' : Workspace) : Prop :=
  ∃ before after, ⟨id, scope, .ran before after⟩ ∈ events ∧ w.Grows before ∧ after.Grows w'

/-- Each scope that was pending when a builder was to be settled ran until it was. -/
def Settlement.Covered (s : Settlement) (events : List ScopeEvent) : Prop :=
  ∀ scope ∈ s.before.pendingAt s.builder, RanBetween events s.builder scope s.before s.after

/-- A query was copied once the scopes of its builder were applied. -/
def Copied.Settled (c : Copied) (settlements : List Settlement) : Prop :=
  ∃ s ∈ settlements, s.builder = c.builder ∧ s.after.queryAt c.builder = some c.query

theorem Copied.Settled.append {c : Copied} {b : ScopeBook} (h : c.Settled b.settlements)
    (news : ScopeBook) : c.Settled (b ++ news).settlements := by
  obtain ⟨s, hs, hcopy⟩ := h
  exact ⟨s, ScopeBook.mem_settlements_append.2 (.inl hs), hcopy⟩

namespace Booking

/-- A builder that exists and was not made for a group. -/
structure Open (r : Booked) (id : BuilderId) : Prop where
  lt : id < r.state.builders.length
  notGroup : id ∉ r.record.groups

/-- It is still none where no group's builder was entered. -/
theorem Open.of_groups {r : Booked} {id : BuilderId} {more : ScopeBook} (h : Open r id)
    (hmore : more.groups = []) : Open { r with record := r.record ++ more } id where
  lt := h.lt
  notGroup hgroup := by
    rcases ScopeBook.mem_groups_append.1 hgroup with hold | hnew
    · exact h.notGroup hold
    · rw [hmore] at hnew
      cases hnew

/-- What happened between two states, by the entries that were made, if besides what was pending
some scopes were owed. -/
structure Moves (owed : BuilderId → Multiset Argument) (r : Booked) (news : ScopeBook)
    (r' : Booked) : Prop where
  record : r'.record = r.record ++ news
  grows : r.state.Grows r'.state
  names : ∀ p ∈ r'.state.names, p ∈ r.state.names ∨ Open r' p.2
  groups : ∀ id ∈ news.groups, IsNew r.state id r'.state
  drained : ∀ e ∈ news.events, e.fate.isRegistered = false → Open r' e.builder
  balance : ∀ id, owed id + r.state.pendingAt id + news.registered id
    = news.ended id + r'.state.pendingAt id
  events : ∀ e ∈ news.events, e.Between r.state r'.state
  settlements : ∀ s ∈ news.settlements, s.after.Grows r'.state ∧ s.Covered news.events
  copies : ∀ c ∈ news.copies, c.Settled r'.record.settlements

namespace Moves

variable {owed owed' : BuilderId → Multiset Argument} {r r' r'' : Booked} {news news' : ScopeBook}
  {id : BuilderId}

theorem open_of_open (h : Moves owed r news r') (hid : Open r id) : Open r' id where
  lt := Nat.lt_of_lt_of_le hid.lt h.grows.builders_length_le
  notGroup hgroup := by
    rw [h.record] at hgroup
    rcases ScopeBook.mem_groups_append.1 hgroup with hold | hnew
    · exact hid.notGroup hold
    · have hle := (h.groups id hnew).le
      exact absurd hid.lt (Nat.not_lt_of_le hle)

theorem trans (h : Moves owed r news r') (h' : Moves owed' r' news' r'') :
    Moves (fun id => owed id + owed' id) r (news ++ news') r'' where
  record := by
    rw [h'.record, h.record, ScopeBook.append_assoc]
  grows := h.grows.trans h'.grows
  names p hp := by
    rcases h'.names p hp with hold | hopen
    · exact (h.names p hold).imp_right h'.open_of_open
    · exact .inr hopen
  groups id hid := by
    rcases ScopeBook.mem_groups_append.1 hid with hold | hnew
    · have hfirst := h.groups id hold
      exact ⟨hfirst.le, Nat.lt_of_lt_of_le hfirst.lt h'.grows.builders_length_le⟩
    · have hsecond := h'.groups id hnew
      exact ⟨Nat.le_trans h.grows.builders_length_le hsecond.le, hsecond.lt⟩
  drained e he hfate := by
    rcases ScopeBook.mem_events_append.1 he with hold | hnew
    · exact h'.open_of_open (h.drained e hold hfate)
    · exact h'.drained e hnew hfate
  balance id := by
    have hfirst := h.balance id
    have hsecond := h'.balance id
    unfold ScopeBook.registered at hfirst hsecond ⊢
    rw [ScopeBook.scopes_append, ScopeBook.ended_append]
    generalize news.scopes Fate.isRegistered id = g at *
    generalize news'.scopes Fate.isRegistered id = g' at *
    calc owed id + owed' id + r.state.pendingAt id + (g + g')
        = (owed id + r.state.pendingAt id + g) + (owed' id + g') := by ac_rfl
      _ = news.ended id + (owed' id + r'.state.pendingAt id + g') := by rw [hfirst]; ac_rfl
      _ = news.ended id + news'.ended id + r''.state.pendingAt id := by rw [hsecond]; ac_rfl
  events e he before after hran := by
    rcases ScopeBook.mem_events_append.1 he with hold | hnew
    · obtain ⟨hbefore, hscope, hafter, htrue⟩ := h.events e hold before after hran
      exact ⟨hbefore, hscope, hafter.trans h'.grows, htrue⟩
    · obtain ⟨hbefore, hscope, hafter, htrue⟩ := h'.events e hnew before after hran
      exact ⟨h.grows.trans hbefore, hscope, hafter, htrue⟩
  settlements s hs := by
    rcases ScopeBook.mem_settlements_append.1 hs with hold | hnew
    · obtain ⟨hafter, hcovered⟩ := h.settlements s hold
      refine ⟨hafter.trans h'.grows, fun scope hscope => ?_⟩
      obtain ⟨before, after, he, hran⟩ := hcovered scope hscope
      exact ⟨before, after, ScopeBook.mem_events_append.2 (.inl he), hran⟩
    · obtain ⟨hafter, hcovered⟩ := h'.settlements s hnew
      refine ⟨hafter, fun scope hscope => ?_⟩
      obtain ⟨before, after, he, hran⟩ := hcovered scope hscope
      exact ⟨before, after, ScopeBook.mem_events_append.2 (.inr he), hran⟩
  copies c hc := by
    rcases ScopeBook.mem_copies_append.1 hc with hold | hnew
    · rw [h'.record]
      exact (h.copies c hold).append news'
    · exact h'.copies c hnew

/-- Nothing is entered where no pending scope comes or goes. -/
theorem of_quiet {w' : Workspace} (h : Quiet r.state w') :
    Moves (fun _ => 0) r {} { r with state := w' } where
  record := (ScopeBook.append_nil r.record).symm
  grows := h.toGrows
  names p hp := .inl (h.names ▸ hp)
  groups _ hid := nomatch hid
  drained _ he := nomatch he
  balance id := by
    change 0 + (r.state.pendingAt id : Multiset Argument) + 0 = 0 + (w'.pendingAt id : Multiset _)
    rw [h.pending]
    simp
  events _ he := nomatch he
  settlements _ hs := nomatch hs
  copies _ hc := nomatch hc

/-- Entries may be made for what happened: scopes that met with their fate are owed no longer. -/
theorem enter (h : Moves owed r news r') (more : ScopeBook) (hgroups : more.groups = [])
    (hevents : ∀ e ∈ more.events, e.fate.isRegistered = false ∧ Open r' e.builder
      ∧ e.Between r.state r'.state)
    (hsettlements : ∀ s ∈ more.settlements, s.after = r'.state ∧ s.Covered news.events)
    (hcopies : ∀ c ∈ more.copies, c.Settled r'.record.settlements) :
    Moves (fun j => owed j + more.ended j) r (news ++ more)
      { r' with record := r'.record ++ more } where
  record := by
    rw [h.record, ScopeBook.append_assoc]
  grows := h.grows
  names p hp := (h.names p hp).imp_right fun hopen => hopen.of_groups hgroups
  groups j hj := by
    rcases ScopeBook.mem_groups_append.1 hj with hold | hnew
    · exact h.groups j hold
    · rw [hgroups] at hnew
      cases hnew
  drained e he hregistered := by
    rcases ScopeBook.mem_events_append.1 he with hold | hnew
    · exact (h.drained e hold hregistered).of_groups hgroups
    · exact (hevents e hnew).2.1.of_groups hgroups
  balance j := by
    have hbalance := h.balance j
    have hnone : more.registered j = 0 := by
      refine ScopeBook.scopes_eq_zero fun e he hregistered => ?_
      rw [(hevents e he).1] at hregistered
      cases hregistered
    unfold ScopeBook.registered at hbalance hnone ⊢
    rw [ScopeBook.scopes_append, ScopeBook.ended_append, hnone, add_zero]
    calc owed j + more.ended j + r.state.pendingAt j + news.scopes Fate.isRegistered j
        = owed j + r.state.pendingAt j + news.scopes Fate.isRegistered j + more.ended j := by ac_rfl
      _ = news.ended j + more.ended j + r'.state.pendingAt j := by rw [hbalance]; ac_rfl
  events e he := by
    rcases ScopeBook.mem_events_append.1 he with hold | hnew
    · exact h.events e hold
    · exact (hevents e hnew).2.2
  settlements s hs := by
    have hboth : s.after.Grows r'.state ∧ s.Covered news.events := by
      rcases ScopeBook.mem_settlements_append.1 hs with hold | hnew
      · exact h.settlements s hold
      · obtain ⟨hafter, hcovered⟩ := hsettlements s hnew
        exact ⟨hafter ▸ .refl _, hcovered⟩
    refine ⟨hboth.1, fun scope hscope => ?_⟩
    obtain ⟨before, after, he, hran⟩ := hboth.2 scope hscope
    exact ⟨before, after, ScopeBook.mem_events_append.2 (.inl he), hran⟩
  copies c hc := by
    rcases ScopeBook.mem_copies_append.1 hc with hold | hnew
    · exact (h.copies c hold).append more
    · exact (hcopies c hnew).append more

/-- Entries that are not about scopes. -/
theorem enter_notes (h : Moves owed r news r') (more : ScopeBook) (hgroups : more.groups = [])
    (hevents : more.events = [])
    (hsettlements : ∀ s ∈ more.settlements, s.after = r'.state ∧ s.Covered news.events)
    (hcopies : ∀ c ∈ more.copies, c.Settled r'.record.settlements) :
    Moves owed r (news ++ more) { r' with record := r'.record ++ more } := by
  have hnone : ∀ j, more.ended j = 0 := by
    intro j
    unfold ScopeBook.ended ScopeBook.ran ScopeBook.lost ScopeBook.scopes
    rw [hevents]
    rfl
  have hentered := h.enter more hgroups (fun e he => ?_) hsettlements hcopies
  · simp only [hnone, add_zero] at hentered
    exact hentered
  · rw [hevents] at he
    cases he

/-- Entries for scopes of one builder that ran or were lost. -/
theorem enter_entries (h : Moves owed r news r') (hid : Open r' id) (scopes : List Argument)
    (fate : Fate) (hfate : fate.isRegistered = false)
    (hbetween : ∀ scope ∈ scopes, (ScopeEvent.mk id scope fate).Between r.state r'.state) :
    Moves (fun j => owed j + ScopeBook.owing id scopes j) r (news ++ .entries id fate scopes)
      { r' with record := r'.record ++ .entries id fate scopes } := by
  have hentered := h.enter (.entries id fate scopes) rfl (fun e he => ?_) nofun nofun
  · simp only [ScopeBook.ended_entries hfate] at hentered
    exact hentered
  · obtain ⟨scope, hscope, rfl⟩ := List.mem_map.1 he
    exact ⟨hfate, hid, hbetween scope hscope⟩

/-- Scopes that are registered on a builder are pending on it. -/
theorem of_registered {w' : Workspace} (hgrows : r.state.Grows w')
    (hnames : w'.names = r.state.names) (scopes : List Argument)
    (hpending : ∀ j, w'.pendingAt j
      = if j = id then r.state.pendingAt id ++ scopes else r.state.pendingAt j) :
    Moves (fun _ => 0) r (.entries id .registered scopes)
      { state := w', record := r.record ++ .entries id .registered scopes } := by
  refine ⟨rfl, hgrows, ?_, nofun, ?_, ?_, ?_, nofun, nofun⟩
  · intro p hp
    exact .inl (hnames ▸ hp)
  · intro e he hfate
    obtain ⟨scope, -, rfl⟩ := List.mem_map.1 he
    cases hfate
  · intro j
    unfold ScopeBook.registered ScopeBook.ended ScopeBook.ran ScopeBook.lost
    rw [ScopeBook.scopes_of_entries, ScopeBook.scopes_of_entries, ScopeBook.scopes_of_entries]
    change 0 + (r.state.pendingAt j : Multiset Argument) + ScopeBook.owing id scopes j
      = 0 + 0 + (w'.pendingAt j : Multiset Argument)
    rw [hpending]
    unfold ScopeBook.owing
    by_cases hj : j = id
    · subst hj
      rw [if_pos rfl, if_pos rfl, ← Multiset.coe_add, zero_add, zero_add, zero_add]
    · rw [if_neg hj, if_neg hj, zero_add, zero_add, zero_add, add_zero]
  · intro e he before after hran
    obtain ⟨scope, -, rfl⟩ := List.mem_map.1 he
    cases hran

/-- What was taken from the pending scopes of a builder was owed. -/
theorem of_taken {b : Builder} (hb : r.state.builders[id]? = some b) {w : Workspace}
    (hw : w = { r.state with builders := r.state.builders.set id { b with pending := [] } })
    (h : Moves (ScopeBook.owing id b.pending) { r with state := w } news r') :
    Moves (fun _ => 0) r news r' := by
  have hgrows : r.state.Grows w := by
    rw [hw]
    exact Grows.set hb ⟨rfl, rfl, rfl, rfl⟩
  have hlength : w.builders.length = r.state.builders.length := by
    rw [hw]
    exact List.length_set
  have hpending : ∀ j, w.pendingAt j = if j = id then [] else r.state.pendingAt j := by
    intro j
    have hbuilders : w.builders = r.state.builders.set id { b with pending := [] } := by
      rw [hw]
    exact pendingAt_set hbuilders hb j
  have hnames : w.names = r.state.names := by
    rw [hw]
  refine ⟨h.record, hgrows.trans h.grows, ?_, ?_, h.drained, ?_, ?_, h.settlements, h.copies⟩
  · intro p hp
    rw [← hnames]
    exact h.names p hp
  · intro j hj
    have hnew := h.groups j hj
    refine ⟨?_, hnew.lt⟩
    rw [← hlength]
    exact hnew.le
  · intro j
    have hbalance := h.balance j
    change _ + (w.pendingAt j : Multiset Argument) + _ = _ at hbalance
    rw [hpending] at hbalance
    rw [← hbalance, zero_add]
    unfold ScopeBook.owing
    by_cases hj : j = id
    · subst hj
      rw [if_pos rfl, if_pos rfl, pendingAt_of_getElem? hb, Multiset.coe_nil, add_zero]
    · rw [if_neg hj, if_neg hj, zero_add]
  · intro e he before after hran
    obtain ⟨hbefore, hrest⟩ := h.events e he before after hran
    exact ⟨hgrows.trans hbefore, hrest⟩

end Moves

/-! ## Steps with a book and steps without -/

/-- The builders that have a name are no group's, and every builder is on a query that exists. -/
structure Sound (r : Booked) : Prop where
  names : ∀ p ∈ r.state.names, Open r p.2
  groups : ∀ id ∈ r.record.groups, id < r.state.builders.length
  filed : r.state.Filed

theorem Moves.sound {owed : BuilderId → Multiset Argument} {r r' : Booked} {news : ScopeBook}
    (h : Moves owed r news r') (hr : Sound r) : Sound r' where
  names p hp := by
    rcases h.names p hp with hold | hopen
    · exact h.open_of_open (hr.names p hold)
    · exact hopen
  groups id hid := by
    rw [h.record] at hid
    rcases ScopeBook.mem_groups_append.1 hid with hold | hnew
    · exact Nat.lt_of_lt_of_le (hr.groups id hold) h.grows.builders_length_le
    · exact (h.groups id hnew).lt
  filed := h.grows.filed hr.filed

theorem Open.of_grows {r : Booked} {id : BuilderId} (h : Open r id) {w : Workspace}
    (hw : r.state.Grows w) : Open { r with state := w } id :=
  ⟨Nat.lt_of_lt_of_le h.lt hw.builders_length_le, h.notGroup⟩

theorem Sound.of_grows {r : Booked} (hr : Sound r) {w : Workspace} (hw : r.state.Grows w)
    (hnames : w.names = r.state.names) : Sound { r with state := w } where
  names p hp := by
    change p ∈ w.names at hp
    rw [hnames] at hp
    exact (hr.names p hp).of_grows hw
  groups id hid := Nat.lt_of_lt_of_le (hr.groups id hid) hw.builders_length_le
  filed := hw.filed hr.filed

/-- A builder that is new was not made for a group. -/
theorem Sound.open_of_isNew {r : Booked} (hr : Sound r) {id : BuilderId} {w' : Workspace}
    (h : IsNew r.state id w') : Open { r with state := w' } id where
  lt := h.lt
  notGroup hgroup := absurd (hr.groups id hgroup) (Nat.not_lt_of_le h.le)

end Booking

end SqlQuery
