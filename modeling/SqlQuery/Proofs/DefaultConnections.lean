import Mathlib.Data.List.Nodup
import SqlQuery.Proofs.Effects
import SqlQuery.Steps.Connections

/-!
# The default connection

Named connections are used by calls in any order. `ConnectionCall.Moves` says what a call answers
and what it leaves, and `ConnectionCall.moves` that a call does nothing else, as long as names are
unique and the default is one of them, if there are any (`Connections.Sound`).

A call keeps that, so it holds after any calls (`Connections.Sound.after`). The names are then those
that were added and not removed since, in the order in which they were added
(`Connections.Sound.names_after`), so the default that takes the place of one that was removed is
the one that was added earliest. A step of a switchboard makes one such call at most
(`Switchboard.connections_step`), so its connections have a valid default as well.
-/

namespace SqlQuery

open Effect

variable {α : Type}

/-! ## Calls -/

/-- A call of named connections. -/
inductive ConnectionCall (α : Type) where
  | add (name : String) (x : α) (asDefault : Bool)
  /-- Asks for the connection of a name, or for the default. -/
  | look (name : Option String)
  | remove (name : String)
  | names
  /-- Closes what is connected and leaves the names. -/
  | closeAll

/-- What a call answers. -/
inductive ConnectionReply (α : Type) where
  | connection (x : α)
  | names (names : List String)
  | done

/-- A name that was added or removed. -/
inductive ConnectionEvent where
  | added (name : String)
  | removed (name : String)

namespace ConnectionCall

def carryOut : ConnectionCall α → Effect (Connections α) (ConnectionReply α)
  | add name x asDefault => do
    set (← ofResult ((← get).add name x asDefault))
    return .connection x
  | look name => do return .connection (← ofResult ((← get).get name))
  | remove name => do
    let (x, c) ← ofResult ((← get).remove name)
    set c
    return .connection x
  | names => do return .names (← get).names
  | closeAll => return .done

def answers (c : Connections α) (call : ConnectionCall α) : Result (ConnectionReply α) :=
  (call.carryOut.run.run c).1

/-- The connections after a call, also if it fails. -/
def leaves (c : Connections α) (call : ConnectionCall α) : Connections α :=
  (call.carryOut.run.run c).2

/-- What happens in a call that succeeds. -/
def events : ConnectionCall α → List ConnectionEvent
  | add name _ _ => [.added name]
  | remove name => [.removed name]
  | _ => []

end ConnectionCall

namespace Connections

/-- The connections after calls one after the other. -/
def after (c : Connections α) (calls : List (ConnectionCall α)) : Connections α :=
  calls.foldl ConnectionCall.leaves c

/-- What happens in calls one after the other. -/
def events (c : Connections α) : List (ConnectionCall α) → List ConnectionEvent
  | [] => []
  | call :: rest =>
    (if (call.answers c).toBool then call.events else []) ++ (call.leaves c).events rest

/-- What calls make of no connections. -/
def made (calls : List (ConnectionCall α)) : Connections α :=
  after {} calls

/-- What happens in calls on no connections. -/
def history (calls : List (ConnectionCall α)) : List ConnectionEvent :=
  events {} calls

end Connections

namespace ConnectionEvent

def name : ConnectionEvent → String
  | added name | removed name => name

/-- The names that were added and that nothing happened to since, in the order in which they were
added. -/
def standing : List ConnectionEvent → List String
  | [] => []
  | removed _ :: later => standing later
  | added name :: later =>
    if later.any (·.name == name) then standing later else name :: standing later

/-- What happens to a name takes it out, and if it is added it stands last. -/
theorem standing_concat (log : List ConnectionEvent) (e : ConnectionEvent) :
    standing (log ++ [e]) = (standing log).filter (· != e.name) ++ standing [e] := by
  induction log with
  | nil => rfl
  | cons first later ih =>
    cases first with
    | removed name => exact ih
    | added name =>
      rw [List.cons_append, standing, standing, List.any_append, ih]
      by_cases hlater : later.any (·.name == name) = true
      · simp [hlater]
      · by_cases hsame : e.name = name
        · simp [hlater, hsame]
        · simp [hlater, hsame, Ne.symm hsame]

end ConnectionEvent

/-! ## What a call does -/

namespace Connections

/-- Names are unique, and the default is one of them if there are any. -/
structure Sound (c : Connections α) : Prop where
  nodup : c.names.Nodup
  default_none_iff : c.default = none ↔ c.names = []
  default_mem : ∀ name, c.default = some name → name ∈ c.names

variable {c : Connections α} {name : String} {x : α}

theorem mem_names_iff : name ∈ c.names ↔ ∃ x, (name, x) ∈ c.entries := by
  unfold names
  simp

theorem lookup_eq_none_iff : c.entries.lookup name = none ↔ name ∉ c.names := by
  rw [mem_names_iff, List.lookup_eq_none_iff]
  constructor
  · rintro h ⟨x, hx⟩
    simpa using h _ hx
  · rintro h ⟨key, x⟩ hx
    have hne : name ≠ key := by
      rintro rfl
      exact h ⟨x, hx⟩
    simpa using hne

theorem contains_iff : c.contains name = true ↔ name ∈ c.names := by
  unfold contains
  rw [← not_iff_not, Option.not_isSome_iff_eq_none, lookup_eq_none_iff]

theorem mem_of_lookup (h : c.entries.lookup name = some x) : (name, x) ∈ c.entries := by
  obtain ⟨before, after, hentries, -⟩ := List.lookup_eq_some_iff.1 h
  rw [hentries]
  exact List.mem_append_right _ List.mem_cons_self

theorem names_filter :
    (c.entries.filter (·.1 != name)).map (·.1) = c.names.filter (· != name) := by
  unfold names
  rw [List.filter_map]
  rfl

end Connections

/-- What a call does: what it answers, and the connections that it leaves. -/
inductive ConnectionCall.Moves (c : Connections α) :
    ConnectionCall α → Result (ConnectionReply α) → Connections α → Prop
  | added {name : String} {x : α} {asDefault : Bool} (new : name ∉ c.names) :
    Moves c (.add name x asDefault) (.ok (.connection x)) {
      entries := c.entries ++ [(name, x)]
      default := if asDefault = true ∨ c.names = [] then some name else c.default }
  | taken {name : String} {x : α} {asDefault : Bool} (old : name ∈ c.names) :
    Moves c (.add name x asDefault) (.error (.configuration (.duplicateName name))) c
  | found {name : String} {x : α} (held : (name, x) ∈ c.entries) :
    Moves c (.look (some name)) (.ok (.connection x)) c
  | unknown {name : String} (lacks : name ∉ c.names) :
    Moves c (.look (some name)) (.error (.configuration (.unknownName (.text name)))) c
  | foundDefault {name : String} {x : α} (named : c.default = some name)
    (held : (name, x) ∈ c.entries) : Moves c (.look none) (.ok (.connection x)) c
  | noDefault (empty : c.names = []) :
    Moves c (.look none) (.error (.configuration .noConnections)) c
  | removed {name : String} {x : α} (held : (name, x) ∈ c.entries) :
    Moves c (.remove name) (.ok (.connection x)) {
      entries := c.entries.filter (·.1 != name)
      default :=
        if c.default = some name then (c.names.filter (· != name)).head? else c.default }
  | absent {name : String} (lacks : name ∉ c.names) :
    Moves c (.remove name) (.error (.configuration (.unknownName (.text name)))) c
  | listed : Moves c .names (.ok (.names c.names)) c
  | closed : Moves c .closeAll (.ok .done) c

namespace ConnectionCall

variable {c c' : Connections α} {call : ConnectionCall α} {r : Result (ConnectionReply α)}

theorem run_add (c : Connections α) (name : String) (x : α) (asDefault : Bool) :
    (add name x asDefault).carryOut.run.run c = match c.add name x asDefault with
      | .ok left => (.ok (.connection x), left)
      | .error e => (.error e, c) := by
  have hrun : (add name x asDefault).carryOut.run.run c
      = (ofResult (c.add name x asDefault) >>= fun left => do
          set left
          return .connection x : Effect (Connections α) (ConnectionReply α)).run.run c := rfl
  rw [hrun]
  cases c.add name x asDefault <;> rfl

theorem run_look (c : Connections α) (name : Option String) :
    (look name).carryOut.run.run c = ((c.get name).map .connection, c) := by
  have hrun : (look name).carryOut.run.run c
      = (ofResult (c.get name) >>= fun x => return .connection x :
          Effect (Connections α) (ConnectionReply α)).run.run c := rfl
  rw [hrun]
  cases c.get name <;> rfl

theorem run_remove (c : Connections α) (name : String) :
    (remove name).carryOut.run.run c = match c.remove name with
      | .ok (x, left) => (.ok (.connection x), left)
      | .error e => (.error e, c) := by
  have hrun : (remove name).carryOut.run.run c
      = (ofResult (c.remove name) >>= fun p => do
          set p.2
          return .connection p.1 : Effect (Connections α) (ConnectionReply α)).run.run c := rfl
  rw [hrun]
  cases c.remove name <;> rfl

/-- A call does nothing else. -/
theorem moves (h : c.Sound) (call : ConnectionCall α) :
    call.Moves c (call.answers c) (call.leaves c) := by
  unfold answers leaves
  cases call with
  | add name x asDefault =>
    rw [run_add]
    unfold Connections.add
    by_cases hold : name ∈ c.names
    · rw [if_pos (Connections.contains_iff.2 hold)]
      exact .taken hold
    · have hnone : c.default.isNone = true ↔ c.names = [] := by
        rw [Option.isNone_iff_eq_none, h.default_none_iff]
      rw [if_neg (mt Connections.contains_iff.1 hold)]
      simp only [Bool.or_eq_true, hnone]
      exact .added hold
  | look name =>
    rw [run_look]
    unfold Connections.get
    cases name with
    | some name =>
      rw [Option.some_or]
      dsimp only
      cases hx : c.entries.lookup name with
      | some x => exact .found (Connections.mem_of_lookup hx)
      | none => exact .unknown (Connections.lookup_eq_none_iff.1 hx)
    | none =>
      rw [Option.none_or]
      cases hdefault : c.default with
      | none => exact .noDefault (h.default_none_iff.1 hdefault)
      | some name =>
        dsimp only
        cases hx : c.entries.lookup name with
        | some x => exact .foundDefault hdefault (Connections.mem_of_lookup hx)
        | none =>
          exact absurd (h.default_mem name hdefault) (Connections.lookup_eq_none_iff.1 hx)
  | remove name =>
    rw [run_remove]
    unfold Connections.remove Connections.get
    rw [Option.some_or]
    dsimp only
    cases hx : c.entries.lookup name with
    | none => exact .absent (Connections.lookup_eq_none_iff.1 hx)
    | some x =>
      rw [← List.head?_map, Connections.names_filter]
      exact .removed (Connections.mem_of_lookup hx)
  | names => exact .listed
  | closeAll => exact .closed

/-- A call that fails changes nothing. -/
theorem Moves.refused {e : Error} (h : call.Moves c (.error e) c') : c' = c := by
  cases h <;> rfl

/-- The default changes in two ways only. -/
theorem Moves.default_changes (h : call.Moves c r c') (hchanged : c'.default ≠ c.default) :
    (∃ name x asDefault, call = .add name x asDefault ∧ name ∉ c.names
      ∧ (asDefault = true ∨ c.names = []) ∧ c'.default = some name)
    ∨ ∃ name, call = .remove name ∧ c.default = some name ∧ c'.default = c'.names.head? := by
  cases h with
  | @added name x asDefault new =>
    by_cases hfirst : asDefault = true ∨ c.names = []
    · exact .inl ⟨name, x, asDefault, rfl, new, hfirst, if_pos hfirst⟩
    · exact absurd (if_neg hfirst) hchanged
  | @removed name x held =>
    by_cases hdefault : c.default = some name
    · refine .inr ⟨name, rfl, hdefault, (if_pos hdefault).trans ?_⟩
      rw [← Connections.names_filter]
      rfl
    · exact absurd (if_neg hdefault) hchanged
  | _ => exact absurd rfl hchanged

/-- The names that a call leaves, by what happens in it. -/
theorem Moves.names_eq (h : call.Moves c r c') {log : List ConnectionEvent}
    (hlog : c.names = ConnectionEvent.standing log) :
    c'.names = ConnectionEvent.standing (log ++ if r.toBool then call.events else []) := by
  have hsame : c.names = ConnectionEvent.standing (log ++ []) := by rw [List.append_nil, hlog]
  cases h with
  | @added name x asDefault new =>
    have hkept : (ConnectionEvent.standing log).filter (· != name) = c.names := by
      rw [← hlog, List.filter_eq_self]
      intro other hother
      simpa using fun hsame : other = name => new (hsame ▸ hother)
    show (c.entries ++ [(name, x)]).map (·.1) = ConnectionEvent.standing (log ++ [.added name])
    rw [ConnectionEvent.standing_concat, ConnectionEvent.name, hkept, List.map_append]
    rfl
  | @removed name x held =>
    show (c.entries.filter (·.1 != name)).map (·.1)
      = ConnectionEvent.standing (log ++ [.removed name])
    rw [ConnectionEvent.standing_concat, ConnectionEvent.name, ← hlog, Connections.names_filter]
    exact (List.append_nil _).symm
  | _ => exact hsame

end ConnectionCall

/-! ## What calls keep -/

namespace Connections

variable {c c' : Connections α} {call : ConnectionCall α} {r : Result (ConnectionReply α)}

/-- A name that is added is new, so it can be the default. -/
theorem Sound.added (h : c.Sound) {name : String} (x : α) (asDefault : Bool)
    (new : name ∉ c.names) : Sound {
      entries := c.entries ++ [(name, x)]
      default := if asDefault = true ∨ c.names = [] then some name else c.default } := by
  have hnames : (c.entries ++ [(name, x)]).map (·.1) = c.names ++ [name] := List.map_append
  constructor
  · show List.Nodup (List.map _ _)
    rw [hnames, List.nodup_append]
    refine ⟨h.nodup, List.nodup_singleton name, fun other hother last hlast => ?_⟩
    rw [List.mem_singleton] at hlast
    rintro rfl
    exact new (hlast ▸ hother)
  · show _ ↔ List.map _ _ = []
    rw [hnames]
    refine iff_of_false (fun hnone => ?_)
      (List.append_ne_nil_of_right_ne_nil _ (List.cons_ne_nil _ _))
    dsimp only at hnone
    split at hnone
    · cases hnone
    next hfirst => exact hfirst (.inr (h.default_none_iff.1 hnone))
  · intro chosen hchosen
    show chosen ∈ List.map _ _
    rw [hnames]
    dsimp only at hchosen
    split at hchosen
    · cases hchosen
      exact List.mem_append_right _ (List.mem_singleton_self _)
    · exact List.mem_append_left _ (h.default_mem chosen hchosen)

/-- A default with another name is left where a name is removed. -/
theorem Sound.default_left (h : c.Sound) {name chosen : String} (hdefault : c.default = some chosen)
    (hother : c.default ≠ some name) : chosen ∈ c.names.filter (· != name) := by
  refine List.mem_filter.2 ⟨h.default_mem chosen hdefault, ?_⟩
  simpa using fun hsame : chosen = name => hother (hsame ▸ hdefault)

/-- A default that is removed is followed by the first of the names that are left. -/
theorem Sound.removed (h : c.Sound) {name : String} {x : α} (held : (name, x) ∈ c.entries) :
    Sound {
      entries := c.entries.filter (·.1 != name)
      default :=
        if c.default = some name then (c.names.filter (· != name)).head? else c.default } := by
  have hmem : name ∈ c.names := mem_names_iff.2 ⟨x, held⟩
  constructor
  · show List.Nodup (List.map _ _)
    rw [names_filter]
    exact h.nodup.filter _
  · show _ ↔ List.map _ _ = []
    rw [names_filter]
    dsimp only
    split
    · exact List.head?_eq_none_iff
    next hother =>
      refine iff_of_false (fun hnone => ?_) fun hempty => ?_
      · exact List.ne_nil_of_mem hmem (h.default_none_iff.1 hnone)
      · cases hdefault : c.default with
        | none => exact List.ne_nil_of_mem hmem (h.default_none_iff.1 hdefault)
        | some chosen => exact List.ne_nil_of_mem (h.default_left hdefault hother) hempty
  · intro chosen hchosen
    show chosen ∈ List.map _ _
    rw [names_filter]
    dsimp only at hchosen
    split at hchosen
    · exact List.mem_of_mem_head? hchosen
    next hother => exact h.default_left hchosen hother

theorem Sound.step (h : c.Sound) (hmoves : call.Moves c r c') : c'.Sound := by
  cases hmoves with
  | added new => exact h.added _ _ new
  | removed held => exact h.removed held
  | _ => exact h

theorem Sound.leaves (h : c.Sound) (call : ConnectionCall α) : (call.leaves c).Sound :=
  h.step (call.moves h)

theorem Sound.after (h : c.Sound) (calls : List (ConnectionCall α)) : (c.after calls).Sound := by
  induction calls generalizing c with
  | nil => exact h
  | cons call rest ih => exact ih (h.leaves call)

theorem sound_empty : ({} : Connections α).Sound where
  nodup := List.nodup_nil
  default_none_iff := iff_of_true rfl rfl
  default_mem _ h := nomatch h

/-- After calls there are the names that were added and not removed since. -/
theorem Sound.names_after (h : c.Sound) (log : List ConnectionEvent)
    (hlog : c.names = ConnectionEvent.standing log) (calls : List (ConnectionCall α)) :
    (c.after calls).names = ConnectionEvent.standing (log ++ c.events calls) := by
  induction calls generalizing c log with
  | nil =>
    rw [events, List.append_nil]
    exact hlog
  | cons call rest ih =>
    have hnext := ih (h.leaves call) _ ((call.moves h).names_eq hlog)
    rw [List.append_assoc] at hnext
    exact hnext

end Connections

/-- **There is a valid default.** After any calls there is a default exactly if there are names, and
it is one of them. The names are those that were added and not removed since, in the order in which
they were added. A call that fails leaves everything as it is, and the default changes only where a
new name is added as such or as the first, and where the default is removed, in whose place comes
the name that was added earliest. -/
theorem Connections.default_stands (calls : List (ConnectionCall α)) :
    (made calls).Sound
    ∧ (made calls).names = ConnectionEvent.standing (history calls)
    ∧ ∀ call : ConnectionCall α,
      call.Moves (made calls) (call.answers (made calls)) (call.leaves (made calls))
      ∧ ((∃ e, call.answers (made calls) = .error e) → call.leaves (made calls) = made calls)
      ∧ ((call.leaves (made calls)).default ≠ (made calls).default →
        (∃ name x asDefault, call = .add name x asDefault ∧ name ∉ (made calls).names
          ∧ (asDefault = true ∨ (made calls).names = [])
          ∧ (call.leaves (made calls)).default = some name)
        ∨ ∃ name, call = .remove name ∧ (made calls).default = some name
          ∧ (call.leaves (made calls)).default = (call.leaves (made calls)).names.head?) := by
  have hsound : (made calls).Sound := sound_empty.after calls
  refine ⟨hsound, sound_empty.names_after [] rfl calls, fun call => ?_⟩
  have hmoves := call.moves hsound
  refine ⟨hmoves, ?_, hmoves.default_changes⟩
  rintro ⟨e, he⟩
  rw [he] at hmoves
  exact hmoves.refused

/-- A name that was removed and added again is the last, and no default any more. -/
example :
    let c := Connections.made [.add "a" 1 false, .add "b" 2 false, .remove "a", .add "a" 3 false]
    c.names = ["b", "a"] ∧ c.default = some "b" := by
  decide

/-! ## Steps of a switchboard -/

namespace Switchboard

variable (s : Switchboard)

theorem connections_make (id dialect : String) :
    ((make id dialect).run s).2.connections = s.connections := by
  show (((if s.made.contains id then pure (.ok ()) else _ : StateM Switchboard (Result Unit)).run
    s).2).connections = _
  split
  · rfl
  · split <;> rfl

theorem connections_add (name id dialect : String) (asDefault : Bool) :
    ((add name id dialect asDefault).run s).2.connections = s.connections
    ∨ ((add name id dialect asDefault).run s).2.connections
      = (ConnectionCall.add name id asDefault).leaves s.connections := by
  rw [ConnectionCall.leaves, ConnectionCall.run_add, ← connections_make s id dialect]
  unfold add
  rw [StateT.run_bind]
  obtain ⟨r, s'⟩ := (make id dialect).run s
  cases r with
  | error e => exact .inl rfl
  | ok _ =>
    dsimp only [bind, StateT.bind, StateT.run, get, getThe, MonadStateOf.get, StateT.get, pure]
    cases s'.connections.add name id asDefault with
    | error e => exact .inl rfl
    | ok c => exact .inr rfl

theorem connections_remove (name : Value) :
    ((remove name).run s).2.connections = s.connections
    ∨ ∃ key, ((remove name).run s).2.connections
      = (ConnectionCall.remove key).leaves s.connections := by
  unfold remove
  simp only [pure_bind, StateT.run_bind, StateT.run_get]
  cases nameOf name with
  | error e => exact .inl rfl
  | ok key =>
    cases key with
    | none =>
      refine .inl ?_
      cases s.connections.get none <;> rfl
    | some key =>
      refine .inr ⟨key, ?_⟩
      rw [ConnectionCall.leaves, ConnectionCall.run_remove]
      dsimp only [bind, Except.bind]
      cases s.connections.remove key <;> rfl

theorem connections_showResult (r : Result String) :
    ((showResult r).run s).2.connections = s.connections := by
  cases r <;> rfl

/-- A step leaves what a call leaves, or changes nothing. -/
theorem connections_step (name : String) (call : Call Term) :
    ((step name call).run s).2.connections = s.connections
    ∨ ∃ c : ConnectionCall String,
      ((step name call).run s).2.connections = c.leaves s.connections := by
  unfold step
  simp only [StateT.run_bind, StateT.run_get]
  dsimp only [bind, pure]
  split
  · exact (s.connections_add ..).imp_right fun h => ⟨_, h⟩
  · exact .inl (s.connections_showResult _)
  · exact (s.connections_remove _).imp_right fun ⟨_, h⟩ => ⟨_, h⟩
  all_goals exact .inl rfl

/-- Steps keep a valid default. -/
theorem sound_step (h : s.connections.Sound) (name : String) (call : Call Term) :
    ((step name call).run s).2.connections.Sound := by
  obtain hsame | ⟨c, hleaves⟩ := s.connections_step name call
  · rwa [hsame]
  · rw [hleaves]
    exact h.leaves c

/-- Whatever the steps, there is a valid default. -/
theorem sound_steps (steps : List (String × Call Term)) :
    (steps.foldl (fun s p => ((step p.1 p.2).run s).2) {}).connections.Sound := by
  have run (s : Switchboard) (h : s.connections.Sound) :
      (steps.foldl (fun s p => ((step p.1 p.2).run s).2) s).connections.Sound := by
    induction steps generalizing s with
    | nil => exact h
    | cons p rest ih => exact ih _ (s.sound_step h p.1 p.2)
  exact run {} Connections.sound_empty

end Switchboard

end SqlQuery
