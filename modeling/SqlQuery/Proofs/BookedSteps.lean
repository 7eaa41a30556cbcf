import SqlQuery.Proofs.ScopeAccounts

/-!
# Steps that write a book

The steps that write a book do what the steps of a workspace do, and what they write is accounted
for. Both are shown together, by one induction on the fuel (`Booking.follows_step`): a step may run
as many steps as its terms and the pending scopes hold, and registering a scope only moves its steps
from the one to the other, so any fuel from that number on is enough.
-/

namespace SqlQuery

open Effect Recorded Workspace

namespace Booking

variable {α β : Type}

/-- Two computations end alike, one of which writes the book. What happened is accounted for, and
nothing was lost if they succeeded. -/
def Mirrors (r : Booked) (x : Work α) (y : Booking α) (post : α → Booked → Prop) : Prop :=
  ∃ answer r' news, y.run.run r = (answer, r') ∧ x.run.run r.state = (answer, r'.state)
    ∧ Moves (fun _ => 0) r news r' ∧ ∀ a, answer = .ok a → news.Lossless ∧ post a r'

namespace Mirrors

variable {r : Booked} {x : Work α} {y : Booking α} {post : α → Booked → Prop}

theorem act (hx : Quiet r.state (x.run.run r.state).2)
    (hpost : ∀ a w', x.Returns r.state a w' → Quiet r.state w' → post a { r with state := w' }) :
    Mirrors r x (Recorded.act x) post := by
  refine ⟨_, _, {}, rfl, rfl, .of_quiet hx, fun a ha => ⟨?_, ?_⟩⟩
  · intro e he
    cases he
  · exact hpost a _ (Prod.ext ha rfl) hx

theorem of_pure {a : α} (h : post a r) : Mirrors r (pure a) (pure a) post := by
  refine ⟨_, _, {}, rfl, rfl, .of_quiet (.refl r.state), fun b hb => ⟨?_, ?_⟩⟩
  · intro e he
    cases he
  · cases hb
    exact h

theorem of_throw (e : Error) : Mirrors r (throw e) (throw e) post :=
  ⟨_, _, {}, rfl, rfl, .of_quiet (.refl r.state), fun _ ha => nomatch ha⟩

theorem of_lift {result : Result α} (h : ∀ a, result = .ok a → post a r) :
    Mirrors r (liftM result) (liftM result) post := by
  cases result with
  | error e => exact of_throw e
  | ok a => exact of_pure (h a rfl)

theorem of_result {result : Result α} (h : ∀ a, result = .ok a → post a r) :
    Mirrors r (ofResult result) (ofResult result) post := by
  rw [← lift_eq_ofResult, ← lift_eq_ofResult]
  exact of_lift h

/-- The second of two computations begins where the first ended. -/
theorem bind {f : α → Work β} {g : α → Booking β} {post' : β → Booked → Prop} (hr : Sound r)
    (hx : Mirrors r x y post)
    (hf : ∀ a r' news, Sound r' → Moves (fun _ => 0) r news r' → post a r' →
      Mirrors r' (f a) (g a) post') : Mirrors r (x >>= f) (y >>= g) post' := by
  obtain ⟨answer, r', news, hy, hwork, hmoves, hok⟩ := hx
  cases answer with
  | error e => exact ⟨_, r', news, run_bind_error hy g, run_bind_error hwork f, hmoves, nofun⟩
  | ok a =>
    obtain ⟨hlossless, hpost⟩ := hok a rfl
    obtain ⟨answer, r'', news', hy', hwork', hmoves', hok'⟩ :=
      hf a r' news (hmoves.sound hr) hmoves hpost
    refine ⟨answer, r'', news ++ news', ?_, ?_, hmoves.trans hmoves', fun b hb => ?_⟩
    · exact (Returns.run_bind hy g).trans hy'
    · exact (Returns.run_bind hwork f).trans hwork'
    · obtain ⟨hlossless', hpost'⟩ := hok' b hb
      exact ⟨hlossless.append hlossless', hpost'⟩

/-- An action that leaves the pending scopes alone costs nothing. -/
theorem quietly {B m : Nat} (hx : Quietly x) (h : r.state.weight + m ≤ B) :
    Mirrors r x (Recorded.act x) fun _ r' => r'.state.weight + m ≤ B := by
  refine .act (hx r.state) fun _ w' _ hquiet => ?_
  change w'.weight + m ≤ B
  rw [hquiet.weight]
  exact h

theorem lookup {B m : Nat} (hr : Sound r) (name : String) (h : r.state.weight + m ≤ B) :
    Mirrors r (Workspace.lookup name) (Recorded.act (Workspace.lookup name))
      fun id r' => r'.state.weight + m ≤ B ∧ Open r' id := by
  refine .act (lookup_quietly name r.state) fun id w' hid _ => ?_
  obtain ⟨hfound, rfl⟩ := returns_lookup.1 hid
  obtain ⟨before, after, hnames, -⟩ := List.lookup_eq_some_iff.1 hfound
  refine ⟨h, hr.names (name, id) ?_⟩
  rw [hnames]
  exact List.mem_append_right _ (List.mem_cons_self ..)

/-- Only what is done from one state matters. -/
theorem congr {x' : Work α} {y' : Booking α} (h : Mirrors r x y post)
    (hx : x'.run.run r.state = x.run.run r.state) (hy : y'.run.run r = y.run.run r) :
    Mirrors r x' y' post := by
  unfold Mirrors
  rw [hx, hy]
  exact h

theorem mono {post' : α → Booked → Prop} (h : Mirrors r x y post)
    (hpost : ∀ a r', post a r' → post' a r') : Mirrors r x y post' := by
  obtain ⟨answer, r', news, hy, hwork, hmoves, hok⟩ := h
  exact ⟨answer, r', news, hy, hwork, hmoves, fun a ha => ⟨(hok a ha).1, hpost a r' (hok a ha).2⟩⟩

end Mirrors

/-- Steps with a book do what steps without do, as long as all steps that can still be run are no
more than a bound. -/
structure Follows (B : Nat) (run : Workspace.RunStep) (booked : RunStep) : Prop where
  mirrors : ∀ {m id s r}, Sound r → r.state.weight + s.size + m ≤ B →
    Mirrors r (run id s) (booked id s) fun _ r' => r'.state.weight + m ≤ B
  isStep : ∃ fuel, run = Workspace.step fuel

/-- An argument that is a builder is none that was made for a group. -/
def Stands (r : Booked) (a : Argument) : Prop :=
  ∀ id, a = .builder id → Open r id

theorem Stands.of_moves {owed : BuilderId → Multiset Argument} {r r' : Booked} {news : ScopeBook}
    {a : Argument} (h : Stands r a) (hmoves : Moves owed r news r') : Stands r' a :=
  fun id hid => hmoves.open_of_open (h id hid)

namespace Follows

variable {B m : Nat} {run : Workspace.RunStep} {booked : RunStep} {r : Booked} {id : BuilderId}

theorem runRoutine (h : Follows B run booked) {steps : Routine} (hr : Sound r)
    (hsize : r.state.weight + sizeOfSteps steps + m ≤ B) :
    Mirrors r (Workspace.runRoutine run id steps) (Booking.runRoutine booked id steps)
      fun _ r' => r'.state.weight + m ≤ B := by
  induction steps generalizing r with
  | nil =>
    refine .of_pure ?_
    unfold sizeOfSteps at hsize
    exact hsize
  | cons s rest ih =>
    unfold sizeOfSteps at hsize
    have hfirst : Mirrors r (run id s) (booked id s)
        fun _ r' => r'.state.weight + (sizeOfSteps rest + m) ≤ B := h.mirrors hr (by omega)
    exact hfirst.bind hr fun _ r' _ hr' _ hsize' => ih hr' (by omega)

theorem make (h : Follows B run booked) (table dialect : Option Value) (steps : Routine)
    (hr : Sound r) (hsize : r.state.weight + sizeOfSteps steps + m ≤ B) :
    Mirrors r (Workspace.make run table dialect steps) (Booking.make booked table dialect steps)
      fun id r' => r'.state.weight + m ≤ B ∧ Open r' id := by
  have hnew : Mirrors r (detached table dialect) (Recorded.act (detached table dialect))
      fun id r' => r'.state.weight + sizeOfSteps steps + m ≤ B ∧ Open r' id := by
    refine .act (detached_quietly table dialect {} r.state) fun id w' hid hquiet => ⟨?_, ?_⟩
    · change w'.weight + sizeOfSteps steps + m ≤ B
      rw [hquiet.weight]
      exact hsize
    · exact hr.open_of_isNew (isNew_of_detached hid)
  refine hnew.bind hr fun id r' _ hr' _ ⟨hsize', hopen⟩ => ?_
  refine (h.runRoutine hr' hsize').bind hr' fun _ r'' _ _ hmoves hsize'' => ?_
  exact .of_pure ⟨hsize'', hmoves.open_of_open hopen⟩

/-! ### Terms -/

/-- What is left after a term was evaluated: the steps of its value, if that is a scope. -/
def Evaluated (B m : Nat) (a : Argument) (r : Booked) : Prop :=
  r.state.weight + sizeOfScope a + m ≤ B ∧ Stands r a

/-- An argument that is neither a scope nor a builder costs nothing. -/
theorem evaluated_of_weight {a : Argument} (ha : sizeOfScope a = 0) (hb : ∀ id, a ≠ .builder id)
    (h : r.state.weight + m ≤ B) : Evaluated B m a r := by
  refine ⟨?_, fun id hid => absurd hid (hb id)⟩
  rw [ha]
  exact h

/-- What is described by its fields is neither a scope nor a builder. -/
theorem describe_plain {model : Model} {fields : Fields} {a : Argument}
    (h : describe model fields = .ok a) : sizeOfScope a = 0 ∧ ∀ id, a ≠ .builder id := by
  cases model <;>
    (obtain ⟨x, -, h⟩ := Result.bind_eq_ok.1 h
     cases h
     exact ⟨rfl, nofun⟩)

mutual

theorem eval (h : Follows B run booked) (t : Term) {m : Nat} {r : Booked} (hr : Sound r)
    (hsize : r.state.weight + t.size + m ≤ B) :
    Mirrors r (Workspace.eval run t) (Booking.eval booked t) (Evaluated B m) := by
  have hplain : r.state.weight + m ≤ B := by omega
  cases t with
  | value v => exact .of_pure (evaluated_of_weight rfl nofun hplain)
  | word w => exact .of_pure (evaluated_of_weight rfl nofun hplain)
  | callback replies => exact .of_pure (evaluated_of_weight rfl nofun hplain)
  | list items =>
    have hitems := evalAll h items hr hsize
    exact hitems.bind hr fun _ r' _ _ _ hleft => .of_pure (evaluated_of_weight rfl nofun hleft)
  | tuple items =>
    have hitems := evalAll h items hr hsize
    exact hitems.bind hr fun _ r' _ _ _ hleft => .of_pure (evaluated_of_weight rfl nofun hleft)
  | stream items =>
    have hitems := evalAll h items hr hsize
    exact hitems.bind hr fun _ r' _ _ _ hleft => .of_pure (evaluated_of_weight rfl nofun hleft)
  | mapping entries =>
    have hentries := evalEntries h entries hr hsize
    exact hentries.bind hr fun _ r' _ _ _ hleft => .of_pure (evaluated_of_weight rfl nofun hleft)
  | described model fields =>
    have hfields := evalEntries h fields hr hsize
    refine hfields.bind hr fun values r' _ _ _ hleft => .of_lift fun a ha => ?_
    obtain ⟨hscope, hbuilder⟩ := describe_plain ha
    exact evaluated_of_weight hscope hbuilder hleft
  | routine steps =>
    refine .of_pure ⟨?_, nofun⟩
    change r.state.weight + sizeOfSteps steps + m ≤ B
    unfold Term.size at hsize
    omega
  | made table dialect steps =>
    unfold Term.size at hsize
    have hmade := h.make (m := m) table dialect steps hr (by omega)
    refine hmade.bind hr fun id r' _ _ _ ⟨hleft, hopen⟩ => .of_pure ⟨hleft, ?_⟩
    intro j hj
    cases hj
    exact hopen
  | madeQuery table dialect steps =>
    unfold Term.size at hsize
    have hmade := h.make (m := m) table dialect steps hr (by omega)
    refine hmade.bind hr fun id r' _ hr' _ ⟨hleft, _⟩ => ?_
    refine (Mirrors.quietly (queryOf_quietly id) hleft).bind hr' fun q r'' _ _ _ hleft' => ?_
    exact .of_pure (evaluated_of_weight rfl nofun hleft')
  | named name =>
    refine (Mirrors.lookup hr name hplain).bind hr fun id r' _ _ _ ⟨hleft, hopen⟩ => .of_pure ?_
    refine ⟨hleft, fun j hj => ?_⟩
    cases hj
    exact hopen
  | namedQuery name =>
    refine (Mirrors.lookup hr name hplain).bind hr fun id r' _ hr' _ ⟨hleft, _⟩ => ?_
    refine (Mirrors.quietly (queryOf_quietly id) hleft).bind hr' fun q r'' _ _ _ hleft' => ?_
    exact .of_pure (evaluated_of_weight rfl nofun hleft')
  | event isSet =>
    have hset := Mirrors.quietly (setEvent_quietly isSet) hplain
    exact hset.bind hr fun _ r' _ _ _ hleft => .of_pure (evaluated_of_weight rfl nofun hleft)

theorem evalAll (h : Follows B run booked) (ts : List Term) {m : Nat} {r : Booked} (hr : Sound r)
    (hsize : r.state.weight + sizeOfTerms ts + m ≤ B) :
    Mirrors r (Workspace.evalAll run ts) (Booking.evalAll booked ts)
      fun _ r' => r'.state.weight + m ≤ B := by
  cases ts with
  | nil =>
    refine .of_pure ?_
    unfold sizeOfTerms at hsize
    exact hsize
  | cons t rest =>
    unfold sizeOfTerms at hsize
    have hfirst := eval h t (m := sizeOfTerms rest + m) hr (by omega)
    refine hfirst.bind hr fun a r' _ hr' _ ⟨hleft, _⟩ => ?_
    have hrest := evalAll h rest (m := m) hr' (by omega)
    exact hrest.bind hr' fun _ r'' _ _ _ hleft' => .of_pure hleft'

theorem evalEntries (h : Follows B run booked) (es : List (String × Term)) {m : Nat} {r : Booked}
    (hr : Sound r) (hsize : r.state.weight + sizeOfEntries es + m ≤ B) :
    Mirrors r (Workspace.evalEntries run es) (Booking.evalEntries booked es)
      fun _ r' => r'.state.weight + m ≤ B := by
  cases es with
  | nil =>
    refine .of_pure ?_
    unfold sizeOfEntries at hsize
    exact hsize
  | cons entry rest =>
    obtain ⟨k, t⟩ := entry
    unfold sizeOfEntries at hsize
    have hfirst := eval h t (m := sizeOfEntries rest + m) hr (by omega)
    refine hfirst.bind hr fun a r' _ hr' _ ⟨hleft, _⟩ => ?_
    have hrest := evalEntries h rest (m := m) hr' (by omega)
    exact hrest.bind hr' fun _ r'' _ _ _ hleft' => .of_pure hleft'

end

/-- What is left after the arguments of a step were evaluated. -/
structure Given (B m : Nat) (args : List (Option Argument)) (r : Booked) : Prop where
  weight : r.state.weight + sizeOfScopes (args.filterMap fun a => a) + m ≤ B
  stands : ∀ a, some a ∈ args → Stands r a

/-- What is left is enough for any of the arguments. -/
theorem Given.afford {args : List (Option Argument)} (h : Given B m args r) {a : Argument}
    (ha : some a ∈ args) : r.state.weight + sizeOfScope a + m ≤ B := by
  have hsize : sizeOfScope a ≤ sizeOfScopes (args.filterMap fun a => a) :=
    sizeOfScope_le (List.mem_filterMap.2 ⟨some a, ha, rfl⟩)
  have hweight := h.weight
  omega

theorem Given.plain {args : List (Option Argument)} (h : Given B m args r) :
    r.state.weight + m ≤ B := by
  have hweight := h.weight
  omega

theorem evalArgs (h : Follows B run booked) (ts : List (Option Term)) (hr : Sound r)
    (hsize : r.state.weight + sizeOfArgs ts + m ≤ B) :
    Mirrors r (Workspace.evalArgs run ts) (Booking.evalArgs booked ts) (Given B m) := by
  induction ts generalizing r m with
  | nil =>
    refine .of_pure ⟨?_, fun a ha => nomatch ha⟩
    unfold sizeOfArgs at hsize
    exact hsize
  | cons t rest ih =>
    cases t with
    | none =>
      unfold sizeOfArgs at hsize
      refine (ih hr hsize).bind hr fun args r' _ _ _ hgiven => .of_pure ⟨hgiven.weight, ?_⟩
      intro a ha
      rcases List.mem_cons.1 ha with hfirst | hrest
      · cases hfirst
      · exact hgiven.stands a hrest
    | some t =>
      unfold sizeOfArgs at hsize
      have hfirst := h.eval t (m := sizeOfArgs rest + m) hr (by omega)
      refine hfirst.bind hr fun a r' _ hr' _ ⟨hleft, hstands⟩ => ?_
      have hrest := ih (m := sizeOfScope a + m) hr' (by omega)
      refine hrest.bind hr' fun args r'' _ _ hmoves hgiven => .of_pure ⟨?_, ?_⟩
      · have hweight := hgiven.weight
        change r''.state.weight + sizeOfScopes (a :: args.filterMap fun a => a) + m ≤ B
        rw [sizeOfScopes_cons]
        omega
      · intro b hb
        rcases List.mem_cons.1 hb with hsame | hlater
        · cases hsame
          exact hstands.of_moves hmoves
        · exact hgiven.stands b hlater

/-! ### Scopes -/

theorem call (h : Follows B run booked) (id : BuilderId) (scope : Argument) (hr : Sound r)
    (hsize : r.state.weight + sizeOfScope scope + m ≤ B) :
    Mirrors r (Workspace.call run id scope) (Booking.call booked id scope)
      fun _ r' => r'.state.weight + m ≤ B := by
  cases scope with
  | routine steps => exact h.runRoutine hr hsize
  | _ => exact .of_throw _

section Draining

variable {scope : Argument} {r' : Booked}

/-- A scope that fails is lost, and so are those after it. -/
theorem run_drain_error {e : Error}
    (h : (Booking.call booked id scope).run.run r = (.error e, r')) (rest : List Argument) :
    (Booking.drain booked id (scope :: rest)).run.run r
      = (.error e, { r' with record := r'.record ++ .entries id .lost (scope :: rest) }) := by
  rw [Booking.drain, run_get_bind, (returns_attempt.2 h).run_bind]
  rfl

/-- After a scope that ran those after it are run. -/
theorem run_drain_ok {u : Unit} (h : (Booking.call booked id scope).Returns r u r')
    (rest : List Argument) :
    (Booking.drain booked id (scope :: rest)).run.run r = (Booking.drain booked id rest).run.run
      { r' with record := r'.record ++ .entries id (.ran r.state r'.state) [scope] } := by
  rw [Booking.drain, run_get_bind, (returns_attempt.2 h).run_bind]
  rfl

end Draining

/-- The scopes of a builder are run one after the other. Each of them ran or was lost, and if none
fails all ran. -/
theorem drain (h : Follows B run booked) {scopes : List Argument} (hr : Sound r) (hid : Open r id)
    (hsize : r.state.weight + sizeOfScopes scopes + m ≤ B) :
    ∃ answer r' news, (Booking.drain booked id scopes).run.run r = (answer, r')
      ∧ (scopes.forM (Workspace.call run id)).run.run r.state = (answer, r'.state)
      ∧ Moves (ScopeBook.owing id scopes) r news r'
      ∧ (scopes : Multiset Argument) ≤ news.ended id
      ∧ ∀ u, answer = .ok u → news.Lossless ∧ r'.state.weight + m ≤ B
        ∧ ∀ scope ∈ scopes, RanBetween news.events id scope r.state r'.state := by
  induction scopes generalizing r with
  | nil =>
    refine ⟨_, _, {}, rfl, rfl, ?_, Multiset.zero_le _, fun _ _ => ⟨nofun, ?_, nofun⟩⟩
    · rw [ScopeBook.owing_nil]
      exact .of_quiet (.refl r.state)
    · exact hsize
  | cons scope rest ih =>
    rw [sizeOfScopes_cons] at hsize
    obtain ⟨answer, r₁, news, hbooked, hplain, hmoves, hok⟩ :=
      h.call (m := sizeOfScopes rest + m) id scope hr (by omega)
    have hopen := hmoves.open_of_open hid
    cases answer with
    | error e =>
      have hlost := hmoves.enter_entries hopen (scope :: rest) .lost rfl fun _ _ _ _ => nofun
      simp only [zero_add] at hlost
      refine ⟨.error e, _, _, run_drain_error hbooked rest, run_bind_error hplain _, hlost, ?_,
        nofun⟩
      rw [ScopeBook.ended_append, ScopeBook.ended_entries rfl, ScopeBook.owing_self]
      exact Multiset.le_add_left _ _
    | ok u =>
      obtain ⟨hlossless, hleft⟩ := hok u rfl
      have hbetween : ScopeEvent.Between ⟨id, scope, .ran r.state r₁.state⟩ r.state r₁.state := by
        intro before after hfate
        cases hfate
        obtain ⟨fuel, hstep⟩ := h.isStep
        rw [hstep] at hplain
        exact ⟨.refl _, hmoves.grows, .refl _, fuel, hplain⟩
      have hran := hmoves.enter_entries hopen [scope] (.ran r.state r₁.state) rfl fun s hs => by
        rw [List.mem_singleton.1 hs]
        exact hbetween
      simp only [zero_add] at hran
      obtain ⟨answer, r₃, news', hbooked', hplain', hmoves', hended, hok'⟩ :=
        ih (hran.sound hr) (hran.open_of_open hid) (by change r₁.state.weight + _ + m ≤ B; omega)
      refine ⟨answer, r₃, news ++ .entries id (.ran r.state r₁.state) [scope] ++ news',
        (run_drain_ok hbooked rest).trans hbooked', (Returns.run_bind hplain _).trans hplain',
        ?_, ?_, fun u hu => ?_⟩
      · rw [ScopeBook.owing_cons]
        exact hran.trans hmoves'
      · rw [ScopeBook.ended_append, ScopeBook.ended_append, ScopeBook.ended_entries rfl,
          ScopeBook.owing_self, ← Multiset.cons_coe, ← Multiset.singleton_add]
        refine add_le_add ?_ hended
        exact Multiset.le_add_left _ _
      · obtain ⟨hlossless', hleft', hall⟩ := hok' u hu
        refine ⟨?_, hleft', fun s hs => ?_⟩
        · have hentry : (ScopeBook.entries id (.ran r.state r₁.state) [scope]).Lossless :=
            .entries (by intro hlost; cases hlost) [scope]
          exact (hlossless.append hentry).append hlossless'
        · rcases List.mem_cons.1 hs with rfl | hlater
          · refine ⟨r.state, r₁.state, ?_, .refl _, hmoves'.grows⟩
            refine ScopeBook.mem_events_append.2 (.inl (ScopeBook.mem_events_append.2 (.inr ?_)))
            exact List.mem_singleton.2 rfl
          · obtain ⟨before, after, he, hbefore, hafter⟩ := hall s hlater
            exact ⟨before, after, ScopeBook.mem_events_append.2 (.inr he),
              hran.grows.trans hbefore, hafter⟩

/-- The pending scopes are taken from their builder before the first of them runs. -/
theorem run_applyScopes (run : Workspace.RunStep) (booked : RunStep) {b : Builder}
    (hb : r.state.builders[id]? = some b) :
    let w := { r.state with builders := r.state.builders.set id { b with pending := [] } }
    (Booking.applyScopes booked id).run.run r
        = (do
          Booking.drain booked id b.pending
          note { settlements := [⟨id, r.state, (← get).state⟩] } : Booking Unit).run.run
            { r with state := w }
      ∧ (Workspace.applyScopes run id).run.run r.state
        = (b.pending.forM (Workspace.call run id)).run.run w := by
  have hbuilder : (builder id).Returns r.state b r.state := returns_builder.2 ⟨hb, rfl⟩
  have hbooked : (Recorded.act (builder id)).Returns r b r :=
    returns_onPart.2 ⟨r.state, hbuilder, rfl⟩
  constructor
  · unfold Booking.applyScopes
    change (Recorded.act (builder id) >>= _ : Booking Unit).run.run r = _
    rw [hbooked.run_bind]
    rfl
  · unfold Workspace.applyScopes
    rw [hbuilder.run_bind]
    rfl

theorem applyScopes (h : Follows B run booked) (hr : Sound r) (hid : Open r id)
    (hsize : r.state.weight + m ≤ B) :
    Mirrors r (Workspace.applyScopes run id) (Booking.applyScopes booked id) fun _ r' =>
      r'.state.weight + m ≤ B ∧ ⟨id, r.state, r'.state⟩ ∈ r'.record.settlements := by
  obtain ⟨b, hb⟩ : ∃ b, r.state.builders[id]? = some b := ⟨_, List.getElem?_eq_getElem hid.lt⟩
  obtain ⟨hbooked, hplain⟩ := run_applyScopes run booked hb
  generalize hw : ({ r.state with builders := r.state.builders.set id { b with pending := [] } }
    : Workspace) = w at hbooked hplain
  have hgrows : r.state.Grows w := hw ▸ Grows.set hb ⟨rfl, rfl, rfl, rfl⟩
  have hnames : w.names = r.state.names := by
    rw [← hw]
  have hweight : w.weight + sizeOfScopes b.pending = r.state.weight :=
    weight_set (congrArg Workspace.builders hw.symm) hb
  obtain ⟨answer, r', news, hdrain, hforM, hmoves, -, hok⟩ :=
    h.drain (m := m) (hr.of_grows hgrows hnames) (hid.of_grows hgrows)
      (by change w.weight + sizeOfScopes b.pending + m ≤ B; omega)
  have htaken := Moves.of_taken hb hw.symm hmoves
  cases answer with
  | error e =>
    refine ⟨.error e, r', news, ?_, hplain.trans hforM, htaken, nofun⟩
    rw [hbooked]
    exact run_bind_error hdrain _
  | ok u =>
    obtain ⟨hlossless, hleft, hall⟩ := hok u rfl
    let s : Settlement := ⟨id, r.state, r'.state⟩
    have hcovered : s.Covered news.events := by
      intro scope hscope
      change scope ∈ r.state.pendingAt id at hscope
      rw [pendingAt_of_getElem? hb] at hscope
      obtain ⟨before, after, he, hbefore, hafter⟩ := hall scope hscope
      exact ⟨before, after, he, hgrows.trans hbefore, hafter⟩
    have hsettled : ∀ t ∈ [s], t.after = r'.state ∧ t.Covered news.events := fun t ht => by
      rw [List.mem_singleton.1 ht]
      exact ⟨rfl, hcovered⟩
    have hentered := htaken.enter_notes { settlements := [s] } rfl rfl hsettled nofun
    refine ⟨.ok (), { r' with record := r'.record ++ { settlements := [s] } }, _, ?_,
      hplain.trans hforM, hentered, fun _ _ => ⟨?_, hleft, ?_⟩⟩
    · rw [hbooked]
      exact (Returns.run_bind hdrain _).trans rfl
    · exact hlossless.append nofun
    · exact ScopeBook.mem_settlements_append.2 (.inr (List.mem_singleton.2 rfl))

/-! ### Sub-queries and joins -/

theorem prepared (h : Follows B run booked) (hr : Sound r) (hid : Open r id)
    (hsize : r.state.weight + m ≤ B) :
    Mirrors r (Workspace.prepared run id) (Booking.prepared booked id)
      fun _ r' => r'.state.weight + m ≤ B := by
  refine (h.applyScopes hr hid hsize).bind hr fun _ r₁ _ _ _ ⟨hleft, hsettled⟩ => ?_
  have hquiet := copyOf_quietly id r₁.state
  rcases hrun : (copyOf id).run.run r₁.state with ⟨answer, w⟩
  rw [hrun] at hquiet
  have hmoves := Moves.of_quiet hquiet
  cases answer with
  | error e => exact ⟨_, _, {}, run_bind_error (run_act hrun) _, hrun, hmoves, nofun⟩
  | ok q =>
    obtain ⟨hq, rfl⟩ := returns_copyOf hrun
    let c : Copied := ⟨id, q⟩
    have hcopied : ∀ d ∈ [c], d.Settled r₁.record.settlements := fun d hd => by
      rw [List.mem_singleton.1 hd]
      exact ⟨_, hsettled, rfl, hq⟩
    have hentered := hmoves.enter_notes { copies := [c] } rfl rfl nofun hcopied
    refine ⟨.ok q, { r₁ with record := r₁.record ++ { copies := [c] } }, _,
      (Returns.run_bind (run_act hrun) _).trans rfl, hrun, hentered, fun _ _ => ⟨nofun, hleft⟩⟩

theorem spawn (hr : Sound r) (hsize : r.state.weight + m ≤ B) :
    Mirrors r (Workspace.spawn id) (Recorded.act (Workspace.spawn id))
      fun sub r' => r'.state.weight + m ≤ B ∧ Open r' sub
        ∧ IsNew r.state sub r'.state ∧ r'.record = r.record := by
  refine .act (spawn_quietly id r.state) fun sub w' hsub hquiet => ⟨?_, ?_, ?_, rfl⟩
  · change w'.weight + m ≤ B
    rw [hquiet.weight]
    exact hsize
  · exact hr.open_of_isNew (isNew_of_spawn hsub)
  · exact isNew_of_spawn hsub

theorem subQuery (h : Follows B run booked) {a : Argument} (hr : Sound r) (ha : Stands r a)
    (hsize : r.state.weight + sizeOfScope a + m ≤ B) :
    Mirrors r (Workspace.subQuery run id a) (Booking.subQuery booked id a)
      fun _ r' => r'.state.weight + m ≤ B := by
  cases a with
  | builder b => exact h.prepared hr (ha b rfl) hsize
  | query q => exact .of_result fun _ _ => hsize
  | routine steps =>
    change r.state.weight + sizeOfSteps steps + m ≤ B at hsize
    rw [Nat.add_assoc] at hsize
    refine (spawn hr hsize).bind hr fun sub r₁ _ hr₁ _ ⟨hleft, hopen, _⟩ => ?_
    rw [← Nat.add_assoc] at hleft
    refine (h.runRoutine hr₁ hleft).bind hr₁ fun _ r₂ _ hr₂ hmoves hleft' => ?_
    exact h.prepared hr₂ (hmoves.open_of_open hopen) hleft'
  | _ => exact .of_throw _

theorem routineJoin (h : Follows B run booked) {kind : JoinKind} {table : Argument}
    {steps : Routine} (hr : Sound r) (hsize : r.state.weight + sizeOfSteps steps + m ≤ B) :
    Mirrors r (Workspace.routineJoin run kind table steps)
      (Booking.routineJoin booked kind table steps) fun _ r' => r'.state.weight + m ≤ B := by
  -- the arguments of each step are evaluated, and the draft of the join is changed
  have hdraft : ∀ draft, Mirrors r
      (steps.foldlM (fun (draft : JoinDraft) s => do
        draft.step s.verb (← Workspace.evalArgs run s.args)) draft)
      (steps.foldlM (fun (draft : JoinDraft) s => do
        draft.step s.verb (← Booking.evalArgs booked s.args)) draft)
      fun _ r' => r'.state.weight + m ≤ B := by
    induction steps generalizing r with
    | nil => exact fun draft => .of_pure hsize
    | cons s rest ih =>
      intro draft
      obtain ⟨verb, args⟩ := s
      unfold sizeOfSteps Step.size at hsize
      have hargs : Mirrors r (Workspace.evalArgs run args) (Booking.evalArgs booked args)
          (Given B (sizeOfSteps rest + m)) := h.evalArgs args hr (by omega)
      have hstep : Mirrors r (Workspace.evalArgs run args >>= fun a => liftM (draft.step verb a))
          (Booking.evalArgs booked args >>= fun a => liftM (draft.step verb a))
          fun _ r' => r'.state.weight + sizeOfSteps rest + m ≤ B :=
        hargs.bind hr fun a r' _ _ _ hgiven => .of_lift fun _ _ => by
          have hleft := hgiven.weight
          omega
      rw [List.foldlM_cons, List.foldlM_cons]
      exact hstep.bind hr fun draft' r' _ hr' _ hleft => ih hr' hleft draft'
  refine (hdraft {}).bind hr fun draft r' _ _ _ hleft => ?_
  cases draft.on with
  | none => exact .of_throw _
  | some on => exact .of_lift fun _ _ => hleft

/-! ### Steps -/

/-- A builder for a group. -/
theorem spawnGroup (hsize : r.state.weight + m ≤ B) :
    Mirrors r (Workspace.spawn id) (Booking.spawnGroup id)
      fun _ r' => r'.state.weight + m ≤ B := by
  have hquiet := spawn_quietly id r.state
  rcases hrun : (Workspace.spawn id).run.run r.state with ⟨answer, w⟩
  rw [hrun] at hquiet
  have hmoves := Moves.of_quiet hquiet
  have hact : (Recorded.act (Workspace.spawn id)).run.run r = (answer, { r with state := w }) :=
    run_act hrun
  cases answer with
  | error e => exact ⟨_, _, {}, run_bind_error hact _, hrun, hmoves, nofun⟩
  | ok sub =>
    refine ⟨.ok sub, { r with state := w, record := r.record ++ { groups := [sub] } },
      { groups := [sub] }, (Returns.run_bind hact _).trans rfl, hrun, ?_, fun _ _ => ⟨nofun, ?_⟩⟩
    · refine { hmoves with
        record := rfl, names := ?_, groups := ?_, drained := nofun, copies := nofun }
      · intro p hp
        exact .inl (hquiet.names ▸ hp)
      · intro j hj
        rw [List.mem_singleton.1 hj]
        exact isNew_of_spawn hrun
    · change w.weight + m ≤ B
      rw [hquiet.weight]
      exact hsize

theorem register {scopes : List Argument}
    (hsize : r.state.weight + sizeOfScopes scopes + m ≤ B) :
    Mirrors r (do
        let b ← builder id
        setBuilder id { b with pending := b.pending ++ scopes })
      (Booking.register id scopes) fun _ r' => r'.state.weight + m ≤ B := by
  obtain ⟨e, t, hrun, hbind⟩ | ⟨b, t, hrun, hbind⟩ := run_bind (builder id)
    (fun b => setBuilder id { b with pending := b.pending ++ scopes }) r.state
  · -- a builder that does not exist
    have hquiet := builder_quietly id r.state
    rw [hrun] at hquiet
    exact ⟨.error e, _, {}, run_bind_error (run_act hbind) _, hbind, .of_quiet hquiet, nofun⟩
  · obtain ⟨hb, rfl⟩ := returns_builder.1 hrun
    generalize hw : ({ r.state with
      builders := r.state.builders.set id { b with pending := b.pending ++ scopes } } : Workspace)
      = w
    have hset : (do
        let b ← builder id
        setBuilder id { b with pending := b.pending ++ scopes } : Work Unit).run.run r.state
        = (.ok (), w) := by
      rw [← hw]
      exact hbind
    have hbuilders := congrArg Workspace.builders hw.symm
    have hgrows : r.state.Grows w := hw ▸ Grows.set hb ⟨rfl, rfl, rfl, rfl⟩
    have hnames : w.names = r.state.names := by
      rw [← hw]
    have hpending : ∀ j, w.pendingAt j
        = if j = id then r.state.pendingAt id ++ scopes else r.state.pendingAt j := by
      intro j
      rw [pendingAt_set hbuilders hb j, pendingAt_of_getElem? hb]
    refine ⟨.ok (), { state := w, record := r.record ++ .entries id .registered scopes },
      .entries id .registered scopes, (Returns.run_bind (run_act hset) _).trans rfl, hset,
      .of_registered hgrows hnames scopes hpending,
      fun _ _ => ⟨.entries (by intro hlost; cases hlost) scopes, ?_⟩⟩
    have hweight := weight_set hbuilders hb
    rw [sizeOfScopes_append] at hweight
    change w.weight + m ≤ B
    omega

/-- The edits of a step, after what went before them. -/
theorem edits {verb : Verb} {args : List (Option Argument)} (hsize : r.state.weight + m ≤ B) :
    Mirrors r (do edit id (← Verb.edits (← surroundings id) verb args))
      (Recorded.act do edit id (← Verb.edits (← surroundings id) verb args))
      fun _ r' => r'.state.weight + m ≤ B :=
  .quietly (edits_quietly id verb args) hsize

theorem perform (h : Follows B run booked) {verb : Verb} {args : List (Option Argument)}
    (hr : Sound r) (hargs : Given B m args r) :
    Mirrors r (Workspace.perform run id verb args) (Booking.perform booked id verb args)
      fun _ r' => r'.state.weight + m ≤ B := by
  unfold Workspace.perform
  split
  next steps _ _ connective =>
    simp only [Booking.perform]
    have hsteps : r.state.weight + sizeOfSteps steps + m ≤ B :=
      hargs.afford (a := .routine steps) (by simp)
    rw [Nat.add_assoc] at hsteps
    refine (spawnGroup hsteps).bind hr fun sub r₁ _ hr₁ _ hleft => ?_
    rw [← Nat.add_assoc] at hleft
    refine (h.runRoutine hr₁ hleft).bind hr₁ fun _ r₂ _ hr₂ _ hleft => ?_
    refine (Mirrors.quietly (queryOf_quietly sub) hleft).bind hr₂ fun q r₃ _ _ _ hleft => ?_
    by_cases hempty : q.filters.isEmpty = true
    · rw [if_pos hempty, if_pos hempty]
      exact .of_pure hleft
    · rw [if_neg hempty, if_neg hempty]
      refine .quietly (edit_quietly id fun e he => ?_) hleft
      rw [List.mem_singleton.1 he]
      exact Edit.addFilter_extends _
  next column source connective negated =>
    simp only [Booking.perform]
    by_cases hquery : standsForQuery source = true
    · rw [if_pos hquery, if_pos hquery]
      have hsource : Mirrors r (Argument.query <$> Workspace.subQuery run id source)
          (Argument.query <$> Booking.subQuery booked id source)
          fun _ r' => r'.state.weight + m ≤ B := by
        refine (h.subQuery hr (hargs.stands source (by simp)) (hargs.afford (by simp))).bind hr ?_
        exact fun q r₁ _ _ _ hleft => .of_pure hleft
      exact hsource.bind hr fun source r₁ _ _ _ hleft => edits hleft
    · rw [if_neg hquery, if_neg hquery]
      exact edits hargs.plain
  next source connective negated =>
    simp only [Booking.perform]
    refine (h.subQuery hr (hargs.stands source (by simp)) (hargs.afford (by simp))).bind hr ?_
    exact fun q r₁ _ _ _ hleft => edits hleft
  next source all =>
    simp only [Booking.perform]
    refine (h.subQuery hr (hargs.stands source (by simp)) (hargs.afford (by simp))).bind hr ?_
    exact fun q r₁ _ _ _ hleft => edits hleft
  next target steps _ _ kind =>
    simp only [Booking.perform]
    have hsteps : r.state.weight + sizeOfSteps steps + m ≤ B :=
      hargs.afford (a := .routine steps) (by simp)
    have hkind : Mirrors r (liftM (parseJoinKind kind)) (liftM (parseJoinKind kind))
        fun _ r' => r'.state.weight + sizeOfSteps steps + m ≤ B := .of_lift fun _ _ => hsteps
    refine hkind.bind hr fun kind r₁ _ hr₁ _ hleft => ?_
    refine (h.routineJoin hr₁ hleft).bind hr₁ fun join r₂ _ _ _ hleft => ?_
    refine .quietly (edit_quietly id fun e he => ?_) hleft
    rw [List.mem_singleton.1 he]
    exact Edit.addJoin_extends _
  next negated condition fn otherwise =>
    simp only [Booking.perform]
    by_cases hcondition : (condition.isTruthy != negated) = true
    · rw [if_pos hcondition, if_pos hcondition]
      exact h.call id _ hr (hargs.afford (by simp))
    · rw [if_neg hcondition, if_neg hcondition]
      obtain _ | other := otherwise
      · exact .of_pure hargs.plain
      by_cases hnull : other = .value .null
      · rw [hnull]
        exact .of_pure hargs.plain
      · have hother : r.state.weight + sizeOfScope other + m ≤ B := hargs.afford (by simp)
        simp only
        exact h.call id _ hr hother
  next fn =>
    simp only [Booking.perform]
    exact h.call id _ hr (hargs.afford (by simp))
  next fns =>
    simp only [Booking.perform]
    exact register hargs.weight
  next enabled =>
    simp only [Booking.perform]
    exact .quietly (setOptions_quietly id (fun _ => ⟨rfl, rfl, rfl, rfl⟩) fun _ => rfl) hargs.plain
  next event timeout =>
    simp only [Booking.perform]
    exact .quietly (setOptions_quietly id (fun _ => ⟨rfl, rfl, rfl, rfl⟩) fun _ => rfl) hargs.plain
  next =>
    rw [Booking.perform]
    · exact edits hargs.plain
    all_goals assumption

/-- One level more of fuel, on either side. -/
theorem next {fuel fuel' : Nat} (h : Follows B (Workspace.step fuel) (Booking.step fuel')) :
    Follows (B + 1) (Workspace.step (fuel + 1)) (Booking.step (fuel' + 1)) where
  isStep := ⟨fuel + 1, rfl⟩
  mirrors {m id s r} hr hsize := by
    obtain ⟨verb, args⟩ := s
    unfold Step.size at hsize
    have hargs : Mirrors r (Workspace.evalArgs (Workspace.step fuel) args)
        (Booking.evalArgs (Booking.step fuel') args) (Given B m) := h.evalArgs args hr (by omega)
    have hstep : Mirrors r (Workspace.step (fuel + 1) id (.mk verb args))
        (Booking.step (fuel' + 1) id (.mk verb args)) fun _ r' => r'.state.weight + m ≤ B :=
      hargs.bind hr fun given r' _ hr' _ hgiven => h.perform hr' hgiven
    exact hstep.mono fun _ _ hleft => Nat.le_succ_of_le hleft

end Follows

/-- **Steps with a book do what steps without do**, with any fuel from the number of steps on that
can still be run. -/
theorem follows_step {B fuel fuel' : Nat} (h : B ≤ fuel) (h' : B ≤ fuel') :
    Follows B (Workspace.step fuel) (Booking.step fuel') := by
  induction B generalizing fuel fuel' with
  | zero =>
    refine ⟨fun {m id s r} _ hsize => ?_, fuel, rfl⟩
    obtain ⟨verb, args⟩ := s
    unfold Step.size at hsize
    omega
  | succ B ih =>
    obtain ⟨f, rfl⟩ := Nat.exists_eq_add_of_lt h
    obtain ⟨g, rfl⟩ := Nat.exists_eq_add_of_lt h'
    exact (ih (Nat.le_add_right B f) (Nat.le_add_right B g)).next

end Booking

end SqlQuery
