import SqlQuery.Proofs.Writing

/-!
# Clauses without sub-queries

Raw text, lists of values, select lists, groups, havings and orders: what each of them is written
as is a run of its template. Raw text is written only if it has one marker for each value; of a
select list this makes the number of select values the number of its markers.
-/

namespace SqlQuery

open Fragment

variable {d : Dialect}

/-! ## Raw text -/

theorem writes_weave (first : String) {rest : List String} {values : List Value}
    (h : rest.length = values.length) :
    (weave (first :: rest) values).WritesRun d
      (.text first :: (values.zip rest).flatMap fun (v, s) => [.slot (.plain v), .text s])
      (values.map .plain) := by
  induction rest generalizing first values with
  | nil =>
    cases values with
    | nil => exact .text first
    | cons v vs => exact absurd h (Nat.zero_ne_add_one _)
  | cons s rest ih =>
    cases values with
    | nil => exact absurd h (Nat.add_one_ne_zero _)
    | cons v vs =>
      have hrest : rest.length = vs.length := Nat.succ.inj h
      have hv : (Operand.plain v).bound d = .ok v := rfl
      exact ((Writes.text (d := d) first).appendRun (.slot hv)).appendRun (ih s hrest)

theorem ofRaw_eq_ok {raw : String} {values : List Value} {f : Fragment}
    (h : Fragment.ofRaw raw values = .ok f) :
    RawText.markerCount raw = values.length ∧ f = weave (RawText.split raw) values := by
  unfold Fragment.ofRaw Fragment.ofSegments at h
  simp only at h
  split at h
  · next hcount =>
    cases h
    exact ⟨hcount, rfl⟩
  · exact absurd h Result.reject_ne_ok

theorem writes_raw {raw : String} {values : List Value} {f : Fragment}
    (h : Fragment.ofRaw raw values = .ok f) :
    f.WritesRun d (rawTemplate raw values) (values.map .plain) := by
  obtain ⟨hcount, rfl⟩ := ofRaw_eq_ok h
  have hlength := RawText.length_split raw
  unfold rawTemplate
  cases hs : RawText.split raw with
  | nil =>
    rw [hs] at hlength
    exact absurd hlength (Nat.zero_ne_add_one _)
  | cons first rest =>
    refine writes_weave first ?_
    rw [hs, List.length_cons] at hlength
    rw [← hcount]
    exact Nat.succ.inj hlength

/-! ## Values -/

theorem writes_slots (values : List Value) :
    (slots values).WritesRun d (listTemplate values) (values.map .plain) :=
  (WritesEach.ofSlots values fun _ _ => .slot rfl).intercalate ", "

theorem writes_compared (left : String) (c : Comparison) (v : Value) :
    (comparedWith d left c v).WritesRun d (comparedTemplate d left c v) [.plain v] :=
  (Writes.text _).appendRun (.slot rfl)

theorem writes_around (a : Around) {o : Operand} {v : Value} (h : o.bound d = .ok v) :
    (a.fragment v).WritesRun d (a.template o) [o] :=
  ((Writes.text _).appendRun (.slot h)).appendRun (.text _)

/-! ## Groups, orders and having -/

theorem writes_groupKey {g : GroupKey} {f : Fragment} (h : g.fragment = .ok f) :
    f.WritesRun d g.template g.operands := by
  cases g with
  | column name unread =>
    cases h
    exact .text name
  | raw s values => exact writes_raw h

theorem writes_orderKey {o : OrderKey} {f : Fragment} (h : o.fragment = .ok f) :
    f.WritesRun d o.template o.operands := by
  cases o with
  | column name direction unread =>
    cases h
    exact .text _
  | raw s values unread => exact writes_raw h

theorem writes_havingCondition {c : HavingCondition} {f : Fragment} (h : c.fragment d = .ok f) :
    f.WritesRun d (c.template d) c.operands := by
  cases c with
  | compare left c right =>
    cases h
    exact writes_compared left c right
  | raw s values => exact writes_raw h

/-- A clause of HAVING with its word, and what is written for it. -/
def HavingWritten (d : Dialect) (h : Having) (item : Connective × Fragment) : Prop :=
  item.1 = h.connective
    ∧ item.2.WritesRun d (h.condition.template d) h.condition.operands

theorem havings_written {havings : List Having} {items : List (Connective × Fragment)}
    (h : havingFragments d havings = .ok items) :
    List.Forall₂ (HavingWritten d) havings items := by
  refine (Result.forall₂_of_mapM h).imp fun x item hx => ?_
  obtain ⟨f, hf, hx⟩ := Result.bind_eq_ok.1 hx
  rw [Result.pure_eq_ok] at hx
  rw [← hx]
  exact ⟨rfl, writes_havingCondition hf⟩

theorem writes_laterHavings {f : Fragment} {t : Template} {os : List Operand}
    {havings : List Having} {items : List (Connective × Fragment)}
    (hf : f.WritesRun d t os) (h : List.Forall₂ (HavingWritten d) havings items) :
    (items.foldl (fun acc (c, g) => acc ++ text (" " ++ c.text ++ " ") ++ g) f).WritesRun d
      (t ++ laterHavingTemplate d havings)
      (os ++ havings.flatMap fun h => h.condition.operands) := by
  induction h generalizing f t os with
  | nil =>
    rw [List.flatMap_nil, List.append_nil]
    unfold laterHavingTemplate
    rw [List.flatMap_nil, List.append_nil]
    exact hf
  | @cons x item _ _ first _ ih =>
    obtain ⟨c, g⟩ := item
    obtain ⟨rfl, hg⟩ := first
    have step := ih ((hf.appendRun (.text (" " ++ x.connective.text ++ " "))).appendRun hg)
    rw [List.append_nil] at step
    unfold laterHavingTemplate at step ⊢
    rw [List.flatMap_cons, List.flatMap_cons]
    rw [List.append_assoc, List.append_assoc, List.append_assoc] at step
    rw [List.append_assoc]
    exact step

/-! ## Sections -/

theorem section_eq_ok {α : Type} {keyword : String} {items : List α}
    {body : List α → Result Fragment} {fs : List Fragment}
    (h : section? keyword items body = .ok fs) :
    (items = [] ∧ fs = []) ∨
      (items.isEmpty = false ∧ ∃ f, body items = .ok f ∧ fs = [text keyword ++ f]) := by
  unfold section? at h
  cases items with
  | nil =>
    cases h
    exact .inl ⟨rfl, rfl⟩
  | cons x xs =>
    obtain ⟨f, hf, h⟩ := Result.bind_eq_ok.1 h
    cases h
    exact .inr ⟨rfl, f, hf, rfl⟩

/-- A section of items that are separated by commas. -/
theorem writes_listSection {α : Type} {keyword : String} {items : List α}
    {F : α → Result Fragment} {T : α → Template} {O : α → List Operand} {fs : List Fragment}
    (h : section? keyword items (fun xs => do return intercalate ", " (← xs.mapM F)) = .ok fs)
    (each : ∀ x f, F x = .ok f → f.WritesRun d (T x) (O x)) :
    WritesEach d fs
      (sectionTemplate keyword items fun xs => [Piece.text ", "].intercalate (xs.map T))
      (items.flatMap O) fun start => numbersFrom start (items.flatMap O) := by
  rcases section_eq_ok h with ⟨rfl, rfl⟩ | ⟨hne, f, hf, rfl⟩
  · exact .nil
  · obtain ⟨gs, hgs, hf⟩ := Result.bind_eq_ok.1 hf
    cases hf
    have written := (Result.forall₂_of_mapM hgs).imp fun x g hg => each x g hg
    have body := (WritesEach.ofRuns written).intercalate ", "
    unfold sectionTemplate
    rw [hne]
    exact .single ((Writes.text keyword).appendRun body)

theorem writes_havingSection {havings : List Having} {fs : List Fragment}
    (h : section? "HAVING " havings (fun hs => do return connected (← havingFragments d hs))
      = .ok fs) :
    WritesEach d fs (havingSection d havings) (havings.flatMap fun h => h.condition.operands)
      fun start => numbersFrom start (havings.flatMap fun h => h.condition.operands) := by
  rcases section_eq_ok h with ⟨rfl, rfl⟩ | ⟨hne, f, hf, rfl⟩
  · exact .nil
  · obtain ⟨items, hitems, hf⟩ := Result.bind_eq_ok.1 hf
    cases hf
    cases havings_written hitems with
    | nil => exact absurd hne (by decide)
    | cons first rest =>
      have body := writes_laterHavings first.2 rest
      exact .single ((Writes.text "HAVING ").appendRun body)

/-- A section that is a fixed text, if it is there. -/
theorem writes_optional {α : Type} (x : Option α) (s : α → String) :
    WritesEach d (x.map fun a => text (s a)).toList (x.map fun a => [Piece.text (s a)]).toList []
      fun _ => [] := by
  cases x with
  | none => exact .nil
  | some a => exact .single (.text (s a))

theorem writes_source (table : Option String) :
    WritesEach d
      (match table with
        | none | some "" => []
        | some t => [text ("FROM " ++ t)])
      (sourceSection table) [] fun _ => [] := by
  cases table with
  | none => exact .nil
  | some t =>
    by_cases ht : t = ""
    · subst ht
      exact .nil
    · simp only [sourceSection]
      exact .single (.text _)

/-- GROUP BY and HAVING. -/
theorem writes_groups {groups : List GroupKey} {havings : List Having} {fs : List Fragment}
    (h : groupFragments d groups havings = .ok fs) :
    WritesEach d fs (groupSection groups ++ havingSection d havings)
      (groups.flatMap GroupKey.operands ++ havings.flatMap fun h => h.condition.operands)
      fun start => numbersFrom start
        (groups.flatMap GroupKey.operands ++ havings.flatMap fun h => h.condition.operands) := by
  obtain ⟨keys, hkeys, h⟩ := Result.bind_eq_ok.1 h
  obtain ⟨clauses, hclauses, h⟩ := Result.bind_eq_ok.1 h
  cases h
  have grouped := writes_listSection (d := d) hkeys fun g f hf => writes_groupKey hf
  exact (grouped.append (writes_havingSection hclauses)).congr rfl
    fun start => (numbersFrom_append start _ _).symm

/-- The clauses that follow the branches of a UNION. -/
theorem writes_tail {orders : List OrderKey} {limit offset : Option Nat} {lock : Option LockMode}
    {fs : List Fragment} (h : tailFragments orders limit offset lock = .ok fs) :
    WritesEach d fs (orderSection orders ++ boundSection limit offset lock)
      (orders.flatMap OrderKey.operands)
      fun start => numbersFrom start (orders.flatMap OrderKey.operands) := by
  obtain ⟨gs, hgs, h⟩ := Result.bind_eq_ok.1 h
  cases h
  have sorted := writes_listSection (d := d) hgs fun o f hf => writes_orderKey hf
  have bounded := ((writes_optional (d := d) limit fun n => "LIMIT " ++ toString n).append
    (writes_optional offset fun n => "OFFSET " ++ toString n)).append
    (writes_optional lock LockMode.text)
  have whole := sorted.append bounded
  rw [← List.append_assoc, ← List.append_assoc] at whole
  exact whole.congr (List.append_nil _) fun start => List.append_nil _

/-! ## Select lists -/

/-- The number of markers in a select list. -/
def selectMarkers : List SelectItem → Nat
  | [] => 0
  | item :: rest => item.markerCount + selectMarkers rest

/-- A select list takes one value for each of its markers and leaves the others. -/
theorem writes_selectItems {selects : List SelectItem} {values left : List Value}
    {items : List Fragment} (h : selectItems selects values = .ok (items, left)) :
    selectMarkers selects ≤ values.length ∧ left = values.drop (selectMarkers selects) ∧
      WritesEach d items (selectTemplates selects values)
        ((values.take (selectMarkers selects)).map .plain)
        fun start => numbersFrom start ((values.take (selectMarkers selects)).map .plain) := by
  induction selects generalizing values items with
  | nil =>
    cases h
    exact ⟨Nat.zero_le _, rfl, .nil⟩
  | cons item rest ih =>
    cases item with
    | column name shownAs =>
      obtain ⟨⟨items, left⟩, hrest, h⟩ := Result.bind_eq_ok.1 h
      cases h
      obtain ⟨hle, hleft, each⟩ := ih hrest
      have hcount : selectMarkers (.column name shownAs :: rest) = selectMarkers rest :=
        Nat.zero_add _
      rw [hcount]
      exact ⟨hle, hleft, (WritesEach.cons (.text _) each).congr rfl fun _ => rfl⟩
    | raw raw shownAs =>
      obtain ⟨item, hitem, h⟩ := Result.bind_eq_ok.1 h
      obtain ⟨⟨items, left⟩, hrest, h⟩ := Result.bind_eq_ok.1 h
      cases h
      obtain ⟨hle, hleft, each⟩ := ih hrest
      have htaken := (ofRaw_eq_ok hitem).1
      rw [List.length_take] at htaken
      rw [List.length_drop] at hle
      have hcount : selectMarkers (.raw raw shownAs :: rest)
          = RawText.markerCount raw + selectMarkers rest := rfl
      rw [hcount, ← List.drop_drop, List.take_add, List.map_append]
      refine ⟨by omega, hleft, (WritesEach.cons (writes_raw hitem) each).congr rfl fun start => ?_⟩
      exact (numbersFrom_append start _ _).symm

/-- The head of a statement binds all select values, one for each marker, unless it has no items. -/
theorem writes_head {distinct : Bool} {selects : List SelectItem} {values : List Value}
    {f : Fragment} (h : selectHead distinct selects values = .ok f) :
    f.WritesRun d (headTemplate distinct selects values) (headOperands selects values) ∧
      (headOperands selects values).length = selectMarkers selects := by
  unfold selectHead at h
  unfold headTemplate headOperands
  cases selects with
  | nil =>
    cases h
    exact ⟨.text _, rfl⟩
  | cons item rest =>
    obtain ⟨⟨items, left⟩, hitems, h⟩ := Result.bind_eq_ok.1 h
    obtain ⟨hle, hleft, each⟩ := writes_selectItems (d := d) hitems
    cases hempty : left.isEmpty with
    | false =>
      simp only [hempty] at h
      exact absurd h Result.reject_ne_ok
    | true =>
      simp only [hempty] at h
      cases h
      rw [List.isEmpty_iff.1 hempty, eq_comm, List.drop_eq_nil_iff] at hleft
      have hcount : selectMarkers (item :: rest) = values.length := Nat.le_antisymm hle hleft
      rw [hcount, List.take_length] at each
      refine ⟨(Writes.text _).appendRun (each.intercalate ", "), ?_⟩
      rw [hcount]
      exact List.length_map _

end SqlQuery
