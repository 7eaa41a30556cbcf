import SqlQuery.Proofs.PairingOrder
import SqlQuery.Proofs.QuestionMarks

/-!
# Markers in statements

Where placeholders are question marks, a driver finds the places of the values by reading the text
of a statement for markers, as raw text is read. `Statement.markers_drift` says how many it finds:
one for each value, and the drift of the raw texts that are shown in the statement and in those
inside it. Quoted question marks do not count, be they in raw text or in the literals of JSON paths.

The account is kept on the template of a query. A template drifts by `k` if the markers in its text
are its slots and `k` more, whatever follows it but a question mark (`Template.Drifts`). Slots and
raw texts may end in a question mark, so they have to be kept apart: a template that starts with a
separator can follow any other (`Template.Follows`).
-/

namespace SqlQuery

open Fragment Piece RawText

/-! ## Templates with question marks for slots -/

def Piece.marked : Piece → List Char
  | text s => s.toList
  | slot _ => ['?']

/-- The text of a template with a question mark in each slot. -/
def Template.marked (t : Template) : List Char :=
  t.flatMap Piece.marked

/-- The markers in the text of a template are its slots and `k` more. -/
def Template.Drifts (t : Template) (k : Int) : Prop :=
  ∀ rest : List Char, rest.head? ≠ some '?' →
    ((segments none (t.marked ++ rest)).length : Int)
      = t.slots.length + k + (segments none rest).length

/-- A template can follow any other, and adds `k` to its drift. -/
structure Template.Follows (u : Template) (k : Int) : Prop where
  after : ∀ {t : Template} {j : Int}, t.Drifts j → Template.Drifts (t ++ u) (j + k)

/-- Text without markers that does not start with a question mark. -/
structure RawText.Separates (s : String) : Prop where
  silent : IsSilent s
  parts : ∃ c cs, s.toList = c :: cs ∧ c ≠ '?'

namespace Template

variable {t u : Template} {s : String} {j k : Int}

@[simp] theorem marked_append (t u : Template) : marked (t ++ u) = t.marked ++ u.marked :=
  List.flatMap_append

theorem toList_fill_marked {ns : List Nat} (h : ns.length = t.slots.length) :
    (t.fill (fun _ => "?") ns).toList = t.marked := by
  induction t generalizing ns with
  | nil => rw [fill_nil]; rfl
  | cons piece t ih =>
    cases piece with
    | text s =>
      rw [fill_text, String.toList_append, ih h]
      rfl
    | slot o =>
      cases ns with
      | nil => exact absurd h (Nat.zero_ne_add_one _)
      | cons n ns =>
        show ("?" ++ fill (fun _ => "?") t ns).toList = _
        rw [String.toList_append, ih (Nat.succ.inj h)]
        rfl

namespace Drifts

theorem nil : Drifts [] 0 := by
  intro rest _
  simp [marked, slots]

theorem slot (o : Operand) : Drifts [.slot o] 0 := by
  intro rest hrest
  show ((segments none ('?' :: rest)).length : Int) = _
  rw [segments_single hrest]
  simp [slots, operand?]
  omega

/-- Text without markers may come first. -/
theorem text (hs : IsSilent s) (h : Drifts t k) : Drifts (.text s :: t) k := by
  intro rest hrest
  show ((segments none (s.toList ++ t.marked ++ rest)).length : Int) = t.slots.length + k + _
  rw [List.append_assoc, hs, h rest hrest]

theorem single (hs : IsSilent s) : Drifts [.text s] 0 :=
  text hs nil

theorem congr (h : Drifts t j) (hjk : j = k) : Drifts t k :=
  hjk ▸ h

end Drifts

namespace Follows

theorem nil : Follows [] 0 where
  after h := by
    rw [List.append_nil, Int.add_zero]
    exact h

theorem append (ht : Follows t j) (hu : Follows u k) : Follows (t ++ u) (j + k) where
  after h := by
    rw [← List.append_assoc, ← Int.add_assoc]
    exact hu.after (ht.after h)

/-- A template behind a separator can follow any other. -/
theorem separated (hs : Separates s) (h : Drifts u k) : Follows (.text s :: u) k := by
  refine ⟨fun {t} {j} ht rest hrest => ?_⟩
  obtain ⟨c, cs, hchars, hc⟩ := hs.parts
  have hmarked : marked (t ++ .text s :: u) ++ rest
      = t.marked ++ (s.toList ++ (u.marked ++ rest)) := by
    rw [marked_append, List.append_assoc]
    show t.marked ++ (s.toList ++ u.marked ++ rest) = _
    rw [List.append_assoc]
  have hslots : slots (t ++ .text s :: u) = t.slots ++ u.slots := slots_append _ _
  have hhead : (s.toList ++ (u.marked ++ rest)).head? ≠ some '?' := by
    rw [hchars]
    exact fun h => hc (Option.some.inj h)
  rw [hmarked, ht _ hhead, hs.silent, h rest hrest, hslots, List.length_append]
  push_cast
  omega

theorem closing (hs : Separates s) : Follows [.text s] 0 :=
  separated hs .nil

end Follows

/-- Templates that drift one by one, and by how much together. -/
inductive DriftEach : List Template → Int → Prop
  | nil : DriftEach [] 0
  | cons {t : Template} {ts : List Template} {j k : Int} (first : t.Drifts j)
    (rest : DriftEach ts k) : DriftEach (t :: ts) (j + k)

namespace DriftEach

variable {ts us : List Template}

theorem append (h : DriftEach ts j) (h' : DriftEach us k) : DriftEach (ts ++ us) (j + k) := by
  induction h with
  | nil =>
    rw [Int.zero_add]
    exact h'
  | cons first _ ih =>
    rw [Int.add_assoc]
    exact .cons first ih

theorem one (h : t.Drifts k) : DriftEach [t] k :=
  Int.add_zero k ▸ .cons h .nil

theorem congr (h : DriftEach ts j) (hjk : j = k) : DriftEach ts k :=
  hjk ▸ h

/-- Templates with a separator between any two. -/
theorem intercalate (hs : Separates s) (h : DriftEach ts k) :
    Drifts ([.text s].intercalate ts) k := by
  induction h with
  | nil => exact .nil
  | cons first rest ih =>
    cases rest with
    | nil =>
      rw [List.intercalate_singleton, Int.add_zero]
      exact first
    | cons second rest =>
      rw [List.intercalate_cons_cons, List.append_assoc]
      exact (Follows.separated hs ih).after first

/-- Templates with a separator before each. -/
theorem spaced (hs : Separates s) (h : DriftEach ts k) :
    Follows (ts.flatMap fun t => .text s :: t) k := by
  induction h with
  | nil => exact .nil
  | cons first _ ih => exact (Follows.separated hs first).append ih

end DriftEach

end Template

theorem RawText.separates_of_inert {s : String} (h : isInert s = true) (hs : s ≠ "") :
    Separates s where
  silent := isSilent_of_inert h
  parts := by
    unfold isInert at h
    match hchars : s.toList with
    | [] => exact absurd (String.toList_eq_nil_iff.1 hchars) hs
    | c :: cs =>
      rw [hchars, List.all_cons, Bool.and_eq_true] at h
      refine ⟨c, cs, rfl, ?_⟩
      rintro rfl
      exact absurd h.1 (by decide)

/-! ## What is shown as it is given -/

/-- A part of a query that is shown as it is given: a name, or raw text. -/
inductive Verbatim where
  | name (s : String)
  | raw (s : String)

namespace Verbatim

/-- Names have neither quotes nor question marks, and raw text closes its quotes. -/
def IsPlain : Verbatim → Prop
  | name s => isInert s = true
  | raw s => IsClosed s.toList

/-- Raw text has no two question marks in a row outside its quotes. -/
def HasSingles : Verbatim → Prop
  | name _ => True
  | raw s => ∀ r ∈ questionRuns none 0 s.toList, r ≤ 1

instance : (x : Verbatim) → Decidable x.IsPlain
  | name s => inferInstanceAs (Decidable (isInert s = true))
  | raw s => inferInstanceAs (Decidable (s.toList.foldl quoteAfter none = none))

instance : (x : Verbatim) → Decidable x.HasSingles
  | name _ => inferInstanceAs (Decidable True)
  | raw s => inferInstanceAs (Decidable (∀ r ∈ questionRuns none 0 s.toList, r ≤ 1))

/-- How many markers more there are once it is shown. -/
def drift : Verbatim → Int
  | name _ => 0
  | raw s => RawText.drift s

/-- The drift of several parts. -/
def driftOf (xs : List Verbatim) : Int :=
  (xs.map drift).sum

theorem driftOf_append (xs ys : List Verbatim) :
    driftOf (xs ++ ys) = driftOf xs + driftOf ys := by
  unfold driftOf
  rw [List.map_append, List.sum_append]

theorem driftOf_cons (x : Verbatim) (xs : List Verbatim) :
    driftOf (x :: xs) = x.drift + driftOf xs :=
  List.sum_cons

theorem driftOf_names (names : List String) : driftOf (names.map name) = 0 := by
  induction names with
  | nil => rfl
  | cons s names ih =>
    rw [List.map_cons, driftOf_cons, ih]
    rfl

end Verbatim

open Verbatim (driftOf driftOf_append driftOf_cons driftOf_names)

def SelectItem.verbatim : SelectItem → List Verbatim
  | column name shownAs => .name name :: shownAs.toList.map .name
  | raw s _ => [.raw s]

def GroupKey.verbatim : GroupKey → List Verbatim
  | column name _ => [.name name]
  | raw s _ => [.raw s]

def OrderKey.verbatim : OrderKey → List Verbatim
  | column name _ _ => [.name name]
  | raw s _ _ => [.raw s]

def HavingCondition.verbatim : HavingCondition → List Verbatim
  | compare left _ _ => [.name left]
  | raw s _ => [.raw s]

mutual

/-- The names and raw texts of a condition and of the statements inside it. The path of a JSON
column is none of them: it is shown as a literal. -/
def Condition.verbatim : Condition → List Verbatim
  | .raw s _ => [.raw s]
  | .compare column _ _ => [.name column]
  | .between column _ _ _ => [.name column]
  | .inValues column _ _ => [.name column]
  | .inQuery column _ query => .name column :: query.verbatim
  | .isNull column _ => [.name column]
  | .exists _ query => query.verbatim
  | .group filters => filterVerbatim filters
  | .columns first _ second => [.name first, .name second]
  | .datePart column _ _ _ => [.name column]
  | .jsonContains column _ => [.name column]
  | .jsonLength column _ _ => [.name column]
  | .jsonPath column _ _ _ => [.name column]
  | .fullText columns _ => columns.map .name
  | .anyColumn columns _ _ _ _ => columns.map .name

def filterVerbatim : List Filter → List Verbatim
  | [] => []
  | ⟨_, condition, _⟩ :: rest => condition.verbatim ++ filterVerbatim rest

/-- A cross join shows nothing but its table. -/
def joinVerbatim : List Join → List Verbatim
  | [] => []
  | ⟨.cross, table, _, _, _, _⟩ :: rest => .name table :: joinVerbatim rest
  | ⟨_, table, first, _, second, filters⟩ :: rest =>
    .name table :: .name (first.getD "") :: .name (second.getD "") :: filterVerbatim filters
      ++ joinVerbatim rest

def branchVerbatim : List Branch → List Verbatim
  | [] => []
  | ⟨query, _⟩ :: rest => query.verbatim ++ branchVerbatim rest

/-- The names and raw texts of a query and of the statements inside it. -/
def Query.verbatim : Query → List Verbatim
  | { table, selects, filters, joins, groups, havings, orders, unions, .. } =>
    selects.flatMap SelectItem.verbatim ++ (table.toList.map .name ++ joinVerbatim joins
      ++ filterVerbatim filters ++ groups.flatMap GroupKey.verbatim
      ++ havings.flatMap (fun h => h.condition.verbatim) ++ branchVerbatim unions
      ++ orders.flatMap OrderKey.verbatim)

end

theorem joinVerbatim_on {j : Join} (h : j.kind ≠ .cross) (rest : List Join) :
    joinVerbatim (j :: rest) = .name j.table :: .name (j.first.getD "")
      :: .name (j.second.getD "") :: filterVerbatim j.filters ++ joinVerbatim rest := by
  cases j
  rw [joinVerbatim]
  exact h

/-! ## Clauses -/

namespace Template

/-- Raw text drifts as it is shown. -/
theorem drifts_raw {raw : String} {values : List Value} {f : Fragment}
    (h : Fragment.ofRaw raw values = .ok f) (hclosed : IsClosed raw.toList) :
    (rawTemplate raw values).Drifts (RawText.drift raw) := by
  obtain ⟨hcount, hweave⟩ := ofRaw_eq_ok h
  have hwrites := writes_raw (d := .mysql) h
  have hlength := hwrites.length_numbers 0
  have hmarked : (rawTemplate raw values).marked = shown (segments none raw.toList) := by
    have hsplit := RawText.length_split raw
    rw [hcount, RawText.split, List.length_map] at hsplit
    rw [← toList_fill_marked hlength, ← hwrites.shown, hweave]
    exact toList_render_weave hsplit 0
  rw [length_numbersFrom, List.length_map] at hlength
  intro rest hrest
  rw [hmarked, length_segments_shown hclosed hrest, hcount, hlength]

end Template

open Template

/-! ### Words -/

section Words

variable {names : List String} {name : String}

theorem isSilent_name (h : (Verbatim.name name).IsPlain) : IsSilent name :=
  isSilent_of_inert h

theorem isSilent_names (h : ∀ x ∈ names.map Verbatim.name, x.IsPlain) :
    ∀ s ∈ names, IsSilent s :=
  fun _ hs => isSilent_name (h _ (List.mem_map_of_mem hs))

theorem isSilent_comparison (c : Comparison) : IsSilent (Dialect.mysql.comparisonText c) := by
  cases c <;> exact isSilent_of_inert (by decide)

theorem isSilent_operator (o : Operator) : IsSilent (Dialect.mysql.operatorText o) := by
  cases o with
  | compare c => exact isSilent_comparison c
  | _ => exact isSilent_of_inert (by decide)

theorem separates_comma : Separates ", " :=
  separates_of_inert (by decide) (by decide)

theorem separates_close : Separates ")" :=
  separates_of_inert (by decide) (by decide)

theorem separates_blank : Separates " " :=
  separates_of_inert (by decide) (by decide)

theorem separates_connective (c : Connective) : Separates (" " ++ c.text ++ " ") := by
  cases c <;> exact separates_of_inert (by decide) (by decide)

theorem isSilent_digits (n : Nat) : IsSilent (toString n) := by
  refine isSilent_of_inert ?_
  unfold isInert
  rw [Nat.toString_eq_ofList_toDigits, String.toList_ofList, List.all_eq_true]
  intro c hc
  have hdigit := Nat.isDigit_of_mem_toDigits (b := 10) (by decide) (by decide) hc
  have hplain := isPlainChar_of_isDigit hdigit
  have hmark : c ≠ '?' := by
    rintro rfl
    exact absurd hdigit (by decide)
  simp only [isPlainChar, Bool.not_eq_true', Bool.or_eq_false_iff] at hplain
  simp [hplain.1.1.1, hmark]

end Words

/-! ### Parts without statements inside them -/

theorem drifts_compared {left : String} (hleft : IsSilent left) (c : Comparison) (v : Value) :
    (comparedTemplate .mysql left c v).Drifts 0 :=
  .text (((hleft.append separates_blank.silent).append (isSilent_comparison c)).append
    separates_blank.silent) (.slot _)

theorem drifts_around {before : String} (hbefore : IsSilent before) (o : Operand) :
    (Around.template ⟨before, ")"⟩ o).Drifts 0 :=
  .text hbefore ((Follows.closing separates_close).after (.slot o))

theorem drifts_enclosed {before : String} {t : Template} {k : Int} (hbefore : IsSilent before)
    (h : t.Drifts k) : Template.Drifts (.text before :: t ++ [.text ")"]) k :=
  .text hbefore (((Follows.closing separates_close).after h).congr (Int.add_zero k))

section Each

variable {α β : Type} {xs : List α} {T : α → Template}

theorem driftEach_still (h : ∀ x ∈ xs, (T x).Drifts 0) : DriftEach (xs.map T) 0 := by
  induction xs with
  | nil => exact .nil
  | cons x xs ih =>
    obtain ⟨hx, hxs⟩ := List.forall_mem_cons.1 h
    exact .cons hx (ih hxs)

/-- Items that were written one by one drift by what they show. -/
theorem driftEach_of_forall₂ {R : α → β → Prop} {ys : List β} {V : α → List Verbatim}
    (h : List.Forall₂ R xs ys)
    (each : ∀ x y, R x y → (∀ z ∈ V x, z.IsPlain) → (T x).Drifts (driftOf (V x)))
    (hplain : ∀ z ∈ xs.flatMap V, z.IsPlain) :
    DriftEach (xs.map T) (driftOf (xs.flatMap V)) := by
  induction h with
  | nil => exact .nil
  | cons first _ ih =>
    rw [List.flatMap_cons, List.forall_mem_append] at hplain
    rw [List.flatMap_cons, driftOf_append]
    exact .cons (each _ _ first hplain.1) (ih hplain.2)

theorem driftEach_optional (x : Option α) {s : α → String} (h : ∀ a, IsSilent (s a)) :
    DriftEach (x.map fun a => [Piece.text (s a)]).toList 0 := by
  cases x with
  | none => exact .nil
  | some a => exact .one (.single (h a))

end Each

theorem drifts_list (values : List Value) : (listTemplate values).Drifts 0 :=
  (driftEach_still fun _ _ => .slot _).intercalate separates_comma

theorem GroupKey.drifts {g : GroupKey} {f : Fragment} (h : g.fragment = .ok f)
    (hplain : ∀ x ∈ g.verbatim, x.IsPlain) : g.template.Drifts (driftOf g.verbatim) := by
  cases g with
  | column name unread => exact .single (isSilent_name (hplain _ List.mem_cons_self))
  | raw s values => exact (drifts_raw h (hplain _ List.mem_cons_self)).congr (Int.add_zero _).symm

theorem OrderKey.drifts {o : OrderKey} {f : Fragment} (h : o.fragment = .ok f)
    (hplain : ∀ x ∈ o.verbatim, x.IsPlain) : o.template.Drifts (driftOf o.verbatim) := by
  cases o with
  | column name direction unread =>
    have hname := isSilent_name (hplain _ List.mem_cons_self)
    have hdirection : IsSilent direction.text := by
      cases direction <;> exact isSilent_of_inert (by decide)
    exact .single ((hname.append separates_blank.silent).append hdirection)
  | raw s values unread =>
    exact (drifts_raw h (hplain _ List.mem_cons_self)).congr (Int.add_zero _).symm

theorem HavingCondition.drifts {c : HavingCondition} {f : Fragment}
    (h : c.fragment .mysql = .ok f) (hplain : ∀ x ∈ c.verbatim, x.IsPlain) :
    (c.template .mysql).Drifts (driftOf c.verbatim) := by
  cases c with
  | compare left c right =>
    exact drifts_compared (isSilent_name (hplain _ List.mem_cons_self)) c right
  | raw s values => exact (drifts_raw h (hplain _ List.mem_cons_self)).congr (Int.add_zero _).symm

/-! ### Sections -/

/-- A section of items that are separated by commas. -/
theorem driftEach_listSection {α : Type} {keyword : String} {items : List α}
    {F : α → Result Fragment} {T : α → Template} {V : α → List Verbatim} {fs : List Fragment}
    (h : section? keyword items (fun xs => do return intercalate ", " (← xs.mapM F)) = .ok fs)
    (hkeyword : IsSilent keyword)
    (each : ∀ x f, F x = .ok f → (∀ y ∈ V x, y.IsPlain) → (T x).Drifts (driftOf (V x)))
    (hplain : ∀ y ∈ items.flatMap V, y.IsPlain) :
    DriftEach (sectionTemplate keyword items fun xs => [Piece.text ", "].intercalate (xs.map T))
      (driftOf (items.flatMap V)) := by
  obtain ⟨rfl, rfl⟩ | ⟨hne, f, hf, rfl⟩ := section_eq_ok h
  · exact .nil
  · obtain ⟨gs, hgs, -⟩ := Result.bind_eq_ok.1 hf
    have hitems := driftEach_of_forall₂ (Result.forall₂_of_mapM hgs) each hplain
    unfold sectionTemplate
    rw [hne]
    exact .one (.text hkeyword (hitems.intercalate separates_comma))

theorem driftEach_source {table : Option String}
    (h : ∀ x ∈ table.toList.map Verbatim.name, x.IsPlain) : DriftEach (sourceSection table) 0 := by
  cases table with
  | none => exact .nil
  | some t =>
    unfold sourceSection
    split
    · exact .nil
    · exact .nil
    next hsome =>
      cases hsome
      have hname := isSilent_name (h (.name t) List.mem_cons_self)
      exact .one (.single ((isSilent_of_inert (by decide)).append hname))

theorem laterHavings_follow {havings : List Having} {items : List (Connective × Fragment)}
    (h : List.Forall₂ (fun h _ => Succeeds (h.condition.fragment .mysql)) havings items)
    (hplain : ∀ x ∈ havings.flatMap (fun h => h.condition.verbatim), x.IsPlain) :
    Follows (laterHavingTemplate .mysql havings)
      (driftOf (havings.flatMap fun h => h.condition.verbatim)) := by
  induction h with
  | nil => exact .nil
  | @cons x _ _ _ first _ ih =>
    obtain ⟨f, hf⟩ := first
    rw [List.flatMap_cons, List.forall_mem_append] at hplain
    rw [List.flatMap_cons, driftOf_append]
    exact (Follows.separated (separates_connective x.connective)
      (x.condition.drifts hf hplain.1)).append (ih hplain.2)

theorem driftEach_havings {havings : List Having} {fs : List Fragment}
    (h : section? "HAVING " havings (fun hs => do return connected (← havingFragments .mysql hs))
      = .ok fs)
    (hplain : ∀ x ∈ havings.flatMap (fun h => h.condition.verbatim), x.IsPlain) :
    DriftEach (havingSection .mysql havings)
      (driftOf (havings.flatMap fun h => h.condition.verbatim)) := by
  obtain ⟨rfl, rfl⟩ | ⟨hne, f, hf, rfl⟩ := section_eq_ok h
  · exact .nil
  · obtain ⟨items, hitems, -⟩ := Result.bind_eq_ok.1 hf
    have hwritten :
        List.Forall₂ (fun h _ => Succeeds (h.condition.fragment .mysql)) havings items := by
      refine (Result.forall₂_of_mapM hitems).imp fun x item hx => ?_
      obtain ⟨f, hf, -⟩ := Result.bind_eq_ok.1 hx
      exact ⟨f, hf⟩
    cases hwritten with
    | nil => exact absurd hne (by decide)
    | cons first rest =>
      obtain ⟨f, hf⟩ := first
      rw [List.flatMap_cons, List.forall_mem_append] at hplain
      rw [List.flatMap_cons, driftOf_append]
      have hfirst := HavingCondition.drifts hf hplain.1
      exact .one (.text (isSilent_of_inert (by decide))
        ((laterHavings_follow rest hplain.2).after hfirst))

theorem driftEach_groups {groups : List GroupKey} {havings : List Having} {fs : List Fragment}
    (h : groupFragments .mysql groups havings = .ok fs)
    (hgroups : ∀ x ∈ groups.flatMap GroupKey.verbatim, x.IsPlain)
    (hhavings : ∀ x ∈ havings.flatMap (fun h => h.condition.verbatim), x.IsPlain) :
    DriftEach (groupSection groups ++ havingSection .mysql havings)
      (driftOf (groups.flatMap GroupKey.verbatim)
        + driftOf (havings.flatMap fun h => h.condition.verbatim)) := by
  obtain ⟨keys, hkeys, h⟩ := Result.bind_eq_ok.1 h
  obtain ⟨clauses, hclauses, -⟩ := Result.bind_eq_ok.1 h
  exact (driftEach_listSection hkeys (isSilent_of_inert (by decide))
    (fun _ _ => GroupKey.drifts) hgroups).append (driftEach_havings hclauses hhavings)

theorem driftEach_tail {orders : List OrderKey} {limit offset : Option Nat}
    {lock : Option LockMode} {fs : List Fragment}
    (h : tailFragments orders limit offset lock = .ok fs)
    (hplain : ∀ x ∈ orders.flatMap OrderKey.verbatim, x.IsPlain) :
    DriftEach (orderSection orders ++ boundSection limit offset lock)
      (driftOf (orders.flatMap OrderKey.verbatim)) := by
  obtain ⟨sorted, hsorted, -⟩ := Result.bind_eq_ok.1 h
  have horders : DriftEach (orderSection orders) _ := driftEach_listSection hsorted
    (isSilent_of_inert (by decide)) (fun _ _ => OrderKey.drifts) hplain
  have hlimit := driftEach_optional limit fun n =>
    (isSilent_of_inert (s := "LIMIT ") (by decide)).append (isSilent_digits n)
  have hoffset := driftEach_optional offset fun n =>
    (isSilent_of_inert (s := "OFFSET ") (by decide)).append (isSilent_digits n)
  have hlock := driftEach_optional lock fun m : LockMode =>
    show IsSilent m.text by cases m <;> exact isSilent_of_inert (by decide)
  exact (horders.append ((hlimit.append hoffset).append hlock)).congr (by omega)

theorem driftEach_selects {selects : List SelectItem} {values left : List Value}
    {items : List Fragment} (h : selectItems selects values = .ok (items, left))
    (hplain : ∀ x ∈ selects.flatMap SelectItem.verbatim, x.IsPlain) :
    DriftEach (selectTemplates selects values)
      (driftOf (selects.flatMap SelectItem.verbatim)) := by
  induction selects generalizing values left items with
  | nil => exact .nil
  | cons item rest ih =>
    rw [List.flatMap_cons, List.forall_mem_append] at hplain
    rw [List.flatMap_cons, driftOf_append]
    cases item with
    | column name shownAs =>
      obtain ⟨⟨items, left⟩, hrest, h⟩ := Result.bind_eq_ok.1 h
      have hname := isSilent_name (hplain.1 _ List.mem_cons_self)
      have hnames : driftOf (SelectItem.verbatim (.column name shownAs)) = 0 :=
        (driftOf_cons _ _).trans (congrArg (0 + ·) (driftOf_names shownAs.toList))
      rw [hnames]
      refine .cons (.single ?_) (ih hrest hplain.2)
      split
      next => exact hname
      next => exact hname
      next a _ _ =>
        have halias := isSilent_name (hplain.1 (.name a) (.tail _ List.mem_cons_self))
        exact (hname.append (isSilent_of_inert (by decide))).append halias
    | raw raw shownAs =>
      obtain ⟨item, hitem, h⟩ := Result.bind_eq_ok.1 h
      obtain ⟨⟨items, left⟩, hrest, h⟩ := Result.bind_eq_ok.1 h
      have hraw := drifts_raw hitem (hplain.1 _ List.mem_cons_self)
      exact .cons (hraw.congr (Int.add_zero _).symm) (ih hrest hplain.2)

theorem drifts_head {distinct : Bool} {selects : List SelectItem} {values : List Value}
    {f : Fragment} (h : selectHead distinct selects values = .ok f)
    (hplain : ∀ x ∈ selects.flatMap SelectItem.verbatim, x.IsPlain) :
    (headTemplate distinct selects values).Drifts
      (driftOf (selects.flatMap SelectItem.verbatim)) := by
  have hkeyword : IsSilent (if distinct then "SELECT DISTINCT" else "SELECT") := by
    cases distinct <;> exact isSilent_of_inert (by decide)
  unfold selectHead at h
  unfold headTemplate
  cases selects with
  | nil => exact .single (hkeyword.append (isSilent_of_inert (by decide)))
  | cons item rest =>
    obtain ⟨⟨items, left⟩, hitems, -⟩ := Result.bind_eq_ok.1 h
    exact .text (hkeyword.append separates_blank.silent)
      ((driftEach_selects hitems hplain).intercalate separates_comma)

theorem isSilent_joinKeyword {kind : JoinKind} {keyword : String}
    (h : Dialect.mysql.joinKeyword kind = .ok keyword) : IsSilent keyword := by
  cases kind <;> cases h <;> exact isSilent_of_inert (by decide)

/-- The words of a join up to its further filters. -/
theorem isSilent_on {keyword table first second : String} (hkeyword : IsSilent keyword)
    (htable : IsSilent table) (hfirst : IsSilent first) (operator : Operator)
    (hsecond : IsSilent second) : IsSilent (keyword ++ " " ++ table ++ " ON " ++ first ++ " "
      ++ Dialect.mysql.operatorText operator ++ " " ++ second) := by
  have hon : IsSilent " ON " := isSilent_of_inert (by decide)
  have hleft := (((hkeyword.append separates_blank.silent).append htable).append hon).append hfirst
  exact (((hleft.append separates_blank.silent).append (isSilent_operator operator)).append
    separates_blank.silent).append hsecond

/-- The WHERE section, absent if there are no filters. -/
theorem driftEach_where {filters : List Filter} {k : Int}
    (h : (filterTemplate .mysql filters).Drifts k) (hnone : filters = [] → k = 0) :
    DriftEach (if filters.isEmpty then [] else [.text "WHERE " :: filterTemplate .mysql filters])
      k := by
  cases filters with
  | nil =>
    rw [hnone rfl]
    exact .nil
  | cons first rest => exact .one (.text (isSilent_of_inert (by decide)) h)

/-! ## Queries -/

mutual

theorem Condition.drifts : ∀ (c : Condition) {f : Fragment}, c.fragment .mysql = .ok f →
    (∀ x ∈ c.verbatim, x.IsPlain) → (c.template .mysql).Drifts (driftOf c.verbatim)
  | .raw s values, f, h, hplain => by
    rw [Condition.fragment] at h
    exact (drifts_raw h (hplain _ List.mem_cons_self)).congr (Int.add_zero _).symm
  | .compare column c v, f, h, hplain =>
    drifts_compared (isSilent_name (hplain _ List.mem_cons_self)) c v
  | .between column negated low high, f, h, hplain => by
    have hwords : IsSilent (if negated then " NOT BETWEEN " else " BETWEEN ") := by
      cases negated <;> exact isSilent_of_inert (by decide)
    have hand : Separates " AND " := separates_of_inert (by decide) (by decide)
    exact .text ((isSilent_name (hplain _ List.mem_cons_self)).append hwords)
      ((Follows.separated hand (.slot _)).after (.slot _))
  | .inValues column negated values, f, h, hplain => by
    have hwords : IsSilent (if negated then " NOT IN (" else " IN (") := by
      cases negated <;> exact isSilent_of_inert (by decide)
    exact drifts_enclosed ((isSilent_name (hplain _ List.mem_cons_self)).append hwords)
      (drifts_list values)
  | .inQuery column negated query, f, h, hplain => by
    rw [Condition.fragment] at h
    obtain ⟨sub, hsub, -⟩ := Result.bind_eq_ok.1 h
    have hwords : IsSilent (if negated then " NOT IN (" else " IN (") := by
      cases negated <;> exact isSilent_of_inert (by decide)
    rw [Condition.verbatim, List.forall_mem_cons] at hplain
    rw [Condition.verbatim, driftOf_cons]
    exact (drifts_enclosed ((isSilent_name hplain.1).append hwords)
      (query.drifts hsub hplain.2)).congr (Int.zero_add _).symm
  | .isNull column negated, f, h, hplain => by
    have hwords : IsSilent (if negated then " IS NOT NULL" else " IS NULL") := by
      cases negated <;> exact isSilent_of_inert (by decide)
    exact .single ((isSilent_name (hplain _ List.mem_cons_self)).append hwords)
  | .exists negated query, f, h, hplain => by
    rw [Condition.fragment] at h
    obtain ⟨sub, hsub, -⟩ := Result.bind_eq_ok.1 h
    have hwords : IsSilent (if negated then "NOT EXISTS (" else "EXISTS (") := by
      cases negated <;> exact isSilent_of_inert (by decide)
    rw [Condition.verbatim] at hplain ⊢
    exact drifts_enclosed hwords (query.drifts hsub hplain)
  | .group filters, f, h, hplain => by
    rw [Condition.fragment] at h
    obtain ⟨items, hitems, -⟩ := Result.bind_eq_ok.1 h
    rw [Condition.verbatim] at hplain ⊢
    exact drifts_enclosed (isSilent_of_inert (by decide)) (filters_drift filters hitems hplain).1
  | .columns first c second, f, h, hplain => by
    have hfirst := isSilent_name (hplain _ List.mem_cons_self)
    have hsecond := isSilent_name (hplain (.name second) (.tail _ List.mem_cons_self))
    exact .single ((((hfirst.append separates_blank.silent).append (isSilent_comparison c)).append
      separates_blank.silent).append hsecond)
  | .datePart column part c v, f, h, hplain => by
    have hpart : IsSilent part.text := by
      cases part <;> exact isSilent_of_inert (by decide)
    have hcolumn := isSilent_name (hplain _ List.mem_cons_self)
    have hleft : IsSilent (part.text ++ "(" ++ column ++ ")") :=
      ((hpart.append (isSilent_of_inert (by decide))).append hcolumn).append separates_close.silent
    exact drifts_compared hleft c v
  | .jsonContains column v, f, h, hplain => by
    have hcolumn := isSilent_name (hplain _ List.mem_cons_self)
    have hbefore : IsSilent ("JSON_CONTAINS(" ++ column ++ ", ") :=
      ((isSilent_of_inert (by decide)).append hcolumn).append separates_comma.silent
    exact drifts_around hbefore (.contained v)
  | .jsonLength column c v, f, h, hplain => by
    have hcolumn := isSilent_name (hplain _ List.mem_cons_self)
    have hleft : IsSilent ("JSON_LENGTH(" ++ column ++ ")") :=
      ((isSilent_of_inert (by decide)).append hcolumn).append separates_close.silent
    exact drifts_compared hleft c v
  | .jsonPath column path c v, f, h, hplain => by
    have hcolumn := isSilent_name (hplain _ List.mem_cons_self)
    have hopening : IsSilent ("JSON_UNQUOTE(JSON_EXTRACT(" ++ column ++ ", ") :=
      ((isSilent_of_inert (by decide)).append hcolumn).append separates_comma.silent
    have hpath : IsSilent (Dialect.mysqlPath path) := isSilent_sqlLiteral _
    have hclosing : IsSilent "))" := isSilent_of_inert (by decide)
    exact drifts_compared ((hopening.append hpath).append hclosing) c v
  | .fullText columns v, f, h, hplain => by
    have hcolumns := isSilent_intercalate separates_comma.silent (isSilent_names hplain)
    rw [Condition.verbatim, driftOf_names]
    have hbefore : IsSilent ("MATCH(" ++ ", ".intercalate columns ++ ") AGAINST(") :=
      ((isSilent_of_inert (by decide)).append hcolumns).append (isSilent_of_inert (by decide))
    exact drifts_around hbefore (.plain v)
  | .anyColumn columns c v matchAll negated, f, h, hplain => by
    have hword : Separates (if matchAll then " AND " else " OR ") := by
      cases matchAll <;> exact separates_of_inert (by decide) (by decide)
    have hwords : IsSilent (if negated then "NOT (" else "(") := by
      cases negated <;> exact isSilent_of_inert (by decide)
    have heach := driftEach_still fun column hcolumn =>
      drifts_compared (isSilent_names hplain column hcolumn) c v
    rw [Condition.verbatim, driftOf_names]
    exact drifts_enclosed hwords (heach.intercalate hword)

/-- Filters, first in a section and behind others. -/
theorem filters_drift : ∀ (filters : List Filter) {items : List (Connective × Fragment)},
    filterFragments .mysql filters = .ok items → (∀ x ∈ filterVerbatim filters, x.IsPlain) →
    (filterTemplate .mysql filters).Drifts (driftOf (filterVerbatim filters))
      ∧ (laterTemplate .mysql filters).Follows (driftOf (filterVerbatim filters))
  | [], _, _, _ => ⟨.nil, .nil⟩
  | ⟨connective, condition, unread⟩ :: rest, items, h, hplain => by
    rw [filterFragments] at h
    obtain ⟨first, hfirst, h⟩ := Result.bind_eq_ok.1 h
    obtain ⟨others, hothers, -⟩ := Result.bind_eq_ok.1 h
    rw [filterVerbatim, List.forall_mem_append] at hplain
    have hcondition := condition.drifts hfirst hplain.1
    have hlater := (filters_drift rest hothers hplain.2).2
    rw [filterTemplate, laterTemplate, filterVerbatim, driftOf_append]
    exact ⟨hlater.after hcondition,
      (Follows.separated (separates_connective connective) hcondition).append hlater⟩

theorem joins_drift : ∀ (joins : List Join) {fs : List Fragment},
    joinFragments .mysql joins = .ok fs → (∀ x ∈ joinVerbatim joins, x.IsPlain) →
    DriftEach (joinTemplates .mysql joins) (driftOf (joinVerbatim joins))
  | [], _, _, _ => .nil
  | ⟨kind, table, first, operator, second, filters⟩ :: rest, fs, h, hplain => by
    by_cases hk : kind = .cross
    · subst hk
      rw [joinFragments] at h
      obtain ⟨others, hothers, -⟩ := Result.bind_eq_ok.1 h
      rw [joinVerbatim, List.forall_mem_cons] at hplain
      rw [joinTemplates, joinVerbatim, driftOf_cons]
      exact .cons (.single ((isSilent_of_inert (by decide)).append (isSilent_name hplain.1)))
        (joins_drift rest hothers hplain.2)
    · rw [joinFragments_on hk] at h
      obtain ⟨keyword, hkeyword, h⟩ := Result.bind_eq_ok.1 h
      obtain ⟨extra, hextra, h⟩ := Result.bind_eq_ok.1 h
      obtain ⟨others, hothers, -⟩ := Result.bind_eq_ok.1 h
      rw [joinVerbatim_on hk, List.cons_append, List.cons_append, List.cons_append,
        List.forall_mem_cons, List.forall_mem_cons, List.forall_mem_cons,
        List.forall_mem_append] at hplain
      obtain ⟨htable, hfirst, hsecond, hfilters, hrest⟩ := hplain
      have hhead : Drifts (joinHead .mysql { kind, table, first, operator, second }) 0 := by
        unfold joinHead
        rw [hkeyword]
        exact .single (isSilent_on (isSilent_joinKeyword hkeyword) (isSilent_name htable)
          (isSilent_name hfirst) operator (isSilent_name hsecond))
      have hlater := (filters_drift filters hextra hfilters).2.after hhead
      rw [joinTemplates_on _ hk, joinVerbatim_on hk]
      refine (DriftEach.cons hlater (joins_drift rest hothers hrest)).congr ?_
      simp only [List.cons_append, driftOf_cons, driftOf_append, Verbatim.drift, Int.zero_add]

theorem branches_drift : ∀ (branches : List Branch) {fs : List Fragment},
    branchFragments .mysql branches = .ok fs → (∀ x ∈ branchVerbatim branches, x.IsPlain) →
    DriftEach (branchTemplates .mysql branches) (driftOf (branchVerbatim branches))
  | [], _, _, _ => .nil
  | ⟨query, all⟩ :: rest, fs, h, hplain => by
    rw [branchFragments] at h
    obtain ⟨sub, hsub, h⟩ := Result.bind_eq_ok.1 h
    obtain ⟨others, hothers, -⟩ := Result.bind_eq_ok.1 h
    rw [branchVerbatim, List.forall_mem_append] at hplain
    have hwords : IsSilent (if all then "UNION ALL (" else "UNION (") := by
      cases all <;> exact isSilent_of_inert (by decide)
    rw [branchTemplates, branchVerbatim, driftOf_append]
    exact .cons (drifts_enclosed hwords (query.drifts hsub hplain.1))
      (branches_drift rest hothers hplain.2)

theorem Query.drifts : ∀ (q : Query) {f : Fragment}, q.fragment .mysql = .ok f →
    (∀ x ∈ q.verbatim, x.IsPlain) → (q.template .mysql).Drifts (driftOf q.verbatim)
  | ⟨table, selects, distinct, filters, joins, groups, havings, orders, unions, limit, offset,
      lock, selectValues⟩, f, h, hplain => by
    obtain ⟨joined, hjoined, h⟩ := Result.bind_eq_ok.1 h
    obtain ⟨conditions, hconditions, h⟩ := Result.bind_eq_ok.1 h
    obtain ⟨grouped, hgrouped, h⟩ := Result.bind_eq_ok.1 h
    obtain ⟨branches, hbranches, h⟩ := Result.bind_eq_ok.1 h
    obtain ⟨tail, htail, h⟩ := Result.bind_eq_ok.1 h
    obtain ⟨head, hhead, -⟩ := Result.bind_eq_ok.1 h
    rw [Query.verbatim] at hplain ⊢
    simp only [List.forall_mem_append] at hplain
    obtain ⟨hselects, ⟨⟨⟨⟨⟨htable, hjoins⟩, hfilters⟩, hgroups⟩, hhavings⟩, hunions⟩, horders⟩ :=
      hplain
    have hwhere := driftEach_where (filters_drift filters hconditions hfilters).1
      (by rintro rfl; rfl)
    have source := (driftEach_source htable).append (joins_drift joins hjoined hjoins)
    have grouped := (source.append hwhere).append (driftEach_groups hgrouped hgroups hhavings)
    have joint := grouped.append (branches_drift unions hbranches hunions)
    have sections := joint.append (driftEach_tail htail horders)
    have whole := (sections.spaced separates_blank).after (drifts_head hhead hselects)
    rw [Query.template]
    simp only [List.append_assoc] at whole ⊢
    refine whole.congr ?_
    simp only [driftOf_append, driftOf_names]
    omega

end

/-- **How many markers a driver finds.** Where names have neither quotes nor question marks and raw
texts close their quotes, there is one marker for each value that is bound, and the drift of the
raw texts. So markers and values agree exactly if what the raw texts gain and lose cancels out, and
always if no raw text has two question marks in a row outside its quotes. -/
theorem Statement.markers_drift {q : Query} {s : Statement} (hs : Statement.select .mysql q = .ok s)
    (hplain : ∀ x ∈ q.verbatim, x.IsPlain) :
    (markerCount s.sql : Int) = s.bindings.length + driftOf q.verbatim
      ∧ ((∀ x ∈ q.verbatim, x.HasSingles) → markerCount s.sql = s.bindings.length) := by
  obtain ⟨f, hf, hs⟩ := Result.bind_eq_ok.1 hs
  cases hs
  have hwrites := q.writes hf
  have hlength := hwrites.length_numbers 0
  have hmarked : (Statement.ofFragment .mysql f).sql.toList = (q.template .mysql).marked := by
    rw [← Template.toList_fill_marked hlength, ← hwrites.shown]
    rfl
  have hslots : (q.template .mysql).slots.length = f.values.length := by
    rw [← hlength, (q.numbers_perm 0).length_eq, length_numbersFrom]
    exact hwrites.bound.length_eq
  have hdrifts := q.drifts hf hplain [] (fun h => nomatch h)
  have hcount := RawText.length_split (Statement.ofFragment .mysql f).sql
  rw [RawText.split, List.length_map, hmarked] at hcount
  rw [List.append_nil, hcount, hslots] at hdrifts
  have hmarkers : (markerCount (Statement.ofFragment .mysql f).sql : Int)
      = (Statement.ofFragment .mysql f).bindings.length + driftOf q.verbatim := by
    show _ = (f.values.length : Int) + _
    push_cast [segments, List.length_singleton] at hdrifts
    omega
  refine ⟨hmarkers, fun hsingles => ?_⟩
  have hnone : driftOf q.verbatim = 0 := by
    refine List.sum_eq_zero fun k hk => ?_
    obtain ⟨x, hx, rfl⟩ := List.mem_map.1 hk
    cases x with
    | name => rfl
    | raw raw => exact drift_of_singles (hsingles _ hx)
  rw [hnone] at hmarkers
  omega

/-- Rows with a question mark in a text, in the path of a JSON column and in a name. -/
def quotedMarks : Query where
  table := some "t"
  selects := [.raw "COALESCE(a, '?')" none]
  filters := [
    .of (.raw "note <> 'why?' AND n = ?" [.int 7]),
    .of (.jsonPath "data" "it's?" .eq (.int 1)),
    .of (.exists false {
      table := some "s"
      filters := [.of (.raw "\x60k?\x60 = ?" [.int 2])] })]

/-- Only the question marks outside quotes are markers. -/
theorem quotedMarks_marked : (∀ x ∈ quotedMarks.verbatim, x.IsPlain)
    ∧ ∃ s, Statement.select .mysql quotedMarks = .ok s
      ∧ s.sql = "SELECT COALESCE(a, '?') FROM t WHERE note <> 'why?' AND n = ?"
        ++ " AND JSON_UNQUOTE(JSON_EXTRACT(data, '$.it''s?')) = ?"
        ++ " AND EXISTS (SELECT * FROM s WHERE \x60k?\x60 = ?)"
      ∧ markerCount s.sql = s.bindings.length := by
  have hplain : ∀ x ∈ quotedMarks.verbatim, x.IsPlain := by decide +kernel
  have hsingles : ∀ x ∈ quotedMarks.verbatim, x.HasSingles := by decide +kernel
  have hsql : (Statement.select .mysql quotedMarks).toOption.map Statement.sql
      = some ("SELECT COALESCE(a, '?') FROM t WHERE note <> 'why?' AND n = ?"
        ++ " AND JSON_UNQUOTE(JSON_EXTRACT(data, '$.it''s?')) = ?"
        ++ " AND EXISTS (SELECT * FROM s WHERE \x60k?\x60 = ?)") := by
    decide +kernel
  obtain ⟨s, hs, hsql⟩ := Result.exists_of_map_eq_some hsql
  exact ⟨hplain, s, hs, hsql, (Statement.markers_drift hs hplain).2 hsingles⟩

/-- Raw text with a question mark of its own. -/
def pairedMarks : Query where
  table := some "t"
  filters := [.of (.raw "a ?? b" [])]

/-- It is shown as a marker without a value. -/
theorem pairedMarks_marked : (∀ x ∈ pairedMarks.verbatim, x.IsPlain)
    ∧ (Statement.select .mysql pairedMarks).toOption.map
        (fun s => (s.sql, s.bindings.length, markerCount s.sql))
      = some ("SELECT * FROM t WHERE a ? b", 0, 1) := by
  refine ⟨?_, ?_⟩ <;> decide +kernel

end SqlQuery
