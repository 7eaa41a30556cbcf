import SqlQuery.Proofs.Layout
import SqlQuery.Proofs.Results

/-!
# Fragments write templates

`Fragment.Writes` ties a fragment to a template, its operands and its numbers: the fragment renders
as the filled template whatever placeholders look like, its values are the operands as they are
bound, and each slot of the template has the number of an operand that is the slot's own.

There is one lemma for each way to build a fragment, and one for each way to build a list of them,
so that the clauses of a statement are put together without looking at a number again.
-/

namespace SqlQuery

/-- The operand of number `n`, where the operands are numbered from `start + 1`. -/
def Numbered (start : Nat) (operands : List Operand) (n : Nat) (o : Operand) : Prop :=
  ∃ i, n = start + i + 1 ∧ operands[i]? = some o

namespace Numbered

variable {start n : Nat} {os ps : List Operand} {o : Operand}

theorem append_right (h : Numbered start os n o) : Numbered start (os ++ ps) n o := by
  obtain ⟨i, hn, ho⟩ := h
  refine ⟨i, hn, ?_⟩
  obtain ⟨hi, -⟩ := List.getElem?_eq_some_iff.1 ho
  rw [List.getElem?_append_left hi, ho]

theorem append_left (h : Numbered (start + os.length) ps n o) : Numbered start (os ++ ps) n o := by
  obtain ⟨i, hn, ho⟩ := h
  refine ⟨os.length + i, by omega, ?_⟩
  rw [List.getElem?_append_right (Nat.le_add_right ..), Nat.add_sub_cancel_left, ho]

end Numbered

/-- A fragment writes a template with these operands and these numbers, if it follows any number of
values. -/
structure Fragment.Writes (d : Dialect) (f : Fragment) (t : Template) (operands : List Operand)
    (numbers : Nat → List Nat) : Prop where
  shown : ∀ placeholder start, f.render placeholder start = t.fill placeholder (numbers start)
  bound : List.Forall₂ (fun o v => o.bound d = .ok v) operands f.values
  placed : ∀ start, List.Forall₂ (Numbered start operands) (numbers start) t.slots

/-- A fragment without statements inside it: its numbers follow one another. -/
abbrev Fragment.WritesRun (d : Dialect) (f : Fragment) (t : Template) (operands : List Operand) :
    Prop :=
  f.Writes d t operands fun start => numbersFrom start operands

/-- Fragments write templates one by one, and bind and number their operands in this order. -/
inductive WritesEach (d : Dialect) :
    List Fragment → List Template → List Operand → (Nat → List Nat) → Prop
  | nil : WritesEach d [] [] [] fun _ => []
  | cons {f : Fragment} {fs : List Fragment} {t : Template} {ts : List Template}
      {os ps : List Operand} {ns ms : Nat → List Nat} (first : f.Writes d t os ns)
      (rest : WritesEach d fs ts ps ms) :
      WritesEach d (f :: fs) (t :: ts) (os ++ ps) fun start => ns start ++ ms (start + os.length)

theorem numbersFrom_append (start : Nat) (os ps : List Operand) :
    numbersFrom start (os ++ ps)
      = numbersFrom start os ++ numbersFrom (start + os.length) ps := by
  unfold numbersFrom
  rw [List.length_append, ← List.range'_append_1, Nat.add_right_comm]

namespace Fragment.Writes

variable {d : Dialect} {f g : Fragment} {t u : Template} {os ps : List Operand}
  {ns ms : Nat → List Nat}

theorem congr (h : f.Writes d t os ns) (hos : os = ps) (hns : ∀ start, ns start = ms start) :
    f.Writes d t ps ms := by
  have e : ns = ms := funext hns
  rw [← hos, ← e]
  exact h

theorem size_eq (h : f.Writes d t os ns) : f.size = os.length := by
  rw [← length_values]
  exact h.bound.length_eq.symm

theorem length_numbers (h : f.Writes d t os ns) (start : Nat) :
    (ns start).length = t.slots.length :=
  (h.placed start).length_eq

/-! ## One lemma for each fragment -/

theorem nothing : (Fragment.text "").Writes d [] [] fun _ => [] :=
  ⟨fun _ _ => rfl, .nil, fun _ => .nil⟩

theorem text (s : String) : (Fragment.text s).Writes d [.text s] [] fun _ => [] :=
  ⟨fun _ _ => String.append_empty.symm, .nil, fun _ => .nil⟩

theorem slot {o : Operand} {v : Value} (h : o.bound d = .ok v) :
    (Fragment.slot v).WritesRun d [.slot o] [o] :=
  ⟨fun _ _ => String.append_empty.symm, .cons h .nil, fun _ => .cons ⟨0, rfl, rfl⟩ .nil⟩

theorem append (hf : f.Writes d t os ns) (hg : g.Writes d u ps ms) :
    (f ++ g).Writes d (t ++ u) (os ++ ps) fun start => ns start ++ ms (start + os.length) where
  shown p start := by
    show f.render p start ++ g.render p (start + f.size) = _
    rw [Template.fill_append p (hf.length_numbers start), hf.shown, hg.shown, hf.size_eq]
  bound := List.rel_append hf.bound hg.bound
  placed start := by
    rw [Template.slots_append]
    exact List.rel_append ((hf.placed start).imp fun _ _ h => h.append_right)
      ((hg.placed (start + os.length)).imp fun _ _ h => h.append_left)

/-- The head is shown first and numbered last. -/
theorem headed (hf : f.Writes d t os ns) (hg : g.Writes d u ps ms) :
    (Fragment.headed f g).Writes d (t ++ u) (ps ++ os)
      fun start => ns (start + ps.length) ++ ms start where
  shown p start := by
    show f.render p (start + g.size) ++ g.render p start = _
    rw [Template.fill_append p (hf.length_numbers _), hf.shown, hg.shown, hg.size_eq]
  bound := List.rel_append hg.bound hf.bound
  placed start := by
    rw [Template.slots_append]
    exact List.rel_append ((hf.placed (start + ps.length)).imp fun _ _ h => h.append_left)
      ((hg.placed start).imp fun _ _ h => h.append_right)

/-- Text before and after a fragment shows and binds no values. -/
theorem enclosed (before after : String) (h : f.Writes d t os ns) :
    (Fragment.text before ++ f ++ Fragment.text after).Writes d
      (.text before :: t ++ [.text after]) os ns :=
  (((Writes.text before).append h).append (.text after)).congr (List.append_nil _) fun _ =>
    List.append_nil _

/-- Two runs one after the other are a run. -/
theorem appendRun (hf : f.WritesRun d t os) (hg : g.WritesRun d u ps) :
    (f ++ g).WritesRun d (t ++ u) (os ++ ps) :=
  (hf.append hg).congr rfl fun start => (numbersFrom_append start os ps).symm

end Fragment.Writes

namespace WritesEach

variable {d : Dialect} {fs gs : List Fragment} {ts us : List Template} {os ps : List Operand}
  {ns ms : Nat → List Nat}

theorem congr (h : WritesEach d fs ts os ns) (hos : os = ps)
    (hns : ∀ start, ns start = ms start) : WritesEach d fs ts ps ms := by
  have e : ns = ms := funext hns
  rw [← hos, ← e]
  exact h

theorem single {f : Fragment} {t : Template} (h : f.Writes d t os ns) :
    WritesEach d [f] [t] os ns :=
  (WritesEach.cons h .nil).congr (List.append_nil os) fun _ => List.append_nil _

theorem append (h : WritesEach d fs ts os ns) (h' : WritesEach d gs us ps ms) :
    WritesEach d (fs ++ gs) (ts ++ us) (os ++ ps)
      fun start => ns start ++ ms (start + os.length) := by
  induction h with
  | nil => exact h'.congr rfl fun _ => rfl
  | cons first rest ih =>
    refine (WritesEach.cons first ih).congr (List.append_assoc ..).symm fun start => ?_
    rw [List.append_assoc, List.length_append, Nat.add_assoc]

/-- Items that each write a run, one after the other. -/
theorem ofRuns {α : Type} {T : α → Template} {O : α → List Operand} {xs : List α}
    (h : List.Forall₂ (fun x f => Fragment.WritesRun d f (T x) (O x)) xs fs) :
    WritesEach d fs (xs.map T) (xs.flatMap O) fun start => numbersFrom start (xs.flatMap O) := by
  induction h with
  | nil => exact .nil
  | cons first _ ih =>
    exact (WritesEach.cons first ih).congr rfl fun start => (numbersFrom_append start _ _).symm

/-- Items that each bind one value, one after the other. -/
theorem ofSlots {α : Type} {F : α → Fragment} {T : α → Template} {o : α → Operand} (xs : List α)
    (h : ∀ x ∈ xs, (F x).WritesRun d (T x) [o x]) :
    WritesEach d (xs.map F) (xs.map T) (xs.map o) fun start => numbersFrom start (xs.map o) := by
  have each : List.Forall₂ (fun x f => Fragment.WritesRun d f (T x) [o x]) xs (xs.map F) := by
    rw [List.forall₂_map_right_iff]
    exact List.forall₂_same.2 h
  have run := ofRuns each
  rw [← List.map_eq_flatMap] at run
  exact run

/-- Fragments with a text between any two write templates with that text between any two. -/
theorem intercalate (separator : String) (h : WritesEach d fs ts os ns) :
    (Fragment.intercalate separator fs).Writes d ([Piece.text separator].intercalate ts) os ns := by
  induction h with
  | nil => exact .nothing
  | cons first rest ih =>
    cases rest with
    | nil =>
      rw [List.intercalate_singleton]
      exact first.congr (List.append_nil _).symm fun _ => (List.append_nil _).symm
    | cons second rest =>
      rw [List.intercalate_cons_cons]
      exact ((first.append (.text separator)).append ih).congr
        (by rw [List.append_nil]) fun start => by rw [List.append_nil, List.append_nil]

/-- Fragments with a blank before each write templates with a blank before each. -/
theorem spaced (h : WritesEach d fs ts os ns) :
    (fs.foldr (fun part rest => Fragment.text " " ++ part ++ rest) (Fragment.text "")).Writes d
      (ts.flatMap fun t => Piece.text " " :: t) os ns := by
  induction h with
  | nil => exact .nothing
  | cons first _ ih =>
    exact (((Fragment.Writes.text " ").append first).append ih).congr rfl fun _ => rfl

end WritesEach

end SqlQuery
