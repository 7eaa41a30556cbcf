import SqlQuery.Proofs.BuilderEdits
import SqlQuery.Script.Methods

/-!
# Steps in parallel

Two steps are in parallel if they fail together, or add one filter each to the query of their
builder, and the filters are related. It is enough to look at what is made last: effects that come
before are the same for both (`Workspace.Parallel.bind`), and arguments are evaluated first
(`Step.parallel_of_perform`).
-/

namespace SqlQuery

open Effect

variable {α β γ : Type}

/-! ## Results in pairs -/

/-- Two results fail together, or their answers are related. -/
def Result.Paired (R : α → β → Prop) : Result α → Result β → Prop
  | .ok a, .ok b => R a b
  | .error _, .error _ => True
  | _, _ => False

namespace Result.Paired

variable {R : α → β → Prop}

/-- Two results that follow one. -/
theorem bind {f : γ → Result α} {g : γ → Result β} (h : ∀ c, Paired R (f c) (g c))
    (x : Result γ) : Paired R (x >>= f) (x >>= g) := by
  cases x with
  | error e => trivial
  | ok c => exact h c

theorem ite {P : Prop} [Decidable P] {x x' : Result α} {y y' : Result β}
    (hthen : P → Paired R x y) (helse : ¬P → Paired R x' y') :
    Paired R (if P then x else x') (if P then y else y') := by
  by_cases h : P
  · rw [if_pos h, if_pos h]
    exact hthen h
  · rw [if_neg h, if_neg h]
    exact helse h

theorem flip {S : β → α → Prop} {x : Result α} {y : Result β} (h : Paired R x y)
    (hflip : ∀ a b, R a b → S b a) : Paired S y x := by
  cases x <;> cases y
  · trivial
  · exact h
  · exact h
  · exact hflip _ _ h

end Result.Paired

/-! ## Steps that add filters -/

namespace Workspace

variable {id : BuilderId} {R : Filter → Filter → Prop} {x y : Work Unit}

/-- Wherever the first effect adds a filter to a builder's query, the second adds one there that is
related to it, and what the two leave is the same but for that filter. -/
def Follows (R : Filter → Filter → Prop) (id : BuilderId) (x y : Work Unit) : Prop :=
  ∀ w w₁, x.Returns w () w₁ → ∃ (v : Workspace) (q : Query) (f g : Filter),
    v.queryAt id = some q ∧ w₁ = v.withQuery id (q.addFilter f)
      ∧ y.Returns w () (v.withQuery id (q.addFilter g)) ∧ R f g

/-- Two effects fail together, or add one filter each, and the filters are related. -/
structure Parallel (R : Filter → Filter → Prop) (id : BuilderId) (x y : Work Unit) : Prop where
  forth : Follows R id x y
  back : Follows (fun g f => R f g) id y x

/-- After one effect, whatever it answers. -/
theorem Follows.bind {f g : α → Work Unit} (h : ∀ a, Follows R id (f a) (g a)) (before : Work α) :
    Follows R id (before >>= f) (before >>= g) := by
  intro w w₁ hw₁
  obtain ⟨a, u, ha, hf⟩ := returns_bind.1 hw₁
  obtain ⟨v, q, f, g, hq, hw₁, hg, hR⟩ := h a u w₁ hf
  exact ⟨v, q, f, g, hq, hw₁, returns_bind.2 ⟨a, u, ha, hg⟩, hR⟩

theorem Follows.edit {f g : Result Filter} (h : Result.Paired R f g) :
    Follows R id (Workspace.edit id [Edit.addFilter f])
      (Workspace.edit id [Edit.addFilter g]) := by
  intro w w₁ hw₁
  obtain ⟨q, f', hq, rfl, rfl⟩ := returns_addFilter.1 hw₁
  cases g with
  | error e => cases h
  | ok g' => exact ⟨w, q, f', g', hq, rfl, returns_addFilter.2 ⟨q, g', hq, rfl, rfl⟩, h⟩

namespace Parallel

theorem bind {f g : α → Work Unit} (h : ∀ a, Parallel R id (f a) (g a)) (before : Work α) :
    Parallel R id (before >>= f) (before >>= g) where
  forth := .bind (fun a => (h a).forth) before
  back := .bind (fun a => (h a).back) before

theorem edit {f g : Result Filter} (h : Result.Paired R f g) :
    Parallel R id (Workspace.edit id [Edit.addFilter f])
      (Workspace.edit id [Edit.addFilter g]) where
  forth := .edit h
  back := .edit (h.flip fun _ _ hR => hR)

/-- Of edits that are made of what surrounds a builder. -/
theorem edits {f g : Result Filter} (h : Result.Paired R f g) :
    Parallel R id
      (surroundings id >>= fun _ => liftM (.ok [Edit.addFilter f] : Result (List Edit))
        >>= Workspace.edit id)
      (surroundings id >>= fun _ => liftM (.ok [Edit.addFilter g] : Result (List Edit))
        >>= Workspace.edit id) :=
  bind (fun _ => edit h) (surroundings id)

end Parallel

/-! ## Arguments -/

section Arguments

variable {run : RunStep}

/-- An argument that may be left out. -/
def evalOption (run : RunStep) : Option Term → Work (Option Argument)
  | none => return none
  | some t => some <$> eval run t

theorem evalArgs_cons_bind (t : Option Term) (ts : List (Option Term))
    (k : List (Option Argument) → Work α) :
    evalArgs run (t :: ts) >>= k
      = evalOption run t >>= fun a => evalArgs run ts >>= fun as => k (a :: as) := by
  cases t <;> simp [evalArgs, evalOption]

theorem evalArgs_nil_bind (k : List (Option Argument) → Work α) :
    evalArgs run [] >>= k = k [] := by
  simp [evalArgs]

theorem evalOption_some_bind (t : Term) (k : Option Argument → Work α) :
    evalOption run (some t) >>= k = eval run t >>= fun a => k (some a) := by
  simp [evalOption]

theorem eval_text_bind (s : String) (k : Argument → Work α) :
    eval run (.value (.text s)) >>= k = k (.text s) := by
  simp [eval]

theorem eval_connective_bind (c : Connective) (k : Argument → Work α) :
    eval run (connectiveTerm c) >>= k = k (Verb.joinedBy c) := by
  simp [eval, connectiveTerm]
  rfl

theorem eval_bool_bind (b : Bool) (k : Argument → Work α) :
    eval run (boolTerm b) >>= k = k (Verb.flag b) := by
  simp [eval, boolTerm]
  rfl

end Arguments

end Workspace

/-! ## Steps in pairs -/

/-- Two steps, whatever they are run on, fail together or add one filter each, and the filters are
related. -/
structure Step.Parallel (R : Filter → Filter → Prop) (s s' : Step) : Prop where
  size : s'.size = s.size
  step : ∀ fuel id, Workspace.Parallel R id (Workspace.step fuel id s) (Workspace.step fuel id s')

namespace Step

open Workspace

variable {R : Filter → Filter → Prop} {verb verb' : Verb} {args args' : List (Option Term)}

/-- Steps of one size are given the same fuel. -/
theorem Parallel.run {s s' : Step} (h : Step.Parallel R s s') (id : BuilderId) :
    Workspace.Parallel R id (Workspace.run id s) (Workspace.run id s') := by
  unfold Workspace.run
  rw [h.size]
  exact .bind (fun w => h.step (fuelFor w s.size) id) _

/-- What counts is what the verbs do with the arguments. -/
theorem parallel_of_perform (hsize : sizeOfArgs args' = sizeOfArgs args)
    (h : ∀ run id, Workspace.Parallel R id (evalArgs run args >>= perform run id verb)
      (evalArgs run args' >>= perform run id verb')) :
    Step.Parallel R (.mk verb args) (.mk verb' args') where
  size := congrArg (· + 1) hsize
  step := by
    intro fuel id
    cases fuel with
    | zero => exact ⟨nofun, nofun⟩
    | succ fuel => exact h (Workspace.step fuel) id

end Step

end SqlQuery
