import SqlQuery.Error
import Mathlib.Data.List.Forall2

/-!
# Results that succeeded

A computation of several steps succeeds only if each step does. These lemmas take a success apart
into the successes of its steps, so that no proof has to unfold the monad. Where the answers do not
matter, `Succeeds` says only that there is one.
-/

namespace SqlQuery.Result

variable {α β : Type}

theorem bind_eq_ok {x : Result α} {f : α → Result β} {b : β} :
    x >>= f = .ok b ↔ ∃ a, x = .ok a ∧ f a = .ok b := by
  cases x with
  | error e => exact ⟨fun h => (nomatch h), fun ⟨_, h, _⟩ => (nomatch h)⟩
  | ok a =>
    constructor
    · intro h; exact ⟨a, rfl, h⟩
    · rintro ⟨_, h, hf⟩; cases h; exact hf

theorem pure_eq_ok {a b : α} : (pure a : Result α) = .ok b ↔ a = b := by
  constructor
  · intro h; cases h; rfl
  · intro h; rw [h]; rfl

theorem map_eq_ok {x : Result α} {f : α → β} {b : β} :
    x.map f = .ok b ↔ ∃ a, x = .ok a ∧ f a = b := by
  cases x with
  | error e => exact ⟨fun h => (nomatch h), fun ⟨_, h, _⟩ => (nomatch h)⟩
  | ok a =>
    constructor
    · intro h; cases h; exact ⟨a, rfl, rfl⟩
    · rintro ⟨_, h, rfl⟩; cases h; rfl

/-- What is known of the answer of a computation that was run. -/
theorem exists_of_map_eq_some {x : Result α} {f : α → β} {b : β}
    (h : x.toOption.map f = some b) : ∃ a, x = .ok a ∧ f a = b := by
  cases x with
  | error e => cases h
  | ok a => exact ⟨a, rfl, Option.some.inj h⟩

theorem reject_ne_ok {cause : Malformed} {b : β} : (reject cause : Result β) ≠ .ok b :=
  fun h => nomatch h

/-- The answers of a list of steps belong to the steps, one to one. -/
theorem forall₂_of_mapM {f : α → Result β} {xs : List α} {ys : List β}
    (h : xs.mapM f = .ok ys) : List.Forall₂ (fun x y => f x = .ok y) xs ys := by
  induction xs generalizing ys with
  | nil =>
    rw [List.mapM_nil, pure_eq_ok] at h
    rw [← h]
    exact .nil
  | cons x xs ih =>
    rw [List.mapM_cons, bind_eq_ok] at h
    obtain ⟨y, hy, h⟩ := h
    rw [bind_eq_ok] at h
    obtain ⟨rest, hrest, h⟩ := h
    rw [pure_eq_ok] at h
    rw [← h]
    exact .cons hy (ih hrest)

end SqlQuery.Result

namespace SqlQuery

/-- The values of a list of optional ones belong to them, one to one. -/
theorem forall₂_of_mapM_some {α β : Type} {f : α → Option β} {xs : List α} {ys : List β}
    (h : xs.mapM f = some ys) : List.Forall₂ (fun x y => f x = some y) xs ys := by
  induction xs generalizing ys with
  | nil =>
    cases h
    exact .nil
  | cons x xs ih =>
    rw [List.mapM_cons] at h
    obtain ⟨y, hy, h⟩ := Option.bind_eq_some_iff.1 h
    obtain ⟨rest, hrest, h⟩ := Option.bind_eq_some_iff.1 h
    cases h
    exact .cons hy (ih hrest)

/-! ## Whether a computation succeeds -/

/-- A computation gives an answer. -/
def Succeeds {ε α : Type} (x : Except ε α) : Prop :=
  ∃ a, x = .ok a

namespace Succeeds

variable {ε α β : Type} {x : Except ε α} {f : α → Except ε β} {P : Prop}

theorem ok (a : α) : Succeeds (.ok a : Except ε α) :=
  ⟨a, rfl⟩

theorem not_error (e : ε) : ¬Succeeds (.error e : Except ε α) := by
  rintro ⟨a, h⟩
  cases h

/-- Of two steps the second may succeed whatever the first answers. -/
theorem bind_iff (h : ∀ a, Succeeds (f a) ↔ P) : Succeeds (x >>= f) ↔ Succeeds x ∧ P := by
  cases x with
  | error e =>
    constructor
    · intro hf
      exact absurd hf (not_error e)
    · intro hx
      exact absurd hx.1 (not_error e)
  | ok a =>
    constructor
    · intro hf
      exact ⟨ok a, (h a).1 hf⟩
    · intro hP
      exact (h a).2 hP.2

/-- A step whose answer is only put in place. -/
theorem bind_pure_iff {g : α → β} : Succeeds (x >>= fun a => pure (g a)) ↔ Succeeds x := by
  have each (a : α) : Succeeds (pure (g a) : Except ε β) ↔ True := iff_true_intro (ok (g a))
  rw [bind_iff each, and_true]

theorem map_iff {g : α → β} : Succeeds (x.map g) ↔ Succeeds x := by
  cases x with
  | error e => exact ⟨fun h => absurd h (not_error e), fun h => absurd h (not_error e)⟩
  | ok a => exact ⟨fun _ => ok a, fun _ => ok (g a)⟩

/-- All steps of a list have to succeed. -/
theorem mapM_iff {xs : List α} : Succeeds (xs.mapM f) ↔ ∀ x ∈ xs, Succeeds (f x) := by
  induction xs with
  | nil => exact ⟨fun _ _ hx => (nomatch hx), fun _ => ok []⟩
  | cons x xs ih =>
    rw [List.mapM_cons, List.forall_mem_cons, ← ih]
    exact bind_iff fun _ => bind_pure_iff

end Succeeds

end SqlQuery
