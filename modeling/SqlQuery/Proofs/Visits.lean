import SqlQuery.Execution.Operation
import SqlQuery.Proofs.CachedWrites

/-!
# Visits

A run reads rows and hands them to a visitor. What it does with the executor between two reads, and
what it answers, is told by an effect on the executor alone (`Run.Does`): the visitor is handed
values until it wants no more (`Visitor.visitAll`).
-/

namespace SqlQuery

open Effect

/-! ## Runs that do the same with the executor -/

section Does

variable {σ α β : Type}

/-- In a world a run does with the executor what an effect does, and answers the same. -/
def Run.Does (x : Run σ α) (y : Effect σ α) (w : World σ) : Prop :=
  ∃ w', x.run.run w = ((y.run.run w.outside).1, w') ∧ w.Leaves (y.run.run w.outside).2 w'

namespace Run.Does

variable {x : Run σ α} {y : Effect σ α} {w : World σ}

theorem of_pure (a : α) : Run.Does (pure a) (pure a) w :=
  ⟨w, rfl, rfl, rfl, rfl⟩

theorem of_throw (err : Error) : Run.Does (throw err : Run σ α) (throw err) w :=
  ⟨w, rfl, rfl, rfl, rfl⟩

theorem outside (y : Effect σ α) : Run.Does (Run.outside y) y w :=
  ⟨{ w with outside := (y.run.run w.outside).2 }, rfl, rfl, rfl, rfl⟩

theorem bind {f : α → Run σ β} {g : α → Effect σ β} (hx : Run.Does x y w)
    (hf : ∀ a w', w'.cache = w.cache → w'.limiter = w.limiter → Run.Does (f a) (g a) w') :
    Run.Does (x >>= f) (y >>= g) w := by
  obtain ⟨w', hrun, hleaves⟩ := hx
  obtain ⟨err, s, hy, hbind⟩ | ⟨a, s, hy, hbind⟩ := run_bind y g w.outside
  · rw [hy] at hrun hleaves
    obtain ⟨err', t, hx, hbind'⟩ | ⟨a, t, hx, -⟩ := run_bind x f w
    · rw [hrun] at hx
      cases hx
      exact ⟨w', by rw [hbind', hbind], by rw [hbind]; exact hleaves⟩
    · unfold Effect.Returns at hx
      rw [hrun] at hx
      cases hx
  · unfold Effect.Returns at hy
    rw [hy] at hrun hleaves
    obtain ⟨w'', hrest, hleft⟩ := hf a w' hleaves.cache hleaves.limiter
    have hx : x.Returns w a w' := hrun
    rw [hleaves.outside] at hrest hleft
    refine ⟨w'', ?_, ?_⟩
    · rw [hx.run_bind, hrest, hbind]
    · rw [hbind]
      exact ⟨hleft.outside, hleft.cache.trans hleaves.cache, hleft.limiter.trans hleaves.limiter⟩

/-- A step that leaves the executor as it is makes no difference. -/
theorem after {f : α → Run σ β} {z : Effect σ β} {a : α} {w' : World σ} (hx : x.Returns w a w')
    (hleaves : w.Leaves w.outside w') (hf : Run.Does (f a) z w') : Run.Does (x >>= f) z w := by
  obtain ⟨w'', hrest, hleft⟩ := hf
  rw [hleaves.outside] at hrest hleft
  refine ⟨w'', by rw [hx.run_bind, hrest], hleft.outside, ?_, ?_⟩
  · exact hleft.cache.trans hleaves.cache
  · exact hleft.limiter.trans hleaves.limiter

end Run.Does

/-! ## Visits -/

namespace Visitor

variable (visitor : Visitor σ)

/-- Whether the visitor wants more, as the executor's state alone is concerned. -/
def wants (v : Value) : Effect σ Bool := do
  match ← visitor v with
  | .bool false => return false
  | _ => return true

/-- Hands values to the visitor until it wants no more. If it never does, `ended` is the answer. -/
def visitAll (ended : Result Bool) : List Value → Effect σ Bool
  | [] => ofResult ended
  | v :: vs => do if ← visitor.wants v then visitAll ended vs else return false

theorem visitAll_append (ended : Result Bool) (vs ws : List Value) :
    visitor.visitAll ended (vs ++ ws) = do
      if ← visitor.visitAll (.ok true) vs then visitor.visitAll ended ws else return false := by
  induction vs with
  | nil => rfl
  | cons v vs ih =>
    rw [List.cons_append, visitAll, visitAll, ih, bind_assoc]
    congr 1
    funext more
    cases more <;> rfl

variable {w : World σ}

theorem does_wantsMore (v : Value) : Run.Does (visitor.wantsMore v) (visitor.wants v) w := by
  refine (Run.Does.outside _).bind fun answer w' _ _ => ?_
  cases answer with
  | bool more => cases more <;> exact .of_pure _
  | _ => exact .of_pure _

theorem does_visitRows (rows : List Row) :
    Run.Does (Batches.visitRows visitor.row rows)
      (visitor.visitAll (.ok true) (rows.map .mapping)) w := by
  induction rows generalizing w with
  | nil => exact .of_pure _
  | cons row rows ih =>
    refine (visitor.does_wantsMore (.mapping row)).bind fun more w' _ _ => ?_
    cases more with
    | false => exact .of_pure _
    | true => exact ih

theorem does_batch (rows : List Row) :
    Run.Does (visitor.batch rows) (visitor.visitAll (.ok true) [.list (rows.map .mapping)]) w := by
  have hone : visitor.visitAll (.ok true) [.list (rows.map .mapping)]
      = visitor.wants (.list (rows.map .mapping)) := by
    have hanswer : (fun more => if more = true then visitor.visitAll (.ok true) [] else pure false)
        = (pure : Bool → Effect σ Bool) := by
      funext more
      cases more <;> rfl
    rw [visitAll, hanswer, bind_pure]
  rw [hone]
  exact visitor.does_wantsMore _

end Visitor

end Does

end SqlQuery
