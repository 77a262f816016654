import Mathlib.Tactic.TypeStar

/-! # Programs that leave a trace

`Traced ε α` is a result of type `α` with the events that led to it, first to
last. What is asked of every event, and what a fold makes of a state, goes
through sequencing (`all_bind`, `fold_bind`) and into the branch that is taken. -/
namespace PicoDrone.Library.Trace

structure Traced (ε α : Type*) where
  events : List ε
  result : α

namespace Traced

universe u

variable {ε σ : Type*} {α β : Type u}

/-- One event, with the result it yields. -/
@[reducible] def log (e : ε) (a : α) : Traced ε α := ⟨[e], a⟩

instance : Monad (Traced ε) where
  pure a := ⟨[], a⟩
  bind x f := ⟨x.events ++ (f x.result).events, (f x.result).result⟩

@[simp] theorem log_result (e : ε) (a : α) : (log e a).result = a := rfl

/-! ## What every event satisfies -/

def All (P : ε → Prop) (x : Traced ε α) : Prop := ∀ e ∈ x.events, P e

variable {P : ε → Prop}

@[simp] theorem all_pure (a : α) : (pure a : Traced ε α).All P := fun _ h => nomatch h

@[simp] theorem all_log (e : ε) (a : α) : (log e a).All P ↔ P e := by
  simp [All]

@[simp] theorem all_bind (x : Traced ε α) (f : α → Traced ε β) :
    (x >>= f).All P ↔ x.All P ∧ (f x.result).All P :=
  List.forall_mem_append

@[simp] theorem all_ite (c : Prop) [Decidable c] (x y : Traced ε α) :
    (if c then x else y).All P ↔ if c then x.All P else y.All P := by
  split <;> rfl

/-! ## What the events make of a state -/

def fold (f : σ → ε → σ) (s : σ) (x : Traced ε α) : σ := x.events.foldl f s

variable {f : σ → ε → σ} {s : σ}

@[simp] theorem fold_pure (a : α) : (pure a : Traced ε α).fold f s = s := rfl

@[simp] theorem fold_log (e : ε) (a : α) : (log e a).fold f s = f s e := rfl

@[simp] theorem fold_bind (x : Traced ε α) (g : α → Traced ε β) :
    (x >>= g).fold f s = (g x.result).fold f (x.fold f s) :=
  List.foldl_append

@[simp] theorem fold_ite (c : Prop) [Decidable c] (x y : Traced ε α) :
    (if c then x else y).fold f s = if c then x.fold f s else y.fold f s := by
  split <;> rfl

end Traced

end PicoDrone.Library.Trace
