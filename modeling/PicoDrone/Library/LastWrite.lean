import Mathlib.Logic.Function.Basic
import Mathlib.Tactic.TypeStar

/-! # Cells and their last writes

A list of writes, first to last, leaves in each cell the value last written to
it. Users that name the cells through an injective map see the cells as if they
were their own. -/
namespace PicoDrone.Library.LastWrite

variable {A β : Type*} [DecidableEq A]

/-- The cells after several writes, first to last. -/
def writeAll (m : A → β) : List (A × β) → A → β
  | [] => m
  | w :: ws => writeAll (Function.update m w.1 w.2) ws

/-- The value last written to `a`. -/
def lastWrite (a : A) : List (A × β) → Option β
  | [] => none
  | w :: ws => (lastWrite a ws).or (if a = w.1 then some w.2 else none)

theorem writeAll_apply (m : A → β) (ws : List (A × β)) (a : A) :
    writeAll m ws a = (lastWrite a ws).getD (m a) := by
  induction ws generalizing m with
  | nil => rfl
  | cons w ws ih =>
    rw [writeAll, ih, lastWrite]
    cases lastWrite a ws with
    | some v => rfl
    | none =>
      by_cases h : a = w.1
      · subst h
        simp
      · simp [h]

theorem lastWrite_mem {a : A} {v : β} {ws : List (A × β)} (h : lastWrite a ws = some v) :
    (a, v) ∈ ws := by
  induction ws with
  | nil => cases h
  | cons w ws ih =>
    rcases Option.or_eq_some_iff.mp h with hws | ⟨-, hw⟩
    · exact List.mem_cons_of_mem w (ih hws)
    · obtain ⟨rfl, rfl⟩ : a = w.1 ∧ w.2 = v := by simpa using hw
      exact List.mem_cons_self

theorem lastWrite_eq_none {a : A} {ws : List (A × β)} :
    lastWrite a ws = none ↔ ∀ w ∈ ws, a ≠ w.1 := by
  induction ws with
  | nil => simp [lastWrite]
  | cons w ws ih => simp [lastWrite, ih, and_comm]

/-- A cell that no write names keeps its value. -/
theorem writeAll_of_forall_ne {m : A → β} {a : A} {ws : List (A × β)} (h : ∀ w ∈ ws, a ≠ w.1) :
    writeAll m ws a = m a := by
  rw [writeAll_apply, lastWrite_eq_none.mpr h]
  rfl

/-- Cells that are only ever set to `v`. -/
theorem writeAll_const {ι : Type*} {m : A → β} {v : β} {f : ι → A} {is : List ι} {i : ι}
    (hi : i ∈ is) : writeAll m (is.map fun i => (f i, v)) (f i) = v := by
  rw [writeAll_apply]
  cases h : lastWrite (f i) (is.map fun i => (f i, v)) with
  | none => exact absurd rfl (lastWrite_eq_none.mp h _ (List.mem_map_of_mem hi))
  | some u =>
    obtain ⟨j, -, hj⟩ := List.mem_map.mp (lastWrite_mem h)
    exact (congrArg Prod.snd hj).symm

/-- Renaming the cells keeps the last write to each, as long as no two of them become one. -/
theorem lastWrite_map {ι : Type*} [DecidableEq ι] {f : ι → A} (hf : Function.Injective f) (i : ι)
    (ws : List (ι × β)) : lastWrite (f i) (ws.map fun w => (f w.1, w.2)) = lastWrite i ws := by
  induction ws with
  | nil => rfl
  | cons w ws ih => simp only [List.map_cons, lastWrite, ih, hf.eq_iff]

end PicoDrone.Library.LastWrite
