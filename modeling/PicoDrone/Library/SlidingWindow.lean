import Mathlib.Algebra.BigOperators.Intervals
import Mathlib.Data.List.DropRight
import Mathlib.Data.List.Intervals
import PicoDrone.Library.Run

/-! # Sliding windows over a sequence

A `Window α k` is a queue that never holds more than `k` elements, oldest
first: pushing onto a full one drops the oldest. Fed `u 0, …, u (n - 1)` it
holds `recent k u n`, the last `min k n` terms. `pad u` is `u` delayed by one
step with a zero in front, so that sums over the window need no case for the
phase in which it is still filling. -/
namespace PicoDrone.Library.SlidingWindow

/-- A first-in first-out queue of at most `k` elements. -/
structure Window (α : Type*) (k : ℕ) where
  elems : List α
  le_cap : elems.length ≤ k

variable {α : Type*} {k : ℕ}

def Window.empty : Window α k := ⟨[], Nat.zero_le k⟩

/-- Drop the oldest element if the window is full, then append `a`. -/
def Window.push (w : Window α (k + 1)) (a : α) : Window α (k + 1) :=
  ⟨if k + 1 ≤ w.elems.length then w.elems.tail ++ [a] else w.elems ++ [a], by
    have := w.le_cap
    split <;> simp <;> omega⟩

/-- The window after `u 0, …, u (n - 1)`. -/
def Window.pushes (u : ℕ → α) : ℕ → Window α (k + 1) :=
  Run.stateAt (fun w a => (w.push a, ())) Window.empty u

/-- The last `min k n` of the first `n` terms of `u`, oldest first. -/
def recent (k : ℕ) (u : ℕ → α) (n : ℕ) : List α := (List.Ico (n - k) n).map u

theorem recent_length (k : ℕ) (u : ℕ → α) (n : ℕ) : (recent k u n).length = min k n := by
  simp only [recent, List.length_map, List.Ico.length]
  omega

theorem recent_succ_of_lt {n : ℕ} (u : ℕ → α) (h : n < k + 1) :
    recent (k + 1) u (n + 1) = recent (k + 1) u n ++ [u n] := by
  simp only [recent]
  rw [show n + 1 - (k + 1) = n - (k + 1) by omega, List.Ico.succ_top (by omega), List.map_append,
    List.map_singleton]

theorem recent_succ_of_le {n : ℕ} (u : ℕ → α) (h : k + 1 ≤ n) :
    recent (k + 1) u (n + 1) = (recent (k + 1) u n).tail ++ [u n] := by
  simp only [recent]
  rw [List.Ico.eq_cons (show n - (k + 1) < n by omega), List.map_cons, List.tail_cons,
    show n + 1 - (k + 1) = n - (k + 1) + 1 by omega, List.Ico.succ_top (by omega),
    List.map_append, List.map_singleton]

/-- **A window holds the most recent terms.** -/
theorem Window.pushes_elems (u : ℕ → α) (n : ℕ) :
    (Window.pushes (k := k) u n).elems = recent (k + 1) u n := by
  refine Run.stateAt_inv (P := fun n (w : Window α (k + 1)) => w.elems = recent (k + 1) u n) ?_ ?_ n
  · simp [recent, Window.empty]
  · intro n w hw
    have hlen : w.elems.length = min (k + 1) n := by rw [hw, recent_length]
    simp only [Window.push]
    by_cases hn : n < k + 1
    · rw [if_neg (by omega), recent_succ_of_lt u hn, hw]
    · rw [if_pos (by omega), recent_succ_of_le u (by omega), hw]

/-- Every term has either left the window or is in it. -/
theorem sum_range_eq_add_recent {M : Type*} [AddCommMonoid M] (k : ℕ) (u : ℕ → M) (n : ℕ) :
    ∑ i ∈ Finset.range n, u i = ∑ i ∈ Finset.range (n - k), u i + (recent k u n).sum :=
  (Finset.sum_range_add_sum_Ico u (Nat.sub_le n k)).symm

/-! ## Windows that have been filled -/

/-- The window after the elements of a list, from any window. -/
def Window.pushAll (w : Window α (k + 1)) (l : List α) : Window α (k + 1) :=
  Run.stateAfter (fun w a => (w.push a, ())) w l

theorem Window.pushAll_concat (w : Window α (k + 1)) (l : List α) (a : α) :
    w.pushAll (l ++ [a]) = (w.pushAll l).push a :=
  Run.stateAfter_concat w l a

theorem Window.push_elems (w : Window α (k + 1)) (a : α) :
    (w.push a).elems = (w.elems ++ [a]).rtake (k + 1) := by
  have hle := w.le_cap
  rw [List.rtake_concat_succ, List.rtake]
  by_cases hfull : k + 1 ≤ w.elems.length
  · have hdrop : w.elems.length - k = 1 := by omega
    simp only [Window.push, if_pos hfull, hdrop, List.drop_one]
  · have hdrop : w.elems.length - k = 0 := by omega
    simp only [Window.push, if_neg hfull, hdrop, List.drop_zero]

theorem rtake_rtake (l : List α) {m n : ℕ} (h : m ≤ n) : (l.rtake n).rtake m = l.rtake m := by
  rw [List.rtake, List.rtake, List.rtake, List.drop_drop, List.length_drop]
  congr 1
  omega

/-- **A window only knows its last elements**, those it started with included. -/
theorem Window.pushAll_elems (w : Window α (k + 1)) (l : List α) :
    (w.pushAll l).elems = (w.elems ++ l).rtake (k + 1) := by
  induction l using List.reverseRecOn with
  | nil =>
    have hle := w.le_cap
    have hdrop : w.elems.length - (k + 1) = 0 := by omega
    rw [List.append_nil, List.rtake, hdrop]
    rfl
  | append_singleton l a ih =>
    rw [Window.pushAll_concat, Window.push_elems, ih, List.rtake_concat_succ,
      rtake_rtake _ (Nat.le_succ k), ← List.append_assoc, List.rtake_concat_succ]

theorem rtake_append_of_le {l l' : List α} {n : ℕ} (h : n ≤ l'.length) :
    (l ++ l').rtake n = l'.rtake n := by
  have hlen : l.length + l'.length - n = l.length + (l'.length - n) := by omega
  rw [List.rtake, List.rtake, List.length_append, hlen, List.drop_length_add_append]

theorem map_rtake {β : Type*} (f : α → β) (l : List α) (n : ℕ) :
    (l.map f).rtake n = (l.rtake n).map f := by
  rw [List.rtake, List.rtake, List.length_map, List.map_drop]

/-- The two newest elements are in every window of two or more. -/
theorem forall_rtake_newest {β : Type*} {P : β → Prop} {f : α → β} {l : List α} {a : α} {d : β}
    {n : ℕ} (hd : P d) (h : ∀ x ∈ (l ++ [a]).rtake (n + 2), P (f x)) :
    P (f a) ∧ P ((l.map f).getLastD d) := by
  rw [List.rtake_concat_succ] at h
  refine ⟨h a (by simp), ?_⟩
  rcases List.eq_nil_or_concat' l with rfl | ⟨l, b, rfl⟩
  · exact hd
  · have hb : P (f b) := h b (by simp [List.rtake_concat_succ])
    simpa using hb

/-! ## Padded sequences -/

variable [AddCommMonoid α]

/-- `u` delayed by one step: `pad u (n + 1) = u n`, and `pad u 0 = 0`. -/
def pad (u : ℕ → α) : ℕ → α
  | 0 => 0
  | n + 1 => u n

@[simp] theorem pad_zero (u : ℕ → α) : pad u 0 = 0 := rfl

@[simp] theorem pad_succ (u : ℕ → α) (n : ℕ) : pad u (n + 1) = u n := rfl

/-- The window in the numbering that starts at 1. -/
theorem recent_eq_pad (k : ℕ) (u : ℕ → α) (n : ℕ) :
    recent k u n = (List.Ico (max 1 (n + 1 - k)) (n + 1)).map (pad u) := by
  by_cases hk : k = 0
  · subst hk
    simp [recent]
  · rw [recent, show max 1 (n + 1 - k) = n - k + 1 by omega, ← List.Ico.map_add (n - k) n 1,
      List.map_map]
    exact List.map_congr_left fun i _ => by rw [Function.comp_apply, Nat.add_comm 1 i, pad_succ]

/-- The sum of the window, read from the newest term back. -/
theorem sum_recent (k : ℕ) (u : ℕ → α) (n : ℕ) :
    (recent k u n).sum = ∑ j ∈ Finset.range k, pad u (n - j) := by
  induction k with
  | zero => simp [recent]
  | succ k ih =>
    rw [Finset.sum_range_succ, ← ih]
    by_cases hk : k < n
    · have hcons : recent (k + 1) u n = u (n - (k + 1)) :: recent k u n := by
        simp only [recent]
        rw [List.Ico.eq_cons (show n - (k + 1) < n by omega), List.map_cons,
          show n - (k + 1) + 1 = n - k by omega]
      have hpad : pad u (n - k) = u (n - (k + 1)) := by
        rw [show n - k = n - (k + 1) + 1 by omega, pad_succ]
      rw [hcons, List.sum_cons, hpad, add_comm]
    · rw [show n - k = 0 by omega, pad_zero, add_zero, recent, recent,
        show n - (k + 1) = n - k by omega]

/-- The same sum over the indices `max 1 (n + 1 - k), …, n`. -/
theorem sum_pad_eq_sum_Icc (k : ℕ) (u : ℕ → α) (n : ℕ) :
    ∑ j ∈ Finset.range k, pad u (n - j) =
      ∑ i ∈ Finset.Icc (max 1 (n + 1 - k)) n, pad u i := by
  rw [← sum_recent, recent_eq_pad]
  rfl

/-- The first `n` terms in the numbering that starts at 1. -/
theorem sum_range_eq_sum_Icc (u : ℕ → α) (n : ℕ) :
    ∑ i ∈ Finset.range n, u i = ∑ i ∈ Finset.Icc 1 n, pad u i := by
  induction n with
  | zero => simp
  | succ n ih => rw [Finset.sum_range_succ, Finset.sum_Icc_succ_top (by omega), ih, pad_succ]

end PicoDrone.Library.SlidingWindow
