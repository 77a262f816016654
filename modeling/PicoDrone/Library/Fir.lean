import Mathlib.Algebra.Order.BigOperators.Ring.Finset
import Mathlib.Tactic.Ring
import PicoDrone.Library.SlidingWindow

/-! # Finite impulse response filters

`fir w k u n` weighs the last `k` samples of `u` up to sample `n`, the newest
with `w 0`; samples before the first count as zero. Such a filter is linear,
is bounded by the sum of its absolute weights, is monotone if none of them is
negative, and forgets a geometrically decaying input at the input's own rate. -/
namespace PicoDrone.Library.Fir
open SlidingWindow

section Linear

variable {K : Type*} [CommRing K]

/-- The response at sample `n` of the filter with weights `w 0, …, w (k - 1)`. -/
def fir (w : ℕ → K) (k : ℕ) (u : ℕ → K) (n : ℕ) : K :=
  ∑ j ∈ Finset.range k, w j * pad u (n + 1 - j)

theorem pad_neg (u : ℕ → K) (n : ℕ) : pad (fun i => -u i) n = -pad u n := by
  cases n <;> simp

theorem pad_sub (u v : ℕ → K) (n : ℕ) : pad (fun i => u i - v i) n = pad u n - pad v n := by
  cases n <;> simp

theorem fir_neg (w : ℕ → K) (k : ℕ) (u : ℕ → K) (n : ℕ) :
    fir w k (fun i => -u i) n = -fir w k u n := by
  simp only [fir, pad_neg, mul_neg, Finset.sum_neg_distrib]

theorem fir_sub (w : ℕ → K) (k : ℕ) (u v : ℕ → K) (n : ℕ) :
    fir w k (fun i => u i - v i) n = fir w k u n - fir w k v n := by
  simp only [fir, pad_sub, mul_sub, Finset.sum_sub_distrib]

end Linear

section Ordered

variable {K : Type*} [CommRing K] [LinearOrder K] [IsStrictOrderedRing K]

theorem abs_pad_le {u : ℕ → K} {n : ℕ} {A : K} (hA : 0 ≤ A) (h : ∀ i < n, |u i| ≤ A) :
    |pad u n| ≤ A := by
  cases n with
  | zero => simpa using hA
  | succ n => exact h n (Nat.lt_succ_self n)

theorem abs_fir_le_of_pad {w : ℕ → K} {k : ℕ} {u : ℕ → K} {n : ℕ} {A : K}
    (h : ∀ j < k, |pad u (n + 1 - j)| ≤ A) :
    |fir w k u n| ≤ (∑ j ∈ Finset.range k, |w j|) * A := by
  calc |fir w k u n| ≤ ∑ j ∈ Finset.range k, |w j * pad u (n + 1 - j)| :=
        Finset.abs_sum_le_sum_abs _ _
    _ ≤ ∑ j ∈ Finset.range k, |w j| * A := by
        refine Finset.sum_le_sum fun j hj => ?_
        rw [abs_mul]
        exact mul_le_mul_of_nonneg_left (h j (Finset.mem_range.mp hj)) (abs_nonneg _)
    _ = (∑ j ∈ Finset.range k, |w j|) * A := (Finset.sum_mul _ _ _).symm

/-- **Bounded input, bounded output**, with no dependence on the length of the run. -/
theorem abs_fir_le {w : ℕ → K} {k : ℕ} {u : ℕ → K} {n : ℕ} {A : K}
    (h : ∀ i ≤ n, |u i| ≤ A) : |fir w k u n| ≤ (∑ j ∈ Finset.range k, |w j|) * A :=
  have hA : 0 ≤ A := (abs_nonneg _).trans (h 0 (Nat.zero_le n))
  abs_fir_le_of_pad fun _ _ => abs_pad_le hA fun i hi => h i (by omega)

/-- **Monotonicity.** A filter without negative weights keeps the order of its inputs. -/
theorem fir_mono {w : ℕ → K} {k : ℕ} {u v : ℕ → K} {n : ℕ} (hw : ∀ j, 0 ≤ w j)
    (h : ∀ i ≤ n, u i ≤ v i) : fir w k u n ≤ fir w k v n := by
  refine Finset.sum_le_sum fun j _ => mul_le_mul_of_nonneg_left ?_ (hw j)
  cases hj : n + 1 - j with
  | zero => rfl
  | succ i => exact h i (by omega)

/-- **Forgetting.** On an input that decays like `r ^ i` the response decays at
the same rate, delayed by the length of the window. -/
theorem abs_fir_le_geometric {w : ℕ → K} {k : ℕ} {u : ℕ → K} {n : ℕ} {r D : K}
    (hr0 : 0 ≤ r) (hr1 : r ≤ 1) (hD : 0 ≤ D) (hk : k ≤ n + 1)
    (h : ∀ i ≤ n, |u i| ≤ D * r ^ (i + 1)) :
    |fir w k u n| ≤ (∑ j ∈ Finset.range k, |w j|) * (D * r ^ (n + 2 - k)) := by
  refine abs_fir_le_of_pad fun j hj => ?_
  rw [show n + 1 - j = n - j + 1 by omega, pad_succ]
  calc |u (n - j)| ≤ D * r ^ (n - j + 1) := h _ (by omega)
    _ ≤ D * r ^ (n + 2 - k) :=
        mul_le_mul_of_nonneg_left (pow_le_pow_of_le_one hr0 hr1 (by omega)) hD

end Ordered

end PicoDrone.Library.Fir
