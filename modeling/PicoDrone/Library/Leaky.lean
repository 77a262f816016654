import Mathlib.Algebra.Order.Ring.Abs
import Mathlib.Tactic.Linarith
import Mathlib.Tactic.Ring

/-! # First-order recursions

`leaky a x u` starts at `x` and goes from each value to `a` times it plus the
next input. Two runs on the same inputs differ by a power of `a` times the
difference of their starts, whatever the inputs; for `a` between 0 and 1 a bound
on start and inputs holds for ever, and a sign of theirs is kept. -/
namespace PicoDrone.Library.Leaky

section Linear

variable {K : Type*} [CommRing K]

/-- The value after the first `n` inputs. -/
def leaky (a x : K) (u : ℕ → K) : ℕ → K
  | 0 => x
  | n + 1 => a * leaky a x u n + u n

theorem leaky_zero (a x : K) (u : ℕ → K) : leaky a x u 0 = x := rfl

theorem leaky_succ (a x : K) (u : ℕ → K) (n : ℕ) :
    leaky a x u (n + 1) = a * leaky a x u n + u n := rfl

theorem leaky_neg (a x : K) (u : ℕ → K) (n : ℕ) :
    leaky a (-x) (fun i => -u i) n = -leaky a x u n := by
  induction n with
  | zero => rfl
  | succ n ih => rw [leaky_succ, leaky_succ, ih]; ring

/-- **The start is forgotten at the rate of the recursion.** -/
theorem leaky_sub (a x y : K) (u : ℕ → K) (n : ℕ) :
    leaky a x u n - leaky a y u n = a ^ n * (x - y) := by
  induction n with
  | zero => rw [leaky_zero, leaky_zero, pow_zero, one_mul]
  | succ n ih =>
    calc leaky a x u (n + 1) - leaky a y u (n + 1) = a * (leaky a x u n - leaky a y u n) := by
          rw [leaky_succ, leaky_succ]; ring
      _ = a ^ (n + 1) * (x - y) := by rw [ih, pow_succ]; ring

/-- Runs whose inputs agree from some time on forget the difference they have then. -/
theorem leaky_sub_of_agree {a x y : K} {u v : ℕ → K} {N : ℕ} (h : ∀ i, N ≤ i → u i = v i)
    (n : ℕ) : leaky a x u (N + n) - leaky a y v (N + n) =
      a ^ n * (leaky a x u N - leaky a y v N) := by
  induction n with
  | zero => rw [Nat.add_zero, pow_zero, one_mul]
  | succ n ih =>
    have hin : u (N + n) = v (N + n) := h _ (Nat.le_add_right N n)
    calc leaky a x u (N + (n + 1)) - leaky a y v (N + (n + 1))
        = a * (leaky a x u (N + n) - leaky a y v (N + n)) := by
          rw [← Nat.add_assoc, leaky_succ, leaky_succ, hin]; ring
      _ = a ^ (n + 1) * (leaky a x u N - leaky a y v N) := by rw [ih, pow_succ]; ring

/-- Runs from one start differ by the run of the differences of their inputs. -/
theorem leaky_sub_inputs (a x : K) (u v : ℕ → K) (n : ℕ) :
    leaky a x u n - leaky a x v n = leaky a 0 (fun i => u i - v i) n := by
  induction n with
  | zero => exact sub_self x
  | succ n ih => rw [leaky_succ, leaky_succ, leaky_succ, ← ih]; ring

end Linear

section Ordered

variable {K : Type*} [CommRing K] [LinearOrder K] [IsStrictOrderedRing K]

/-- **A bound that feeds itself.** Inputs within `1 - a` of a bound on the start
keep every value within the bound. -/
theorem abs_leaky_le {a x B : K} {u : ℕ → K} {n : ℕ} (ha : 0 ≤ a) (hx : |x| ≤ B)
    (hu : ∀ i < n, |u i| ≤ (1 - a) * B) : |leaky a x u n| ≤ B := by
  induction n with
  | zero => exact hx
  | succ n ih =>
    have hprev : |leaky a x u n| ≤ B := ih fun i hi => hu i (Nat.lt_succ_of_lt hi)
    have hnew : |u n| ≤ (1 - a) * B := hu n (Nat.lt_succ_self n)
    have hmul : |a * leaky a x u n| ≤ a * B := by
      rw [abs_mul, abs_of_nonneg ha]
      exact mul_le_mul_of_nonneg_left hprev ha
    have htri := abs_add_le (a * leaky a x u n) (u n)
    rw [leaky_succ]
    linarith

theorem leaky_nonneg {a : K} {u : ℕ → K} {n : ℕ} (ha : 0 ≤ a) (hu : ∀ i < n, 0 ≤ u i) :
    0 ≤ leaky a 0 u n := by
  induction n with
  | zero => exact le_refl 0
  | succ n ih =>
    have hprev := ih fun i hi => hu i (Nat.lt_succ_of_lt hi)
    rw [leaky_succ]
    exact add_nonneg (mul_nonneg ha hprev) (hu n (Nat.lt_succ_self n))

/-- From zero and with inputs that are not negative, the value is positive as
soon as one input was. -/
theorem leaky_pos_iff {a : K} {u : ℕ → K} {n : ℕ} (ha : 0 < a) (hu : ∀ i < n, 0 ≤ u i) :
    0 < leaky a 0 u n ↔ ∃ i < n, 0 < u i := by
  induction n with
  | zero => simp [leaky_zero]
  | succ n ih =>
    have hold : ∀ i < n, 0 ≤ u i := fun i hi => hu i (Nat.lt_succ_of_lt hi)
    have hprev : 0 ≤ a * leaky a 0 u n := mul_nonneg ha.le (leaky_nonneg ha.le hold)
    have hnew : 0 ≤ u n := hu n (Nat.lt_succ_self n)
    rw [leaky_succ, Nat.exists_lt_succ_right, ← ih hold]
    constructor
    · intro h
      rcases hnew.lt_or_eq with hpos | hzero
      · exact .inr hpos
      · rw [← hzero, add_zero] at h
        exact .inl (pos_of_mul_pos_right h ha.le)
    · rintro (h | h)
      · exact add_pos_of_pos_of_nonneg (mul_pos ha h) hnew
      · exact add_pos_of_nonneg_of_pos hprev h

end Ordered

end PicoDrone.Library.Leaky
