import Mathlib.Algebra.BigOperators.Group.Finset.Basic
import Mathlib.Tactic.Ring

/-! # Clocks that wrap

A counter of `w` bits shows the true time modulo `2 ^ w`, and the difference of
two of its readings, in the arithmetic of the counter, the time between them
modulo `2 ^ w`. Summed over consecutive readings, the differences miss
`2 ^ w` for every full turn inside a gap and nothing else; where the readings
themselves wrap does not matter. -/
namespace PicoDrone.Library.WrappingClock

/-- What a counter of `w` bits shows at true time `t`. -/
def reading (w t : ℕ) : BitVec w := BitVec.ofNat w t

theorem toNat_reading_sub (w : ℕ) {a b : ℕ} (h : a ≤ b) :
    (reading w b - reading w a).toNat = (b - a) % 2 ^ w := by
  obtain ⟨d, rfl⟩ := Nat.exists_eq_add_of_le h
  have hsub : reading w (a + d) - reading w a = BitVec.ofNat w d := by
    rw [reading, reading, BitVec.ofNat_add, BitVec.add_comm, BitVec.add_sub_cancel]
  rw [hsub, BitVec.toNat_ofNat, Nat.add_sub_cancel_left]

/-- The sum of the differences of the first `n + 1` readings. -/
def elapsed (w : ℕ) (t : ℕ → ℕ) (n : ℕ) : ℕ :=
  ∑ i ∈ Finset.range n, (reading w (t (i + 1)) - reading w (t i)).toNat

/-- The full turns of the counter inside the gaps between these readings. -/
def turns (w : ℕ) (t : ℕ → ℕ) (n : ℕ) : ℕ :=
  ∑ i ∈ Finset.range n, (t (i + 1) - t i) / 2 ^ w

/-- **No time is counted twice, and only full turns are lost.** -/
theorem elapsed_add_turns {w : ℕ} {t : ℕ → ℕ} {n : ℕ} (ht : ∀ i < n, t i ≤ t (i + 1)) :
    elapsed w t n + 2 ^ w * turns w t n + t 0 = t n := by
  induction n with
  | zero => simp [elapsed, turns]
  | succ n ih =>
    have hle : t n ≤ t (n + 1) := ht n (Nat.lt_succ_self n)
    have hgap : (t (n + 1) - t n) % 2 ^ w + 2 ^ w * ((t (n + 1) - t n) / 2 ^ w) =
        t (n + 1) - t n := Nat.mod_add_div _ _
    have hprev := ih fun i hi => ht i (Nat.lt_succ_of_lt hi)
    calc elapsed w t (n + 1) + 2 ^ w * turns w t (n + 1) + t 0
        = elapsed w t n + 2 ^ w * turns w t n + t 0 +
            ((t (n + 1) - t n) % 2 ^ w + 2 ^ w * ((t (n + 1) - t n) / 2 ^ w)) := by
          rw [elapsed, turns, Finset.sum_range_succ, Finset.sum_range_succ,
            toNat_reading_sub w hle, elapsed, turns]
          ring
      _ = t (n + 1) := by rw [hprev, hgap, Nat.add_sub_cancel' hle]

theorem turns_eq_zero {w : ℕ} {t : ℕ → ℕ} {n : ℕ} (h : ∀ i < n, t (i + 1) - t i < 2 ^ w) :
    turns w t n = 0 :=
  Finset.sum_eq_zero fun i hi => Nat.div_eq_of_lt (h i (Finset.mem_range.mp hi))

end PicoDrone.Library.WrappingClock
