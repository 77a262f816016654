import Mathlib.Data.Nat.Notation
import Mathlib.Tactic.TypeStar

/-! # Runs of a machine with inputs and outputs

A machine is a step function `step : σ → ι → σ × ο`. A run feeds it a sequence
of inputs; `stateAt` is the state before iteration `n` (counted from 0) and
`outputAt` what that iteration returns. The three rules below package the
induction over a run: an invariant, a projection of one run onto another, and a
state that some of the steps overwrite. Over a list of inputs, `stateAfter` and
`outputs` are what the whole list makes of a state; there the projection may drop
inputs that change nothing, and related states stay related. -/
namespace PicoDrone.Library.Run

variable {σ ι ο : Type*}

/-- The state after the first `n` inputs. -/
def stateAt (step : σ → ι → σ × ο) (s : σ) (ins : ℕ → ι) : ℕ → σ
  | 0 => s
  | n + 1 => (step (stateAt step s ins n) (ins n)).1

/-- The output of iteration `n`. -/
def outputAt (step : σ → ι → σ × ο) (s : σ) (ins : ℕ → ι) (n : ℕ) : ο :=
  (step (stateAt step s ins n) (ins n)).2

variable {step : σ → ι → σ × ο} {s : σ} {ins : ℕ → ι}

theorem stateAt_succ (n : ℕ) :
    stateAt step s ins (n + 1) = (step (stateAt step s ins n) (ins n)).1 := rfl

/-- **Invariant rule.** The property may mention the number of inputs read. -/
theorem stateAt_inv {P : ℕ → σ → Prop} (h0 : P 0 s)
    (hstep : ∀ n s, P n s → P (n + 1) (step s (ins n)).1) (n : ℕ) :
    P n (stateAt step s ins n) := by
  induction n with
  | zero => exact h0
  | succ n ih => exact hstep n _ ih

/-- **Projection rule.** If `f` maps every step the run takes to a step of
another machine, on inputs that may depend on the run, it maps the run to a run. -/
theorem stateAt_proj {σ' ι' ο' : Type*} {step' : σ' → ι' → σ' × ο'} {ins' : ℕ → ι'}
    (f : σ → σ')
    (hstep : ∀ n, f (step (stateAt step s ins n) (ins n)).1 =
      (step' (f (stateAt step s ins n)) (ins' n)).1) (n : ℕ) :
    f (stateAt step s ins n) = stateAt step' (f s) ins' n := by
  induction n with
  | zero => rfl
  | succ n ih => rw [stateAt_succ, stateAt_succ, hstep n, ih]

/-- **Overwriting rule.** If some of the steps set the state and the others leave
it alone, a run ends in what the last of the former set. -/
theorem stateAt_overwrite {c : ℕ → Option σ} {n : ℕ}
    (hstep : ∀ i < n, ∀ s, (step s (ins i)).1 = (c i).getD s) :
    stateAt step s ins n = ((List.range n).filterMap c).getLast?.getD s := by
  induction n with
  | zero => rfl
  | succ n ih =>
    have hprev := ih fun i hi => hstep i (Nat.lt_succ_of_lt hi)
    rw [stateAt_succ, hstep n (Nat.lt_succ_self n), List.range_succ, List.filterMap_append]
    cases hc : c n with
    | none => simpa [hc] using hprev
    | some v => simp [hc]

/-! ## Lists of inputs -/

def stateAfter (step : σ → ι → σ × ο) : σ → List ι → σ
  | s, [] => s
  | s, i :: l => stateAfter step (step s i).1 l

def outputs (step : σ → ι → σ × ο) : σ → List ι → List ο
  | _, [] => []
  | s, i :: l => (step s i).2 :: outputs step (step s i).1 l

theorem stateAfter_append (s : σ) (l l' : List ι) :
    stateAfter step s (l ++ l') = stateAfter step (stateAfter step s l) l' := by
  induction l generalizing s with
  | nil => rfl
  | cons i l ih => exact ih _

theorem stateAfter_concat (s : σ) (l : List ι) (i : ι) :
    stateAfter step s (l ++ [i]) = (step (stateAfter step s l) i).1 :=
  stateAfter_append s l [i]

theorem outputs_append (s : σ) (l l' : List ι) :
    outputs step s (l ++ l') = outputs step s l ++ outputs step (stateAfter step s l) l' := by
  induction l generalizing s with
  | nil => rfl
  | cons i l ih => exact congrArg _ (ih _)

theorem stateAfter_inv {P : σ → Prop} (h0 : P s) (hstep : ∀ s i, P s → P (step s i).1)
    (l : List ι) : P (stateAfter step s l) := by
  induction l generalizing s with
  | nil => exact h0
  | cons i l ih => exact ih (hstep s i h0)

/-- **History rule.** The property may mention what has been put out so far. -/
theorem stateAfter_history {P : List ο → σ → Prop} (h0 : P [] s)
    (hstep : ∀ out s i, P out s → P (out ++ [(step s i).2]) (step s i).1) (l : List ι) :
    P (outputs step s l) (stateAfter step s l) := by
  have hgen : ∀ out s, P out s → P (out ++ outputs step s l) (stateAfter step s l) := by
    induction l with
    | nil =>
      intro out s h
      rwa [outputs, List.append_nil]
    | cons i l ih =>
      intro out s h
      rw [outputs, List.append_cons]
      exact ih _ _ (hstep out s i h)
  exact hgen [] s h0

/-- **Stuttering projection rule.** If `f` maps every step to a step of another
machine or to no step at all, it maps the run on a list to the run on the inputs
that are left. -/
theorem stateAfter_proj {σ' ι' ο' : Type*} {step' : σ' → ι' → σ' × ο'} (f : σ → σ')
    (g : ι → Option ι') (hnone : ∀ s i, g i = none → f (step s i).1 = f s)
    (hsome : ∀ s i j, g i = some j → f (step s i).1 = (step' (f s) j).1) (s : σ) (l : List ι) :
    f (stateAfter step s l) = stateAfter step' (f s) (l.filterMap g) := by
  induction l generalizing s with
  | nil => rfl
  | cons i l ih =>
    rw [stateAfter, ih]
    cases hi : g i with
    | none => rw [List.filterMap_cons_none hi, hnone s i hi]
    | some j => rw [List.filterMap_cons_some hi, hsome s i j hi, stateAfter]

/-- **Bisimulation rule.** Related states that answer every input alike and stay
related answer every list alike. -/
theorem stateAfter_bisim {R : σ → σ → Prop}
    (hstep : ∀ s t i, R s t → (step s i).2 = (step t i).2 ∧ R (step s i).1 (step t i).1)
    {s t : σ} (h : R s t) (l : List ι) :
    outputs step s l = outputs step t l ∧ R (stateAfter step s l) (stateAfter step t l) := by
  induction l generalizing s t with
  | nil => exact ⟨rfl, h⟩
  | cons i l ih =>
    obtain ⟨hout, hnext⟩ := hstep s t i h
    obtain ⟨houts, hend⟩ := ih hnext
    exact ⟨by rw [outputs, outputs, hout, houts], hend⟩

/-- **Erasing rule.** If the inputs that are not kept put out nothing visible and
do not leave the relation, the run without them puts out what is visible of the
run with them. -/
theorem stateAfter_erase {R : σ → σ → Prop} {keep : ι → Bool} {vis : ο → Bool}
    (hkeep : ∀ s t i, R s t → keep i = true →
      ((step s i).2 = (step t i).2 ∧ vis (step s i).2 = true) ∧ R (step s i).1 (step t i).1)
    (hdrop : ∀ s t i, R s t → keep i = false → vis (step s i).2 = false ∧ R (step s i).1 t)
    {s t : σ} (h : R s t) (l : List ι) :
    (outputs step s l).filter vis = outputs step t (l.filter keep) ∧
      R (stateAfter step s l) (stateAfter step t (l.filter keep)) := by
  induction l generalizing s t with
  | nil => exact ⟨rfl, h⟩
  | cons i l ih =>
    cases hi : keep i with
    | true =>
      obtain ⟨⟨hout, hvis⟩, hnext⟩ := hkeep s t i h hi
      obtain ⟨houts, hend⟩ := ih hnext
      rw [List.filter_cons_of_pos hi, outputs, outputs, List.filter_cons_of_pos hvis, houts, hout]
      exact ⟨rfl, hend⟩
    | false =>
      obtain ⟨hvis, hnext⟩ := hdrop s t i h hi
      obtain ⟨houts, hend⟩ := ih hnext
      rw [List.filter_cons_of_neg (by simp [hi]), outputs,
        List.filter_cons_of_neg (by simp [hvis])]
      exact ⟨houts, hend⟩

end PicoDrone.Library.Run
