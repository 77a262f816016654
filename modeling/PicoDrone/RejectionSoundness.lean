import Mathlib.Analysis.SpecialFunctions.Trigonometric.Arctan
import PicoDrone.CommandSoundness
import PicoDrone.Library.ExtendedField

/-! # Angles that are not finite

The guard tests the angles after they have gone into the filter, and tests them
for the two infinities only. With finite samples the filter keeps the kind of
what it started with, so an infinity is rejected for ever, NaN is never rejected,
and the guard works for finite starts only, when it has nothing to do
(`rejection_protects_iff`). -/
namespace PicoDrone.RejectionSoundness
open Firmware.Pwm Firmware.Control Firmware.Mpu Library.Run Library.ExtendedField
open Library.ExtendedField.Extended CommandSoundness

/-- The inputs of a run with finite time steps. -/
structure Corrida (K : Type*) where
  muestra : ℕ → Muestra
  dt : ℕ → K
  rawValue : ℕ → UInt16
  conv : ℕ → Motor → Extended K → UInt16

def Corrida.entrada {K : Type*} (c : Corrida K) (n : ℕ) : EntradaBucle (Extended K) :=
  { muestra := c.muestra n, dt := fin (c.dt n), rawValue := c.rawValue n,
    num := { isinf := isInf, aUint16 := c.conv n } }

/-- What the loop relies on in `math.h`: finite results for finite arguments. -/
structure Finita {K : Type*} [Zero K] [LE K] (lib : Libm (Extended K)) : Prop where
  sqrt : ∀ x : K, 0 ≤ x → (lib.sqrt (fin x)).kind = .finite
  atan : ∀ x : K, (lib.atan (fin x)).kind = .finite

variable {K : Type*} [Field K] [LinearOrder K] [IsStrictOrderedRing K]

/-! ## One iteration -/

theorem anguloAccel_finite {lib : Libm (Extended K)} (hlib : Finita lib) (num d1 d2 : ℤ) :
    (anguloAccel lib num d1 d2).kind = .finite := by
  have hnonneg : (0 : K) ≤ (d1 : K) * d1 + (d2 : K) * d2 :=
    add_nonneg (mul_self_nonneg _) (mul_self_nonneg _)
  obtain ⟨v, hv⟩ := kind_eq_finite.mp (hlib.sqrt _ hnonneg)
  have hnorm : lib.sqrt (pow2 (d1 : Extended K) + pow2 (d2 : Extended K)) = fin v := hv
  unfold anguloAccel
  dsimp only
  rw [hnorm]
  by_cases hzero : v = 0
  · have hguard : ¬(fin v : Extended K) ≠ 0 := not_not.mpr (congrArg fin hzero)
    rw [if_neg hguard]
    rfl
  · obtain ⟨w, hw⟩ := kind_eq_finite.mp (hlib.atan ((num : K) / v))
    have hne : (fin v : Extended K) ≠ 0 := fun h => hzero (Extended.fin.inj h)
    have hquot : ((num : Extended K) / fin v) = fin ((num : K) / v) := fin_div_fin _ hzero
    have hdeg : (180.0 / 3.14 : Extended K) = fin (180.0 / 3.14) :=
      fin_div_fin _ (by norm_num)
    rw [if_pos hne, hquot, hw, hdeg]
    rfl

/-- With a finite sample the filter keeps the kind of the previous angle. -/
theorem kind_filtro (prev : Extended K) (g : Int16) (dt : K) {accelAng : Extended K}
    (hacc : accelAng.kind = .finite) : (filtro prev g (fin dt) accelAng).kind = prev.kind := by
  obtain ⟨a, rfl⟩ := kind_eq_finite.mp hacc
  exact kind_affine (by norm_num : (0 : K) < 0.98) prev _ _

theorem kind_paso {lib : Libm (Extended K)} (hlib : Finita lib) (c : Corrida K)
    (s : Bucle (Extended K)) (n : ℕ) :
    (s.paso lib (c.entrada n)).2.angX.kind = s.angXPrev.kind ∧
      (s.paso lib (c.entrada n)).2.angY.kind = s.angYPrev.kind :=
  ⟨kind_filtro _ _ _ (anguloAccel_finite hlib _ _ _),
    kind_filtro _ _ _ (anguloAccel_finite hlib _ _ _)⟩

omit [IsStrictOrderedRing K] in
/-- The guard rejects the infinities, and them only. -/
theorem rechazo_iff (lib : Libm (Extended K)) (c : Corrida K) (s : Bucle (Extended K)) (n : ℕ) :
    (s.paso lib (c.entrada n)).2.mandos = none ↔
      (s.paso lib (c.entrada n)).2.angX.kind = .infinite ∨
        (s.paso lib (c.entrada n)).2.angY.kind = .infinite := by
  rw [← isInf_eq_true, ← isInf_eq_true]
  obtain ⟨hinf, he⟩ | ⟨hx, hy, q, -, he⟩ := paso_cases s.control
    ⟨(s.paso lib (c.entrada n)).2.angX, (s.paso lib (c.entrada n)).2.angY, c.rawValue n,
      { isinf := isInf, aUint16 := c.conv n }⟩
  · have hnone : (s.paso lib (c.entrada n)).2.mandos = none := congrArg Prod.snd he
    exact iff_of_true hnone hinf
  · have hsome : (s.paso lib (c.entrada n)).2.mandos = some q := congrArg Prod.snd he
    rw [hsome, show isInf _ = false from hx, show isInf _ = false from hy]
    simp

/-! ## Runs -/

section Run

variable (lib : Libm (Extended K)) (c : Corrida K) (hw : PwmHw) (x0 y0 : Extended K)

def Corrida.estado (n : ℕ) : Bucle (Extended K) :=
  stateAt (Bucle.paso lib) (.inicial hw x0 y0) c.entrada n

def Corrida.salida (n : ℕ) : Salida (Extended K) :=
  outputAt (Bucle.paso lib) (.inicial hw x0 y0) c.entrada n

variable {lib}

theorem kind_estado (hlib : Finita lib) (n : ℕ) :
    (c.estado lib hw x0 y0 n).angXPrev.kind = x0.kind ∧
      (c.estado lib hw x0 y0 n).angYPrev.kind = y0.kind := by
  refine stateAt_inv (P := fun _ (s : Bucle (Extended K)) => s.angXPrev.kind = x0.kind ∧
    s.angYPrev.kind = y0.kind) ⟨rfl, rfl⟩ ?_ n
  intro n s h
  obtain ⟨hx, hy⟩ := kind_paso hlib c s n
  exact ⟨hx.trans h.1, hy.trans h.2⟩

theorem kind_salida (hlib : Finita lib) (n : ℕ) :
    (c.salida lib hw x0 y0 n).angX.kind = x0.kind ∧
      (c.salida lib hw x0 y0 n).angY.kind = y0.kind := by
  obtain ⟨hx, hy⟩ := kind_estado c hw x0 y0 hlib n
  obtain ⟨hx', hy'⟩ := kind_paso hlib c (c.estado lib hw x0 y0 n) n
  exact ⟨hx'.trans hx, hy'.trans hy⟩

/-- Every iteration is rejected, or none. -/
theorem rechazo_salida_iff (hlib : Finita lib) (n : ℕ) :
    (c.salida lib hw x0 y0 n).mandos = none ↔ x0.kind = .infinite ∨ y0.kind = .infinite := by
  obtain ⟨hx, hy⟩ := kind_salida c hw x0 y0 hlib n
  rw [← hx, ← hy]
  exact rechazo_iff lib c (c.estado lib hw x0 y0 n) n

/-- **When the guard protects the run.** For every `sqrt` and `atan` with finite
results for finite arguments, all samples, finite time steps and previous angles:
every iteration is rejected or hands finite angles to the controllers, and none
that follows a rejected one is rejected, exactly when both previous angles are
finite on entry. -/
theorem rejection_protects_iff (hlib : Finita lib) :
    (∀ n, ((c.salida lib hw x0 y0 n).mandos = none ∨
        (∃ x, (c.salida lib hw x0 y0 n).angX = fin x) ∧
          ∃ y, (c.salida lib hw x0 y0 n).angY = fin y) ∧
      ((c.salida lib hw x0 y0 n).mandos = none →
        (c.salida lib hw x0 y0 (n + 1)).mandos ≠ none)) ↔
    (∃ x, x0 = fin x) ∧ ∃ y, y0 = fin y := by
  have hkind := kind_salida c hw x0 y0 hlib
  have hrech := rechazo_salida_iff c hw x0 y0 hlib
  simp only [← kind_eq_finite, (hkind _).1, (hkind _).2, ne_eq, hrech]
  constructor
  · intro h
    obtain ⟨hfin, hnext⟩ := h 0
    -- an infinity is rejected again
    have hnot : ¬(x0.kind = .infinite ∨ y0.kind = .infinite) := fun hinf => hnext hinf hinf
    exact hfin.resolve_left hnot
  · intro h n
    have hnot : ¬(x0.kind = .infinite ∨ y0.kind = .infinite) := by
      rw [h.1, h.2]
      simp
    exact ⟨.inr h, fun hinf => absurd hinf hnot⟩

end Run

/-- The real functions, with their values at the infinities. -/
noncomputable def libmExtendida : Libm (Extended ℝ) :=
  { sqrt := fun
      | fin x => if x < 0 then nan else fin (Real.sqrt x)
      | inf neg => if neg then nan else inf false
      | nan => nan
    atan := fun
      | fin x => fin (Real.arctan x)
      | inf neg => fin (if neg then -(Real.pi / 2.0) else Real.pi / 2.0)
      | nan => nan }

theorem finita_libmExtendida : Finita libmExtendida where
  sqrt x hx := by
    have hreal : libmExtendida.sqrt (fin x) = fin (Real.sqrt x) := if_neg hx.not_gt
    rw [hreal]
    rfl
  atan _ := rfl

def quieto : Corrida ℝ :=
  { muestra := fun _ => { ax := 0, ay := 0, az := 16384, gx := 0, gy := 0 }
    dt := fun _ => 1
    rawValue := fun _ => 2000
    conv := fun _ _ _ => 0 }

theorem rejection_protects_clean_memory :
    (quieto.salida libmExtendida default (fin 50) (fin 0) 3).mandos = none ∨
      (∃ x, (quieto.salida libmExtendida default (fin 50) (fin 0) 3).angX = fin x) ∧
        ∃ y, (quieto.salida libmExtendida default (fin 50) (fin 0) 3).angY = fin y :=
  ((rejection_protects_iff quieto default (fin 50) (fin 0) finita_libmExtendida).mpr
    ⟨⟨50, rfl⟩, 0, rfl⟩ 3).1

/-- NaN in the memory of `ang_x_prev` reaches the controllers, and an infinity
there is rejected in the first iteration and in the second. -/
theorem nan_passes_and_infinity_stays :
    ((quieto.salida libmExtendida default nan (fin 0) 0).mandos ≠ none ∧
      ¬∃ x, (quieto.salida libmExtendida default nan (fin 0) 0).angX = fin x) ∧
    (quieto.salida libmExtendida default (inf false) (fin 0) 0).mandos = none ∧
      (quieto.salida libmExtendida default (inf false) (fin 0) 1).mandos = none := by
  have hnan := kind_salida quieto default nan (fin 0) finita_libmExtendida 0
  have hrech := rechazo_salida_iff quieto default nan (fin 0) finita_libmExtendida 0
  have hinf := rechazo_salida_iff quieto default (inf false) (fin 0) finita_libmExtendida
  refine ⟨⟨fun h => ?_, fun h => ?_⟩, (hinf 0).mpr (.inl rfl), (hinf 1).mpr (.inl rfl)⟩
  · rcases hrech.mp h with hx | hy
    · cases hx
    · cases hy
  · rw [← kind_eq_finite, hnan.1] at h
    cases h

end PicoDrone.RejectionSoundness
