import PicoDrone.FlightSoundness
import PicoDrone.SymmetrySoundness

/-! # The side of a tilt

A tuned controller weighs every angle of its window with the same sign, the
derivative included, so more tilt never means less of an answer against it
(`answer_against_tilt`). With a gyroscope that turns by less than one unit the
estimate has the side of the measured tilt, except that a sensor lying exactly on
its side is read as level (`side_of_tilt`). -/
namespace PicoDrone.TiltSoundness
open Firmware.Pwm Firmware.Control Firmware.Mpu Library.Fir Library.Leaky
open PidSoundness MixerSoundness FlightSoundness LoopSoundness SymmetrySoundness

variable {K : Type*} [Field K] [LinearOrder K] [IsStrictOrderedRing K]

/-! ## The answer of a controller -/

theorem inclinacion_mono {ang ang' : ℕ → K} {n : ℕ} (h : ∀ i ≤ n, ang i ≤ ang' i) :
    inclinacion ang n ≤ inclinacion ang' n :=
  fir_mono pesosVuelo_nonneg h

omit [LinearOrder K] [IsStrictOrderedRing K] in
theorem inclinacion_zero (n : ℕ) : inclinacion (fun _ => (0 : K)) n = 0 := by
  unfold inclinacion
  simpa using fir_sub (pesosVuelo (K := K)) 20 (fun _ => 0) (fun _ => 0) n

/-- **The tuned controller answers against the tilt.** In every call of two
fresh controllers with setpoint 0, on angles that are nowhere smaller in the
second: the output of the second is not larger with polarity true and not smaller
with polarity false. On angles that were never negative no output is positive. -/
theorem answer_against_tilt {ang ang' : ℕ → K} {n : ℕ} (h : ∀ i ≤ n, ang i ≤ ang' i) :
    salida 0.8 0.003 0.0015 true (fun i => (0, ang' i)) n ≤
        salida 0.8 0.003 0.0015 true (fun i => (0, ang i)) n ∧
      salida 0.8 0.003 0.0015 false (fun i => (0, ang i)) n ≤
        salida 0.8 0.003 0.0015 false (fun i => (0, ang' i)) n ∧
      ((∀ i ≤ n, 0 ≤ ang i) → salida 0.8 0.003 0.0015 true (fun i => (0, ang i)) n ≤ 0) := by
  have hmono := inclinacion_mono h
  simp only [salida_vuelo, signo, if_true, Bool.false_eq_true, if_false]
  refine ⟨by linarith, by linarith, fun hpos => ?_⟩
  have hzero := inclinacion_mono hpos
  rw [inclinacion_zero] at hzero
  linarith

theorem answer_against_tilt_falling :
    salida (0.8 : ℚ) 0.003 0.0015 true (fun _ => (0, 30)) 25 ≤
        salida (0.8 : ℚ) 0.003 0.0015 true (fun i => (0, 30 - i)) 25 ∧
      salida (0.8 : ℚ) 0.003 0.0015 false (fun i => (0, 30 - i)) 25 ≤
        salida (0.8 : ℚ) 0.003 0.0015 false (fun _ => (0, 30)) 25 ∧
      salida (0.8 : ℚ) 0.003 0.0015 true (fun i => (0, 30 - i)) 25 ≤ 0 := by
  have hle : ∀ i ≤ (25 : ℕ), 30 - (i : ℚ) ≤ 30 := fun i _ => sub_le_self _ (Nat.cast_nonneg i)
  obtain ⟨hinverse, hdirect, hsign⟩ := answer_against_tilt hle
  refine ⟨hinverse, hdirect, hsign fun i hi => ?_⟩
  have hi' : (i : ℚ) ≤ 25 := by exact_mod_cast hi
  linarith

/-! ## The side of the estimate -/

section Side

variable {lib : Libm K}

/-- A nonzero reading across the plane tilts, unless the plane reads zero. -/
theorem anguloAccel_side (hodd : ∀ x, lib.atan (-x) = -lib.atan x) (hmono : StrictMono lib.atan)
    (hsqrt0 : lib.sqrt 0 = 0) (hsqrt : ∀ s, 0 < s → 0 < lib.sqrt s) {num : ℤ} (hnum : 0 < num)
    (d1 d2 : ℤ) : ((d1 ≠ 0 ∨ d2 ≠ 0) → 0 < anguloAccel lib num d1 d2) ∧
      (¬(d1 ≠ 0 ∨ d2 ≠ 0) → anguloAccel lib num d1 d2 = 0) := by
  have hatan0 : lib.atan 0 = 0 := by
    have h := hodd 0
    rw [neg_zero] at h
    linarith
  have hsq : ∀ d : ℤ, 0 ≤ pow2 (d : K) := fun d => mul_self_nonneg _
  have hpos : ∀ d : ℤ, d ≠ 0 → 0 < pow2 (d : K) := fun d hd =>
    mul_self_pos.mpr (Int.cast_ne_zero.mpr hd)
  constructor
  · intro hd
    have hsum : 0 < pow2 (d1 : K) + pow2 (d2 : K) := by
      rcases hd with hd | hd
      · exact add_pos_of_pos_of_nonneg (hpos d1 hd) (hsq d2)
      · exact add_pos_of_nonneg_of_pos (hsq d1) (hpos d2 hd)
    have hnorm := hsqrt _ hsum
    have hquot : 0 < (num : K) / lib.sqrt (pow2 (d1 : K) + pow2 (d2 : K)) :=
      div_pos (Int.cast_pos.mpr hnum) hnorm
    have hatan := hmono hquot
    rw [hatan0] at hatan
    unfold anguloAccel
    dsimp only
    rw [if_pos hnorm.ne']
    exact mul_pos hatan (by norm_num)
  · intro hd
    rw [not_or, not_not, not_not] at hd
    obtain ⟨rfl, rfl⟩ := hd
    have hnorm : lib.sqrt (pow2 ((0 : ℤ) : K) + pow2 ((0 : ℤ) : K)) = 0 := by
      simpa [pow2] using hsqrt0
    unfold anguloAccel
    dsimp only
    rw [if_neg (not_not.mpr hnorm)]

/-- Positive from the first index with `P` on, and zero before it. -/
def LadoDesde (P : ℕ → Prop) (n : ℕ) (x : K) : Prop :=
  ((∃ i ≤ n, P i) → 0 < x) ∧ ((¬∃ i ≤ n, P i) → x = 0)

theorem ladoDesde_leaky {P : ℕ → Prop} {u : ℕ → K} {n : ℕ} (hpos : ∀ i ≤ n, P i → 0 < u i)
    (hzero : ∀ i ≤ n, ¬P i → u i = 0) : LadoDesde P n (leaky 0.98 0 u (n + 1)) := by
  have hnonneg : ∀ i < n + 1, 0 ≤ u i := by
    intro i hi
    by_cases hP : P i
    · exact (hpos i (by omega) hP).le
    · exact (hzero i (by omega) hP).ge
  have hiff := leaky_pos_iff (a := (0.98 : K)) (by norm_num) hnonneg
  constructor
  · rintro ⟨i, hi, hP⟩
    exact hiff.mpr ⟨i, by omega, hpos i hi hP⟩
  · intro hnone
    refine le_antisymm (not_lt.mp fun hlt => ?_) (leaky_nonneg (by norm_num) hnonneg)
    obtain ⟨i, hi, hui⟩ := hiff.mp hlt
    have hi' : i ≤ n := by omega
    exact hui.ne' (hzero i hi' fun hP => hnone ⟨i, hi', hP⟩)

omit [LinearOrder K] [IsStrictOrderedRing K] in
/-- A turn of less than one unit does not count. -/
theorem aporte_slow {g : Int16} (hg : |g.toInt| < 131) (dt a : K) : aporte g dt a = 0.02 * a := by
  have hdiv : g.toInt.tdiv 131 = 0 := by
    have hnat : (g.toInt.tdiv 131).natAbs = g.toInt.natAbs / 131 := Int.natAbs_tdiv g.toInt 131
    rw [Int.abs_eq_natAbs] at hg
    omega
  unfold aporte
  rw [hdiv, Int.cast_zero]
  ring

/-- A filter fed with the angles of a sensor tilted to the positive side. -/
theorem ladoDesde_anguloAccel (hodd : ∀ x, lib.atan (-x) = -lib.atan x)
    (hmono : StrictMono lib.atan) (hsqrt0 : lib.sqrt 0 = 0) (hsqrt : ∀ s, 0 < s → 0 < lib.sqrt s)
    {u : ℕ → K} {num d1 d2 : ℕ → ℤ} {n : ℕ} (hnum : ∀ i ≤ n, 0 < num i)
    (hu : ∀ i ≤ n, u i = 0.02 * anguloAccel lib (num i) (d1 i) (d2 i)) :
    LadoDesde (fun i => d1 i ≠ 0 ∨ d2 i ≠ 0) n (leaky 0.98 0 u (n + 1)) := by
  refine ladoDesde_leaky (fun i hi hP => ?_) fun i hi hP => ?_
  · have hpos := (anguloAccel_side hodd hmono hsqrt0 hsqrt (hnum i hi) (d1 i) (d2 i)).1 hP
    rw [hu i hi]
    linarith
  · have hzero := (anguloAccel_side hodd hmono hsqrt0 hsqrt (hnum i hi) (d1 i) (d2 i)).2 hP
    rw [hu i hi, hzero, mul_zero]

/-- One axis of the loop, tilted to the positive side. -/
theorem ladoDesde_eje (hodd : ∀ x, lib.atan (-x) = -lib.atan x) (hmono : StrictMono lib.atan)
    (hsqrt0 : lib.sqrt 0 = 0) (hsqrt : ∀ s, 0 < s → 0 < lib.sqrt s) {g : ℕ → Int16} (dt : ℕ → K)
    {num d1 d2 : ℕ → ℤ} {n : ℕ} (hnum : ∀ i ≤ n, 0 < num i) (hg : ∀ i ≤ n, |(g i).toInt| < 131) :
    LadoDesde (fun i => d1 i ≠ 0 ∨ d2 i ≠ 0) n
      (leaky 0.98 0 (fun i => aporte (g i) (dt i) (anguloAccel lib (num i) (d1 i) (d2 i)))
        (n + 1)) :=
  ladoDesde_anguloAccel hodd hmono hsqrt0 hsqrt hnum fun i hi => aporte_slow (hg i hi) _ _

/-- One axis of the loop, tilted to the negative side. -/
theorem ladoDesde_eje_neg (hodd : ∀ x, lib.atan (-x) = -lib.atan x) (hmono : StrictMono lib.atan)
    (hsqrt0 : lib.sqrt 0 = 0) (hsqrt : ∀ s, 0 < s → 0 < lib.sqrt s) {g : ℕ → Int16} (dt : ℕ → K)
    {num d1 d2 : ℕ → ℤ} {n : ℕ} (hnum : ∀ i ≤ n, num i < 0) (hg : ∀ i ≤ n, |(g i).toInt| < 131) :
    LadoDesde (fun i => d1 i ≠ 0 ∨ d2 i ≠ 0) n
      (-leaky 0.98 0 (fun i => aporte (g i) (dt i) (anguloAccel lib (num i) (d1 i) (d2 i)))
        (n + 1)) := by
  have hnum' : ∀ i ≤ n, 0 < -num i := fun i hi => neg_pos.mpr (hnum i hi)
  rw [← leaky_neg, neg_zero]
  refine ladoDesde_anguloAccel hodd hmono hsqrt0 hsqrt hnum' fun i hi => ?_
  rw [aporte_slow (hg i hi), anguloAccel_neg hodd, mul_neg]

end Side

/-- **The estimate has the side of the measured tilt.** For every strictly
increasing odd `atan` and every `sqrt` that vanishes at 0 and is positive after
it: while the roll rate reads below one unit and `ay` has been positive all
along, the roll estimate of a run started at 0 is positive as soon as one sample
had `ax` or `az` different from 0, and it is exactly 0 before that, when the
sensor lies on its side and the guard of the division replaces the angle by 0.
In the same way for negative `ay`, and for the pitch with `-ax`. -/
theorem side_of_tilt (lib : Libm K) (hodd : ∀ x, lib.atan (-x) = -lib.atan x)
    (hmono : StrictMono lib.atan) (hsqrt0 : lib.sqrt 0 = 0)
    (hsqrt : ∀ s, 0 < s → 0 < lib.sqrt s) (t : Trayecto K) (hw : PwmHw) (z0 : K) (n : ℕ) :
    ((∀ i ≤ n, |(t.muestra i).gx.toInt| < 131) →
      ((∀ i ≤ n, 0 < (t.muestra i).ay.toInt) →
        LadoDesde (fun i => (t.muestra i).ax.toInt ≠ 0 ∨ (t.muestra i).az.toInt ≠ 0) n
          (t.salida lib hw 0 z0 n).angX) ∧
      ((∀ i ≤ n, (t.muestra i).ay.toInt < 0) →
        LadoDesde (fun i => (t.muestra i).ax.toInt ≠ 0 ∨ (t.muestra i).az.toInt ≠ 0) n
          (-(t.salida lib hw 0 z0 n).angX))) ∧
    ((∀ i ≤ n, |(t.muestra i).gy.toInt| < 131) →
      ((∀ i ≤ n, (t.muestra i).ax.toInt < 0) →
        LadoDesde (fun i => (t.muestra i).ay.toInt ≠ 0 ∨ (t.muestra i).az.toInt ≠ 0) n
          (t.salida lib hw z0 0 n).angY) ∧
      ((∀ i ≤ n, 0 < (t.muestra i).ax.toInt) →
        LadoDesde (fun i => (t.muestra i).ay.toInt ≠ 0 ∨ (t.muestra i).az.toInt ≠ 0) n
          (-(t.salida lib hw z0 0 n).angY))) := by
  rw [salida_eq, salida_eq]
  refine ⟨fun hg => ⟨fun hay => ?_, fun hay => ?_⟩, fun hg => ⟨fun hax => ?_, fun hax => ?_⟩⟩
  · exact ladoDesde_eje hodd hmono hsqrt0 hsqrt t.dt hay hg
  · exact ladoDesde_eje_neg hodd hmono hsqrt0 hsqrt t.dt hay hg
  · exact ladoDesde_eje hodd hmono hsqrt0 hsqrt t.dt (fun i hi => neg_pos.mpr (hax i hi)) hg
  · have hneg : ∀ i ≤ n, -(t.muestra i).ax.toInt < 0 := fun i hi => neg_neg_iff_pos.mpr (hax i hi)
    exact ladoDesde_eje_neg hodd hmono hsqrt0 hsqrt t.dt hneg hg

/-- Nearly on its side, with the slowest turn that still divides to nothing. -/
noncomputable def casiDeLado : Trayecto ℝ :=
  { muestra := fun _ => { ax := 0, ay := 16384, az := 100, gx := 130, gy := 0 }
    dt := fun _ => 0.003
    rawValue := fun _ => 2000
    conv := fun _ _ _ => 0 }

theorem side_of_tilt_nearly_on_side : 0 < (casiDeLado.salida libmReal default 0 5 30).angX := by
  have hside := side_of_tilt libmReal Real.arctan_neg Real.arctan_strictMono Real.sqrt_zero
    (fun s hs => Real.sqrt_pos.mpr hs) casiDeLado default 5 30
  have hslow : ∀ i ≤ 30, |(casiDeLado.muestra i).gx.toInt| < 131 := fun _ _ =>
    show |(130 : Int16).toInt| < 131 by decide
  have htilt : ∀ i ≤ 30, 0 < (casiDeLado.muestra i).ay.toInt := fun _ _ =>
    show 0 < (16384 : Int16).toInt by decide
  exact ((hside.1 hslow).1 htilt).1 ⟨0, by omega, Or.inr (show (100 : Int16).toInt ≠ 0 by decide)⟩

/-- Exactly on its side. -/
noncomputable def deLado : Trayecto ℝ :=
  { casiDeLado with muestra := fun _ => { ax := 0, ay := 16384, az := 0, gx := 0, gy := 0 } }

theorem on_its_side_reads_level :
    (∀ i, 0 < (deLado.muestra i).ay.toInt ∧ |(deLado.muestra i).gx.toInt| < 131) ∧
      ¬0 < (deLado.salida libmReal default 0 0 0).angX := by
  have htilt : ∀ i, 0 < (deLado.muestra i).ay.toInt := fun _ =>
    show 0 < (16384 : Int16).toInt by decide
  have hslow : ∀ i, |(deLado.muestra i).gx.toInt| < 131 := fun _ =>
    show |(0 : Int16).toInt| < 131 by decide
  have hflat : (deLado.salida libmReal default 0 0 0).angX = 0 := by
    have haporte : deLado.aporteX libmReal 0 = 0 := by
      simp [Trayecto.aporteX, aporte, accelAngX, anguloAccel, pow2, deLado, libmReal]
    rw [salida_eq]
    change leaky 0.98 0 (deLado.aporteX libmReal) 1 = 0
    rw [leaky_succ, haporte]
    simp [leaky]
  exact ⟨fun i => ⟨htilt i, hslow i⟩, hflat.not_gt⟩

end PicoDrone.TiltSoundness
