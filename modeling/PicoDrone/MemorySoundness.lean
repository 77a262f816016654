import Mathlib.Data.Rat.Floor
import PicoDrone.ActuationSoundness
import PicoDrone.LoopSoundness

/-! # What the loop finds in memory

Of all the locals of `mpu6050_run` one is read before it is written: the
declaration `float ang_x_prev, ang_y_prev = 0.0` initialises its second variable
only. What the first one holds enters the filter, and no input can hide it
(`same_run_iff_same_memory`). -/
namespace PicoDrone.MemorySoundness
open Firmware.Pwm Firmware.Control Firmware.Mpu Library.Run Library.Leaky
open CommandSoundness ActuationSoundness MixerSoundness LoopSoundness

/-- What an iteration shows: its two angles and the levels it leaves. -/
structure Visible (K : Type*) where
  angX : K
  angY : K
  niveles : Motor → UInt16

variable {K : Type*} [Field K] [LinearOrder K] [IsStrictOrderedRing K]
variable (r : Registro K) (lib : Libm K) (hw : PwmHw) (t0 : UInt32)

/-- Iteration `n` of `mpu6050_run` with `x0` in the memory of `ang_x_prev`. -/
def visible (x0 : K) (n : ℕ) : Visible K :=
  { angX := (outputAt (Reloj.paso lib) (mpu6050Run hw x0 t0) r.entrada n).angX
    angY := (outputAt (Reloj.paso lib) (mpu6050Run hw x0 t0) r.entrada n).angY
    niveles := nivel
      (stateAt (Reloj.paso lib) (mpu6050Run hw x0 t0) r.entrada (n + 1)).bucle.control }

omit [IsStrictOrderedRing K] in
theorem visible_angX (x0 : K) (n : ℕ) : (visible r lib hw t0 x0 n).angX =
    leaky 0.98 x0 ((r.trayecto t0).aporteX lib) (n + 1) := by
  change (r.salida lib hw x0 0 t0 n).angX = _
  rw [reloj_salida_eq, salida_eq]
  rfl

/-- No single iteration hides the memory either. -/
theorem angX_eq_iff (x0 x0' : K) (n : ℕ) :
    (visible r lib hw t0 x0 n).angX = (visible r lib hw t0 x0' n).angX ↔ x0 = x0' := by
  have hpow : (0.98 : K) ^ (n + 1) ≠ 0 := pow_ne_zero _ (by norm_num)
  rw [visible_angX, visible_angX, ← sub_eq_zero, leaky_sub, mul_eq_zero, sub_eq_zero]
  exact or_iff_right hpow

/-- **The run depends on what was in memory.** For all samples, clock and ADC
readings, any two runs of `mpu6050_run` on them show the same angles and the same
levels in every iteration exactly when they find the same value in `ang_x_prev`;
so they show those of the run from zero exactly when they find zero there. -/
theorem same_run_iff_same_memory (x0 x0' : K) :
    (∀ n, visible r lib hw t0 x0 n = visible r lib hw t0 x0' n) ↔ x0 = x0' := by
  constructor
  · intro h
    exact (angX_eq_iff r lib hw t0 x0 x0' 0).mp (congrArg Visible.angX (h 0))
  · intro h n
    rw [h]

/-- A level sensor at rest; the square root is that of its only sample. -/
def nivelado : Registro ℚ :=
  { muestra := fun _ => { ax := 0, ay := 0, az := 16384, gx := 0, gy := 0 }
    tiempoActual := fun n => UInt32.ofNat (3000 * (n + 1))
    rawValue := fun _ => 2000
    conv := fun _ _ => aUint16 0 }

def libmNivelado : Libm ℚ := { sqrt := fun _ => 16384, atan := fun x => x }

theorem same_run_iff_same_memory_level :
    (∀ n, visible nivelado libmNivelado default 0 50 n =
      visible nivelado libmNivelado default 0 0 n) ↔ (50 : ℚ) = 0 :=
  same_run_iff_same_memory nivelado libmNivelado default 0 50 0

/-- With 50 in memory the level sensor reads 49 degrees of roll, and motor 1 gets
49 microseconds less than from zero. -/
theorem memory_shows :
    (visible nivelado libmNivelado default 0 50 0).angX = 49 ∧
      (visible nivelado libmNivelado default 0 50 0).niveles .m1 = 1171 ∧
      (visible nivelado libmNivelado default 0 0 0).angX = 0 ∧
      (visible nivelado libmNivelado default 0 0 0).niveles .m1 = 1220 ∧
      ¬∀ n, visible nivelado libmNivelado default 0 50 n =
        visible nivelado libmNivelado default 0 0 n := by
  have h50 : (visible nivelado libmNivelado default 0 50 0).angX = 49 := by decide +kernel
  have h0 : (visible nivelado libmNivelado default 0 0 0).angX = 0 := by decide +kernel
  refine ⟨h50, by decide +kernel, h0, by decide +kernel, fun h => ?_⟩
  have heq := congrArg Visible.angX (h 0)
  rw [h50, h0] at heq
  exact absurd heq (by decide)

end PicoDrone.MemorySoundness
