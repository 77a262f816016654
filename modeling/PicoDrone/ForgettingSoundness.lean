import PicoDrone.FlightSoundness
import PicoDrone.LoopSoundness

/-! # The initial attitude is forgotten

Two runs of the loop on the same samples and clock readings differ only through
their previous angles. The estimates differ by a power of 0.98, which leaves
a geometric input for the filters behind the corrections (`attitude_forgotten`). -/
namespace PicoDrone.ForgettingSoundness
open Firmware.Pwm Firmware.Control Firmware.Mpu Library.Fir Library.Leaky
open PidSoundness MixerSoundness FlightSoundness LoopSoundness

variable {K : Type*} [Field K] [LinearOrder K] [IsStrictOrderedRing K]

/-! ## The corrections are linear in the angles -/

omit [LinearOrder K] [IsStrictOrderedRing K] in
theorem correccion_sub (a b a' b' : ℕ → K) (n : ℕ) (m : Motor) :
    correccion a b n m - correccion a' b' n m =
      correccion (fun i => a i - a' i) (fun i => b i - b' i) n m := by
  rw [correccion_eq, correccion_eq, correccion_eq]
  unfold inclinacion
  rw [fir_sub, fir_sub]
  ring

/-- A tilt that decays like `r ^ i` is weighed at its size of twenty samples ago. -/
theorem abs_inclinacion_geometric {ang : ℕ → K} {n : ℕ} {r D : K} (hr0 : 0 ≤ r) (hr1 : r ≤ 1)
    (hD : 0 ≤ D) (hn : 20 ≤ n + 1) (h : ∀ i ≤ n, |ang i| ≤ D * r ^ (i + 1)) :
    |inclinacion ang n| ≤ 16.8 * (D * r ^ (n + 2 - 20)) := by
  rw [← sum_abs_pesosVuelo]
  exact abs_fir_le_geometric hr0 hr1 hD hn h

theorem abs_decay_le {d D : K} (n : ℕ) (hd : |d| ≤ D) : |(0.98 : K) ^ n * d| ≤ D * 0.98 ^ n := by
  have hr : (0 : K) ≤ 0.98 ^ n := pow_nonneg (by norm_num) n
  rw [abs_mul, abs_of_nonneg hr, mul_comm]
  exact mul_le_mul_of_nonneg_right hd hr

/-- Flights whose angles differ by decaying amounts, once the windows are full. -/
theorem abs_ctrl_sub_le {v v' : Vuelo K} {dx dy : K}
    (hx : ∀ i, v.angX i - v'.angX i = 0.98 ^ (i + 1) * dx)
    (hy : ∀ i, v.angY i - v'.angY i = 0.98 ^ (i + 1) * dy) {n : ℕ} (hn : 20 ≤ n + 1) (m : Motor) :
    |v.ctrl 0.8 0.003 0.0015 n m - v'.ctrl 0.8 0.003 0.0015 n m| ≤
      16.8 * 0.98 ^ (n + 1 - 19) * max |dx| |dy| := by
  have hD : 0 ≤ max |dx| |dy| := (abs_nonneg dx).trans (le_max_left _ _)
  have hdx : ∀ i ≤ n, |v.angX i - v'.angX i| ≤ max |dx| |dy| * 0.98 ^ (i + 1) := by
    intro i _
    rw [hx]
    exact abs_decay_le _ (le_max_left _ _)
  have hdy : ∀ i ≤ n, |v.angY i - v'.angY i| ≤ max |dx| |dy| * 0.98 ^ (i + 1) := by
    intro i _
    rw [hy]
    exact abs_decay_le _ (le_max_right _ _)
  have htx := abs_inclinacion_geometric (by norm_num) (by norm_num) hD hn hdx
  have hty := abs_inclinacion_geometric (by norm_num) (by norm_num) hD hn hdy
  rw [ctrl_eq_correccion, ctrl_eq_correccion, correccion_sub, mul_assoc,
    mul_comm ((0.98 : K) ^ _)]
  -- the window reaches back to the sample of nineteen iterations ago
  calc _ ≤ (|inclinacion (fun i => v.angX i - v'.angX i) n| +
        |inclinacion (fun i => v.angY i - v'.angY i) n|) / 2 := abs_correccion_le _ _ n m
    _ ≤ 16.8 * (max |dx| |dy| * 0.98 ^ (n + 1 - 19)) := by
        rw [show n + 1 - 19 = n + 2 - 20 by omega]
        linarith

/-! ## Two runs on the same samples -/

/-- **The control chain forgets its initial attitude at the rate 0.98.** Two
runs with the same samples and clock readings, from any two pairs of previous
angles and with any throttle readings: after `n` iterations the estimates differ
by exactly `0.98 ^ n` times the initial differences, and from the twentieth
iteration on no correction differs by more than 16.8 times the largest initial
difference, decayed since the start but for the nineteen older samples of the window. -/
theorem attitude_forgotten (lib : Libm K) (r : Registro K) (rawValue' : ℕ → UInt16)
    (conv' : ℕ → Motor → K → UInt16) (hw hw' : PwmHw) (t0 : UInt32) (x0 y0 x0' y0' : K) (n : ℕ) :
    let r' : Registro K := { r with rawValue := rawValue', conv := conv' }
    let s := (r.estado lib hw x0 y0 t0 n).bucle
    let s' := (r'.estado lib hw' x0' y0' t0 n).bucle
    (s.angXPrev - s'.angXPrev = 0.98 ^ n * (x0 - x0') ∧
      s.angYPrev - s'.angYPrev = 0.98 ^ n * (y0 - y0')) ∧
    (20 ≤ n → ∃ q q', (r.salida lib hw x0 y0 t0 (n - 1)).mandos = some q ∧
      (r'.salida lib hw' x0' y0' t0 (n - 1)).mandos = some q' ∧
      ∀ m, |q.ctrl m - q'.ctrl m| ≤ 16.8 * 0.98 ^ (n - 19) * max |x0 - x0'| |y0 - y0'|) := by
  intro r' s s'
  have hs : s = (r.trayecto t0).estado lib hw x0 y0 n :=
    congrArg Reloj.bucle (reloj_eq r lib hw x0 y0 t0 n)
  have hs' : s' = (r'.trayecto t0).estado lib hw' x0' y0' n :=
    congrArg Reloj.bucle (reloj_eq r' lib hw' x0' y0' t0 n)
  obtain ⟨hx, hy⟩ := angulos_eq (r.trayecto t0) lib hw x0 y0 n
  obtain ⟨hx', hy'⟩ := angulos_eq (r'.trayecto t0) lib hw' x0' y0' n
  refine ⟨⟨?_, ?_⟩, fun hn => ?_⟩
  · rw [hs, hs', hx, hx']
    exact leaky_sub _ _ _ _ n
  · rw [hs, hs', hy, hy']
    exact leaky_sub _ _ _ _ n
  · obtain ⟨k, rfl⟩ : ∃ k, n = k + 1 := ⟨n - 1, by omega⟩
    have hq : (r.salida lib hw x0 y0 t0 k).mandos =
        ((r.trayecto t0).vuelo lib x0 y0).mandos 0.8 0.003 0.0015 hw k := by
      rw [reloj_salida_eq, salida_eq]
    have hq' : (r'.salida lib hw' x0' y0' t0 k).mandos =
        ((r'.trayecto t0).vuelo lib x0' y0').mandos 0.8 0.003 0.0015 hw' k := by
      rw [reloj_salida_eq, salida_eq]
    refine ⟨_, _, hq.trans (mandos_eq ..), hq'.trans (mandos_eq ..), fun m => ?_⟩
    exact abs_ctrl_sub_le (fun i => leaky_sub _ _ _ _ (i + 1)) (fun i => leaky_sub _ _ _ _ (i + 1))
      hn m

noncomputable def reposo : Registro ℝ :=
  { muestra := fun _ => { ax := 0, ay := 0, az := 16384, gx := 0, gy := 0 }
    tiempoActual := fun n => UInt32.ofNat (3000 * (n + 1))
    rawValue := fun _ => 2000
    conv := fun _ _ _ => 0 }

theorem attitude_forgotten_at_rest :
    ∃ q q', (reposo.salida libmReal default 3 4 0 19).mandos = some q ∧
      (reposo.salida libmReal default 0 0 0 19).mandos = some q' ∧
      ∀ m, |q.ctrl m - q'.ctrl m| ≤ 16.8 * 0.98 ^ 1 * max |(3 : ℝ) - 0| |4 - 0| :=
  (attitude_forgotten libmReal reposo (fun _ => 2000) (fun _ _ _ => 0) default default 0 3 4 0 0
    20).2 (by decide)

end PicoDrone.ForgettingSoundness
