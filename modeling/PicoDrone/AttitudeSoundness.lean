import PicoDrone.FlightSoundness
import PicoDrone.LoopSoundness

/-! # The attitude estimate over runs of any length

A gyroscope reading of 16 bits is worth at most 250 degrees per second after the
integer division, which makes `A + 12250 T` a bound that the filter feeds back
to itself (`attitude_bounded`). The division loses at most 130/131 of a unit per
sample, and what the filter accumulates of it stays bounded as well
(`gyro_scaling_error`). -/
namespace PicoDrone.AttitudeSoundness
open Firmware.Pwm Firmware.Control Firmware.Mpu Library.Leaky
open MixerSoundness FlightSoundness LoopSoundness

/-! ## The integer division -/

theorem abs_tdiv_le (g : Int16) : |g.toInt.tdiv 131| ≤ 250 := by
  have hlo := g.le_toInt
  have hhi := g.toInt_lt
  have hnat : (g.toInt.tdiv 131).natAbs = g.toInt.natAbs / 131 := Int.natAbs_tdiv g.toInt 131
  rw [Int.abs_eq_natAbs, hnat]
  omega

theorem abs_tmod_le (g : Int16) : |g.toInt.tmod 131| ≤ 130 := by
  have hnat : (g.toInt.tmod 131).natAbs = g.toInt.natAbs % 131 := Int.natAbs_tmod g.toInt 131
  rw [Int.abs_eq_natAbs, hnat]
  omega

variable {K : Type*} [Field K] [LinearOrder K] [IsStrictOrderedRing K]

theorem abs_cociente_le (g : Int16) : |((g.toInt.tdiv 131 : ℤ) : K)| ≤ 250 := by
  rw [← Int.cast_abs]
  exact_mod_cast abs_tdiv_le g

/-- What the division drops is the remainder's share. -/
theorem abs_cociente_sub_le (g : Int16) :
    |((g.toInt.tdiv 131 : ℤ) : K) - (g.toInt : K) / 131| ≤ 130 / 131 := by
  have hmod : |((g.toInt.tmod 131 : ℤ) : K)| ≤ 130 := by
    rw [← Int.cast_abs]
    exact_mod_cast abs_tmod_le g
  have hdiv : (131 : K) * ((g.toInt.tdiv 131 : ℤ) : K) + ((g.toInt.tmod 131 : ℤ) : K) =
      (g.toInt : K) := by
    exact_mod_cast Int.mul_tdiv_add_tmod g.toInt 131
  have hsub : ((g.toInt.tdiv 131 : ℤ) : K) - (g.toInt : K) / 131 =
      -((g.toInt.tmod 131 : ℤ) : K) / 131 := by
    rw [← hdiv]
    field_simp
    ring
  rw [hsub, abs_div, abs_neg, abs_of_pos (by norm_num : (0 : K) < 131)]
  exact div_le_div_of_nonneg_right hmod (by norm_num)

/-! ## The bound -/

theorem abs_aporte_le {g : Int16} {dt accelAng A T : K} (h0 : 0 ≤ dt) (hT : dt ≤ T)
    (hA : |accelAng| ≤ A) : |aporte g dt accelAng| ≤ (1 - 0.98) * (A + 12250 * T) := by
  have hrate : |((g.toInt.tdiv 131 : ℤ) : K) * dt| ≤ 250 * T := by
    rw [abs_mul, abs_of_nonneg h0]
    exact mul_le_mul (abs_cociente_le g) hT h0 (by norm_num)
  obtain ⟨hrlo, hrhi⟩ := abs_le.mp hrate
  obtain ⟨halo, hahi⟩ := abs_le.mp hA
  unfold aporte
  rw [abs_le]
  constructor <;> linarith

/-- One axis of the loop, after every iteration up to `n`. -/
theorem abs_eje_le {z0 A T : K} {g : ℕ → Int16} {dt accelAng : ℕ → K} {n : ℕ}
    (hz0 : |z0| ≤ A + 12250 * T) (hA : ∀ i ≤ n, |accelAng i| ≤ A)
    (hdt : ∀ i ≤ n, 0 ≤ dt i ∧ dt i ≤ T) : ∀ i ≤ n,
      |leaky 0.98 z0 (fun i => aporte (g i) (dt i) (accelAng i)) (i + 1)| ≤ A + 12250 * T := by
  intro i hi
  refine abs_leaky_le (by norm_num) hz0 fun j hj => ?_
  have hjn : j ≤ n := by omega
  obtain ⟨h0, hT⟩ := hdt j hjn
  exact abs_aporte_le h0 hT (hA j hjn)

/-- **Bounded attitude, bounded correction.** In every iteration of every run
whose accelerometer angles so far are at most `A` and whose time steps are at
most `T`, started within `A + 12250 T` and with any gyroscope readings, both
estimates are within `A + 12250 T` and every correction within 16.8 times that. -/
theorem attitude_bounded (lib : Libm K) (t : Trayecto K) (hw : PwmHw) {A T x0 y0 : K} (n : ℕ)
    (hax : ∀ i ≤ n, |accelAngX lib (t.muestra i)| ≤ A)
    (hay : ∀ i ≤ n, |accelAngY lib (t.muestra i)| ≤ A)
    (hdt : ∀ i ≤ n, 0 ≤ t.dt i ∧ t.dt i ≤ T)
    (hx0 : |x0| ≤ A + 12250 * T) (hy0 : |y0| ≤ A + 12250 * T) :
    |(t.salida lib hw x0 y0 n).angX| ≤ A + 12250 * T ∧
      |(t.salida lib hw x0 y0 n).angY| ≤ A + 12250 * T ∧
      ∃ q, (t.salida lib hw x0 y0 n).mandos = some q ∧
        ∀ m, |q.ctrl m| ≤ 16.8 * (A + 12250 * T) := by
  have hX : ∀ i ≤ n, |(t.vuelo lib x0 y0).angX i| ≤ A + 12250 * T := abs_eje_le hx0 hax hdt
  have hY : ∀ i ≤ n, |(t.vuelo lib x0 y0).angY i| ≤ A + 12250 * T := abs_eje_le hy0 hay hdt
  rw [salida_eq]
  refine ⟨hX n le_rfl, hY n le_rfl, _, mandos_eq .., fun m => ?_⟩
  have htx := abs_inclinacion_le hX
  have hty := abs_inclinacion_le hY
  have hcorr := abs_correccion_le (t.vuelo lib x0 y0).angX (t.vuelo lib x0 y0).angY n m
  rw [mandar_ctrl, ctrl_eq_correccion]
  linarith

/-- A level sensor that reports the fastest turns its type holds. -/
noncomputable def volteo : Trayecto ℝ :=
  { muestra := fun _ => { ax := 0, ay := 0, az := 16384, gx := 32767, gy := -32768 }
    dt := fun _ => 0.003
    rawValue := fun _ => 2000
    conv := fun _ _ _ => 0 }

theorem accelAng_volteo (i : ℕ) : accelAngX libmReal (volteo.muestra i) = 0 ∧
    accelAngY libmReal (volteo.muestra i) = 0 := by
  constructor <;> simp [accelAngX, accelAngY, anguloAccel, volteo, libmReal]

theorem attitude_bounded_tumbling :
    |(volteo.salida libmReal default 0 1 1000).angX| ≤ 0 + 12250 * 0.003 ∧
      |(volteo.salida libmReal default 0 1 1000).angY| ≤ 0 + 12250 * 0.003 ∧
      ∃ q, (volteo.salida libmReal default 0 1 1000).mandos = some q ∧
        ∀ m, |q.ctrl m| ≤ 16.8 * (0 + 12250 * 0.003) :=
  attitude_bounded libmReal volteo default 1000
    (fun i _ => by rw [(accelAng_volteo i).1, abs_zero])
    (fun i _ => by rw [(accelAng_volteo i).2, abs_zero])
    (fun _ _ => by norm_num [volteo]) (by norm_num) (by norm_num)

/-! ## What the integer division costs -/

/-- The filter with the exact quotient in place of the integer division. -/
def filtroExacto (prev : K) (g : Int16) (dt accelAng : K) : K :=
  0.98 * (prev + (g.toInt : K) / 131 * dt) + 0.02 * accelAng

/-- The angles of one axis under a filter. -/
def eje (f : K → Int16 → K → K → K) (x0 : K) (g : ℕ → Int16) (dt accelAng : ℕ → K) : ℕ → K
  | 0 => x0
  | n + 1 => f (eje f x0 g dt accelAng n) (g n) (dt n) (accelAng n)

omit [LinearOrder K] [IsStrictOrderedRing K] in
theorem eje_filtro (x0 : K) (g : ℕ → Int16) (dt accelAng : ℕ → K) (n : ℕ) :
    eje filtro x0 g dt accelAng n =
      leaky 0.98 x0 (fun i => aporte (g i) (dt i) (accelAng i)) n := by
  induction n with
  | zero => rfl
  | succ n ih => rw [eje, filtro_eq, ih, leaky_succ]

omit [LinearOrder K] [IsStrictOrderedRing K] in
theorem eje_filtroExacto (x0 : K) (g : ℕ → Int16) (dt accelAng : ℕ → K) (n : ℕ) :
    eje filtroExacto x0 g dt accelAng n =
      leaky 0.98 x0 (fun i => 0.98 * ((g i).toInt / 131 * dt i) + 0.02 * accelAng i) n := by
  induction n with
  | zero => rfl
  | succ n ih => rw [eje, filtroExacto, ih, leaky_succ]; ring

/-- One axis, for any readings and accelerometer angles. -/
theorem abs_eje_sub_le (x0 : K) (g : ℕ → Int16) {dt : ℕ → K} (accelAng : ℕ → K) {T : K}
    (hT : 0 ≤ T) {n : ℕ} (hdt : ∀ i < n, 0 ≤ dt i ∧ dt i ≤ T) :
    |eje filtro x0 g dt accelAng n - eje filtroExacto x0 g dt accelAng n| ≤
      49 * (130 / 131) * T := by
  rw [eje_filtro, eje_filtroExacto, leaky_sub_inputs]
  refine abs_leaky_le (by norm_num) (by rw [abs_zero]; positivity) fun i hi => ?_
  obtain ⟨h0, hle⟩ := hdt i hi
  have hloss : |(((g i).toInt.tdiv 131 : ℤ) - ((g i).toInt : K) / 131) * dt i| ≤ 130 / 131 * T := by
    rw [abs_mul, abs_of_nonneg h0]
    exact mul_le_mul (abs_cociente_sub_le _) hle h0 (by norm_num)
  have hsub : aporte (g i) (dt i) (accelAng i) -
      (0.98 * ((g i).toInt / 131 * dt i) + 0.02 * accelAng i) =
      0.98 * ((((g i).toInt.tdiv 131 : ℤ) - ((g i).toInt : K) / 131) * dt i) := by
    unfold aporte
    ring
  rw [hsub, abs_mul, abs_of_nonneg (by norm_num : (0 : K) ≤ 0.98)]
  linarith

/-- **The integer gyroscope scaling costs a bounded error**, for runs of any
length: with time steps of at most `T`, the filter and the filter with the exact
quotient stay within `49 (130 / 131) T` of each other on any readings and any
accelerometer angles, and so do both estimates of the loop. -/
theorem gyro_scaling_error (lib : Libm K) (t : Trayecto K) (hw : PwmHw) (x0 y0 : K) {T : K}
    (hT : 0 ≤ T) (n : ℕ) (hdt : ∀ i < n, 0 ≤ t.dt i ∧ t.dt i ≤ T) :
    (∀ (z0 : K) (g : ℕ → Int16) (accelAng : ℕ → K),
      |eje filtro z0 g t.dt accelAng n - eje filtroExacto z0 g t.dt accelAng n| ≤
        49 * (130 / 131) * T) ∧
    |(t.estado lib hw x0 y0 n).angXPrev - eje filtroExacto x0 (fun i => (t.muestra i).gx) t.dt
        (fun i => accelAngX lib (t.muestra i)) n| ≤ 49 * (130 / 131) * T ∧
    |(t.estado lib hw x0 y0 n).angYPrev - eje filtroExacto y0 (fun i => (t.muestra i).gy) t.dt
        (fun i => accelAngY lib (t.muestra i)) n| ≤ 49 * (130 / 131) * T := by
  have heje : ∀ (z0 : K) (g : ℕ → Int16) (accelAng : ℕ → K),
      |eje filtro z0 g t.dt accelAng n - eje filtroExacto z0 g t.dt accelAng n| ≤
        49 * (130 / 131) * T := fun z0 g accelAng => abs_eje_sub_le z0 g accelAng hT hdt
  obtain ⟨hx, hy⟩ := angulos_eq t lib hw x0 y0 n
  refine ⟨heje, ?_, ?_⟩
  · rw [hx]
    have h := heje x0 (fun i => (t.muestra i).gx) fun i => accelAngX lib (t.muestra i)
    rwa [eje_filtro] at h
  · rw [hy]
    have h := heje y0 (fun i => (t.muestra i).gy) fun i => accelAngY lib (t.muestra i)
    rwa [eje_filtro] at h

theorem gyro_scaling_error_tumbling :
    |(volteo.estado libmReal default 0 1 1000).angXPrev -
      eje filtroExacto 0 (fun i => (volteo.muestra i).gx) volteo.dt
        (fun i => accelAngX libmReal (volteo.muestra i)) 1000| ≤ 49 * (130 / 131) * 0.003 :=
  (gyro_scaling_error libmReal volteo default 0 1 (by norm_num) 1000
    (fun _ _ => by norm_num [volteo])).2.1

end PicoDrone.AttitudeSoundness
