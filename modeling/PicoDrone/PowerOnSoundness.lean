import PicoDrone.ClockSoundness
import PicoDrone.RecoverySoundness
import PicoDrone.RejectionSoundness

/-! # What the memory of `ang_x_prev` decides

`mpu6050_run` does not initialise `ang_x_prev`. The filter keeps the kind of what was
there, and the rest of the program follows from it: a controller answers finite calls
with finite numbers (`Sano.computar`) and NaN with NaN (`computar_nan`), and a rejected
iteration leaves everything alone. Which of three flights it is going to be is therefore
settled before the loop starts (`flight_sealed_at_power_on`). -/
namespace PicoDrone.PowerOnSoundness
open Firmware.Pid Firmware.Pwm Firmware.Control Firmware.Mpu Library.Run Library.ExtendedField
open Library.ExtendedField.Extended CommandSoundness ResyncSoundness RecoverySoundness
open RejectionSoundness ClockSoundness

variable {K : Type*} [Field K] [LinearOrder K]

/-! ## A controller -/

/-- A controller on which all calls were finite. -/
structure Sano (c : ControladorPID (Extended K)) : Prop where
  kp : c.kp.kind = .finite
  ki : ∃ k, k ≠ 0 ∧ c.ki = fin k
  kd : c.kd.kind = .finite
  previo : c.prevError.kind = .finite
  buffer : ∀ x ∈ c.bufferIntegrador, x.kind = .finite

theorem mem_encolar {F : Type*} {size : ℕ} {cola : List F} {error x : F}
    (h : x ∈ encolar size cola error) : x ∈ cola ∨ x = error := by
  unfold encolar at h
  split at h
  · rcases List.mem_append.mp h with h | h
    · exact .inl (List.mem_of_mem_tail h)
    · exact .inr (List.mem_singleton.mp h)
  · rcases List.mem_append.mp h with h | h
    · exact .inl h
    · exact .inr (List.mem_singleton.mp h)

theorem computar_nan (c : ControladorPID (Extended K)) : (c.computar 0 nan).2 = nan := by
  have hcurrent : (if c.polaridad = 0 then -nan else nan : Extended K) = nan := by
    split <;> rfl
  simp [ControladorPID.computar, hcurrent]

variable [IsStrictOrderedRing K]

theorem Sano.computar {c : ControladorPID (Extended K)} (h : Sano c) {current : Extended K}
    (hcurrent : current.kind = .finite) :
    Sano (c.computar 0 current).1 ∧ (c.computar 0 current).2.kind = .finite := by
  let error := errorLlamada c.polaridad (0, current)
  have herror : error.kind = .finite := (error_finite_iff _ _).mpr ⟨rfl, hcurrent⟩
  have hbuffer : ∀ x ∈ encolar c.integradorSize c.bufferIntegrador error, x.kind = .finite := by
    intro x hx
    rcases mem_encolar hx with hx | rfl
    · exact h.buffer x hx
    · exact herror
  obtain ⟨kp, hkp⟩ := kind_eq_finite.mp h.kp
  obtain ⟨ki, hki0, hki⟩ := h.ki
  obtain ⟨kd, hkd⟩ := kind_eq_finite.mp h.kd
  have hinv : (1 / c.ki : Extended K) = fin (1 / ki) := by
    rw [hki]
    exact fin_div_fin 1 hki0
  have hts : (0.003 : Extended K) = fin 0.003 := rfl
  have hts0 : (0.003 : K) ≠ 0 := by norm_num
  have hout : (c.computar 0 current).2 = c.kp * (error + (1 / c.ki) *
      (drenar 0 (encolar c.integradorSize c.bufferIntegrador error) * 0.003) +
        c.kd * (error - c.prevError) / 0.003) := rfl
  refine ⟨⟨h.kp, h.ki, h.kd, herror, hbuffer⟩, ?_⟩
  rw [hout, hinv, hkp, hkd, hts, fin_mul_finite_iff, add_finite_iff, add_finite_iff,
    fin_mul_finite_iff, mul_fin_finite_iff, drenar_finite_iff, div_fin_finite_iff hts0,
    fin_mul_finite_iff, sub_finite_iff]
  exact ⟨⟨herror, rfl, hbuffer⟩, herror, h.previo⟩

/-! ## The control step -/

/-- All eight controllers. -/
def ControlSano (s : EstadoControl (Extended K)) : Prop :=
  ∀ m, Sano (s.pidRoll m) ∧ Sano (s.pidPitch m)

theorem controlSano_inicial (hw : PwmHw) :
    ControlSano (EstadoControl.inicial hw : EstadoControl (Extended K)) := by
  have hki : (0.003 : K) ≠ 0 := by norm_num
  exact fun m => ⟨⟨rfl, ⟨_, hki, rfl⟩, rfl, rfl, List.forall_mem_nil _⟩,
    rfl, ⟨_, hki, rfl⟩, rfl, rfl, List.forall_mem_nil _⟩

theorem media_finite {a b : Extended K} (ha : a.kind = .finite) (hb : b.kind = .finite) :
    (media a b).kind = .finite :=
  (div_fin_finite_iff (two_ne_zero (α := K))).mpr (add_finite_iff.mpr ⟨ha, hb⟩)

/-- Finite angles are accepted, and make finite corrections. -/
theorem ControlSano.paso {s : EstadoControl (Extended K)} (h : ControlSano s)
    {e : EntradaControl (Extended K)} (hinf : e.num.isinf = isInf) (hx : e.angX.kind = .finite)
    (hy : e.angY.kind = .finite) :
    ControlSano (s.paso e).1 ∧ ∀ q ∈ (s.paso e).2, ∀ m, (q.ctrl m).kind = .finite := by
  have hx' : e.num.isinf e.angX = false := by rw [hinf, isInf_eq_false, hx]; nofun
  have hy' : e.num.isinf e.angY = false := by rw [hinf, isInf_eq_false, hy]; nofun
  constructor
  · intro m
    obtain ⟨hroll, hpitch⟩ := paso_pids (s := s) hx' hy' m
    rw [hroll, hpitch]
    exact ⟨((h m).1.computar hx).1, ((h m).2.computar hy).1⟩
  · intro q hq m
    rw [eq_mandar_of_mem hq, mandar_ctrl]
    exact media_finite ((h m).1.computar hx).2 ((h m).2.computar hy).2

omit [IsStrictOrderedRing K] in
/-- All the corrections that NaN makes are NaN, whatever the other angle. -/
theorem corregir_nan (s : EstadoControl (Extended K)) (angY : Extended K) (m : Motor) :
    (s.corregir nan angY).2 m = nan := by
  change media ((s.pidRoll m).computar 0 nan).2 _ = nan
  rw [computar_nan, media, nan_add, nan_div]

/-! ## The loop -/

section Run

variable {lib : Libm (Extended K)} (hw : PwmHw) (x0 : Extended K) (t0 : UInt32)
  (ins : ℕ → EntradaReloj (Extended K))

theorem pasoTiempo_eq (d : UInt32) :
    (pasoTiempo d : Extended K) = fin ((d.toNat : K) / 1000000) :=
  fin_div_fin _ (by norm_num)

/-- The time step is finite whatever the clock shows, so an iteration keeps the kinds. -/
theorem kind_angulos (hlib : Finita lib) (s : Reloj (Extended K)) (e : EntradaReloj (Extended K)) :
    (s.paso lib e).2.angX.kind = s.bucle.angXPrev.kind ∧
      (s.paso lib e).2.angY.kind = s.bucle.angYPrev.kind := by
  have hdt := pasoTiempo_eq (K := K) (diferencia e.tiempoActual s.tiempoPrevio)
  have hx : (s.paso lib e).2.angX = filtro s.bucle.angXPrev e.muestra.gx
      (pasoTiempo (diferencia e.tiempoActual s.tiempoPrevio)) (accelAngX lib e.muestra) := rfl
  have hy : (s.paso lib e).2.angY = filtro s.bucle.angYPrev e.muestra.gy
      (pasoTiempo (diferencia e.tiempoActual s.tiempoPrevio)) (accelAngY lib e.muestra) := rfl
  rw [hx, hy, hdt]
  exact ⟨kind_filtro _ _ _ (anguloAccel_finite hlib _ _ _),
    kind_filtro _ _ _ (anguloAccel_finite hlib _ _ _)⟩

theorem kind_estadoEn (hlib : Finita lib) (n : ℕ) :
    (estadoEn lib hw x0 t0 ins n).bucle.angXPrev.kind = x0.kind ∧
      (estadoEn lib hw x0 t0 ins n).bucle.angYPrev.kind = .finite := by
  refine stateAt_inv (P := fun _ (s : Reloj (Extended K)) => s.bucle.angXPrev.kind = x0.kind ∧
    s.bucle.angYPrev.kind = .finite) ⟨rfl, rfl⟩ ?_ n
  rintro n s ⟨hx, hy⟩
  obtain ⟨hx', hy'⟩ := kind_angulos hlib s (ins n)
  exact ⟨hx'.trans hx, hy'.trans hy⟩

theorem kind_salidaEn (hlib : Finita lib) (n : ℕ) :
    (salidaEn lib hw x0 t0 ins n).angX.kind = x0.kind ∧
      (salidaEn lib hw x0 t0 ins n).angY.kind = .finite := by
  obtain ⟨hx, hy⟩ := kind_estadoEn hw x0 t0 ins hlib n
  obtain ⟨hx', hy'⟩ := kind_angulos hlib (estadoEn lib hw x0 t0 ins n) (ins n)
  exact ⟨hx'.trans hx, hy'.trans hy⟩

/-- What the control step of iteration `n` reads. -/
def entradaEn (lib : Libm (Extended K)) (n : ℕ) : EntradaControl (Extended K) :=
  { angX := (salidaEn lib hw x0 t0 ins n).angX
    angY := (salidaEn lib hw x0 t0 ins n).angY
    rawValue := (ins n).rawValue
    num := (ins n).num }

omit [IsStrictOrderedRing K] in
theorem control_succ (lib : Libm (Extended K)) (n : ℕ) :
    (estadoEn lib hw x0 t0 ins (n + 1)).bucle.control =
        ((estadoEn lib hw x0 t0 ins n).bucle.control.paso (entradaEn hw x0 t0 ins lib n)).1 ∧
      (salidaEn lib hw x0 t0 ins n).mandos =
        ((estadoEn lib hw x0 t0 ins n).bucle.control.paso (entradaEn hw x0 t0 ins lib n)).2 :=
  ⟨rfl, rfl⟩

variable {x0} (hlib : Finita lib) (hins : ∀ n, (ins n).num.isinf = isInf)
include hlib hins

/-! ## The three flights -/

theorem mandos_of_not_infinite (hx0 : x0.kind ≠ .infinite) (n : ℕ) :
    (salidaEn lib hw x0 t0 ins n).mandos = some (mandar (ins n).num (ins n).rawValue
      ((estadoEn lib hw x0 t0 ins n).bucle.control.corregir (salidaEn lib hw x0 t0 ins n).angX
        (salidaEn lib hw x0 t0 ins n).angY).2) := by
  obtain ⟨hx, hy⟩ := kind_salidaEn hw x0 t0 ins hlib n
  have hinfx : (ins n).num.isinf (salidaEn lib hw x0 t0 ins n).angX = false := by
    rw [hins n, isInf_eq_false, hx]
    exact hx0
  have hinfy : (ins n).num.isinf (salidaEn lib hw x0 t0 ins n).angY = false := by
    rw [hins n, isInf_eq_false, hy]
    nofun
  exact (control_succ hw x0 t0 ins lib n).2.trans
    (paso_aceptado (e := entradaEn hw x0 t0 ins lib n) hinfx hinfy)

theorem controlSano_estadoEn (hx0 : x0.kind = .finite) (n : ℕ) :
    ControlSano (estadoEn lib hw x0 t0 ins n).bucle.control := by
  induction n with
  | zero => exact controlSano_inicial hw
  | succ n ih =>
    obtain ⟨hx, hy⟩ := kind_salidaEn hw x0 t0 ins hlib n
    rw [(control_succ hw x0 t0 ins lib n).1]
    exact (ih.paso (hins n) (hx.trans hx0) hy).1

theorem mandos_of_finite (hx0 : x0.kind = .finite) (n : ℕ) :
    ∃ q, (salidaEn lib hw x0 t0 ins n).mandos = some q ∧ ∀ m, (q.ctrl m).kind = .finite ∧
      ∃ v, q.pedido m = (ins n).num.aUint16 m (fin v) := by
  obtain ⟨hx, hy⟩ := kind_salidaEn hw x0 t0 ins hlib n
  have hne : x0.kind ≠ .infinite := by rw [hx0]; nofun
  have hq := mandos_of_not_infinite hw t0 ins hlib hins hne n
  have hsano := (controlSano_estadoEn hw t0 ins hlib hins hx0 n).paso
    (e := entradaEn hw x0 t0 ins lib n) (hins n) (hx.trans hx0) hy
  refine ⟨_, hq, fun m => ?_⟩
  have hctrl := hsano.2 _ hq m
  obtain ⟨v, hv⟩ := kind_eq_finite.mp hctrl
  exact ⟨hctrl, _, congrArg (fun c => (ins n).num.aUint16 m
    (microsegundos (ins n).rawValue + c)) hv⟩

theorem mandos_of_nan (hx0 : x0 = nan) (n : ℕ) :
    ∃ q, (salidaEn lib hw x0 t0 ins n).mandos = some q ∧ ∀ m, q.ctrl m = nan ∧
      q.pedido m = (ins n).num.aUint16 m nan := by
  obtain ⟨hx, -⟩ := kind_salidaEn hw x0 t0 ins hlib n
  have hnan : (salidaEn lib hw x0 t0 ins n).angX = nan :=
    kind_eq_nan.mp (hx.trans (kind_eq_nan.mpr hx0))
  have hne : x0.kind ≠ .infinite := by rw [hx0]; nofun
  have hq := mandos_of_not_infinite hw t0 ins hlib hins hne n
  rw [hnan] at hq
  refine ⟨_, hq, fun m => ?_⟩
  have hctrl := corregir_nan (estadoEn lib hw x0 t0 ins n).bucle.control
    (salidaEn lib hw x0 t0 ins n).angY m
  refine ⟨hctrl, congrArg ((ins n).num.aUint16 m) ?_⟩
  rw [hctrl, add_nan]

/-- A rejected iteration leaves the control step as it was set up. -/
theorem control_of_infinite (hx0 : x0.kind = .infinite) (n : ℕ) :
    (estadoEn lib hw x0 t0 ins n).bucle.control = .inicial hw ∧
      (salidaEn lib hw x0 t0 ins n).mandos = none := by
  have hrechazo (k : ℕ) : (estadoEn lib hw x0 t0 ins k).bucle.control.paso
      (entradaEn hw x0 t0 ins lib k) = ((estadoEn lib hw x0 t0 ins k).bucle.control, none) := by
    have hinf : (ins k).num.isinf (salidaEn lib hw x0 t0 ins k).angX = true := by
      rw [hins k, isInf_eq_true, (kind_salidaEn hw x0 t0 ins hlib k).1, hx0]
    obtain ⟨-, he⟩ | ⟨hx, -, -⟩ := paso_cases (estadoEn lib hw x0 t0 ins k).bucle.control
      (entradaEn hw x0 t0 ins lib k)
    · exact he
    · cases hinf.symm.trans hx
  refine ⟨?_, by rw [(control_succ hw x0 t0 ins lib n).2, hrechazo n]⟩
  induction n with
  | zero => rfl
  | succ n ih => rw [(control_succ hw x0 t0 ins lib n).1, hrechazo n, ih]

/-- **The flight is sealed at power-on.** For all samples, clock and throttle readings, with
the `isinf` of floats and any conversion to `uint16_t`: if the memory of `ang_x_prev` holds a
finite number, every iteration is accepted and makes finite corrections; if an infinity,
every iteration is rejected and the motors keep the arming level; if NaN, every iteration is
accepted and asks for the conversion of NaN, for all four motors. -/
theorem flight_sealed_at_power_on :
    (x0.kind = .finite → ∀ n, ∃ q, (salidaEn lib hw x0 t0 ins n).mandos = some q ∧
      ∀ m, (q.ctrl m).kind = .finite ∧ ∃ v, q.pedido m = (ins n).num.aUint16 m (fin v)) ∧
    (x0.kind = .infinite → ∀ n, (salidaEn lib hw x0 t0 ins n).mandos = none ∧
      ∀ m, nivel (estadoEn lib hw x0 t0 ins n).bucle.control m = 1000) ∧
    (x0 = nan → ∀ n, ∃ q, (salidaEn lib hw x0 t0 ins n).mandos = some q ∧
      ∀ m, q.ctrl m = nan ∧ q.pedido m = (ins n).num.aUint16 m nan) := by
  refine ⟨mandos_of_finite hw t0 ins hlib hins, fun hx0 n => ?_, mandos_of_nan hw t0 ins hlib hins⟩
  obtain ⟨hcontrol, hnone⟩ := control_of_infinite hw t0 ins hlib hins hx0 n
  refine ⟨hnone, fun m => ?_⟩
  rw [hcontrol]
  exact (nivel_nuevo _ _ _ hw m).1

end Run

/-- A level sensor, sampled every three milliseconds. -/
def entradas (n : ℕ) : EntradaReloj (Extended ℝ) :=
  { muestra := { ax := 0, ay := 0, az := 16384, gx := 0, gy := 0 }
    tiempoActual := UInt32.ofNat (3000 * (n + 1))
    rawValue := 2000
    num := { isinf := isInf, aUint16 := fun _ _ => 0 } }

theorem flight_sealed_by_memory :
    (∃ q, (salidaEn libmExtendida default (fin 50) 0 entradas 7).mandos = some q ∧
      ∀ m, (q.ctrl m).kind = .finite) ∧
    (salidaEn libmExtendida default (inf false) 0 entradas 7).mandos = none ∧
    ∃ q, (salidaEn libmExtendida default nan 0 entradas 7).mandos = some q ∧
      ∀ m, q.ctrl m = nan := by
  have hseal (x0 : Extended ℝ) := @flight_sealed_at_power_on ℝ _ _ _ libmExtendida default x0 0
    entradas finita_libmExtendida fun _ => rfl
  obtain ⟨q, hq, hfinite⟩ := (hseal (fin 50)).1 rfl 7
  obtain ⟨q', hq', hnan⟩ := (hseal nan).2.2 rfl 7
  exact ⟨⟨q, hq, fun m => (hfinite m).1⟩, ((hseal (inf false)).2.1 rfl 7).1, q', hq',
    fun m => (hnan m).1⟩

end PicoDrone.PowerOnSoundness
