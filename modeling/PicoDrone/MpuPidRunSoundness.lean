import Mathlib.Data.NNRat.Lemmas
import Mathlib.Tactic.NormNum
import PicoDrone.Firmware.MpuPidRun
import PicoDrone.MixerSoundness

/-! # Runs of the program of `MPU_PID`

With `ki = 0` the running sum has no say: what is printed is three times the angle less
the angle of the last iteration that was not rejected (`mpu_pid_run`), however many were
rejected before. -/
namespace PicoDrone.MpuPidRunSoundness
open Firmware Firmware.Control Firmware.Mpu Firmware.MpuPidRun Library.Run
open MixerSoundness

variable {K : Type*} [Field K] [DecidableEq K]

/-! ## One controller -/

/-- A controller of the program after a call with the angle `previo`, or none. -/
structure TrasAngulo (polaridad : Bool) (previo : K) (c : MpuPid.ControladorPID K) : Prop where
  kp_eq : c.kp = 2
  ki_eq : c.ki = 0
  kd_eq : c.kd = 1
  polaridad_eq : c.polaridad = if polaridad then 1 else 0
  prevError_eq : c.prevError = -signo polaridad * previo

omit [DecidableEq K] in
theorem trasAngulo_nuevo (polaridad : Bool) :
    TrasAngulo polaridad (0 : K) (.nuevo 2.0 0 1.0 polaridad) := by
  have h2 : (2.0 : ℚ≥0) = 2 := Subtype.ext (by norm_num : (2.0 : ℚ) = 2)
  have h1 : (1.0 : ℚ≥0) = 1 := Subtype.ext (by norm_num : (1.0 : ℚ) = 1)
  have hkp : (2.0 : K) = 2 := (congrArg NNRat.cast h2).trans (NNRat.cast_ofNat 2)
  have hkd : (1.0 : K) = 1 := (congrArg NNRat.cast h1).trans NNRat.cast_one
  exact ⟨hkp, rfl, hkd, rfl, (mul_zero _).symm⟩

theorem TrasAngulo.computar {polaridad : Bool} {previo : K} {c : MpuPid.ControladorPID K}
    (h : TrasAngulo polaridad previo c) (ang : K) :
    TrasAngulo polaridad ang (c.computar 0 ang).1 ∧
      (c.computar 0 ang).2 = -signo polaridad * (3 * ang - previo) := by
  have herror : 0 - (if c.polaridad = 0 then -ang else ang) = -signo polaridad * ang := by
    rw [h.polaridad_eq]
    cases polaridad <;> simp [signo]
  refine ⟨⟨h.kp_eq, h.ki_eq, h.kd_eq, h.polaridad_eq, herror⟩, ?_⟩
  simp only [MpuPid.ControladorPID.computar, herror, h.kp_eq, h.ki_eq, h.kd_eq, h.prevError_eq]
  ring

/-! ## Runs -/

/-- The angle pairs that were not rejected. -/
def aceptados (salidas : List (SalidaRun K)) : List (K × K) :=
  salidas.filterMap fun o => o.ctrl.map fun _ => (o.angX, o.angY)

/-- The last of them. -/
def ultimoAceptado (salidas : List (SalidaRun K)) : K × K := (aceptados salidas).getLast?.getD (0, 0)

structure Inv (salidas : List (SalidaRun K)) (s : EstadoRun K) : Prop where
  roll : ∀ m, TrasAngulo (polaridadRoll m) (ultimoAceptado salidas).1 (s.pidRoll m)
  pitch : ∀ m, TrasAngulo (polaridadPitch m) (ultimoAceptado salidas).2 (s.pidPitch m)

omit [DecidableEq K] in
theorem ultimoAceptado_rechazo (salidas : List (SalidaRun K)) {o : SalidaRun K}
    (h : o.ctrl = none) : ultimoAceptado (salidas ++ [o]) = ultimoAceptado salidas := by
  simp [ultimoAceptado, aceptados, h]

omit [DecidableEq K] in
theorem ultimoAceptado_aceptado (salidas : List (SalidaRun K)) {o : SalidaRun K} {c : Motor → K}
    (h : o.ctrl = some c) : ultimoAceptado (salidas ++ [o]) = (o.angX, o.angY) := by
  simp [ultimoAceptado, aceptados, h]

/-- What an iteration prints when the last accepted pair is `previo`. -/
def Imprime (previo : K × K) (o : SalidaRun K) : Prop :=
  ∀ c, o.ctrl = some c → ∀ m, c m = -(signo (polaridadRoll m) * (3 * o.angX - previo.1) +
    signo (polaridadPitch m) * (3 * o.angY - previo.2))

/-- An iteration rejects its angles and leaves the controllers alone, or calls all eight. -/
theorem paso_cases (lib : Libm K) (s : EstadoRun K) (e : EntradaRun K) :
    ((e.isinf (s.paso lib e).2.angX = true ∨ e.isinf (s.paso lib e).2.angY = true) ∧
      (s.paso lib e).2.ctrl = none ∧
      (s.paso lib e).1.pidRoll = s.pidRoll ∧ (s.paso lib e).1.pidPitch = s.pidPitch) ∨
    (e.isinf (s.paso lib e).2.angX = false ∧ e.isinf (s.paso lib e).2.angY = false ∧
      (s.paso lib e).2.ctrl = some (fun m => ((s.pidRoll m).computar 0 (s.paso lib e).2.angX).2 +
        ((s.pidPitch m).computar 0 (s.paso lib e).2.angY).2) ∧
      (∀ m, (s.paso lib e).1.pidRoll m = ((s.pidRoll m).computar 0 (s.paso lib e).2.angX).1) ∧
      ∀ m, (s.paso lib e).1.pidPitch m =
        ((s.pidPitch m).computar 0 (s.paso lib e).2.angY).1) := by
  unfold EstadoRun.paso
  simp only
  split
  · next h =>
    rw [Bool.and_eq_true, Bool.not_eq_true', Bool.not_eq_true'] at h
    exact .inr ⟨h.1, h.2, rfl, fun _ => rfl, fun _ => rfl⟩
  · next h => exact .inl ⟨by simpa [or_iff_not_imp_left] using h, rfl, rfl, rfl⟩

theorem Inv.paso {salidas : List (SalidaRun K)} {s : EstadoRun K} (h : Inv salidas s)
    (lib : Libm K) (e : EntradaRun K) :
    Imprime (ultimoAceptado salidas) (s.paso lib e).2 ∧
      Inv (salidas ++ [(s.paso lib e).2]) (s.paso lib e).1 := by
  obtain ⟨-, hctrl, hroll, hpitch⟩ | ⟨-, -, hctrl, hroll, hpitch⟩ := paso_cases lib s e
  · refine ⟨fun c hc => ?_, fun m => ?_, fun m => ?_⟩
    · rw [hctrl] at hc
      cases hc
    · rw [ultimoAceptado_rechazo salidas hctrl, hroll]
      exact h.roll m
    · rw [ultimoAceptado_rechazo salidas hctrl, hpitch]
      exact h.pitch m
  · refine ⟨fun c hc m => ?_, fun m => ?_, fun m => ?_⟩
    · rw [hctrl] at hc
      obtain rfl := Option.some.inj hc
      simp only [((h.roll m).computar _).2, ((h.pitch m).computar _).2]
      ring
    · rw [ultimoAceptado_aceptado salidas hctrl, hroll]
      exact ((h.roll m).computar _).1
    · rw [ultimoAceptado_aceptado salidas hctrl, hpitch]
      exact ((h.pitch m).computar _).1

theorem inv_run (lib : Libm K) (x0 : K) (t0 : UInt32) (ins : List (EntradaRun K)) :
    Inv (outputs (EstadoRun.paso lib) (.inicial x0 t0) ins)
      (stateAfter (EstadoRun.paso lib) (.inicial x0 t0) ins) :=
  stateAfter_history ⟨fun _ => trasAngulo_nuevo _, fun _ => trasAngulo_nuevo _⟩
    (fun _ _ e h => (h.paso lib e).2) ins

/-! ## The angles -/

/-- The input of an iteration of this program, from the one of the flight program and an
answer of `isinf` of its own. -/
def deVuelo (p : EntradaReloj K × (K → Bool)) : EntradaRun K :=
  { muestra := p.1.muestra, tiempoActual := p.1.tiempoActual, isinf := p.2 }

def Mismos (s : EstadoRun K) (r : Reloj K) : Prop :=
  s.angXPrev = r.bucle.angXPrev ∧ s.angYPrev = r.bucle.angYPrev ∧ s.tiempoPrevio = r.tiempoPrevio

theorem Mismos.paso {s : EstadoRun K} {r : Reloj K} (h : Mismos s r) (lib : Libm K)
    (p : EntradaReloj K × (K → Bool)) :
    (s.paso lib (deVuelo p)).2.angX = (r.paso lib p.1).2.angX ∧
      (s.paso lib (deVuelo p)).2.angY = (r.paso lib p.1).2.angY ∧
      Mismos (s.paso lib (deVuelo p)).1 (r.paso lib p.1).1 := by
  obtain ⟨hx, hy, ht⟩ := h
  simp only [EstadoRun.paso, deVuelo, Mismos, hx, hy, ht]
  split <;> exact ⟨rfl, rfl, rfl, rfl, rfl⟩

theorem angulos_vuelo {s : EstadoRun K} {r : Reloj K} (h : Mismos s r) (lib : Libm K)
    (ins : List (EntradaReloj K × (K → Bool))) :
    ((outputs (EstadoRun.paso lib) s (ins.map deVuelo)).map fun o => (o.angX, o.angY)) =
      (outputs (Reloj.paso lib) r (ins.map Prod.fst)).map fun o => (o.angX, o.angY) := by
  induction ins generalizing s r with
  | nil => rfl
  | cons p ins ih =>
    obtain ⟨hx, hy, hnext⟩ := h.paso lib p
    simp only [List.map_cons, outputs, hx, hy, ih hnext]

/-- **The program of `MPU_PID`.** On the same samples and clock readings it computes the
angles of the flight program. In every iteration whose angles are not rejected the four
printed corrections are the signed sums of `3 * ang - previo`, where `previo` is the last
pair of angles that was not rejected (zero before the first); diagonal motors cancel. -/
theorem mpu_pid_run (lib : Libm K) (hw : Pwm.PwmHw) (x0 : K) (t0 : UInt32)
    (ins : List (EntradaReloj K × (K → Bool))) (e : EntradaRun K) :
    let salidas := outputs (EstadoRun.paso lib) (.inicial x0 t0) (ins.map deVuelo)
    let o := ((stateAfter (EstadoRun.paso lib) (.inicial x0 t0) (ins.map deVuelo)).paso lib e).2
    (salidas.map fun o => (o.angX, o.angY)) =
        ((outputs (Reloj.paso lib) (mpu6050Run hw x0 t0) (ins.map Prod.fst)).map
          fun o => (o.angX, o.angY)) ∧
      (o.ctrl = none ↔ e.isinf o.angX = true ∨ e.isinf o.angY = true) ∧
      ∀ c, o.ctrl = some c →
        (∀ m, c m = -(signo (polaridadRoll m) * (3 * o.angX - (ultimoAceptado salidas).1) +
          signo (polaridadPitch m) * (3 * o.angY - (ultimoAceptado salidas).2))) ∧
        c .m4 = -c .m1 ∧ c .m3 = -c .m2 := by
  intro salidas o
  obtain ⟨himprime, -⟩ := (inv_run lib x0 t0 (ins.map deVuelo)).paso lib e
  refine ⟨angulos_vuelo ⟨rfl, rfl, rfl⟩ lib ins, ?_, fun c hc => ⟨himprime c hc, ?_, ?_⟩⟩
  · obtain ⟨hinf, hctrl, -⟩ | ⟨hx, hy, hctrl, -⟩ := paso_cases lib
      (stateAfter (EstadoRun.paso lib) (.inicial x0 t0) (ins.map deVuelo)) e
    · exact iff_of_true hctrl hinf
    · refine iff_of_false (fun hnone => ?_) (fun hinf => ?_)
      · rw [hctrl] at hnone
        cases hnone
      · rw [hx, hy] at hinf
        exact hinf.elim Bool.false_ne_true Bool.false_ne_true
  · rw [himprime c hc, himprime c hc]
    simp only [signo, polaridadRoll, polaridadPitch, if_true, if_false, Bool.false_eq_true]
    ring
  · rw [himprime c hc, himprime c hc]
    simp only [signo, polaridadRoll, polaridadPitch, if_true, if_false, Bool.false_eq_true]
    ring

end PicoDrone.MpuPidRunSoundness
