import PicoDrone.Firmware.MpuPid
import PicoDrone.PidSoundness

/-! # The running sum and the window

`MPU_PID` integrates every error of the run, `MPU_PID_PWM` the last twenty, with
the gains in another form. With the gains converted, the two controllers differ
by what has left the window and by nothing else (`running_sum_minus_window`). -/
namespace PicoDrone.RunningSumSoundness
open Firmware Library.Run Library.SlidingWindow PidSoundness

variable {K : Type*} [Field K] [DecidableEq K]
variable (kp ki kd : K) (polaridad : Bool) (calls : ℕ → K × K)

/-- The running-sum controller after the first `n` calls on a fresh one. -/
def acumulador (n : ℕ) : MpuPid.ControladorPID K :=
  stateAt MpuPid.ControladorPID.llamada (.nuevo kp ki kd polaridad) calls n

/-- What call `n` (counted from 0) returns. -/
def salidaAcumulada (n : ℕ) : K :=
  outputAt MpuPid.ControladorPID.llamada (.nuevo kp ki kd polaridad) calls n

/-- The representation invariant: after `n` calls `integral` is the sum of the
errors so far and `prevError` the last of them (zero before the first call). -/
structure Acumula (n : ℕ) (c : MpuPid.ControladorPID K) : Prop where
  kp_eq : c.kp = kp
  ki_eq : c.ki = ki
  kd_eq : c.kd = kd
  polaridad_eq : c.polaridad = if polaridad then 1 else 0
  suma : c.integral = ∑ i ∈ Finset.range n, errores polaridad calls i
  previo : c.prevError = pad (errores polaridad calls) n

theorem error_acumula {kp ki kd : K} {polaridad : Bool} {calls : ℕ → K × K} {n : ℕ}
    {c : MpuPid.ControladorPID K} (h : Acumula kp ki kd polaridad calls n c) :
    (calls n).1 - (if c.polaridad = 0 then -(calls n).2 else (calls n).2) =
      errores polaridad calls n :=
  error_of_polaridad h.polaridad_eq _ _

theorem acumulador_acumula (n : ℕ) :
    Acumula kp ki kd polaridad calls n (acumulador kp ki kd polaridad calls n) := by
  refine stateAt_inv (P := fun n c => Acumula kp ki kd polaridad calls n c) ?_ ?_ n
  · exact ⟨rfl, rfl, rfl, rfl, by simp [MpuPid.ControladorPID.nuevo], rfl⟩
  · intro n c hc
    have he := error_acumula hc
    refine ⟨hc.kp_eq, hc.ki_eq, hc.kd_eq, hc.polaridad_eq, ?_, he⟩
    simp only [MpuPid.ControladorPID.llamada, MpuPid.ControladorPID.computar]
    rw [he, hc.suma, Finset.sum_range_succ]

theorem salidaAcumulada_eq (n : ℕ) : salidaAcumulada kp ki kd polaridad calls n =
    kp * errores polaridad calls n +
      ki * ∑ i ∈ Finset.range (n + 1), errores polaridad calls i +
      kd * (errores polaridad calls n - pad (errores polaridad calls) n) := by
  have h := acumulador_acumula kp ki kd polaridad calls n
  have hout : salidaAcumulada kp ki kd polaridad calls n =
      ((acumulador kp ki kd polaridad calls n).computar (calls n).1 (calls n).2).2 := rfl
  rw [hout, MpuPid.ControladorPID.computar]
  simp only [error_acumula h]
  rw [h.kp_eq, h.ki_eq, h.kd_eq, h.suma, h.previo, Finset.sum_range_succ]

/-- **The two generations of the controller.** For any gains with `ki ≠ 0`, both
polarities and any sequence of calls: call number `n + 1` on the running-sum
controller with the converted gains returns what it returns on the windowed one
plus the integral gain times the errors up to number `n + 1 - 20`. So the two
agree on the first twenty calls. -/
theorem running_sum_minus_window (_hki : ki ≠ 0) (n : ℕ) :
    salidaAcumulada kp (kp * 0.003 / ki) (kp * kd / 0.003) polaridad calls n -
        salida kp ki kd polaridad calls n =
      kp * 0.003 / ki * ∑ i ∈ Finset.Icc 1 (n + 1 - 20), errorNumero polaridad calls i ∧
    (n + 1 ≤ 20 → salidaAcumulada kp (kp * 0.003 / ki) (kp * kd / 0.003) polaridad calls n =
        salida kp ki kd polaridad calls n) := by
  have hdiff : salidaAcumulada kp (kp * 0.003 / ki) (kp * kd / 0.003) polaridad calls n -
      salida kp ki kd polaridad calls n =
      kp * 0.003 / ki * ∑ i ∈ Finset.Icc 1 (n + 1 - 20), errorNumero polaridad calls i := by
    rw [salidaAcumulada_eq, salida_eq_window, sum_range_eq_add_recent 20, sum_range_eq_sum_Icc]
    simp only [errorNumero]
    ring
  refine ⟨hdiff, fun hn => ?_⟩
  rw [show n + 1 - 20 = 0 by omega] at hdiff
  exact sub_eq_zero.mp (hdiff.trans (by simp))

theorem running_sum_minus_window_late :
    salidaAcumulada (2 : ℚ) (2 * 0.003 / 3) (2 * 5 / 0.003) false (fun i => (0, (i : ℚ))) 22 -
        salida (2 : ℚ) 3 5 false (fun i => (0, (i : ℚ))) 22 =
      2 * 0.003 / 3 * ∑ i ∈ Finset.Icc 1 3, errorNumero false (fun i => (0, (i : ℚ))) i :=
  (running_sum_minus_window (2 : ℚ) 3 5 false (fun i => (0, (i : ℚ))) (by decide) 22).1

end PicoDrone.RunningSumSoundness
