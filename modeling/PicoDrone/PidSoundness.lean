import Mathlib.Tactic.Ring
import PicoDrone.Firmware.Pid
import PicoDrone.Library.Fir

/-! # What a run of calls to `computar` computes

Over a field, the queue of a controller is a sliding window of the signed
errors (`computar_window`), and so every call is the response of a finite
impulse response filter with twenty weights fixed by the gains (`salida_eq_fir`). -/
namespace PicoDrone.PidSoundness
open Firmware.Pid Library Library.Run Library.SlidingWindow Library.Fir

/-! ## One call -/

section Queue

variable {F : Type*}

theorem encolar_eq_push {k : ℕ} (w : Window F (k + 1)) (error : F) :
    encolar (k + 1) w.elems error = (w.push error).elems := rfl

theorem drenar_eq_sum {K : Type*} [AddCommMonoid K] (copia : List K) (sumatorio : K) :
    drenar sumatorio copia = sumatorio + copia.sum := by
  induction copia generalizing sumatorio with
  | nil => simp [drenar]
  | cons x copia ih => rw [drenar, ih, List.sum_cons, add_assoc]

end Queue

variable {K : Type*} [Field K] [DecidableEq K]

/-- The error of one call: the measurement counts with the polarity's sign. -/
def errorDe (polaridad : Bool) (setpoint current : K) : K :=
  if polaridad then setpoint - current else setpoint + current

/-- The members that no call changes. -/
def Construido (kp ki kd : K) (polaridad : Bool) (c : ControladorPID K) : Prop :=
  c.kp = kp ∧ c.ki = ki ∧ c.kd = kd ∧ c.polaridad = (if polaridad then 1 else 0) ∧
    c.integradorSize = 20

theorem error_of_polaridad {polaridad : Bool} {p : K} (hp : p = if polaridad then 1 else 0)
    (s x : K) : s - (if p = 0 then -x else x) = errorDe polaridad s x := by
  rw [hp]
  cases polaridad <;> simp [errorDe]

/-- **One call.** The new error enters the window, the output is the PID sum
over the new window, and nothing else changes. -/
theorem computar_spec {kp ki kd : K} {polaridad : Bool} {c : ControladorPID K}
    (h : Construido kp ki kd polaridad c) {w : Window K 20} (hw : c.bufferIntegrador = w.elems)
    (s x : K) :
    Construido kp ki kd polaridad (c.computar s x).1 ∧
      (c.computar s x).1.prevError = errorDe polaridad s x ∧
      (c.computar s x).1.bufferIntegrador = (w.push (errorDe polaridad s x)).elems ∧
      (c.computar s x).2 = kp * (errorDe polaridad s x +
        (1 / ki) * ((w.push (errorDe polaridad s x)).elems.sum * 0.003) +
        kd * (errorDe polaridad s x - c.prevError) / 0.003) := by
  obtain ⟨hkp, hki, hkd, hpol, hsize⟩ := h
  have he := error_of_polaridad hpol s x
  have hbuf : encolar c.integradorSize c.bufferIntegrador (errorDe polaridad s x) =
      (w.push (errorDe polaridad s x)).elems := by
    rw [hsize, hw]
    exact encolar_eq_push w _
  simp only [ControladorPID.computar, he, hbuf]
  refine ⟨⟨hkp, hki, hkd, hpol, hsize⟩, trivial, trivial, ?_⟩
  rw [drenar_eq_sum, zero_add, hkp, hki, hkd]

/-! ## A run of calls -/

variable (kp ki kd : K) (polaridad : Bool) (calls : ℕ → K × K)

/-- The controller after the first `n` calls on a fresh one. -/
def controlador (n : ℕ) : ControladorPID K :=
  stateAt ControladorPID.llamada (.nuevo kp ki kd polaridad) calls n

/-- What call `n` (counted from 0) returns. -/
def salida (n : ℕ) : K :=
  outputAt ControladorPID.llamada (.nuevo kp ki kd polaridad) calls n

def errores (n : ℕ) : K := errorDe polaridad (calls n).1 (calls n).2

/-- The representation invariant: after `n` calls the queue is the window of
the errors so far and `prevError` the last of them (zero before the first call). -/
structure Representa (n : ℕ) (c : ControladorPID K) : Prop where
  construido : Construido kp ki kd polaridad c
  cola : c.bufferIntegrador = (Window.pushes (k := 19) (errores polaridad calls) n).elems
  previo : c.prevError = pad (errores polaridad calls) n

theorem controlador_representa (n : ℕ) :
    Representa kp ki kd polaridad calls n (controlador kp ki kd polaridad calls n) := by
  refine stateAt_inv (P := fun n c => Representa kp ki kd polaridad calls n c) ?_ ?_ n
  · exact ⟨⟨rfl, rfl, rfl, rfl, rfl⟩, rfl, rfl⟩
  · intro n c hc
    obtain ⟨hcons, hprev, hcola, -⟩ := computar_spec hc.construido hc.cola (calls n).1 (calls n).2
    exact ⟨hcons, hcola, hprev⟩

theorem cola_eq_recent (n : ℕ) : (controlador kp ki kd polaridad calls n).bufferIntegrador =
    recent 20 (errores polaridad calls) n :=
  (controlador_representa kp ki kd polaridad calls n).cola.trans (Window.pushes_elems _ n)

theorem salida_eq_window (n : ℕ) : salida kp ki kd polaridad calls n =
    kp * (errores polaridad calls n +
      (1 / ki) * ((recent 20 (errores polaridad calls) (n + 1)).sum * 0.003) +
      kd * (errores polaridad calls n - pad (errores polaridad calls) n) / 0.003) := by
  have h := controlador_representa kp ki kd polaridad calls n
  obtain ⟨-, -, -, hout⟩ := computar_spec h.construido h.cola (calls n).1 (calls n).2
  rw [← Window.pushes_elems (k := 19), ← h.previo]
  exact hout

/-- The error of the call with number `i`, counted from 1, and zero for `i = 0`. -/
def errorNumero (i : ℕ) : K := pad (errores polaridad calls) i

/-- **The windowed-integrator law.** Call number `n + 1` of any sequence of
calls on a fresh controller returns the PID sum of its error, of the errors of
the last twenty calls and of the last difference; after it the queue holds
exactly those errors, oldest first, and `prevError` the last. The division by
`ki` is the source's, so nothing is claimed for `ki = 0`. -/
theorem windowed_integrator_law (_hki : ki ≠ 0) (n : ℕ) :
    salida kp ki kd polaridad calls n = kp * (errorNumero polaridad calls (n + 1) +
      (1 / ki) * 0.003 *
        (∑ i ∈ Finset.Icc (max 1 (n + 1 - 19)) (n + 1), errorNumero polaridad calls i) +
      kd * (errorNumero polaridad calls (n + 1) - errorNumero polaridad calls n) / 0.003) ∧
    (controlador kp ki kd polaridad calls (n + 1)).bufferIntegrador =
      (List.Ico (max 1 (n + 1 - 19)) (n + 2)).map (errorNumero polaridad calls) ∧
    (controlador kp ki kd polaridad calls (n + 1)).bufferIntegrador.length ≤ 20 ∧
    (controlador kp ki kd polaridad calls (n + 1)).prevError =
      errorNumero polaridad calls (n + 1) := by
  have hstart : n + 1 + 1 - 20 = n + 1 - 19 := by omega
  refine ⟨?_, ?_, ?_, (controlador_representa kp ki kd polaridad calls (n + 1)).previo⟩
  · rw [salida_eq_window, sum_recent, sum_pad_eq_sum_Icc, hstart, mul_assoc (1 / ki),
      mul_comm (0.003 : K)]
    rfl
  · rw [cola_eq_recent, recent_eq_pad, hstart]
    rfl
  · rw [cola_eq_recent, recent_length]
    exact min_le_left _ _

theorem windowed_integrator_law_two_calls :
    (3 : ℚ) ≠ 0 ∧ salida 2 3 5 true (fun i => if i = 0 then (1, 0) else ((4 : ℚ), 1)) 1 =
      2 * (3 + (1 / 3) * 0.003 * (1 + 3) + 5 * (3 - 1) / 0.003) :=
  ⟨by decide, (windowed_integrator_law 2 3 5 true
    (fun i => if i = 0 then (1, 0) else ((4 : ℚ), 1)) (by decide) 1).1.trans (by
      simp [Finset.sum_Icc_succ_top, errorNumero, errores, errorDe]; norm_num)⟩

/-! ## The controller as a filter -/

/-- The weight of the error `j` calls back. -/
def pesos (kp ki kd : K) : ℕ → K
  | 0 => kp * (1 + 1 / ki * 0.003 + kd / 0.003)
  | 1 => kp * (1 / ki * 0.003 - kd / 0.003)
  | _ + 2 => kp * (1 / ki * 0.003)

/-- **A controller is a finite impulse response filter** of its errors. -/
theorem salida_eq_fir (n : ℕ) : salida kp ki kd polaridad calls n =
    fir (pesos kp ki kd) 20 (errores polaridad calls) n := by
  rw [salida_eq_window, sum_recent, fir]
  simp only [Finset.sum_range_succ' _ 19, Finset.sum_range_succ' _ 18, pesos, ← Finset.mul_sum,
    zero_add, Nat.sub_zero, pad_succ, Nat.add_sub_cancel]
  ring

end PicoDrone.PidSoundness
