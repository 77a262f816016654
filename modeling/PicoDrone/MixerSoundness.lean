import PicoDrone.CommandSoundness
import PicoDrone.PidSoundness

/-! # The eight controllers are a mixer of two

A flight feeds the control step arbitrary angle pairs and throttle readings,
with numbers that never fail the `isinf` test. Each of the eight controllers of
a flight runs as if it were alone (`pidRoll_eq`, `pidPitch_eq`), and a change of
polarity only changes the sign of a response, so two reference controllers
determine the four corrections (`mixer_of_two`). -/
namespace PicoDrone.MixerSoundness
open Firmware.Pid Firmware.Pwm Firmware.Control Library.Run Library.SlidingWindow Library.Fir
open PidSoundness CommandSoundness

/-- The inputs of a run of the control step with finite numbers. `conv` is the
conversion to `uint16_t`, which may differ from iteration to iteration. -/
structure Vuelo (K : Type*) where
  angX : ℕ → K
  angY : ℕ → K
  rawValue : ℕ → UInt16
  conv : ℕ → Motor → K → UInt16

def Vuelo.entrada {K : Type*} (v : Vuelo K) (n : ℕ) : EntradaControl K :=
  { angX := v.angX n, angY := v.angY n, rawValue := v.rawValue n,
    num := { isinf := fun _ => false, aUint16 := v.conv n } }

variable {K : Type*} [Field K] [DecidableEq K]

section Flight

variable (v : Vuelo K) (kp ki kd : K) (hw : PwmHw)

def Vuelo.control (n : ℕ) : EstadoControl K :=
  stateAt EstadoControl.paso (.nuevo kp ki kd hw) v.entrada n

def Vuelo.mandos (n : ℕ) : Option (Mandos K) :=
  outputAt EstadoControl.paso (.nuevo kp ki kd hw) v.entrada n

/-! ## Each controller runs alone -/

theorem pidRoll_eq (m : Motor) (n : ℕ) : (v.control kp ki kd hw n).pidRoll m =
    controlador kp ki kd (polaridadRoll m) (fun i => (0, v.angX i)) n :=
  stateAt_proj (fun s : EstadoControl K => s.pidRoll m) (fun _ => (paso_pids rfl rfl m).1) n

theorem pidPitch_eq (m : Motor) (n : ℕ) : (v.control kp ki kd hw n).pidPitch m =
    controlador kp ki kd (polaridadPitch m) (fun i => (0, v.angY i)) n :=
  stateAt_proj (fun s : EstadoControl K => s.pidPitch m) (fun _ => (paso_pids rfl rfl m).2) n

/-- The correction of motor `m` in iteration `n`, from the two runs it depends on. -/
def Vuelo.ctrl (n : ℕ) (m : Motor) : K :=
  media (salida kp ki kd (polaridadRoll m) (fun i => (0, v.angX i)) n)
    (salida kp ki kd (polaridadPitch m) (fun i => (0, v.angY i)) n)

theorem mandos_eq (n : ℕ) : v.mandos kp ki kd hw n =
    some (mandar ⟨fun _ => false, v.conv n⟩ (v.rawValue n) (v.ctrl kp ki kd n)) := by
  have hctrl : ((v.control kp ki kd hw n).corregir (v.angX n) (v.angY n)).2 =
      v.ctrl kp ki kd n := by
    funext m
    simp only [EstadoControl.corregir, pidRoll_eq, pidPitch_eq]
    rfl
  rw [← hctrl]
  exact paso_aceptado rfl rfl

end Flight

/-! ## Polarity is a sign -/

/-- The sign with which a controller of this polarity answers, relative to the positive one. -/
def signo (polaridad : Bool) : K := if polaridad then 1 else -1

omit [DecidableEq K] in
theorem errores_polaridad (polaridad : Bool) (ang : ℕ → K) :
    errores polaridad (fun i => (0, ang i)) = fun n => -signo polaridad * ang n := by
  funext n
  cases polaridad <;> simp [errores, errorDe, signo]

/-- The output of a controller with setpoint 0, as a filter of the angle. -/
theorem salida_eq_signo_fir (kp ki kd : K) (polaridad : Bool) (ang : ℕ → K) (n : ℕ) :
    salida kp ki kd polaridad (fun i => (0, ang i)) n =
      -signo polaridad * fir (pesos kp ki kd) 20 ang n := by
  rw [salida_eq_fir, errores_polaridad]
  cases polaridad with
  | true => simpa [signo] using fir_neg (pesos kp ki kd) 20 ang n
  | false => simp [signo]

def referencia (kp ki kd : K) (ang : ℕ → K) (n : ℕ) : K :=
  salida kp ki kd true (fun i => (0, ang i)) n

theorem salida_eq_referencia (kp ki kd : K) (polaridad : Bool) (ang : ℕ → K) (n : ℕ) :
    salida kp ki kd polaridad (fun i => (0, ang i)) n =
      signo polaridad * referencia kp ki kd ang n := by
  rw [referencia, salida_eq_signo_fir, salida_eq_signo_fir]
  cases polaridad <;> simp [signo]

/-! ## The mixer -/

theorem ctrl_eq_mixer (v : Vuelo K) (kp ki kd : K) (n : ℕ) (m : Motor) :
    v.ctrl kp ki kd n m = (signo (polaridadRoll m) * referencia kp ki kd v.angX n +
      signo (polaridadPitch m) * referencia kp ki kd v.angY n) / 2 := by
  rw [Vuelo.ctrl, salida_eq_referencia, salida_eq_referencia, media]

/-- **The bank of eight is a mixer of two.** In every iteration of every flight
the corrections are the four signed half sums of the outputs `R` and `P` of two
reference controllers with the same gains that see all the angles so far; the
diagonal pairs cancel. -/
theorem mixer_of_two (v : Vuelo K) (kp ki kd : K) (hw : PwmHw) (n : ℕ) :
    let R := referencia kp ki kd v.angX n
    let P := referencia kp ki kd v.angY n
    ∃ q, v.mandos kp ki kd hw n = some q ∧
      (q.ctrl .m1 = (R + P) / 2 ∧ q.ctrl .m2 = (R - P) / 2 ∧
        q.ctrl .m3 = (-R + P) / 2 ∧ q.ctrl .m4 = (-R - P) / 2) ∧
      q.ctrl .m4 = -q.ctrl .m1 ∧ q.ctrl .m3 = -q.ctrl .m2 ∧
      q.ctrl .m1 + q.ctrl .m2 + q.ctrl .m3 + q.ctrl .m4 = 0 := by
  intro R P
  have h1 : v.ctrl kp ki kd n .m1 = (R + P) / 2 := by
    rw [ctrl_eq_mixer]; simp [signo, polaridadRoll, polaridadPitch, R, P]
  have h2 : v.ctrl kp ki kd n .m2 = (R - P) / 2 := by
    rw [ctrl_eq_mixer]; simp [signo, polaridadRoll, polaridadPitch, R, P, sub_eq_add_neg]
  have h3 : v.ctrl kp ki kd n .m3 = (-R + P) / 2 := by
    rw [ctrl_eq_mixer]; simp [signo, polaridadRoll, polaridadPitch, R, P]
  have h4 : v.ctrl kp ki kd n .m4 = (-R - P) / 2 := by
    rw [ctrl_eq_mixer]; simp [signo, polaridadRoll, polaridadPitch, R, P, sub_eq_add_neg]
  refine ⟨_, mandos_eq v kp ki kd hw n, ⟨h1, h2, h3, h4⟩, ?_, ?_, ?_⟩
  · rw [mandar_ctrl, h4, h1]
    ring
  · rw [mandar_ctrl, h3, h2]
    ring
  · rw [mandar_ctrl, h1, h2, h3, h4]
    ring

end PicoDrone.MixerSoundness
