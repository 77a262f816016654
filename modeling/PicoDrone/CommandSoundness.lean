import PicoDrone.Firmware.Mpu
import PicoDrone.Library.Run

/-! # The motor commands, for every numeric behaviour

The control step either leaves everything alone or computes the commands of one
iteration and hands all four to the gate (`paso_cases`). From the one-step fact
`nivel_paso` follows, over any number type and whatever `isinf` and the
conversions answer, that the four levels always come from a common iteration. -/
namespace PicoDrone.CommandSoundness
open Firmware.Pwm Firmware.Control Firmware.Mpu Library.Run

section Step

variable {F : Type*} [Zero F] [One F] [Neg F] [Add F] [Sub F] [Mul F] [Div F]
  [NatCast F] [OfScientific F] [DecidableEq F]

/-! ## What one control step can do -/

/-- The inversion of the control step. -/
theorem paso_cases (s : EstadoControl F) (e : EntradaControl F) :
    ((e.num.isinf e.angX = true ∨ e.num.isinf e.angY = true) ∧ s.paso e = (s, none)) ∨
    (e.num.isinf e.angX = false ∧ e.num.isinf e.angY = false ∧
      ∃ q, q = mandar e.num e.rawValue (s.corregir e.angX e.angY).2 ∧
        s.paso e = (if q.escrito then (s.corregir e.angX e.angY).1.escribir q.us
          else (s.corregir e.angX e.angY).1, some q)) := by
  cases hx : e.num.isinf e.angX with
  | true => exact .inl ⟨.inl rfl, by simp [EstadoControl.paso, hx]⟩
  | false =>
    cases hy : e.num.isinf e.angY with
    | true => exact .inl ⟨.inr rfl, by simp [EstadoControl.paso, hx, hy]⟩
    | false => exact .inr ⟨rfl, rfl, _, rfl, by simp [EstadoControl.paso, hx, hy]⟩

theorem paso_finito {s : EstadoControl F} {e : EntradaControl F}
    (hx : e.num.isinf e.angX = false) (hy : e.num.isinf e.angY = false) :
    ∃ q, q = mandar e.num e.rawValue (s.corregir e.angX e.angY).2 ∧
      s.paso e = (if q.escrito then (s.corregir e.angX e.angY).1.escribir q.us
        else (s.corregir e.angX e.angY).1, some q) := by
  obtain ⟨h | h, -⟩ | ⟨-, -, hq⟩ := paso_cases s e
  · rw [hx] at h; cases h
  · rw [hy] at h; cases h
  · exact hq

theorem paso_aceptado {s : EstadoControl F} {e : EntradaControl F}
    (hx : e.num.isinf e.angX = false) (hy : e.num.isinf e.angY = false) :
    (s.paso e).2 = some (mandar e.num e.rawValue (s.corregir e.angX e.angY).2) := by
  obtain ⟨q, rfl, he⟩ := paso_finito hx hy
  rw [he]

theorem paso_pids {s : EstadoControl F} {e : EntradaControl F}
    (hx : e.num.isinf e.angX = false) (hy : e.num.isinf e.angY = false) (m : Motor) :
    (s.paso e).1.pidRoll m = ((s.pidRoll m).computar 0 e.angX).1 ∧
      (s.paso e).1.pidPitch m = ((s.pidPitch m).computar 0 e.angY).1 := by
  obtain ⟨q, -, he⟩ := paso_finito (s := s) hx hy
  rw [he]
  cases q.escrito <;> exact ⟨rfl, rfl⟩

theorem eq_mandar_of_mem {s : EstadoControl F} {e : EntradaControl F} {q : Mandos F}
    (h : q ∈ (s.paso e).2) : q = mandar e.num e.rawValue (s.corregir e.angX e.angY).2 := by
  obtain ⟨-, he⟩ | ⟨-, -, q', hq', he⟩ := paso_cases s e
  · rw [he] at h; cases h
  · rw [he] at h
    cases h
    exact hq'

end Step

/-! ## Levels -/

/-- The level of the channel that motor `m`'s pin is wired to. -/
def nivel {F : Type*} (s : EstadoControl F) (m : Motor) : UInt16 :=
  (s.hw.slices (pwmGpioToSliceNum (gpioMotor m))).level (pwmGpioToChannel (gpioMotor m))

def wrap {F : Type*} (s : EstadoControl F) (m : Motor) : UInt16 :=
  (s.hw.slices (pwmGpioToSliceNum (gpioMotor m))).wrap

/-- Every motor object drives the slice and channel of its own pin. -/
def Cableado {F : Type*} (s : EstadoControl F) : Prop :=
  ∀ m, s.pwmMotor m =
    ⟨gpioMotor m, pwmGpioToSliceNum (gpioMotor m), pwmGpioToChannel (gpioMotor m)⟩

theorem canal_inj (m m' : Motor)
    (h : pwmGpioToSliceNum (gpioMotor m) = pwmGpioToSliceNum (gpioMotor m') ∧
      pwmGpioToChannel (gpioMotor m) = pwmGpioToChannel (gpioMotor m')) : m = m' := by
  revert h
  cases m <;> cases m' <;> decide

section Levels

variable {F : Type*}

theorem nivel_controlar {s : EstadoControl F} (hs : Cableado s) (hw : PwmHw) (a m : Motor)
    (us : UInt16) :
    nivel { s with hw := (s.pwmMotor a).controlar hw us } m =
      if m = a then us else nivel { s with hw := hw } m := by
  simp only [nivel, ControladorPWM.controlar, PwmHw.pwmSetChanLevel_level, hs a]
  by_cases h : m = a
  · rw [if_pos h, if_pos (by rw [h]; exact ⟨rfl, rfl⟩)]
  · rw [if_neg h, if_neg fun hc => h (canal_inj m a hc)]

theorem nivel_escribir {s : EstadoControl F} (hs : Cableado s) (us : Motor → UInt16) (m : Motor) :
    nivel (s.escribir us) m = us m := by
  simp only [EstadoControl.escribir, nivel_controlar hs]
  cases m <;> rfl

theorem wrap_escribir (s : EstadoControl F) (us : Motor → UInt16) (m : Motor) :
    wrap (s.escribir us) m = wrap s m := by
  simp only [wrap, EstadoControl.escribir, ControladorPWM.controlar,
    (PwmHw.pwmSetChanLevel_frame _ _ _ _ _).1]

section Initial

variable [Zero F] [One F]

theorem cableado_nuevo (kp ki kd : F) (hw : PwmHw) :
    Cableado (EstadoControl.nuevo kp ki kd hw) := by
  intro m
  cases m <;> rfl

theorem nivel_nuevo (kp ki kd : F) (hw : PwmHw) (m : Motor) :
    nivel (EstadoControl.nuevo kp ki kd hw) m = 1000 ∧
      wrap (EstadoControl.nuevo kp ki kd hw) m = 3000 := by
  cases m <;> exact ⟨rfl, rfl⟩

end Initial

variable [Zero F] [One F] [Neg F] [Add F] [Sub F] [Mul F] [Div F]
  [NatCast F] [OfScientific F] [DecidableEq F]

/-- **One step, seen from the motors.** The wiring and the wrap stay; the
levels are the pulses of this iteration if the gate was open, and the old ones
otherwise. -/
theorem nivel_paso {s : EstadoControl F} (hs : Cableado s) (e : EntradaControl F) :
    Cableado (s.paso e).1 ∧ (∀ m, wrap (s.paso e).1 m = wrap s m) ∧
      ((∀ m, nivel (s.paso e).1 m = nivel s m) ∧ (∀ q ∈ (s.paso e).2, q.escrito = false) ∨
        ∃ q ∈ (s.paso e).2, q.escrito = true ∧ ∀ m, nivel (s.paso e).1 m = q.us m) := by
  obtain ⟨-, he⟩ | ⟨-, -, q, -, he⟩ := paso_cases s e
  · rw [he]
    exact ⟨hs, fun _ => rfl, .inl ⟨fun _ => rfl, fun q hq => by cases hq⟩⟩
  · have hc : Cableado (s.corregir e.angX e.angY).1 := hs
    rw [he]
    cases hq : q.escrito with
    | false =>
      refine ⟨hc, fun _ => rfl, .inl ⟨fun _ => rfl, ?_⟩⟩
      rintro q' ⟨⟩
      exact hq
    | true =>
      exact ⟨hc, wrap_escribir _ _, .inr ⟨q, rfl, hq, nivel_escribir hc q.us⟩⟩

end Levels

/-! ## Range checks -/

theorem comprobarRango_le (us : UInt16) : (comprobarRango us).toNat ≤ 2000 := by
  unfold comprobarRango
  split
  · decide
  · rename_i h
    omega

theorem paso_us_le {F : Type*} [Zero F] [One F] [Neg F] [Add F] [Sub F] [Mul F] [Div F]
    [NatCast F] [OfScientific F] [DecidableEq F] {s : EstadoControl F} {e : EntradaControl F}
    {q : Mandos F} (h : q ∈ (s.paso e).2) (m : Motor) : (q.us m).toNat ≤ 2000 := by
  rw [eq_mandar_of_mem h]
  exact comprobarRango_le _

theorem paso_escrito {F : Type*} [Zero F] [One F] [Neg F] [Add F] [Sub F] [Mul F] [Div F]
    [NatCast F] [OfScientific F] [DecidableEq F] {s : EstadoControl F} {e : EntradaControl F}
    {q : Mandos F} (h : q ∈ (s.paso e).2) : q.escrito = puerta (q.us .m1) := by
  rw [eq_mandar_of_mem h]
  exact mandar_escrito _ _ _

theorem puerta_iff (us : UInt16) : puerta us = true ↔ us.toNat < 2000 := by
  unfold puerta
  rw [Bool.and_eq_true, decide_eq_true_eq, decide_eq_true_eq]
  omega

/-! ## Runs of the whole loop -/

section Run

variable {F : Type*} [Zero F] [One F] [Neg F] [Add F] [Sub F] [Mul F] [Div F]
  [NatCast F] [IntCast F] [OfScientific F] [DecidableEq F]

theorem reloj_control (lib : Libm F) (s : Reloj F) (e : EntradaReloj F) :
    ∃ c : EntradaControl F, (s.paso lib e).1.bucle.control = (s.bucle.control.paso c).1 ∧
      (s.paso lib e).2.mandos = (s.bucle.control.paso c).2 :=
  ⟨_, rfl, rfl⟩

variable (lib : Libm F) (hw : PwmHw) (angXPrev : F) (tiempoPrevio : UInt32)
  (ins : ℕ → EntradaReloj F)

/-- The control state of `mpu6050_run` after `n` iterations. -/
def controlEn (n : ℕ) : EstadoControl F :=
  (stateAt (Reloj.paso lib) (mpu6050Run hw angXPrev tiempoPrevio) ins n).bucle.control

def mandosEn (n : ℕ) : Option (Mandos F) :=
  (outputAt (Reloj.paso lib) (mpu6050Run hw angXPrev tiempoPrevio) ins n).mandos

/-- The four levels are the arming level, or the pulses of one of the first `n` iterations. -/
def Comun (n : ℕ) : Prop :=
  (∀ m, nivel (controlEn lib hw angXPrev tiempoPrevio ins n) m = 1000) ∨
    ∃ i < n, ∃ q ∈ mandosEn lib hw angXPrev tiempoPrevio ins i,
      q.escrito = true ∧ ∀ m, nivel (controlEn lib hw angXPrev tiempoPrevio ins n) m = q.us m

theorem controlEn_cableado (n : ℕ) :
    Cableado (controlEn lib hw angXPrev tiempoPrevio ins n) ∧
      ∀ m, wrap (controlEn lib hw angXPrev tiempoPrevio ins n) m = 3000 := by
  refine stateAt_inv (P := fun _ (s : Reloj F) => Cableado s.bucle.control ∧
    ∀ m, wrap s.bucle.control m = 3000) ?_ ?_ n
  · exact ⟨cableado_nuevo _ _ _ hw, fun m => (nivel_nuevo _ _ _ hw m).2⟩
  · rintro n s ⟨hc, hwrap⟩
    obtain ⟨c, hs, -⟩ := reloj_control lib s (ins n)
    obtain ⟨hc', hw', -⟩ := nivel_paso hc c
    rw [hs]
    exact ⟨hc', fun m => (hw' m).trans (hwrap m)⟩

theorem comun_succ {n : ℕ} (h : Comun lib hw angXPrev tiempoPrevio ins n) :
    Comun lib hw angXPrev tiempoPrevio ins (n + 1) := by
  have hc := (controlEn_cableado lib hw angXPrev tiempoPrevio ins n).1
  obtain ⟨c, hs, hq⟩ := reloj_control lib
    (stateAt (Reloj.paso lib) (mpu6050Run hw angXPrev tiempoPrevio) ins n) (ins n)
  have hs' : controlEn lib hw angXPrev tiempoPrevio ins (n + 1) =
    ((controlEn lib hw angXPrev tiempoPrevio ins n).paso c).1 := hs
  have hq' : mandosEn lib hw angXPrev tiempoPrevio ins n =
    ((controlEn lib hw angXPrev tiempoPrevio ins n).paso c).2 := hq
  obtain ⟨-, -, ⟨hold, -⟩ | ⟨q, hmem, hesc, hnew⟩⟩ := nivel_paso hc c
  · -- rejected angles or a closed gate: the levels of before
    rw [Comun, hs']
    rcases h with h0 | ⟨i, hi, q, hmem, hesc, hlev⟩
    · exact .inl fun m => (hold m).trans (h0 m)
    · exact .inr ⟨i, by omega, q, hmem, hesc, fun m => (hold m).trans (hlev m)⟩
  · rw [Comun, hs']
    exact .inr ⟨n, by omega, q, by rw [hq']; exact hmem, hesc, hnew⟩

/-- **The motors are never left with commands of different iterations.** For
every number type, every answer of `isinf` and of the conversions in each
iteration, and every input, after any number of iterations the four levels are
at most 2000, below the wrap of their slices, and they are the pulses one and
the same iteration left after its range checks, or all still the arming level. -/
theorem motor_commands_coherent (n : ℕ) :
    (∀ m, (nivel (controlEn lib hw angXPrev tiempoPrevio ins n) m).toNat ≤ 2000 ∧
      wrap (controlEn lib hw angXPrev tiempoPrevio ins n) m = 3000) ∧
    ((∀ m, nivel (controlEn lib hw angXPrev tiempoPrevio ins n) m = 1000) ∨
      ∃ i < n, ∃ q, mandosEn lib hw angXPrev tiempoPrevio ins i = some q ∧
        ∀ m, nivel (controlEn lib hw angXPrev tiempoPrevio ins n) m = q.us m) := by
  have hcomun : Comun lib hw angXPrev tiempoPrevio ins n := by
    induction n with
    | zero => exact .inl fun m => (nivel_nuevo _ _ _ hw m).1
    | succ n ih => exact comun_succ lib hw angXPrev tiempoPrevio ins ih
  have hwrap := (controlEn_cableado lib hw angXPrev tiempoPrevio ins n).2
  rcases hcomun with h0 | ⟨i, hi, q, hmem, -, hlev⟩
  · refine ⟨fun m => ⟨?_, hwrap m⟩, .inl h0⟩
    rw [h0 m]
    decide
  · refine ⟨fun m => ⟨?_, hwrap m⟩, .inr ⟨i, hi, q, hmem, hlev⟩⟩
    obtain ⟨c, -, hq⟩ := reloj_control lib
      (stateAt (Reloj.paso lib) (mpu6050Run hw angXPrev tiempoPrevio) ins i) (ins i)
    rw [hlev m]
    exact paso_us_le (hq.symm.trans hmem) m

end Run

end PicoDrone.CommandSoundness
