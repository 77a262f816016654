import PicoDrone.Firmware.Programa
import PicoDrone.ForgettingSoundness
import PicoDrone.SensorSoundness

/-! # The flight program on a bus that fails

On a bus that works the sample of an iteration is what the registers hold,
whatever the pointer, the buffer and the old outputs are, so nothing of an
earlier failure is left in it. What is left in the estimates and in the windows
of the controllers fades at the rate of the filter (`bus_failures_forgotten`). -/
namespace PicoDrone.BusSoundness
open Firmware.I2c Firmware.Pwm Firmware.Control Firmware.Mpu Firmware.Sensor Firmware.Programa
open Library.Run Library.SlidingWindow Library.Fir Library.Leaky
open SensorSoundness MixerSoundness FlightSoundness LoopSoundness ForgettingSoundness

/-! ## The sample of an iteration -/

/-- The sample in the registers. -/
def muestraEnRegistros (registros : UInt8 → UInt8) : Muestra :=
  let en (r : UInt8) : Int16 := palabra (registros r) (registros (r + 1))
  { ax := en 0x3B, ay := en 0x3D, az := en 0x3F, gx := en 0x43, gy := en 0x45 }

/-- The transfers of the accelerometer and of the gyroscope do not fail. -/
def Responde (exito : ℕ → Bool) : Prop := ∀ k < 4, exito k = true

theorem muestra_de_registros {b : Bus} (hok : Responde b.exito) (buffer : Fin 6 → UInt8)
    (s : Crudo) : muestraDe (mpu6050ReadRaw b buffer s).2 = muestraEnRegistros b.registros := by
  have haccel (i : Fin 3) := accel_toInt b buffer s i
  have hgyro (i : Fin 3) := gyro_toInt b buffer s i
  simp only [comienzo, comienzoGyro, hok 0 (by decide), hok 1 (by decide), hok 2 (by decide),
    hok 3 (by decide), if_true, enRegistros, ← palabra_toInt, Int16.toInt_inj] at haccel hgyro
  rw [muestraDe, Crudo.ejes, haccel, haccel, haccel, hgyro, hgyro]
  rfl

/-! ## Runs -/

/-- What every run on the same flight sees: the registers and the clock. -/
structure Entorno where
  registros : ℕ → UInt8 → UInt8
  tiempoActual : ℕ → UInt32

/-- What is a run's own, with finite numbers. -/
structure Contexto (K : Type*) where
  exito : ℕ → ℕ → Bool
  buffer : ℕ → Fin 6 → UInt8
  rawValue : ℕ → UInt16
  conv : ℕ → Motor → K → UInt16

def Contexto.entrada {K : Type*} (c : Contexto K) (e : Entorno) (n : ℕ) : EntradaPrograma K :=
  { registros := e.registros n, exito := c.exito n, buffer := c.buffer n,
    tiempoActual := e.tiempoActual n, rawValue := c.rawValue n,
    num := { isinf := fun _ => false, aUint16 := c.conv n } }

section Runs

variable {K : Type*} [Field K] [DecidableEq K] (lib : Libm K) (e : Entorno) (c : Contexto K)
  (inicio : EstadoPrograma K)

def estado (n : ℕ) : EstadoPrograma K := stateAt (EstadoPrograma.paso lib) inicio (c.entrada e) n

def mandos (n : ℕ) : Option (Mandos K) :=
  (outputAt (EstadoPrograma.paso lib) inicio (c.entrada e) n).mandos

/-- The outcome of `mpu6050_read_raw` in iteration `n`. -/
def lectura (n : ℕ) : Bus × Crudo :=
  let s := estado lib e c inicio n
  mpu6050ReadRaw { registros := e.registros n, puntero := s.puntero, exito := c.exito n }
    (c.buffer n) s.crudo

/-- The run of the loop on the samples this run delivers. -/
def registro : Registro K :=
  { muestra := fun n => muestraDe (lectura lib e c inicio n).2
    tiempoActual := e.tiempoActual
    rawValue := c.rawValue
    conv := c.conv }

/-- **The program refines the loop**: it is the loop on the samples it reads. -/
theorem estado_reloj (n : ℕ) : (estado lib e c inicio n).reloj =
    stateAt (Reloj.paso lib) inicio.reloj (registro lib e c inicio).entrada n :=
  stateAt_proj EstadoPrograma.reloj (fun _ => rfl) n

theorem mandos_reloj (n : ℕ) : mandos lib e c inicio n =
    (outputAt (Reloj.paso lib) inicio.reloj (registro lib e c inicio).entrada n).mandos := by
  rw [outputAt, ← estado_reloj]
  rfl

variable (hw : PwmHw) (bus : Bus) (crudo : Crudo) (x0 : K) (t0 : UInt32)

/-- The inputs of the filters in the run from the start of the program. -/
def trayecto : Trayecto K := (registro lib e c (.inicial hw bus crudo x0 t0)).trayecto t0

theorem estado_angulos (n : ℕ) :
    let bucle := (estado lib e c (.inicial hw bus crudo x0 t0) n).reloj.bucle
    let t := trayecto lib e c hw bus crudo x0 t0
    bucle.angXPrev = leaky 0.98 x0 (t.aporteX lib) n ∧
      bucle.angYPrev = leaky 0.98 0 (t.aporteY lib) n := by
  intro bucle t
  have hbucle : bucle = t.estado lib hw x0 0 n := by
    have h := (estado_reloj lib e c (.inicial hw bus crudo x0 t0) n).trans
      (reloj_eq (registro lib e c (.inicial hw bus crudo x0 t0)) lib hw x0 0 t0 n)
    exact congrArg Reloj.bucle h
  rw [hbucle]
  exact angulos_eq t lib hw x0 0 n

theorem mandos_vuelo (n : ℕ) : mandos lib e c (.inicial hw bus crudo x0 t0) n =
    ((trayecto lib e c hw bus crudo x0 t0).vuelo lib x0 0).mandos 0.8 0.003 0.0015 hw n := by
  rw [mandos_reloj]
  exact congrArg Salida.mandos ((reloj_salida_eq _ lib hw x0 0 t0 n).trans (salida_eq ..))

end Runs

theorem aporte_eq {K : Type*} [Field K] [DecidableEq K] (lib : Libm K) (t0 : UInt32)
    {r r' : Registro K} (ht : r.tiempoActual = r'.tiempoActual) {i : ℕ}
    (hm : r.muestra i = r'.muestra i) :
    (r.trayecto t0).aporteX lib i = (r'.trayecto t0).aporteX lib i ∧
      (r.trayecto t0).aporteY lib i = (r'.trayecto t0).aporteY lib i := by
  have hdt : (r.trayecto t0).dt i = (r'.trayecto t0).dt i := by
    cases i with
    | zero => simp only [Registro.trayecto, Registro.previo, ht]
    | succ i => simp only [Registro.trayecto, Registro.previo, ht]
  have hmuestra : (r.trayecto t0).muestra i = (r'.trayecto t0).muestra i := hm
  simp only [Trayecto.aporteX, Trayecto.aporteY, hdt, hmuestra, and_self]

section Failures

variable {K : Type*} [Field K] [LinearOrder K] [IsStrictOrderedRing K]

/-- What the window of twenty has seen bounds the tilt it weighs. -/
theorem abs_inclinacion_le_of_window {ang : ℕ → K} {n : ℕ} {A : K}
    (h : ∀ j < 20, |pad ang (n + 1 - j)| ≤ A) : |inclinacion ang n| ≤ 16.8 * A := by
  rw [← sum_abs_pesosVuelo]
  exact abs_fir_le_of_pad h

theorem abs_window_le {ang : ℕ → K} {d D : K} {N n : ℕ}
    (h : ∀ i, ang (N + i) = 0.98 ^ (i + 1) * d) (hd : |d| ≤ D) (hn : 20 ≤ n + 1) {j : ℕ}
    (hj : j < 20) : |pad ang (N + n + 1 - j)| ≤ D * 0.98 ^ (n + 1 - 19) := by
  have hD : 0 ≤ D := (abs_nonneg d).trans hd
  have hindex : N + n + 1 - j = N + (n - j) + 1 := by omega
  rw [hindex, pad_succ, h]
  calc |0.98 ^ (n - j + 1) * d| ≤ D * 0.98 ^ (n - j + 1) := abs_decay_le _ hd
    _ ≤ D * 0.98 ^ (n + 1 - 19) :=
        mul_le_mul_of_nonneg_left
          (pow_le_pow_of_le_one (by norm_num) (by norm_num) (by omega)) hD

/-- Flights whose angles differ by decaying amounts from iteration `N` on, once the
windows hold no older angle. -/
theorem abs_ctrl_sub_le_after {v v' : Vuelo K} {dx dy : K} {N n : ℕ}
    (hx : ∀ i, v.angX (N + i) - v'.angX (N + i) = 0.98 ^ (i + 1) * dx)
    (hy : ∀ i, v.angY (N + i) - v'.angY (N + i) = 0.98 ^ (i + 1) * dy) (hn : 20 ≤ n + 1)
    (m : Motor) :
    |v.ctrl 0.8 0.003 0.0015 (N + n) m - v'.ctrl 0.8 0.003 0.0015 (N + n) m| ≤
      16.8 * 0.98 ^ (n + 1 - 19) * max |dx| |dy| := by
  have htx : |inclinacion (fun i => v.angX i - v'.angX i) (N + n)| ≤
      16.8 * (max |dx| |dy| * 0.98 ^ (n + 1 - 19)) :=
    abs_inclinacion_le_of_window fun _ hj => abs_window_le hx (le_max_left _ _) hn hj
  have hty : |inclinacion (fun i => v.angY i - v'.angY i) (N + n)| ≤
      16.8 * (max |dx| |dy| * 0.98 ^ (n + 1 - 19)) :=
    abs_inclinacion_le_of_window fun _ hj => abs_window_le hy (le_max_right _ _) hn hj
  have hcorr := abs_correccion_le (fun i => v.angX i - v'.angX i)
    (fun i => v.angY i - v'.angY i) (N + n) m
  rw [ctrl_eq_correccion, ctrl_eq_correccion, correccion_sub]
  linarith

variable (lib : Libm K) (e : Entorno) (c c' : Contexto K)

omit [IsStrictOrderedRing K] in
/-- Two runs deliver the same samples from the time on that the bus works for both. -/
theorem registro_muestra_eq (inicio inicio' : EstadoPrograma K) {N : ℕ}
    (hok : ∀ i, N ≤ i → Responde (c.exito i)) (hok' : ∀ i, N ≤ i → Responde (c'.exito i)) {i : ℕ}
    (hi : N ≤ i) : (registro lib e c inicio).muestra i = (registro lib e c' inicio').muestra i := by
  have h : (registro lib e c inicio).muestra i = muestraEnRegistros (e.registros i) :=
    muestra_de_registros (hok i hi) _ _
  have h' : (registro lib e c' inicio').muestra i = muestraEnRegistros (e.registros i) :=
    muestra_de_registros (hok' i hi) _ _
  rw [h, h']

omit [IsStrictOrderedRing K] in
theorem registro_tiempo (inicio inicio' : EstadoPrograma K) : (registro lib e c inicio).tiempoActual =
    (registro lib e c' inicio').tiempoActual := rfl

/-- **A bus failure is forgotten at the rate 0.98.** Two runs of the flight program
on the same registers and clock readings, with any bus failures before iteration
`N` in either of them and whatever is in the buffers, the pointers, the old
outputs and `ang_x_prev`: if from `N` on the transfers of the accelerometer and of
the gyroscope do not fail, the differences that the estimates have then decay by
0.98 in each iteration, and from the twentieth on so does a bound on the
differences of the corrections. -/
theorem bus_failures_forgotten (hw hw' : PwmHw) (bus bus' : Bus) (crudo crudo' : Crudo)
    (x0 x0' : K) (t0 : UInt32) {N : ℕ} (hok : ∀ i, N ≤ i → Responde (c.exito i))
    (hok' : ∀ i, N ≤ i → Responde (c'.exito i)) (n : ℕ) :
    let bucle := fun k => (estado lib e c (.inicial hw bus crudo x0 t0) k).reloj.bucle
    let bucle' := fun k => (estado lib e c' (.inicial hw' bus' crudo' x0' t0) k).reloj.bucle
    let dx := (bucle N).angXPrev - (bucle' N).angXPrev
    let dy := (bucle N).angYPrev - (bucle' N).angYPrev
    ((bucle (N + n)).angXPrev - (bucle' (N + n)).angXPrev = 0.98 ^ n * dx ∧
      (bucle (N + n)).angYPrev - (bucle' (N + n)).angYPrev = 0.98 ^ n * dy) ∧
    (20 ≤ n → ∃ q q', mandos lib e c (.inicial hw bus crudo x0 t0) (N + n - 1) = some q ∧
      mandos lib e c' (.inicial hw' bus' crudo' x0' t0) (N + n - 1) = some q' ∧
      ∀ m, |q.ctrl m - q'.ctrl m| ≤ 16.8 * 0.98 ^ (n - 19) * max |dx| |dy|) := by
  intro bucle bucle' dx dy
  let t := trayecto lib e c hw bus crudo x0 t0
  let t' := trayecto lib e c' hw' bus' crudo' x0' t0
  have haporte (i : ℕ) (hi : N ≤ i) :
      t.aporteX lib i = t'.aporteX lib i ∧ t.aporteY lib i = t'.aporteY lib i := by
    have hm := registro_muestra_eq lib e c c' (.inicial hw bus crudo x0 t0)
      (.inicial hw' bus' crudo' x0' t0) hok hok' hi
    exact aporte_eq lib t0 (registro_tiempo lib e c c' _ _) hm
  have hang (k : ℕ) : (bucle k).angXPrev = leaky 0.98 x0 (t.aporteX lib) k ∧
      (bucle k).angYPrev = leaky 0.98 0 (t.aporteY lib) k :=
    estado_angulos lib e c hw bus crudo x0 t0 k
  have hang' (k : ℕ) : (bucle' k).angXPrev = leaky 0.98 x0' (t'.aporteX lib) k ∧
      (bucle' k).angYPrev = leaky 0.98 0 (t'.aporteY lib) k :=
    estado_angulos lib e c' hw' bus' crudo' x0' t0 k
  have hx (n : ℕ) : leaky 0.98 x0 (t.aporteX lib) (N + n) -
      leaky 0.98 x0' (t'.aporteX lib) (N + n) = 0.98 ^ n * dx := by
    rw [leaky_sub_of_agree (fun i hi => (haporte i hi).1) n, ← (hang N).1, ← (hang' N).1]
  have hy (n : ℕ) : leaky 0.98 0 (t.aporteY lib) (N + n) -
      leaky 0.98 0 (t'.aporteY lib) (N + n) = 0.98 ^ n * dy := by
    rw [leaky_sub_of_agree (fun i hi => (haporte i hi).2) n, ← (hang N).2, ← (hang' N).2]
  refine ⟨⟨?_, ?_⟩, fun hn => ?_⟩
  · rw [(hang _).1, (hang' _).1, hx]
  · rw [(hang _).2, (hang' _).2, hy]
  · obtain ⟨k, rfl⟩ : ∃ k, n = k + 1 := ⟨n - 1, by omega⟩
    have hq := (mandos_vuelo lib e c hw bus crudo x0 t0 (N + k)).trans (mandos_eq ..)
    have hq' := (mandos_vuelo lib e c' hw' bus' crudo' x0' t0 (N + k)).trans (mandos_eq ..)
    exact ⟨_, _, hq, hq', abs_ctrl_sub_le_after (fun i => hx (i + 1)) (fun i => hy (i + 1)) hn⟩

end Failures

/-! ## One run -/

def enReposo : Entorno :=
  { registros := fun _ r => if r = 0x3F then 0x40 else 0
    tiempoActual := fun n => UInt32.ofNat (3000 * (n + 1)) }

def sinFallos : Contexto ℝ :=
  { exito := fun _ _ => true, buffer := fun _ _ => 0, rawValue := fun _ => 2000,
    conv := fun _ _ _ => 0 }

/-- All transfers of the first iteration fail. -/
def conFallos : Contexto ℝ := { sinFallos with exito := fun i _ => decide (1 ≤ i) }

noncomputable def inicioReal : EstadoPrograma ℝ :=
  .inicial default (.sano (fun _ => 0) 0) { accel := fun _ => 0, gyro := fun _ => 0, temp := 0 } 0 0

noncomputable def angulosEn (c : Contexto ℝ) (n : ℕ) : ℝ × ℝ :=
  ((estado libmReal enReposo c inicioReal n).reloj.bucle.angXPrev,
    (estado libmReal enReposo c inicioReal n).reloj.bucle.angYPrev)

theorem bus_failures_forgotten_after_one :
    ∃ q q', mandos libmReal enReposo sinFallos inicioReal 20 = some q ∧
      mandos libmReal enReposo conFallos inicioReal 20 = some q' ∧
      ∀ m, |q.ctrl m - q'.ctrl m| ≤ 16.8 * 0.98 ^ 1 *
        max |(angulosEn sinFallos 1).1 - (angulosEn conFallos 1).1|
          |(angulosEn sinFallos 1).2 - (angulosEn conFallos 1).2| :=
  (bus_failures_forgotten libmReal enReposo sinFallos conFallos default default _ _ _ _ 0 0 0
    (fun _ _ _ _ => rfl) (fun _ hi _ _ => decide_eq_true hi) 20).2 (by decide)

end PicoDrone.BusSoundness
