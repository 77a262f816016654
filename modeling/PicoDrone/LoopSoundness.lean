import Mathlib.Analysis.SpecialFunctions.Trigonometric.Arctan
import PicoDrone.Library.Leaky
import PicoDrone.MixerSoundness

/-! # The loop is two first-order recursions that fly the control step

With finite numbers the estimates of the loop are the values of two first-order
recursions with coefficient 0.98 (`angulos_eq`), and its control state and its
commands are those of the flight along these estimates (`salida_eq`). The clock
only supplies the time steps (`reloj_eq`). -/
namespace PicoDrone.LoopSoundness
open Firmware.Pwm Firmware.Control Firmware.Mpu Library.Run Library.Leaky
open MixerSoundness

/-- The inputs of a run of the loop body with finite numbers. -/
structure Trayecto (K : Type*) where
  muestra : ℕ → Muestra
  dt : ℕ → K
  rawValue : ℕ → UInt16
  conv : ℕ → Motor → K → UInt16

def Trayecto.entrada {K : Type*} (t : Trayecto K) (n : ℕ) : EntradaBucle K :=
  { muestra := t.muestra n, dt := t.dt n, rawValue := t.rawValue n,
    num := { isinf := fun _ => false, aUint16 := t.conv n } }

noncomputable def libmReal : Libm ℝ := { sqrt := Real.sqrt, atan := Real.arctan }

variable {K : Type*} [Field K] [DecidableEq K]

def entradaControl (lib : Libm K) (s : Bucle K) (e : EntradaBucle K) : EntradaControl K :=
  { angX := filtro s.angXPrev e.muestra.gx e.dt (accelAngX lib e.muestra)
    angY := filtro s.angYPrev e.muestra.gy e.dt (accelAngY lib e.muestra)
    rawValue := e.rawValue
    num := e.num }

theorem paso_eq (lib : Libm K) (s : Bucle K) (e : EntradaBucle K) :
    let c := entradaControl lib s e
    s.paso lib e = ({ control := (s.control.paso c).1, angXPrev := c.angX, angYPrev := c.angY },
      { angX := c.angX, angY := c.angY, mandos := (s.control.paso c).2 }) := rfl

section Body

variable (t : Trayecto K) (lib : Libm K) (hw : PwmHw) (x0 y0 : K)

def Trayecto.estado (n : ℕ) : Bucle K :=
  stateAt (Bucle.paso lib) (.inicial hw x0 y0) t.entrada n

def Trayecto.salida (n : ℕ) : Salida K :=
  outputAt (Bucle.paso lib) (.inicial hw x0 y0) t.entrada n

/-! ## The estimates -/

/-- What the filter adds to 0.98 of the previous estimate. -/
def aporte (g : Int16) (dt accelAng : K) : K :=
  0.98 * ((g.toInt.tdiv 131 : ℤ) * dt) + 0.02 * accelAng

omit [DecidableEq K] in
theorem filtro_eq (prev : K) (g : Int16) (dt accelAng : K) :
    filtro prev g dt accelAng = 0.98 * prev + aporte g dt accelAng := by
  rw [filtro, aporte]
  ring

def Trayecto.aporteX (n : ℕ) : K :=
  aporte (t.muestra n).gx (t.dt n) (accelAngX lib (t.muestra n))

def Trayecto.aporteY (n : ℕ) : K :=
  aporte (t.muestra n).gy (t.dt n) (accelAngY lib (t.muestra n))

theorem angulos_eq (n : ℕ) : (t.estado lib hw x0 y0 n).angXPrev = leaky 0.98 x0 (t.aporteX lib) n ∧
    (t.estado lib hw x0 y0 n).angYPrev = leaky 0.98 y0 (t.aporteY lib) n := by
  refine stateAt_inv (P := fun n (s : Bucle K) => s.angXPrev = leaky 0.98 x0 (t.aporteX lib) n ∧
    s.angYPrev = leaky 0.98 y0 (t.aporteY lib) n) ⟨rfl, rfl⟩ ?_ n
  rintro n s ⟨hx, hy⟩
  constructor
  · rw [leaky_succ, ← hx]; exact filtro_eq _ _ _ _
  · rw [leaky_succ, ← hy]; exact filtro_eq _ _ _ _

/-! ## The flight along the estimates -/

def Trayecto.vuelo : Vuelo K :=
  { angX := fun n => leaky 0.98 x0 (t.aporteX lib) (n + 1)
    angY := fun n => leaky 0.98 y0 (t.aporteY lib) (n + 1)
    rawValue := t.rawValue
    conv := t.conv }

theorem entrada_eq (n : ℕ) : entradaControl lib (t.estado lib hw x0 y0 n) (t.entrada n) =
    (t.vuelo lib x0 y0).entrada n := by
  obtain ⟨hx, hy⟩ := angulos_eq t lib hw x0 y0 n
  unfold entradaControl
  rw [filtro_eq, filtro_eq, hx, hy]
  rfl

theorem control_eq (n : ℕ) : (t.estado lib hw x0 y0 n).control =
    (t.vuelo lib x0 y0).control 0.8 0.003 0.0015 hw n := by
  induction n with
  | zero => rfl
  | succ n ih =>
    have hstep : (t.estado lib hw x0 y0 (n + 1)).control =
        ((t.estado lib hw x0 y0 n).control.paso
          (entradaControl lib (t.estado lib hw x0 y0 n) (t.entrada n))).1 := rfl
    rw [hstep, entrada_eq, ih]
    rfl

/-- **The loop flies the control step along its estimates.** -/
theorem salida_eq (n : ℕ) : t.salida lib hw x0 y0 n =
    { angX := (t.vuelo lib x0 y0).angX n, angY := (t.vuelo lib x0 y0).angY n,
      mandos := (t.vuelo lib x0 y0).mandos 0.8 0.003 0.0015 hw n } := by
  have hout : t.salida lib hw x0 y0 n =
      ((t.estado lib hw x0 y0 n).paso lib (t.entrada n)).2 := rfl
  rw [hout, paso_eq, entrada_eq, control_eq]
  rfl

end Body

/-! ## The clock -/

/-- The inputs of a run of the loop with its clock, with finite numbers. -/
structure Registro (K : Type*) where
  muestra : ℕ → Muestra
  tiempoActual : ℕ → UInt32
  rawValue : ℕ → UInt16
  conv : ℕ → Motor → K → UInt16

def Registro.entrada {K : Type*} (r : Registro K) (n : ℕ) : EntradaReloj K :=
  { muestra := r.muestra n, tiempoActual := r.tiempoActual n, rawValue := r.rawValue n,
    num := { isinf := fun _ => false, aUint16 := r.conv n } }

/-- `tiempo_previo` before iteration `n`. -/
def Registro.previo (r : Registro K) (t0 : UInt32) : ℕ → UInt32
  | 0 => t0
  | n + 1 => r.tiempoActual n

def Registro.trayecto (r : Registro K) (t0 : UInt32) : Trayecto K :=
  { muestra := r.muestra
    dt := fun n => pasoTiempo (diferencia (r.tiempoActual n) (r.previo t0 n))
    rawValue := r.rawValue
    conv := r.conv }

section Clock

variable (r : Registro K) (lib : Libm K) (hw : PwmHw) (x0 y0 : K) (t0 : UInt32)

def Registro.estado (n : ℕ) : Reloj K :=
  stateAt (Reloj.paso lib) { bucle := .inicial hw x0 y0, tiempoPrevio := t0 } r.entrada n

def Registro.salida (n : ℕ) : Salida K :=
  (outputAt (Reloj.paso lib) { bucle := .inicial hw x0 y0, tiempoPrevio := t0 } r.entrada
    n).toSalida

theorem reloj_eq (n : ℕ) : r.estado lib hw x0 y0 t0 n =
    { bucle := (r.trayecto t0).estado lib hw x0 y0 n, tiempoPrevio := r.previo t0 n } := by
  refine stateAt_inv (P := fun n (s : Reloj K) => s =
    { bucle := (r.trayecto t0).estado lib hw x0 y0 n, tiempoPrevio := r.previo t0 n }) rfl ?_ n
  rintro n s rfl
  rfl

theorem reloj_salida_eq (n : ℕ) :
    r.salida lib hw x0 y0 t0 n = (r.trayecto t0).salida lib hw x0 y0 n := by
  change ((r.estado lib hw x0 y0 t0 n).paso lib (r.entrada n)).2.toSalida = _
  rw [reloj_eq]
  rfl

end Clock

end PicoDrone.LoopSoundness
