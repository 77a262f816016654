import Mathlib.Algebra.Field.Defs
import Mathlib.Data.Rat.Init

/-! # The windowed PID controller (`MPU_PID_PWM/pid.cpp`)

The code is written over an abstract number type `F` with the operations the
source uses and no laws: reading its floats as exact numbers is taking a field
for `F`, and whatever is proved for every `F` holds for every numeric
behaviour. `computar` returns the new controller and the output. -/
namespace PicoDrone.Firmware.Pid

variable {F : Type*}

/-- The members of `controladorPID`. `polaridad` is a `float` that the
constructor fills from a `bool`; `buffer_integrador` is a `std::queue`, front first. -/
structure ControladorPID (F : Type*) where
  kp : F
  ki : F
  kd : F
  polaridad : F
  prevError : F
  integral : F
  bufferIntegrador : List F
  integradorSize : ℕ

/-- `controladorPID::controladorPID`. -/
def ControladorPID.nuevo [Zero F] [One F] (kp ki kd : F) (polaridad : Bool) : ControladorPID F :=
  { kp, ki, kd, polaridad := if polaridad then 1 else 0, prevError := 0, integral := 0,
    bufferIntegrador := [], integradorSize := 20 }

/-- The queue update: a full queue loses its front before the push. -/
def encolar (size : ℕ) (cola : List F) (error : F) : List F :=
  if cola.length ≥ size then cola.tail ++ [error] else cola ++ [error]

/-- The loop that empties the copy of the queue into `sumatorio`. -/
def drenar [Add F] : F → List F → F
  | sumatorio, [] => sumatorio
  | sumatorio, x :: copia => drenar (sumatorio + x) copia

/-- `controladorPID::computar`. -/
def ControladorPID.computar [Zero F] [One F] [Neg F] [Add F] [Sub F] [Mul F] [Div F]
    [OfScientific F] [DecidableEq F] (c : ControladorPID F) (setpoint current : F) :
    ControladorPID F × F :=
  let current := if c.polaridad = 0 then -current else current
  let error := setpoint - current
  let buffer := encolar c.integradorSize c.bufferIntegrador error
  let integral := drenar 0 buffer * 0.003
  let output := c.kp * (error + (1 / c.ki) * integral + c.kd * (error - c.prevError) / 0.003)
  ({ c with prevError := error, integral := integral, bufferIntegrador := buffer }, output)

/-- A call as a step of a run: the input is the pair of arguments. -/
def ControladorPID.llamada [Zero F] [One F] [Neg F] [Add F] [Sub F] [Mul F] [Div F]
    [OfScientific F] [DecidableEq F] (c : ControladorPID F) (sc : F × F) : ControladorPID F × F :=
  c.computar sc.1 sc.2

end PicoDrone.Firmware.Pid
