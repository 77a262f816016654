import Mathlib.Algebra.Field.Defs

/-! # The running-sum PID controller (`MPU_PID/pid.cpp`)

The controller of the program before `MPU_PID_PWM`: it integrates every error
since it was built, and its gains enter the output as they are. -/
namespace PicoDrone.Firmware.MpuPid

variable {F : Type*}

/-- The members of `controladorPID`; `polaridad` is a `float` that the
constructor fills from a `bool`. -/
structure ControladorPID (F : Type*) where
  kp : F
  ki : F
  kd : F
  polaridad : F
  prevError : F
  integral : F

/-- `controladorPID::controladorPID`. -/
def ControladorPID.nuevo [Zero F] [One F] (kp ki kd : F) (polaridad : Bool) : ControladorPID F :=
  { kp, ki, kd, polaridad := if polaridad then 1 else 0, prevError := 0, integral := 0 }

variable [Zero F] [Neg F] [Add F] [Sub F] [Mul F] [DecidableEq F]

/-- `controladorPID::computar`. -/
def ControladorPID.computar (c : ControladorPID F) (setpoint current : F) :
    ControladorPID F × F :=
  let current := if c.polaridad = 0 then -current else current
  let error := setpoint - current
  let integral := c.integral + error
  let derivative := error - c.prevError
  let output := c.kp * error + c.ki * integral + c.kd * derivative
  ({ c with prevError := error, integral := integral }, output)

/-- A call as a step of a run: the input is the pair of arguments. -/
def ControladorPID.llamada (c : ControladorPID F) (sc : F × F) : ControladorPID F × F :=
  c.computar sc.1 sc.2

end PicoDrone.Firmware.MpuPid
