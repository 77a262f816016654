import PicoDrone.Firmware.Mpu
import PicoDrone.Firmware.MpuPid

/-! # The loop of `MPU_PID/mpu.cpp`

The program before `MPU_PID_PWM` estimates the angles with the same lines and has the
same eight polarities, but its gains are others, it adds the two corrections of a motor
without halving them, and it prints them instead of driving motors. -/
namespace PicoDrone.Firmware.MpuPidRun
open Control Mpu MpuPid

/-- The locals of `mpu6050_run` that outlive an iteration. -/
structure EstadoRun (F : Type*) where
  pidRoll : Motor → ControladorPID F
  pidPitch : Motor → ControladorPID F
  angXPrev : F
  angYPrev : F
  tiempoPrevio : UInt32

/-- What an iteration reads; `isinf` is what the test answers. -/
structure EntradaRun (F : Type*) where
  muestra : Muestra
  tiempoActual : UInt32
  isinf : F → Bool

/-- The angles of an iteration and the line it prints: `ctrlM1, …, ctrlM4`, or nothing
of them when the angles are rejected. -/
structure SalidaRun (F : Type*) where
  angX : F
  angY : F
  ctrl : Option (Motor → F)

section Setup

variable {F : Type*} [Zero F] [One F] [OfScientific F]

/-- `mpu6050_run` up to the loop; `ang_x_prev` holds whatever was in memory. -/
def EstadoRun.inicial (angXPrev : F) (tiempoPrevio : UInt32) : EstadoRun F :=
  { pidRoll := fun m => .nuevo 2.0 0 1.0 (polaridadRoll m)
    pidPitch := fun m => .nuevo 2.0 0 1.0 (polaridadPitch m)
    angXPrev
    angYPrev := 0
    tiempoPrevio }

end Setup

variable {F : Type*} [Zero F] [One F] [Neg F] [Add F] [Sub F] [Mul F] [Div F]
  [NatCast F] [IntCast F] [OfScientific F] [DecidableEq F]

def EstadoRun.paso (lib : Libm F) (s : EstadoRun F) (e : EntradaRun F) :
    EstadoRun F × SalidaRun F :=
  let dt := pasoTiempo (diferencia e.tiempoActual s.tiempoPrevio)
  let angX := filtro s.angXPrev e.muestra.gx dt (accelAngX lib e.muestra)
  let angY := filtro s.angYPrev e.muestra.gy dt (accelAngY lib e.muestra)
  let s := { s with angXPrev := angX, angYPrev := angY, tiempoPrevio := e.tiempoActual }
  if !e.isinf angX && !e.isinf angY then
    let roll := fun m => (s.pidRoll m).computar 0 angX
    let pitch := fun m => (s.pidPitch m).computar 0 angY
    ({ s with pidRoll := fun m => (roll m).1, pidPitch := fun m => (pitch m).1 },
      { angX, angY, ctrl := some fun m => (roll m).2 + (pitch m).2 })
  else
    (s, { angX, angY, ctrl := none })

end PicoDrone.Firmware.MpuPidRun
