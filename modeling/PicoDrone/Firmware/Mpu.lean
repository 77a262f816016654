import PicoDrone.Firmware.Control

/-! # The loop of `mpu6050_run` (`MPU_PID_PWM/mpu.cpp`, lines 231-380)

`Bucle.paso` is the body of the loop from the sensor sample to the motors, with
the time step `dt` as an input; `Reloj.paso` puts in front of it the clock
reading that computes `dt`. The samples, the clock and the throttle come from
outside, and `sqrt` and `atan` are parameters. -/
namespace PicoDrone.Firmware.Mpu
open Control Pwm

/-- What `mpu6050_read_raw` delivers and the loop uses. -/
structure Muestra where
  ax : Int16
  ay : Int16
  az : Int16
  gx : Int16
  gy : Int16

/-- The functions of `math.h` that the loop calls. -/
structure Libm (F : Type*) where
  sqrt : F → F
  atan : F → F

/-- The locals of the loop that outlive an iteration. -/
structure Bucle (F : Type*) where
  control : EstadoControl F
  angXPrev : F
  angYPrev : F

structure EntradaBucle (F : Type*) where
  muestra : Muestra
  dt : F
  rawValue : UInt16
  num : Numerica F

/-- The angles of an iteration and, if they were accepted, its commands. -/
structure Salida (F : Type*) where
  angX : F
  angY : F
  mandos : Option (Mandos F)

structure Reloj (F : Type*) where
  bucle : Bucle F
  tiempoPrevio : UInt32

structure EntradaReloj (F : Type*) where
  muestra : Muestra
  tiempoActual : UInt32
  rawValue : UInt16
  num : Numerica F

/-- The difference of the clock readings is shown before it is scaled. -/
structure SalidaReloj (F : Type*) extends Salida F where
  diferencia : UInt32

variable {F : Type*} [Zero F] [One F] [Neg F] [Add F] [Sub F] [Mul F] [Div F]
  [NatCast F] [IntCast F] [OfScientific F] [DecidableEq F]

/-- `pow(x,2)`. -/
def pow2 (x : F) : F := x * x

/-- The angle of `num` against the plane of `d1` and `d2`, zero where the
source reports a division by zero. -/
def anguloAccel (lib : Libm F) (num d1 d2 : ℤ) : F :=
  let norma := lib.sqrt (pow2 (d1 : F) + pow2 (d2 : F))
  if norma ≠ 0 then lib.atan ((num : F) / norma) * (180.0 / 3.14) else 0

def accelAngX (lib : Libm F) (m : Muestra) : F :=
  anguloAccel lib m.ay.toInt m.ax.toInt m.az.toInt

/-- The sample is negated as an `int`. -/
def accelAngY (lib : Libm F) (m : Muestra) : F :=
  anguloAccel lib (-m.ax.toInt) m.ay.toInt m.az.toInt

/-- The complementary filter; `g/131` is an `int` division. -/
def filtro (prev : F) (g : Int16) (dt accelAng : F) : F :=
  0.98 * (prev + (g.toInt.tdiv 131 : ℤ) * dt) + 0.02 * accelAng

/-- The state in which the loop is entered, with any previous angles. -/
def Bucle.inicial (hw : PwmHw) (angXPrev angYPrev : F) : Bucle F :=
  { control := .inicial hw, angXPrev, angYPrev }

def Bucle.paso (lib : Libm F) (s : Bucle F) (e : EntradaBucle F) : Bucle F × Salida F :=
  let angX := filtro s.angXPrev e.muestra.gx e.dt (accelAngX lib e.muestra)
  let angY := filtro s.angYPrev e.muestra.gy e.dt (accelAngY lib e.muestra)
  let (control, mandos) := s.control.paso ⟨angX, angY, e.rawValue, e.num⟩
  ({ control, angXPrev := angX, angYPrev := angY }, { angX, angY, mandos })

/-- `tiempo_actual - tiempo_previo`, of type `uint32_t`. -/
def diferencia (tiempoActual tiempoPrevio : UInt32) : UInt32 := tiempoActual - tiempoPrevio

/-- `(float)(tiempo_actual - tiempo_previo)/1000000`, from the difference. -/
def pasoTiempo (diferencia : UInt32) : F := (diferencia.toNat : F) / 1000000

/-- `tiempo_previo` is set after the difference has been taken. -/
def Reloj.paso (lib : Libm F) (s : Reloj F) (e : EntradaReloj F) : Reloj F × SalidaReloj F :=
  let diferencia := diferencia e.tiempoActual s.tiempoPrevio
  let dt := pasoTiempo diferencia
  let (bucle, salida) := s.bucle.paso lib ⟨e.muestra, dt, e.rawValue, e.num⟩
  ({ bucle, tiempoPrevio := e.tiempoActual }, { salida with diferencia })

/-- `mpu6050_run` up to the loop: `ang_y_prev` is initialised, `ang_x_prev`
holds whatever was in memory, and `tiempo_previo` the first clock reading. -/
def mpu6050Run (hw : PwmHw) (angXPrev : F) (tiempoPrevio : UInt32) : Reloj F :=
  { bucle := .inicial hw angXPrev 0, tiempoPrevio }

end PicoDrone.Firmware.Mpu
