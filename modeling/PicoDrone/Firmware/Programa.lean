import PicoDrone.Firmware.Mpu
import PicoDrone.Firmware.Sensor

/-! # The flight program on the bus (`MPU_PID_PWM/mpu.cpp`, lines 22-27 and 182-380)

`mpu6050_reset` wakes the sensor, and every iteration of the loop takes its
sample from `mpu6050_read_raw`. The registers of the sensor change from one
iteration to the next, and so does the stack memory its buffer starts with; the
register pointer and the outputs of the last call stay. -/
namespace PicoDrone.Firmware.Programa
open I2c Pwm Control Mpu Sensor

/-- `mpu6050_reset`. -/
def mpu6050Reset (b : Bus) : Bus := b.i2cWriteBlocking [0x6B, 0x00]

/-- `ax = acceleration[0]`, …, `gy = gyro[1]`. -/
def muestraDe (s : Crudo) : Muestra :=
  let (ax, ay, az, gx, gy) := s.ejes
  { ax, ay, az, gx, gy }

structure EstadoPrograma (F : Type*) where
  reloj : Reloj F
  crudo : Crudo
  puntero : UInt8

/-- What the sensor, the bus, the stack, the clock and the throttle do in one iteration. -/
structure EntradaPrograma (F : Type*) where
  registros : UInt8 → UInt8
  exito : ℕ → Bool
  buffer : Fin 6 → UInt8
  tiempoActual : UInt32
  rawValue : UInt16
  num : Numerica F

variable {F : Type*} [Zero F] [One F] [Neg F] [Add F] [Sub F] [Mul F] [Div F]
  [NatCast F] [IntCast F] [OfScientific F] [DecidableEq F]

def EstadoPrograma.paso (lib : Libm F) (s : EstadoPrograma F) (e : EntradaPrograma F) :
    EstadoPrograma F × SalidaReloj F :=
  let (bus, crudo) := mpu6050ReadRaw
    { registros := e.registros, puntero := s.puntero, exito := e.exito } e.buffer s.crudo
  let (reloj, salida) := s.reloj.paso lib
    { muestra := muestraDe crudo, tiempoActual := e.tiempoActual, rawValue := e.rawValue,
      num := e.num }
  ({ reloj, crudo, puntero := bus.puntero }, salida)

/-- `mpu6050_run` up to the loop. -/
def EstadoPrograma.inicial (hw : PwmHw) (bus : Bus) (crudo : Crudo) (angXPrev : F)
    (tiempoPrevio : UInt32) : EstadoPrograma F :=
  { reloj := mpu6050Run hw angXPrev tiempoPrevio, crudo, puntero := (mpu6050Reset bus).puntero }

end PicoDrone.Firmware.Programa
