import PicoDrone.Firmware.Offsets
import PicoDrone.Firmware.Programa

/-! # The program that sets the sensor up (`MPU6050/mpu6050_i2c.c`)

It wakes the sensor, switches its interrupt on, prints the offsets and writes new ones,
and then measures, in every iteration, how long the last one took. `mpu6050_reset`,
`mostrar_offsets`, `set_offsets`, `mpu6050_read_raw` and the estimate of the angles have
the text they have in `MPU_PID_PWM/mpu.cpp`. Between two calls the sensor moves its
registers of its own accord. -/
namespace PicoDrone.Firmware.Interrupciones
open I2c Offsets Mpu Sensor Programa

/-! ## The interrupt registers -/

/-- Selects register `val` and reads it. -/
def leerRegistro (b : Bus) (buffer : Fin 1 → UInt8) (val : UInt8) : Bus × UInt8 :=
  let b := b.i2cWriteBlocking [val]
  let (b, buffer) := b.i2cReadBlocking buffer
  (b, buffer 0)

/-- `Read_INT` clears the flag by reading it. -/
def readINT (b : Bus) (buffer : Fin 1 → UInt8) : Bus := (leerRegistro b buffer 0x3A).1

/-- `Read_INT_Enable` and the value it prints. -/
def readINTEnable (b : Bus) (buffer : Fin 1 → UInt8) : Bus × UInt8 := leerRegistro b buffer 0x38

/-- `Write_INT_Enable`. -/
def writeINTEnable (b : Bus) : Bus := b.i2cWriteBlocking [0x38, 0x01]

/-! ## The sensor by itself -/

/-- The registers that the program sets up: the power management, the interrupt and the
twelve of the offsets. -/
def configuracion : List UInt8 :=
  [0x6B, 0x38, 0x13, 0x14, 0x15, 0x16, 0x17, 0x18, 0x06, 0x07, 0x08, 0x09, 0x0A, 0x0B]

/-- What the sensor does to its registers between two calls: measurements and status
change, but not what it has been told. -/
structure Desvio where
  mover : (UInt8 → UInt8) → UInt8 → UInt8
  respeta : ∀ registros, ∀ r ∈ configuracion, mover registros r = registros r

def Desvio.en (d : Desvio) (b : Bus) : Bus := { b with registros := d.mover b.registros }

/-! ## `main` up to the loop -/

/-- What the calls find, in order: a sensor that has moved on, and their stack memory. -/
structure EntradaMain where
  desvio : ℕ → Desvio
  pila : ℕ → Fin 1 → UInt8
  buffer : Fin 6 → UInt8

/-- What the set-up prints: `INT_ENABLE` before and after it is written, and the offsets. -/
structure Impreso where
  antes : UInt8
  despues : UInt8
  offsets : Valores

/-- `set_offsets(-303,86,-38,-1493,1868,1243)`. -/
def offsetsCalculados : Valores :=
  { gx := -303, gy := 86, gz := -38, ax := -1493, ay := 1868, az := 1243 }

def preparar (b : Bus) (e : EntradaMain) : Bus × Impreso :=
  let b := mpu6050Reset b
  let (b, antes) := readINTEnable ((e.desvio 0).en b) (e.pila 0)
  let b := writeINTEnable ((e.desvio 1).en b)
  let (b, despues) := readINTEnable ((e.desvio 2).en b) (e.pila 1)
  let b := readINT ((e.desvio 3).en b) (e.pila 2)
  let (b, offsets) := mostrarOffsets ((e.desvio 4).en b) e.buffer
  let b := setOffsets ((e.desvio 5).en b) offsetsCalculados
  (b, { antes, despues, offsets })

/-! ## The loop -/

/-- The locals of the loop that outlive an iteration, the bus, and `last_pulse_time`. -/
structure EstadoMain (F : Type*) where
  bus : Bus
  crudo : Crudo
  angXPrev : F
  angYPrev : F
  tiempoPrevio : UInt32
  lastPulseTime : UInt32

/-- What an iteration reads; the clock is read twice. -/
structure EntradaVuelta where
  desvio : Desvio
  buffer : Fin 6 → UInt8
  tiempoActual : UInt32
  currentTime : UInt32

/-- The state in which the loop is entered; `ang_x_prev` and the outputs of
`mpu6050_read_raw` hold whatever was in memory. -/
def EstadoMain.inicial {F : Type*} [Zero F] (bus : Bus) (crudo : Crudo) (angXPrev : F)
    (tiempoPrevio : UInt32) : EstadoMain F :=
  { bus, crudo, angXPrev, angYPrev := 0, tiempoPrevio, lastPulseTime := 0 }

variable {F : Type*} [Zero F] [One F] [Neg F] [Add F] [Sub F] [Mul F] [Div F]
  [NatCast F] [IntCast F] [OfScientific F] [DecidableEq F]

/-- One iteration and the interval it prints; the angles are computed and not used. -/
def EstadoMain.paso (lib : Libm F) (s : EstadoMain F) (e : EntradaVuelta) :
    EstadoMain F × UInt32 :=
  let (bus, crudo) := mpu6050ReadRaw (e.desvio.en s.bus) e.buffer s.crudo
  let m := muestraDe crudo
  let dt := pasoTiempo (diferencia e.tiempoActual s.tiempoPrevio)
  let angX := filtro s.angXPrev m.gx dt (accelAngX lib m)
  let angY := filtro s.angYPrev m.gy dt (accelAngY lib m)
  let timeSinceLastPulse := e.currentTime - s.lastPulseTime
  ({ bus, crudo, angXPrev := angX, angYPrev := angY, tiempoPrevio := e.tiempoActual,
     lastPulseTime := e.currentTime }, timeSinceLastPulse)

end PicoDrone.Firmware.Interrupciones
