import PicoDrone.Firmware.I2c

/-! # The offset registers (`MPU_PID_PWM/mpu.cpp`, lines 29-108)

`set_offsets` and `mostrar_offsets`, the same text as in
`Giroscopio/Giroscopio.cpp`. What `mostrar_offsets` prints is what it returns here. -/
namespace PicoDrone.Firmware.Offsets
open I2c

/-- The six values, in the order of the arguments of `set_offsets`. -/
structure Valores where
  gx : Int16
  gy : Int16
  gz : Int16
  ax : Int16
  ay : Int16
  az : Int16
  deriving DecidableEq

/-- The three-byte message that stores an offset. -/
def mensaje (r : UInt8) (x : Int16) : List UInt8 := [r, alto x, bajo x]

/-- `set_offsets`. -/
def setOffsets (b : Bus) (o : Valores) : Bus :=
  let b := b.i2cWriteBlocking (mensaje 0x13 o.gx)
  let b := b.i2cWriteBlocking (mensaje 0x15 o.gy)
  let b := b.i2cWriteBlocking (mensaje 0x17 o.gz)
  let b := b.i2cWriteBlocking (mensaje 0x06 o.ax)
  let b := b.i2cWriteBlocking (mensaje 0x08 o.ay)
  b.i2cWriteBlocking (mensaje 0x0A o.az)

/-- Selects register `val`, reads six bytes and decodes the first two. -/
def leerOffset (b : Bus) (buffer : Fin 6 → UInt8) (val : UInt8) :
    Bus × (Fin 6 → UInt8) × Int16 :=
  let b := b.i2cWriteBlocking [val]
  let (b, buffer) := b.i2cReadBlocking buffer
  (b, buffer, palabra (buffer 0) (buffer 1))

/-- `mostrar_offsets`; `buffer` starts with whatever was in memory. -/
def mostrarOffsets (b : Bus) (buffer : Fin 6 → UInt8) : Bus × Valores :=
  let (b, buffer, gx) := leerOffset b buffer 0x13
  let (b, buffer, gy) := leerOffset b buffer 0x14
  let (b, buffer, gz) := leerOffset b buffer 0x15
  let (b, buffer, ax) := leerOffset b buffer 0x06
  let (b, buffer, ay) := leerOffset b buffer 0x08
  let (b, _, az) := leerOffset b buffer 0x0A
  (b, { gx, gy, gz, ax, ay, az })

end PicoDrone.Firmware.Offsets
