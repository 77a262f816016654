import PicoDrone.Firmware.I2c

/-! # Reading the sensor (`MPU_PID_PWM/mpu.cpp`, lines 110-179)

`mpu6050_read_raw` makes three transfers into the front of one buffer and
decodes the buffer after each of them, whether the transfer succeeded or not. -/
namespace PicoDrone.Firmware.Sensor
open I2c

/-- The outputs, which the caller keeps from one iteration to the next. -/
structure Crudo where
  accel : Fin 3 → Int16
  gyro : Fin 3 → Int16
  temp : Int16

/-- Selects register `val` and reads `len` bytes into the front of the buffer. -/
def leer (b : Bus) (val : UInt8) (len : Fin 7) (buffer : Fin 6 → UInt8) :
    Bus × (Fin 6 → UInt8) :=
  let b := b.i2cWriteBlocking [val]
  let (b, leidos) := b.i2cReadBlocking fun i : Fin len => buffer (i.castLE len.is_le)
  (b, fun i => if h : i.val < len.val then leidos ⟨i, h⟩ else buffer i)

/-- `buffer[i * 2] << 8 | buffer[(i * 2) + 1]`, for `temp` with `i = 0`. -/
def palabras (buffer : Fin 6 → UInt8) (i : Fin 3) : Int16 :=
  palabra (buffer ⟨i * 2, by omega⟩) (buffer ⟨i * 2 + 1, by omega⟩)

/-- `mpu6050_read_raw`; `buffer` starts with whatever was in memory. -/
def mpu6050ReadRaw (b : Bus) (buffer : Fin 6 → UInt8) (s : Crudo) : Bus × Crudo :=
  let (b, buffer) := leer b 0x3B 6 buffer
  let s := { s with accel := palabras buffer }
  let (b, buffer) := leer b 0x43 6 buffer
  let s := { s with gyro := palabras buffer }
  let (b, buffer) := leer b 0x41 2 buffer
  (b, { s with temp := palabras buffer 0 })

/-- `acceleration[0]`, …, `gyro[1]`, all that the loop uses. -/
def Crudo.ejes (s : Crudo) : Int16 × Int16 × Int16 × Int16 × Int16 :=
  (s.accel 0, s.accel 1, s.accel 2, s.gyro 0, s.gyro 1)

end PicoDrone.Firmware.Sensor
