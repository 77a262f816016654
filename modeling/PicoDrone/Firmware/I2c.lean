import PicoDrone.Library.RegisterFile

/-! # The I2C bus of the sensor

The MPU6050 is a file of byte registers with a register pointer that every
transferred byte advances. The Pico SDK is not part of the repository:
`i2c_write_blocking` and `i2c_read_blocking` either do their transfer or fail
and leave device and buffer alone. Their return codes are only stored in
globals that nothing reads, so they are left out. -/
namespace PicoDrone.Firmware.I2c
open Library.RegisterFile

/-- The device on the bus, and which of the transfers to come succeed. -/
structure Bus where
  registros : UInt8 → UInt8
  puntero : UInt8
  exito : ℕ → Bool

/-- A bus on which every transfer succeeds. -/
def Bus.sano (registros : UInt8 → UInt8) (puntero : UInt8) : Bus :=
  { registros, puntero, exito := fun _ => true }

/-- The pointer after one byte. -/
def siguiente (r : UInt8) : UInt8 := r + 1

/-- The first byte of a message selects the register, the others are stored from it on. -/
def Bus.i2cWriteBlocking (b : Bus) (src : List UInt8) : Bus :=
  let resto := fun n => b.exito (n + 1)
  match b.exito 0, src with
  | true, r :: datos =>
    { registros := store siguiente b.registros r datos
      puntero := siguiente^[datos.length] r
      exito := resto }
  | _, _ => { b with exito := resto }

/-- Reads `k` bytes from the pointer on into `dst`. -/
def Bus.i2cReadBlocking {k : ℕ} (b : Bus) (dst : Fin k → UInt8) : Bus × (Fin k → UInt8) :=
  let resto := fun n => b.exito (n + 1)
  if b.exito 0 then
    ({ b with puntero := siguiente^[k] b.puntero, exito := resto },
      fun i => b.registros (siguiente^[i] b.puntero))
  else ({ b with exito := resto }, dst)

/-! ## Bytes of an `int16_t` -/

/-- `(uint8_t)(x >> 8)`, on the promoted `int`. -/
def alto (x : Int16) : UInt8 := (x.toInt32 >>> 8).toUInt32.toUInt8

/-- `(uint8_t)(x & 0xFF)`. -/
def bajo (x : Int16) : UInt8 := (x.toInt32 &&& 0xFF).toUInt32.toUInt8

/-- `(int16_t)((b0 << 8) | b1)`. -/
def palabra (b0 b1 : UInt8) : Int16 :=
  ((b0.toUInt32.toInt32 <<< 8) ||| b1.toUInt32.toInt32).toInt16

end PicoDrone.Firmware.I2c
