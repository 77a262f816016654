import Mathlib.Data.Int.Notation
import PicoDrone.Firmware.Sensor
import PicoDrone.OffsetsSoundness

/-! # What a failed transfer leaves behind

An output whose own transfer succeeded is the number in its own registers. No
return code is looked at, so every output is written in every call: after a
failed read it repeats what the buffer held, and after a failed selection it
shows the registers the pointer happened to stand on (`read_raw_outputs`). -/
namespace PicoDrone.SensorSoundness
open Firmware.I2c Firmware.Sensor OffsetsSoundness

/-! ## Bytes and numbers -/

/-- The number that two bytes hold in big-endian two's complement. -/
def complementoA2 (b0 b1 : UInt8) : ℤ := Int.bmod (256 * b0.toNat + b1.toNat : ℕ) 65536

theorem palabra_toInt (b0 b1 : UInt8) : (palabra b0 b1).toInt = complementoA2 b0 b1 := by
  have hnat : (b0.toBitVec ++ b1.toBitVec).toNat = 256 * b0.toNat + b1.toNat := by
    rw [BitVec.toNat_append, ← Nat.shiftLeft_add_eq_or_of_lt b1.toBitVec.isLt, Nat.shiftLeft_eq,
      Nat.mul_comm]
    rfl
  calc (palabra b0 b1).toInt = (b0.toBitVec ++ b1.toBitVec).toInt :=
        congrArg BitVec.toInt (palabra_toBitVec b0 b1)
    _ = complementoA2 b0 b1 := by
        rw [BitVec.toInt_eq_toNat_bmod, hnat]
        unfold complementoA2
        congr 1

/-- The number in registers `r` and `r + 1`. -/
def enRegistros (registros : UInt8 → UInt8) (r : UInt8) : ℤ :=
  complementoA2 (registros r) (registros (r + 1))

/-! ## One transfer -/

theorem iterate_siguiente (r : UInt8) (n : ℕ) : siguiente^[n] r = r + UInt8.ofNat n := by
  induction n with
  | zero => simp
  | succ n ih =>
    rw [Function.iterate_succ_apply', ih, siguiente, UInt8.ofNat_add, UInt8.add_assoc]
    rfl

/-- The register a transfer reads from: the selected one, or the one the pointer stood on. -/
def comienzo (b : Bus) (val : UInt8) : UInt8 := if b.exito 0 then val else b.puntero

theorem leer_bus (b : Bus) (val : UInt8) (len : Fin 7) (buffer : Fin 6 → UInt8) :
    (leer b val len buffer).1 =
      { registros := b.registros
        puntero := if b.exito 1 then comienzo b val + UInt8.ofNat len else comienzo b val
        exito := fun n => b.exito (n + 2) } := by
  unfold leer Bus.i2cWriteBlocking Bus.i2cReadBlocking comienzo
  cases hw : b.exito 0 <;> cases hr : b.exito 1 <;>
    simp [hr, iterate_siguiente, Library.RegisterFile.store]

theorem leer_registros (b : Bus) (val : UInt8) (len : Fin 7) (buffer : Fin 6 → UInt8) :
    (leer b val len buffer).1.registros = b.registros := by
  rw [leer_bus]

theorem leer_exito (b : Bus) (val : UInt8) (len : Fin 7) (buffer : Fin 6 → UInt8) (n : ℕ) :
    (leer b val len buffer).1.exito n = b.exito (n + 2) := by
  rw [leer_bus]

theorem leer_buffer (b : Bus) (val : UInt8) (len : Fin 7) (buffer : Fin 6 → UInt8) (i : Fin 6) :
    (leer b val len buffer).2 i =
      if b.exito 1 ∧ i.val < len.val then b.registros (comienzo b val + UInt8.ofNat i)
      else buffer i := by
  unfold leer Bus.i2cWriteBlocking Bus.i2cReadBlocking comienzo
  cases hw : b.exito 0 <;> cases hr : b.exito 1 <;>
    simp [hr, iterate_siguiente, Library.RegisterFile.store]

/-- What is decoded from the buffer after a transfer over the bytes of word `i`. -/
theorem palabras_leer (b : Bus) (val : UInt8) (len : Fin 7) (buffer : Fin 6 → UInt8) (i : Fin 3)
    (hi : i.val * 2 + 1 < len.val) : (palabras (leer b val len buffer).2 i).toInt =
      if b.exito 1 then enRegistros b.registros (comienzo b val + UInt8.ofNat (i.val * 2))
      else (palabras buffer i).toInt := by
  have hi' : i.val * 2 < len.val := by omega
  simp only [palabras, leer_buffer, hi, hi', and_true]
  by_cases hr : b.exito 1 = true
  · have hnext : comienzo b val + UInt8.ofNat (i.val * 2 + 1) =
        comienzo b val + UInt8.ofNat (i.val * 2) + 1 := by
      rw [UInt8.ofNat_add, UInt8.add_assoc]
      rfl
    simp only [hr, if_true, palabra_toInt, enRegistros, hnext]
  · simp only [hr, if_false, Bool.false_eq_true]

/-! ## The three transfers -/

/-- The register the second transfer reads from. -/
def comienzoGyro (b : Bus) : UInt8 :=
  if b.exito 2 then 0x43 else if b.exito 1 then comienzo b 0x3B + 6 else comienzo b 0x3B

/-- The register the third transfer reads from. -/
def comienzoTemp (b : Bus) : UInt8 :=
  if b.exito 4 then 0x41 else if b.exito 3 then comienzoGyro b + 6 else comienzoGyro b

section Outputs

variable (b : Bus) (buffer : Fin 6 → UInt8) (s : Crudo)

theorem accel_toInt (i : Fin 3) : ((mpu6050ReadRaw b buffer s).2.accel i).toInt =
    if b.exito 1 then enRegistros b.registros (comienzo b 0x3B + UInt8.ofNat (i.val * 2))
    else (palabras buffer i).toInt :=
  palabras_leer b 0x3B 6 buffer i (show i.val * 2 + 1 < 6 by omega)

/-- The register the second transfer reads from, on the bus that the first one left. -/
theorem comienzo_leer : comienzo (leer b 0x3B 6 buffer).1 0x43 = comienzoGyro b := by
  rw [comienzo, leer_exito, leer_bus]
  rfl

theorem gyro_toInt (i : Fin 3) : ((mpu6050ReadRaw b buffer s).2.gyro i).toInt =
    if b.exito 3 then enRegistros b.registros (comienzoGyro b + UInt8.ofNat (i.val * 2))
    else ((mpu6050ReadRaw b buffer s).2.accel i).toInt := by
  let t1 := leer b 0x3B 6 buffer
  have hread := palabras_leer t1.1 0x43 6 t1.2 i (show i.val * 2 + 1 < 6 by omega)
  rw [comienzo_leer, leer_registros, leer_exito] at hread
  exact hread

theorem comienzo_leer_leer (dst : Fin 6 → UInt8) :
    comienzo (leer (leer b 0x3B 6 buffer).1 0x43 6 dst).1 0x41 = comienzoTemp b := by
  rw [comienzo, leer_exito, leer_exito, leer_bus, comienzo_leer, leer_exito]
  rfl

theorem temp_toInt : (mpu6050ReadRaw b buffer s).2.temp.toInt =
    if b.exito 5 then enRegistros b.registros (comienzoTemp b)
    else ((mpu6050ReadRaw b buffer s).2.gyro 0).toInt := by
  let t1 := leer b 0x3B 6 buffer
  let t2 := leer t1.1 0x43 6 t1.2
  have hread := palabras_leer t2.1 0x41 2 t2.2 0 (show 0 * 2 + 1 < 2 by decide)
  rw [comienzo_leer_leer, leer_registros, leer_registros, leer_exito, leer_exito] at hread
  rw [← UInt8.add_zero (comienzoTemp b)]
  exact hread

end Outputs

/-- **What `mpu6050_read_raw` delivers.** For every register file, pointer, prior
buffer and outputs, and every pattern of failures: an output whose selection and
read both succeeded is the number in its own registers. If the read succeeded
alone, it is the number where the pointer stood; if the read failed, the output
is not kept but decoded from what the buffer held before. -/
theorem read_raw_outputs (b : Bus) (buffer : Fin 6 → UInt8) (s : Crudo) :
    let o := (mpu6050ReadRaw b buffer s).2
    ((b.exito 0 ∧ b.exito 1 → ∀ i : Fin 3, (o.accel i).toInt =
        enRegistros b.registros (0x3B + UInt8.ofNat (i.val * 2))) ∧
      (b.exito 2 ∧ b.exito 3 → ∀ i : Fin 3, (o.gyro i).toInt =
        enRegistros b.registros (0x43 + UInt8.ofNat (i.val * 2))) ∧
      (b.exito 4 ∧ b.exito 5 → o.temp.toInt = enRegistros b.registros 0x41)) ∧
    (∀ i : Fin 3, (o.accel i).toInt =
      if b.exito 1 then enRegistros b.registros (comienzo b 0x3B + UInt8.ofNat (i.val * 2))
      else (palabras buffer i).toInt) ∧
    (∀ i : Fin 3, (o.gyro i).toInt =
      if b.exito 3 then enRegistros b.registros (comienzoGyro b + UInt8.ofNat (i.val * 2))
      else (o.accel i).toInt) ∧
    o.temp.toInt = if b.exito 5 then enRegistros b.registros (comienzoTemp b)
      else (o.gyro 0).toInt := by
  intro o
  have haccel := accel_toInt b buffer s
  have hgyro := gyro_toInt b buffer s
  have htemp := temp_toInt b buffer s
  refine ⟨⟨?_, ?_, ?_⟩, haccel, hgyro, htemp⟩
  · rintro ⟨hw, hr⟩ i
    rw [haccel, if_pos hr, comienzo, if_pos hw]
  · rintro ⟨hw, hr⟩ i
    rw [hgyro, if_pos hr, comienzoGyro, if_pos hw]
  · rintro ⟨hw, hr⟩
    rw [htemp, if_pos hr, comienzoTemp, if_pos hw]

/-- The gyroscope is not selected and the temperature not read: the one is taken from
where the accelerometer ends, and the other is the first word of that. -/
theorem read_raw_outputs_two_lost :
    let b : Bus := { registros := id, puntero := 0, exito := fun n => n != 2 && n != 5 }
    let o := (mpu6050ReadRaw b (fun _ => 0) ⟨fun _ => 7, fun _ => 7, 7⟩).2
    (o.accel 1).toInt = 0x3D3E ∧ (o.gyro 0).toInt = 0x4142 ∧ o.temp.toInt = 0x4142 := by
  intro b o
  obtain ⟨⟨haccel, -, -⟩, -, hgyro, htemp⟩ :=
    read_raw_outputs b (fun _ => 0) ⟨fun _ => 7, fun _ => 7, 7⟩
  have hgyro0 : (o.gyro 0).toInt = 0x4142 := (hgyro 0).trans (by decide)
  exact ⟨(haccel ⟨rfl, rfl⟩ 1).trans (by decide), hgyro0, htemp.trans hgyro0⟩

/-- Only the read of the gyroscope fails: 1 g along X is delivered as a turn of
125 degrees per second about X. -/
theorem failed_read_repeats_the_buffer :
    let b : Bus := { registros := fun r => if r = 0x3B then 0x40 else 0, puntero := 0,
                     exito := fun n => n ≠ 3 }
    let s : Crudo := { accel := fun _ => 0, gyro := fun _ => 5, temp := 0 }
    let o := (mpu6050ReadRaw b (fun _ => 0) s).2
    b.exito 3 = false ∧ o.gyro 0 = 16384 ∧ ¬∀ i, o.gyro i = s.gyro i :=
  ⟨by decide, by decide, by decide⟩

end PicoDrone.SensorSoundness
