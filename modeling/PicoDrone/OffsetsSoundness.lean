import PicoDrone.Firmware.Offsets

/-! # What `mostrar_offsets` finds of what `set_offsets` stored

The six stores go to twelve different registers, so each of them keeps its two
bytes (`registros_palabra`). Of the six windows that are read back, those of Y
and Z of the gyroscope are not the ones that were written: they overlap their
neighbours, and the values come back only if the bytes happen to agree
(`offsets_read_back_iff`). -/
namespace PicoDrone.OffsetsSoundness
open Library.RegisterFile Firmware.I2c Firmware.Offsets

/-! ## Bytes and words -/

theorem alto_toBitVec (x : Int16) : (alto x).toBitVec = x.toBitVec.extractLsb' 8 8 := by
  unfold alto
  -- the shift carries the sign only into bits that the cast drops
  ext i hi
  have hi32 : ¬32 ≤ i := by omega
  have h32 : 8 + i < 32 := by omega
  have h16 : 8 + i < 16 := by omega
  simp [BitVec.getElem_signExtend, BitVec.getLsbD_sshiftRight, hi32, h32, h16]

theorem bajo_toBitVec (x : Int16) : (bajo x).toBitVec = x.toBitVec.extractLsb' 0 8 := by
  unfold bajo
  ext i hi
  have hmask : (255#8)[i] = true := by
    rw [show 255#8 = BitVec.allOnes 8 from rfl, BitVec.getElem_allOnes]
  have h32 : i < 32 := by omega
  have h16 : i < 16 := by omega
  simp [BitVec.getElem_signExtend, hmask, h32, h16]

theorem palabra_toBitVec (b0 b1 : UInt8) :
    (palabra b0 b1).toBitVec = b0.toBitVec ++ b1.toBitVec := by
  unfold palabra
  apply BitVec.eq_of_getLsbD_eq
  intro i hi
  have h32 : i < 32 := by omega
  rw [BitVec.getLsbD_append]
  split
  · rename_i h
    simp [BitVec.getElem_signExtend, h, h32, hi]
  · rename_i h
    have hb1 : b1.toBitVec.getLsbD i = false := BitVec.getLsbD_of_ge _ _ (by omega)
    simp [BitVec.getElem_signExtend, h, h32, hi, hb1]

theorem palabra_eq_iff {b0 b1 : UInt8} {x : Int16} :
    palabra b0 b1 = x ↔ b0 = alto x ∧ b1 = bajo x := by
  constructor
  · rintro rfl
    constructor
    · rw [← UInt8.toBitVec_inj, alto_toBitVec, palabra_toBitVec]
      exact BitVec.extractLsb'_append_eq_left.symm
    · rw [← UInt8.toBitVec_inj, bajo_toBitVec, palabra_toBitVec]
      exact BitVec.extractLsb'_append_eq_right.symm
  · rintro ⟨rfl, rfl⟩
    rw [← Int16.toBitVec_inj, palabra_toBitVec, alto_toBitVec, bajo_toBitVec]
    exact BitVec.extractLsb'_append_extractLsb'

theorem alto_toNat (x : Int16) : (alto x).toNat = x.toUInt16.toNat / 256 := by
  have hlt : x.toUInt16.toNat < 65536 := x.toUInt16.toNat_lt
  have halto : (alto x).toNat = (x.toBitVec.extractLsb' 8 8).toNat :=
    congrArg BitVec.toNat (alto_toBitVec x)
  rw [halto, BitVec.extractLsb'_toNat, Nat.shiftRight_eq_div_pow]
  exact Nat.mod_eq_of_lt (Nat.div_lt_of_lt_mul hlt)

theorem bajo_toNat (x : Int16) : (bajo x).toNat = x.toUInt16.toNat % 256 :=
  congrArg BitVec.toNat (bajo_toBitVec x)

/-! ## The registers after `set_offsets` -/

def escrituras (o : Valores) : List (UInt8 × List UInt8) :=
  [(0x13, [alto o.gx, bajo o.gx]), (0x15, [alto o.gy, bajo o.gy]), (0x17, [alto o.gz, bajo o.gz]),
    (0x06, [alto o.ax, bajo o.ax]), (0x08, [alto o.ay, bajo o.ay]), (0x0A, [alto o.az, bajo o.az])]

/-- The twelve registers that `set_offsets` addresses. -/
def direcciones : List UInt8 :=
  [0x13, 0x14, 0x15, 0x16, 0x17, 0x18, 0x06, 0x07, 0x08, 0x09, 0x0A, 0x0B]

theorem spans_escrituras (o : Valores) : spans siguiente (escrituras o) = direcciones := rfl

theorem nodup_escrituras (o : Valores) : (spans siguiente (escrituras o)).Nodup := by
  rw [spans_escrituras]
  decide

variable (registros : UInt8 → UInt8) (puntero : UInt8)

theorem setOffsets_sano (o : Valores) : setOffsets (.sano registros puntero) o =
    .sano (storeAll siguiente registros (escrituras o)) 0x0C := rfl

def ventana (r : UInt8) : Int16 := palabra (registros r) (registros (siguiente r))

theorem registros_palabra {o : Valores} {r : UInt8} {x : Int16}
    (hw : (r, [alto x, bajo x]) ∈ escrituras o) :
    storeAll siguiente registros (escrituras o) r = alto x ∧
      storeAll siguiente registros (escrituras o) (siguiente r) = bajo x :=
  ⟨storeAll_apply siguiente (nodup_escrituras o) hw (i := 0) (Nat.succ_pos 1),
    storeAll_apply siguiente (nodup_escrituras o) hw (i := 1) (Nat.lt_succ_self 1)⟩

theorem ventana_escrita {o : Valores} {r : UInt8} {x : Int16}
    (hw : (r, [alto x, bajo x]) ∈ escrituras o) :
    ventana (storeAll siguiente registros (escrituras o)) r = x :=
  palabra_eq_iff.mpr (registros_palabra registros hw)

theorem mostrarOffsets_sano (buffer : Fin 6 → UInt8) :
    (mostrarOffsets (.sano registros puntero) buffer).2 =
      { gx := ventana registros 0x13, gy := ventana registros 0x14, gz := ventana registros 0x15,
        ax := ventana registros 0x06, ay := ventana registros 0x08,
        az := ventana registros 0x0A } := rfl

/-! ## Reading back -/

/-- The accelerometer and X of the gyroscope are read where they were written;
the window of Y lies across those of X and Y, and that of Z is the one of Y. -/
theorem mostrar_set (o : Valores) (buffer : Fin 6 → UInt8) :
    (mostrarOffsets (setOffsets (.sano registros puntero) o) buffer).2 =
      { o with gy := palabra (bajo o.gx) (alto o.gy), gz := o.gy } := by
  have hgx : (0x13, [alto o.gx, bajo o.gx]) ∈ escrituras o := by simp [escrituras]
  have hgy : (0x15, [alto o.gy, bajo o.gy]) ∈ escrituras o := by simp [escrituras]
  have hax : (0x06, [alto o.ax, bajo o.ax]) ∈ escrituras o := by simp [escrituras]
  have hay : (0x08, [alto o.ay, bajo o.ay]) ∈ escrituras o := by simp [escrituras]
  have haz : (0x0A, [alto o.az, bajo o.az]) ∈ escrituras o := by simp [escrituras]
  -- 0x14 is the second register of X, 0x15 the first of Y
  have hcruce : ventana (storeAll siguiente registros (escrituras o)) 0x14 =
      palabra (bajo o.gx) (alto o.gy) :=
    congrArg₂ palabra (registros_palabra registros hgx).2 (registros_palabra registros hgy).1
  rw [setOffsets_sano, mostrarOffsets_sano, hcruce, ventana_escrita registros hgx,
    ventana_escrita registros hgy, ventana_escrita registros hax, ventana_escrita registros hay,
    ventana_escrita registros haz]

/-- The crossed window yields Y if all the bytes involved are the same. -/
theorem cruce_eq_iff (x y : Int16) : palabra (bajo x) (alto y) = y ↔
    y.toUInt16.toNat = 257 * (x.toUInt16.toNat % 256) := by
  rw [palabra_eq_iff, ← UInt8.toNat_inj, ← UInt8.toNat_inj, alto_toNat, bajo_toNat, bajo_toNat]
  have hlt : y.toUInt16.toNat < 65536 := y.toUInt16.toNat_lt
  omega

/-- **When the offsets come back.** For every register file and any six values,
on a bus that does not fail: `mostrar_offsets` decodes the six values given to
`set_offsets`, and no register but the twelve has changed, exactly when Y of the
gyroscope repeats the low byte of X twice and Z equals Y. -/
theorem offsets_read_back_iff (o : Valores) (buffer : Fin 6 → UInt8) :
    let b := setOffsets (.sano registros puntero) o
    ((mostrarOffsets b buffer).2 = o ∧ ∀ r, r ∉ direcciones → b.registros r = registros r) ↔
      o.gy.toUInt16.toNat = 257 * (o.gx.toUInt16.toNat % 256) ∧ o.gz = o.gy := by
  intro b
  have hframe : ∀ r, r ∉ direcciones → b.registros r = registros r := by
    intro r hr
    rw [← spans_escrituras o] at hr
    exact storeAll_of_not_mem siguiente hr
  rw [mostrar_set, ← cruce_eq_iff]
  constructor
  · rintro ⟨heq, -⟩
    exact ⟨congrArg Valores.gy heq, (congrArg Valores.gz heq).symm⟩
  · rintro ⟨hgy, hgz⟩
    refine ⟨?_, hframe⟩
    rw [hgy]
    exact congrArg (fun z => ({ o with gz := z } : Valores)) hgz.symm

/-- Offsets 0, 1, 0 of the gyroscope come back as 0, 0, 1. -/
theorem offset_one_read_back_as_zero :
    let o : Valores := { gx := 0, gy := 1, gz := 0, ax := 0, ay := 0, az := 0 }
    let b := setOffsets (.sano (fun _ => 0) 0) o
    (mostrarOffsets b (fun _ => 0)).2 = { o with gy := 0, gz := 1 } ∧
      ¬((mostrarOffsets b (fun _ => 0)).2 = o ∧
        ∀ r, r ∉ direcciones → b.registros r = 0) :=
  ⟨by decide, fun h => absurd h.1 (by decide)⟩

end PicoDrone.OffsetsSoundness
