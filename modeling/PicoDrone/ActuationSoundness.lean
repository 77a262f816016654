import Mathlib.Algebra.Order.Floor.Semiring
import Mathlib.Algebra.Order.Floor.Ring
import PicoDrone.MixerSoundness

/-! # From a request to a pulse

The throttle lies between 800 and 1800 and follows the ADC. With exact numbers
the conversion to `uint16_t` truncates where C defines it; the range checks then
keep a pulse up to 2000 and cut a larger one to 0 (`pulso_toNat`). -/
namespace PicoDrone.ActuationSoundness
open Firmware.Pwm Firmware.Control Library.Fir PidSoundness CommandSoundness MixerSoundness

/-! ## Throttle -/

theorem limitarRaw_toNat (raw : UInt16) :
    (limitarRaw raw).toNat = max 500 (min 4000 raw.toNat) := by
  have h500 : (500 : UInt16).toNat = 500 := rfl
  have h4000 : (4000 : UInt16).toNat = 4000 := rfl
  unfold limitarRaw
  split
  · rename_i h
    rw [UInt16.le_iff_toNat_le] at h
    omega
  · rename_i h
    rw [UInt16.le_iff_toNat_le] at h
    split
    · rename_i h'
      rw [ge_iff_le, UInt16.le_iff_toNat_le] at h'
      omega
    · rename_i h'
      rw [ge_iff_le, UInt16.le_iff_toNat_le] at h'
      omega

/-- The division never meets a negative number and its quotient fits the type. -/
theorem valor_toNat (raw : UInt16) :
    (valor raw).toNat = (max 500 (min 4000 raw.toNat) - 500) / 35 := by
  have hdiv : ((((limitarRaw raw).toNat : ℤ) - 500).tdiv 35) =
      (((max 500 (min 4000 raw.toNat) - 500) / 35 : ℕ) : ℤ) := by
    rw [limitarRaw_toNat, Int.tdiv_eq_ediv_of_nonneg (by omega)]
    omega
  rw [valor, hdiv, UInt16.ofInt, UInt16.toNat_ofNat_of_lt']
  · omega
  · have : (max 500 (min 4000 raw.toNat) - 500) / 35 < 65536 := by omega
    simp only [UInt16.size]
    omega

/-- The throttle a reading asks for: ten for every 35 counts between 500 and 4000. -/
def acelerador (raw : UInt16) : ℕ := 800 + 10 * ((max 500 (min 4000 raw.toNat) - 500) / 35)

theorem microsegundos_eq (raw : UInt16) : microsegundos raw = acelerador raw := by
  rw [microsegundos, valor_toNat, acelerador]

theorem acelerador_bounds (raw : UInt16) : 800 ≤ acelerador raw ∧ acelerador raw ≤ 1800 := by
  rw [acelerador]
  omega

theorem microsegundos_mono {raw raw' : UInt16} (h : raw ≤ raw') :
    microsegundos raw ≤ microsegundos raw' := by
  rw [UInt16.le_iff_toNat_le] at h
  rw [microsegundos_eq, microsegundos_eq, acelerador, acelerador]
  omega

/-! ## Conversion and range check -/

section Exact

variable {K : Type*} [Field K] [LinearOrder K] [IsStrictOrderedRing K] [FloorRing K]

/-- The conversion of an exact number to `uint16_t`: it drops the fraction, and
yields `indef` where C leaves it undefined. -/
def aUint16 (indef : UInt16) (x : K) : UInt16 :=
  if -1 < x ∧ x < 65536 then UInt16.ofNat ⌊x⌋₊ else indef

theorem aUint16_toNat (indef : UInt16) {x : K} (h0 : -1 < x) (h1 : x < 65536) :
    (aUint16 indef x).toNat = ⌊x⌋₊ := by
  have hfloor : ⌊x⌋₊ < 65536 := by
    rw [Nat.floor_lt' (by decide)]
    exact_mod_cast h1
  rw [aUint16, if_pos ⟨h0, h1⟩, UInt16.toNat_ofNat_of_lt' (by simpa [UInt16.size] using hfloor)]

theorem comprobarRango_of_le {us : UInt16} (h : us.toNat ≤ 2000) : comprobarRango us = us := by
  rw [comprobarRango, if_neg (by omega)]

theorem comprobarRango_of_gt {us : UInt16} (h : 2000 < us.toNat) : comprobarRango us = 0 := by
  rw [comprobarRango, if_pos (by omega)]

theorem pulso_toNat (indef : UInt16) {x : K} (h0 : -1 < x) (h1 : x < 65536) :
    (comprobarRango (aUint16 indef x)).toNat = if x < 2001 then ⌊x⌋₊ else 0 := by
  have hcut : ⌊x⌋₊ < 2001 ↔ x < 2001 := by
    rw [Nat.floor_lt' (by decide)]
    exact_mod_cast Iff.rfl
  have hconv := aUint16_toNat indef h0 h1
  by_cases h : x < 2001
  · have hle : (aUint16 indef x).toNat ≤ 2000 := by
      have := hcut.mpr h
      omega
    rw [if_pos h, comprobarRango_of_le hle, hconv]
  · have hgt : 2000 < (aUint16 indef x).toNat := by
      have : ¬ ⌊x⌋₊ < 2001 := fun hlt => h (hcut.mp hlt)
      omega
    rw [if_neg h, comprobarRango_of_gt hgt]
    rfl

end Exact

end PicoDrone.ActuationSoundness
