import Mathlib.Data.Int.Notation

/-! # C strings

The bytes before the terminator, none of which is zero. `strcmp` walks over two
strings to the first bytes that differ, a terminator counting as zero, and
returns their difference; since no byte of a string looks like a terminator, the
result is zero for equal strings only (`strcmp_eq_zero_iff`). -/
namespace PicoDrone.Library.CStrings

structure CString where
  bytes : List UInt8
  no_nul : 0 ∉ bytes
  deriving DecidableEq

/-- The difference of the first bytes that differ. -/
def compareBytes : List UInt8 → List UInt8 → ℤ
  | [], [] => 0
  | [], b :: _ => -b.toNat
  | a :: _, [] => a.toNat
  | a :: as, b :: bs => if a = b then compareBytes as bs else a.toNat - b.toNat

def CString.strcmp (s t : CString) : ℤ := compareBytes s.bytes t.bytes

theorem toNat_ne_zero {b : UInt8} {bs : List UInt8} (h : 0 ∉ b :: bs) : b.toNat ≠ 0 := by
  intro hb
  have hzero : b = 0 := UInt8.toNat_inj.mp hb
  exact h (hzero ▸ List.mem_cons_self)

theorem compareBytes_eq_zero_iff {as bs : List UInt8} (ha : 0 ∉ as) (hb : 0 ∉ bs) :
    compareBytes as bs = 0 ↔ as = bs := by
  induction as generalizing bs with
  | nil =>
    cases bs with
    | nil => simp [compareBytes]
    | cons b bs =>
      have hne := toNat_ne_zero hb
      simp only [compareBytes, reduceCtorEq, iff_false]
      omega
  | cons a as ih =>
    cases bs with
    | nil =>
      have hne := toNat_ne_zero ha
      simp only [compareBytes, reduceCtorEq, iff_false]
      omega
    | cons b bs =>
      have ha' : 0 ∉ as := fun h => ha (List.mem_cons_of_mem a h)
      have hb' : 0 ∉ bs := fun h => hb (List.mem_cons_of_mem b h)
      by_cases hab : a = b
      · simp [compareBytes, hab, ih ha' hb']
      · have hdiff : a.toNat ≠ b.toNat := fun h => hab (UInt8.toNat_inj.mp h)
        have hlists : a :: as ≠ b :: bs := fun h => hab (List.cons.inj h).1
        rw [compareBytes, if_neg hab]
        exact iff_of_false (by omega) hlists

/-- **`strcmp` returns zero for equal strings, and for them only.** -/
theorem CString.strcmp_eq_zero_iff (s t : CString) : s.strcmp t = 0 ↔ s = t := by
  obtain ⟨as, ha⟩ := s
  obtain ⟨bs, hb⟩ := t
  simpa [CString.strcmp] using compareBytes_eq_zero_iff ha hb

end PicoDrone.Library.CStrings
