import Mathlib.Algebra.Order.Field.Basic
import Mathlib.Tactic.Linarith
import Mathlib.Tactic.NormNum
import Mathlib.Tactic.Positivity
import Mathlib.Tactic.Ring

/-! # Arithmetic that rounds

`Rounds val u η Ω` says of a number type that the operations on it are those of
the field of the values, up to a relative error `u` and an absolute error `η`,
as long as the result is not larger than `Ω`. IEEE 754 arithmetic that rounds to
nearest is one on its finite numbers, with `Ω` the largest of them; it has to be taken
without its infinities and NaN, which have no value. `Near` bounds what a computation of several such operations has
lost: the relative errors by the number of roundings, the absolute ones apart. -/
namespace PicoDrone.Library.Rounding

variable {K : Type*} [Field K] [LinearOrder K]

structure Rounds {F : Type*} [Add F] [Mul F] [IntCast F] (val : F → K) (u η Ω : K) : Prop where
  u_nonneg : 0 ≤ u
  η_nonneg : 0 ≤ η
  add (x y : F) : |val x + val y| ≤ Ω →
    |val (x + y) - (val x + val y)| ≤ u * |val x + val y| + η
  mul (x y : F) : |val x * val y| ≤ Ω →
    |val (x * y) - val x * val y| ≤ u * |val x * val y| + η
  /-- The integers that fit the significand are exact. -/
  intCast (n : ℤ) : |n| ≤ 2 ^ 24 → val (n : F) = n

/-! ## Running errors -/

/-- `y` is what `k` roundings have made of `x`, which is at most `m`. -/
structure Near (u : K) (k : ℕ) (m e x y : K) : Prop where
  size : |x| ≤ m
  slack : 0 ≤ e
  error : |y - x| ≤ ((1 + u) ^ k - 1) * m + e

variable [IsStrictOrderedRing K] {u η m n e f x x' y y' : K} {k l : ℕ}

theorem Near.exact (h : |x| ≤ m) : Near u 0 m 0 x x :=
  ⟨h, le_rfl, by simp⟩

theorem Near.once (h : |x| ≤ m) (hy : |y - x| ≤ u * m) : Near u 1 m 0 x y :=
  ⟨h, le_rfl, by linarith⟩

theorem Near.m_nonneg (h : Near u k m e x y) : 0 ≤ m := (abs_nonneg x).trans h.size

theorem Near.abs_le (h : Near u k m e x y) : |y| ≤ (1 + u) ^ k * m + e := by
  have htri := abs_add_le x (y - x)
  rw [add_sub_cancel] at htri
  have hsize := h.size
  have herr := h.error
  linarith

theorem Near.mono (hu : 0 ≤ u) (hkl : k ≤ l) (h : Near u k m e x y) : Near u l m e x y := by
  refine ⟨h.size, h.slack, h.error.trans ?_⟩
  have hpow : (1 + u) ^ k ≤ (1 + u) ^ l := pow_le_pow_right₀ (by linarith) hkl
  have hmul := mul_le_mul_of_nonneg_right (sub_le_sub_right hpow 1) h.m_nonneg
  linarith

theorem Near.add (h : Near u k m e x y) (h' : Near u k n f x' y') :
    Near u k (m + n) (e + f) (x + x') (y + y') := by
  refine ⟨(abs_add_le _ _).trans (add_le_add h.size h'.size), add_nonneg h.slack h'.slack, ?_⟩
  calc |y + y' - (x + x')| = |(y - x) + (y' - x')| := by rw [add_sub_add_comm]
    _ ≤ |y - x| + |y' - x'| := abs_add_le _ _
    _ ≤ ((1 + u) ^ k - 1) * m + e + (((1 + u) ^ k - 1) * n + f) := add_le_add h.error h'.error
    _ = ((1 + u) ^ k - 1) * (m + n) + (e + f) := by ring

/-- A product with a factor without absolute error. -/
theorem Near.mul (hu : 0 ≤ u) (h : Near u k m 0 x y) (h' : Near u l n f x' y') :
    Near u (k + l) (m * n) ((1 + u) ^ k * m * f) (x * x') (y * y') := by
  have hm := h.m_nonneg
  have hpow : 0 ≤ (1 + u) ^ k := pow_nonneg (by linarith) k
  have hy : |y| ≤ (1 + u) ^ k * m := by simpa using h.abs_le
  refine ⟨?_, mul_nonneg (mul_nonneg hpow hm) h'.slack, ?_⟩
  · rw [abs_mul]
    exact mul_le_mul h.size h'.size (abs_nonneg _) hm
  · have hsplit : y * y' - x * x' = y * (y' - x') + (y - x) * x' := by ring
    have hleft : |y * (y' - x')| ≤ (1 + u) ^ k * m * (((1 + u) ^ l - 1) * n + f) := by
      rw [abs_mul]
      exact mul_le_mul hy h'.error (abs_nonneg _) (mul_nonneg hpow hm)
    have hright : |(y - x) * x'| ≤ (((1 + u) ^ k - 1) * m + 0) * n := by
      rw [abs_mul]
      exact mul_le_mul h.error h'.size (abs_nonneg _) ((abs_nonneg _).trans h.error)
    calc |y * y' - x * x'| ≤ |y * (y' - x')| + |(y - x) * x'| := by
          rw [hsplit]; exact abs_add_le _ _
      _ ≤ (1 + u) ^ k * m * (((1 + u) ^ l - 1) * n + f) + (((1 + u) ^ k - 1) * m + 0) * n :=
          add_le_add hleft hright
      _ = ((1 + u) ^ (k + l) - 1) * (m * n) + (1 + u) ^ k * m * f := by rw [pow_add]; ring

/-- One more rounding. -/
theorem Near.round (hu : 0 ≤ u) (hη : 0 ≤ η) (h : Near u k m e x y)
    (hround : |y' - y| ≤ u * |y| + η) : Near u (k + 1) m ((1 + u) * e + η) x y' := by
  refine ⟨h.size, add_nonneg (mul_nonneg (by linarith) h.slack) hη, ?_⟩
  have hgrow : u * |y| ≤ u * ((1 + u) ^ k * m + e) := mul_le_mul_of_nonneg_left h.abs_le hu
  calc |y' - x| ≤ |y' - y| + |y - x| := abs_sub_le _ _ _
    _ ≤ u * ((1 + u) ^ k * m + e) + η + (((1 + u) ^ k - 1) * m + e) :=
        add_le_add (hround.trans (by linarith)) h.error
    _ = ((1 + u) ^ (k + 1) - 1) * m + ((1 + u) * e + η) := by rw [pow_succ]; ring

/-! ## Computed operations -/

variable {F : Type*} [Add F] [Mul F] [IntCast F] {val : F → K} {Ω : K} {a b : F}

theorem Rounds.near_add (hr : Rounds val u η Ω) (h : Near u k m e x (val a))
    (h' : Near u k n f y (val b)) (hΩ : (1 + u) ^ k * (m + n) + (e + f) ≤ Ω) :
    Near u (k + 1) (m + n) ((1 + u) * (e + f) + η) (x + y) (val (a + b)) :=
  (h.add h').round hr.u_nonneg hr.η_nonneg (hr.add a b ((h.add h').abs_le.trans hΩ))

theorem Rounds.near_mul (hr : Rounds val u η Ω) (h : Near u k m 0 x (val a))
    (h' : Near u l n f y (val b)) (hΩ : (1 + u) ^ (k + l) * (m * n) + (1 + u) ^ k * m * f ≤ Ω) :
    Near u (k + l + 1) (m * n) ((1 + u) * ((1 + u) ^ k * m * f) + η) (x * y) (val (a * b)) :=
  have hprod := h.mul hr.u_nonneg h'
  hprod.round hr.u_nonneg hr.η_nonneg (hr.mul a b (hprod.abs_le.trans hΩ))

/-! ## Quotients -/

/-- Products and quotients with a relative error `u` where they are between 1 and `2 ^ 24`
in size, and without one where they are an integer of that size, as in IEEE 754 single
precision. -/
structure RoundsQuotients {F : Type*} [Mul F] [Div F] [NatCast F] (val : F → K) (u : K) :
    Prop where
  natCast (n : ℕ) : n ≤ 2 ^ 24 → val (n : F) = n
  mul (x y : F) : 1 ≤ |val x * val y| → |val x * val y| ≤ 2 ^ 24 →
    |val (x * y) - val x * val y| ≤ u * |val x * val y|
  mul_nat (x y : F) (n : ℕ) : n ≤ 2 ^ 24 → val x * val y = n → val (x * y) = n
  div (x y : F) : val y ≠ 0 → 1 ≤ |val x / val y| → |val x / val y| ≤ 2 ^ 24 →
    |val (x / y) - val x / val y| ≤ u * |val x / val y|
  div_nat (x y : F) (n : ℕ) : val y ≠ 0 → n ≤ 2 ^ 24 → val x / val y = n → val (x / y) = n

/-! ## Rounding with a function -/

/-- The numbers of `K` under operations that round with `fl`. -/
structure Fl (fl : K → K) where
  val : K
  deriving DecidableEq

namespace Fl

variable {fl : K → K}

instance : Zero (Fl fl) := ⟨⟨fl 0⟩⟩
instance : One (Fl fl) := ⟨⟨fl 1⟩⟩
instance : Neg (Fl fl) := ⟨fun x => ⟨-x.val⟩⟩
instance : Add (Fl fl) := ⟨fun x y => ⟨fl (x.val + y.val)⟩⟩
instance : Sub (Fl fl) := ⟨fun x y => ⟨fl (x.val - y.val)⟩⟩
instance : Mul (Fl fl) := ⟨fun x y => ⟨fl (x.val * y.val)⟩⟩
instance : Div (Fl fl) := ⟨fun x y => ⟨fl (x.val / y.val)⟩⟩
instance : NatCast (Fl fl) := ⟨fun n => ⟨fl n⟩⟩
instance : IntCast (Fl fl) := ⟨fun n => ⟨fl n⟩⟩
instance : OfScientific (Fl fl) := ⟨fun m s e => ⟨fl (OfScientific.ofScientific m s e)⟩⟩

omit [IsStrictOrderedRing K] in
theorem rounds (hu : 0 ≤ u) (hη : 0 ≤ η) (hfl : ∀ z, |z| ≤ Ω → |fl z - z| ≤ u * |z| + η)
    (hint : ∀ n : ℤ, |n| ≤ 2 ^ 24 → fl n = n) : Rounds (fun x : Fl fl => x.val) u η Ω :=
  ⟨hu, hη, fun _ _ => hfl _, fun _ _ => hfl _, hint⟩

omit [IsStrictOrderedRing K] in
theorem roundsQuotients (hfl : ∀ z, 1 ≤ |z| → |z| ≤ 2 ^ 24 → |fl z - z| ≤ u * |z|)
    (hnat : ∀ n : ℕ, n ≤ 2 ^ 24 → fl n = n) : RoundsQuotients (fun x : Fl fl => x.val) u :=
  ⟨hnat, fun _ _ => hfl _, fun _ _ n hn h => (congrArg fl h).trans (hnat n hn),
    fun _ _ _ => hfl _, fun _ _ n _ hn h => (congrArg fl h).trans (hnat n hn)⟩

end Fl

end PicoDrone.Library.Rounding
