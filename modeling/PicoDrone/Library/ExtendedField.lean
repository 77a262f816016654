import Mathlib.Algebra.Order.Field.Basic

/-! # Numbers with infinities and NaN

`Extended K` puts two infinities and NaN around an ordered field, with the
arithmetic of floats in place of an order: an operation on NaN is NaN, and so is
one without a value, such as the difference of two equal infinities. There is
one zero and no rounding. A map `x ↦ a * (x + b) + c` with finite coefficients
and `a` positive takes finite numbers to finite ones, each infinity to itself and
NaN to NaN (`kind_affine`), so iterating it never leaves the kind of its start.
Sums, and products and quotients with a finite number, are finite only if their
operands are: what is lost in between is not found again. -/
namespace PicoDrone.Library.ExtendedField

inductive Extended (K : Type*) where
  | fin (x : K)
  | inf (neg : Bool)
  | nan
  deriving DecidableEq

/-- What is left of a number without its value. -/
inductive Kind where
  | finite | infinite | nan
  deriving DecidableEq

namespace Extended

variable {K : Type*}

def kind : Extended K → Kind
  | fin _ => .finite
  | inf _ => .infinite
  | nan => .nan

theorem kind_eq_finite {x : Extended K} : x.kind = .finite ↔ ∃ v, x = fin v := by
  cases x <;> simp [kind]

/-- True on the two infinities only. -/
def isInf : Extended K → Bool
  | fin _ => false
  | inf _ => true
  | nan => false

theorem isInf_eq_true {x : Extended K} : x.isInf = true ↔ x.kind = .infinite := by
  cases x <;> simp [isInf, kind]

theorem isInf_eq_false {x : Extended K} : x.isInf = false ↔ x.kind ≠ .infinite := by
  cases x <;> simp [isInf, kind]

theorem kind_eq_nan {x : Extended K} : x.kind = .nan ↔ x = nan := by
  cases x <;> simp [kind]

/-! ## Arithmetic -/

instance [Zero K] : Zero (Extended K) := ⟨fin 0⟩

instance [One K] : One (Extended K) := ⟨fin 1⟩

instance [NatCast K] : NatCast (Extended K) := ⟨fun n => fin n⟩

instance [IntCast K] : IntCast (Extended K) := ⟨fun z => fin z⟩

instance [OfScientific K] : OfScientific (Extended K) :=
  ⟨fun m s e => fin (OfScientific.ofScientific m s e)⟩

instance [Neg K] : Neg (Extended K) :=
  ⟨fun
    | fin x => fin (-x)
    | inf neg => inf (!neg)
    | nan => nan⟩

instance [Add K] : Add (Extended K) :=
  ⟨fun
    | nan, _ => nan
    | _, nan => nan
    | fin x, fin y => fin (x + y)
    | fin _, inf neg => inf neg
    | inf neg, fin _ => inf neg
    | inf neg, inf neg' => if neg = neg' then inf neg else nan⟩

instance [Neg K] [Add K] : Sub (Extended K) := ⟨fun x y => x + -y⟩

variable [Zero K] [LT K] [DecidableEq K] [DecidableLT K]

/-- An infinity times a finite number: the signs multiply, and zero gives NaN. -/
def infMul (neg : Bool) (x : K) : Extended K :=
  if x = 0 then nan else inf (neg != decide (x < 0))

instance [Mul K] : Mul (Extended K) :=
  ⟨fun
    | nan, _ => nan
    | _, nan => nan
    | fin x, fin y => fin (x * y)
    | fin x, inf neg => infMul neg x
    | inf neg, fin y => infMul neg y
    | inf neg, inf neg' => inf (neg != neg')⟩

/-- A finite number through zero is infinite, except zero itself. -/
instance [Div K] : Div (Extended K) :=
  ⟨fun
    | nan, _ => nan
    | _, nan => nan
    | fin x, fin y =>
      if y = 0 then (if x = 0 then nan else inf (decide (x < 0))) else fin (x / y)
    | fin _, inf _ => fin 0
    | inf neg, fin y => inf (neg != decide (y < 0))
    | inf _, inf _ => nan⟩

/-! ## Affine maps -/

end Extended

open Extended

variable {K : Type*} [Field K] [LinearOrder K]

theorem fin_div_fin (x : K) {y : K} (hy : y ≠ 0) : (fin x / fin y : Extended K) = fin (x / y) :=
  if_neg hy

omit [LinearOrder K] in
theorem fin_sub_fin (x y : K) : (fin x - fin y : Extended K) = fin (x - y) :=
  congrArg fin (sub_eq_add_neg x y).symm

theorem fin_mul_inf {a : K} (ha : 0 < a) (neg : Bool) :
    (fin a * inf neg : Extended K) = inf neg := by
  have hsign : infMul neg a = inf neg := by
    rw [infMul, if_neg ha.ne', decide_eq_false ha.not_gt, Bool.bne_false]
  exact hsign

/-- **An affine map keeps the kind of its argument.** -/
theorem kind_affine {a : K} (ha : 0 < a) (x : Extended K) (b c : K) :
    (fin a * (x + fin b) + fin c).kind = x.kind := by
  cases x with
  | fin x => rfl
  | inf neg =>
    have hshift : (inf neg + fin b : Extended K) = inf neg := rfl
    rw [hshift, fin_mul_inf ha]
    rfl
  | nan => rfl

/-! ## NaN -/

section NaN

omit [LinearOrder K]

@[simp] theorem nan_add (x : Extended K) : nan + x = nan := by
  cases x <;> rfl

@[simp] theorem add_nan (x : Extended K) : x + nan = nan := by
  cases x <;> rfl

@[simp] theorem sub_nan (x : Extended K) : x - nan = nan := add_nan x

end NaN

@[simp] theorem mul_nan (x : Extended K) : x * nan = nan := by
  cases x <;> rfl

@[simp] theorem nan_div (x : Extended K) : nan / x = nan := by
  cases x <;> rfl

/-! ## When results are finite -/

omit [LinearOrder K] in
@[simp] theorem kind_neg (x : Extended K) : (-x).kind = x.kind := by
  cases x <;> rfl

omit [LinearOrder K] in
theorem add_finite_iff {x y : Extended K} :
    (x + y).kind = .finite ↔ x.kind = .finite ∧ y.kind = .finite := by
  cases x with
  | fin x =>
    cases y with
    | fin y => exact iff_of_true rfl ⟨rfl, rfl⟩
    | inf neg => exact iff_of_false nofun fun h => nomatch h.2
    | nan => exact iff_of_false nofun fun h => nomatch h.2
  | inf neg =>
    refine iff_of_false ?_ fun h => nomatch h.1
    cases y with
    | fin y => exact nofun
    | inf neg' => cases neg <;> cases neg' <;> exact nofun
    | nan => exact nofun
  | nan => exact iff_of_false nofun fun h => nomatch h.1

omit [LinearOrder K] in
theorem sub_finite_iff {x y : Extended K} :
    (x - y).kind = .finite ↔ x.kind = .finite ∧ y.kind = .finite := by
  have hsub : x - y = x + -y := rfl
  rw [hsub, add_finite_iff, kind_neg]

theorem infMul_not_finite (neg : Bool) (x : K) : (infMul neg x).kind ≠ .finite := by
  unfold infMul
  split <;> exact nofun

theorem fin_mul_finite_iff {a : K} {x : Extended K} :
    (fin a * x).kind = .finite ↔ x.kind = .finite := by
  cases x with
  | fin x => exact iff_of_true rfl rfl
  | inf neg => exact iff_of_false (infMul_not_finite neg a) nofun
  | nan => exact iff_of_false nofun nofun

theorem mul_fin_finite_iff {a : K} {x : Extended K} :
    (x * fin a).kind = .finite ↔ x.kind = .finite := by
  cases x with
  | fin x => exact iff_of_true rfl rfl
  | inf neg => exact iff_of_false (infMul_not_finite neg a) nofun
  | nan => exact iff_of_false nofun nofun

theorem div_fin_finite_iff {a : K} (ha : a ≠ 0) {x : Extended K} :
    (x / fin a).kind = .finite ↔ x.kind = .finite := by
  cases x with
  | fin x =>
    rw [fin_div_fin x ha]
    exact iff_of_true rfl rfl
  | inf neg => exact iff_of_false nofun nofun
  | nan => exact iff_of_false nofun nofun

end PicoDrone.Library.ExtendedField
