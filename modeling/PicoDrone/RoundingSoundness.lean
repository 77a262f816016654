import PicoDrone.AttitudeSoundness
import PicoDrone.Library.Rounding

/-! # The estimates in arithmetic that rounds

The filter makes six operations on numbers of moderate size, so an iteration
loses at most `perdida`. Since it keeps 0.98 of what it had, what all iterations
together have lost is never more than fifty times that, however long the run
(`estimate_rounding_bounded`). -/
namespace PicoDrone.RoundingSoundness
open Firmware.Pwm Firmware.Mpu Library.Run Library.Leaky Library.Rounding
open LoopSoundness AttitudeSoundness

variable {K : Type*} [Field K] [LinearOrder K] [IsStrictOrderedRing K]

/-! ## One iteration -/

/-- What one iteration may lose on angles up to `B`. -/
def perdida (u η A T B : K) : K :=
  ((1 + u) ^ 5 - 1) * (0.98 * (B + 250 * T) + 0.02 * A) + 6 * η

variable {F : Type*} [Add F] [Mul F] [IntCast F] [OfScientific F] {val : F → K} {u η Ω A T B : K}

/-- The arithmetic of a run: its error, its two constants and its range. -/
structure Aritmetica (val : F → K) (u η Ω A T B : K) : Prop where
  rounds : Rounds val u η Ω
  u_le : u ≤ 1 / 100
  B_nonneg : 0 ≤ B
  const098 : |val 0.98 - 0.98| ≤ u * 0.98
  const002 : |val 0.02 - 0.02| ≤ u * 0.02
  range : 2 * (B + 250 * T + A + 3 * η) ≤ Ω

theorem pow_le_of_le (hu : 0 ≤ u) (hu1 : u ≤ 1 / 100) {k : ℕ} (hk : k ≤ 4) :
    (1 + u) ^ k ≤ 1.05 := by
  calc (1 + u) ^ k ≤ (1 + u) ^ 4 := pow_le_pow_right₀ (by linarith) hk
    _ ≤ (1 + 1 / 100) ^ 4 := pow_le_pow_left₀ (by linarith) (by linarith) 4
    _ ≤ 1.05 := by norm_num

theorem en_rango {k : ℕ} {m e : K} (hu : 0 ≤ u) (hu1 : u ≤ 1 / 100) (hk : k ≤ 4) (hm : 0 ≤ m)
    (h : 1.05 * m + e ≤ Ω) : (1 + u) ^ k * m + e ≤ Ω := by
  have hgrow := mul_le_mul_of_nonneg_right (pow_le_of_le hu hu1 hk) hm
  linarith

theorem crece {e c : K} (hu1 : u ≤ 1 / 100) (he : 0 ≤ e) (h : e ≤ c) :
    (1 + u) * e ≤ 1.01 * c := by
  have hgrow := mul_le_mul_of_nonneg_right hu1 he
  linarith

/-- The angle that the turn since the last sample leads to: one product, one sum. -/
theorem giro_near (ha : Aritmetica val u η Ω A T B) {prev dt : F} (g : Int16)
    (hB : |val prev| ≤ B) (h0 : 0 ≤ val dt) (hT : val dt ≤ T) (hA : 0 ≤ A) :
    Near u 2 (B + 250 * T) ((1 + u) * η + η) (val prev + (g.toInt.tdiv 131 : ℤ) * val dt)
      (val (prev + (g.toInt.tdiv 131 : ℤ) * dt)) := by
  obtain ⟨hr, hu1, hB0, h98, h02, hΩ⟩ := ha
  have hu := hr.u_nonneg
  have hη := hr.η_nonneg
  have hT0 : 0 ≤ T := h0.trans hT
  let q : ℤ := g.toInt.tdiv 131
  have hq : val (q : F) = q := hr.intCast q ((abs_tdiv_le g).trans (by norm_num))
  have hrate : Near u 0 250 0 (q : K) (val (q : F)) := by
    rw [hq]
    exact Near.exact (abs_cociente_le g)
  have htime : Near u 0 T 0 (val dt) (val dt) := Near.exact ((abs_of_nonneg h0).trans_le hT)
  have hturn : Near u 1 (250 * T) η (q * val dt) (val (q * dt)) := by
    simpa using hr.near_mul hrate htime (en_rango hu hu1 (by omega) (by linarith) (by linarith))
  have hprev : Near u 1 B 0 (val prev) (val prev) := (Near.exact hB).mono hu (Nat.zero_le 1)
  simpa using hr.near_add hprev hturn (en_rango hu hu1 (by omega) (by linarith) (by linarith))

theorem filtro_near (ha : Aritmetica val u η Ω A T B) {prev dt accelAng : F} (g : Int16)
    (hB : |val prev| ≤ B) (h0 : 0 ≤ val dt) (hT : val dt ≤ T) (hA : |val accelAng| ≤ A) :
    |val (filtro prev g dt accelAng) - (0.98 * val prev + aporte g (val dt) (val accelAng))| ≤
      perdida u η A T B := by
  have hA0 : 0 ≤ A := (abs_nonneg _).trans hA
  have hsum := giro_near ha g hB h0 hT hA0
  obtain ⟨hr, hu1, hB0, h98, h02, hΩ⟩ := ha
  have hu := hr.u_nonneg
  have hη := hr.η_nonneg
  have hS0 : 0 ≤ B + 250 * T := by linarith
  -- the two shares
  have h98' : Near u 1 0.98 0 (0.98 : K) (val 0.98) :=
    Near.once (abs_of_pos (by norm_num)).le h98
  have h02' : Near u 1 0.02 0 (0.02 : K) (val 0.02) :=
    Near.once (abs_of_pos (by norm_num)).le h02
  have he : (1 + u) * η + η ≤ 2.01 * η := by
    have := crece hu1 hη le_rfl
    linarith
  have he' : (1 + u) ^ 1 * 0.98 * ((1 + u) * η + η) ≤ 2 * η := by
    rw [pow_one, mul_assoc]
    have := crece hu1 (mul_nonneg (by norm_num) hsum.slack)
      (mul_le_mul_of_nonneg_left he (by norm_num : (0 : K) ≤ 0.98))
    linarith
  have hgyro := hr.near_mul h98' hsum
    (en_rango hu hu1 (by omega) (mul_nonneg (by norm_num) hS0) (by linarith))
  have haccel : Near u 4 (0.02 * A) η (0.02 * val accelAng) (val (0.02 * accelAng)) := by
    have h := hr.near_mul h02' (Near.exact hA)
      (en_rango hu hu1 (by omega) (mul_nonneg (by norm_num) hA0) (by linarith))
    rw [mul_zero, mul_zero, zero_add] at h
    exact h.mono hu (by omega)
  have he'' : (1 + u) * ((1 + u) ^ 1 * 0.98 * ((1 + u) * η + η)) + η + η ≤ 4.02 * η := by
    have := crece hu1 (mul_nonneg (by positivity) hsum.slack) he'
    linarith
  have hall := hr.near_add hgyro haccel (en_rango hu hu1 le_rfl (by linarith) (by linarith))
  have hlast := crece hu1 (add_nonneg hgyro.slack haccel.slack) he''
  have hexact : 0.98 * (val prev + (g.toInt.tdiv 131 : ℤ) * val dt) + 0.02 * val accelAng =
      0.98 * val prev + aporte g (val dt) (val accelAng) := by
    rw [aporte]
    ring
  rw [← hexact]
  refine hall.error.trans ?_
  unfold perdida
  linarith

/-! ## Runs of any length -/

omit [OfScientific F] in
theorem perdida_nonneg (hr : Rounds val u η Ω) (hA : 0 ≤ A) (hT : 0 ≤ T) (hB : 0 ≤ B) :
    0 ≤ perdida u η A T B := by
  have hu := hr.u_nonneg
  have hη := hr.η_nonneg
  have hpow : 1 ≤ (1 + u) ^ 5 := one_le_pow₀ (by linarith)
  have hmul := mul_nonneg (sub_nonneg.mpr hpow)
    (by linarith : 0 ≤ 0.98 * (B + 250 * T) + 0.02 * A)
  unfold perdida
  linarith

/-- One axis: what is left of the old error leaves room for a new loss. -/
theorem eje_near (ha : Aritmetica val u η Ω A T B)
    (hcap : A + 12250 * T + 50 * perdida u η A T B ≤ B) {x dt accelAng : ℕ → F} {g : ℕ → Int16}
    (hx : ∀ n, x (n + 1) = filtro (x n) (g n) (dt n) (accelAng n))
    (hx0 : |val (x 0)| ≤ A + 12250 * T) (hdt : ∀ n, 0 ≤ val (dt n) ∧ val (dt n) ≤ T)
    (hA : ∀ n, |val (accelAng n)| ≤ A) (n : ℕ) :
    let exacto := eje filtro (val (x 0)) g (fun i => val (dt i)) fun i => val (accelAng i)
    |val (x n) - exacto n| ≤ 50 * perdida u η A T B ∧ |val (x n)| ≤ B := by
  intro exacto
  have hT0 : 0 ≤ T := (hdt 0).1.trans (hdt 0).2
  have hA0 : 0 ≤ A := (abs_nonneg _).trans (hA 0)
  have hloss := perdida_nonneg ha.rounds hA0 hT0 ha.B_nonneg
  have hexacto (n : ℕ) : |exacto n| ≤ A + 12250 * T := by
    simp only [exacto, eje_filtro]
    exact abs_leaky_le (by norm_num) hx0 fun i _ => abs_aporte_le (hdt i).1 (hdt i).2 (hA i)
  have hsize (n : ℕ) (h : |val (x n) - exacto n| ≤ 50 * perdida u η A T B) : |val (x n)| ≤ B := by
    have htri := abs_sub_abs_le_abs_sub (val (x n)) (exacto n)
    linarith [hexacto n]
  have herr : |val (x n) - exacto n| ≤ 50 * perdida u η A T B := by
    induction n with
    | zero =>
      rw [show exacto 0 = val (x 0) from rfl, sub_self, abs_zero]
      linarith
    | succ n ih =>
      have hlocal := filtro_near ha (g n) (hsize n ih) (hdt n).1 (hdt n).2 (hA n)
      have hnext : exacto (n + 1) =
          0.98 * exacto n + aporte (g n) (val (dt n)) (val (accelAng n)) := filtro_eq _ _ _ _
      have hold : |0.98 * (val (x n) - exacto n)| ≤ 0.98 * (50 * perdida u η A T B) := by
        rw [abs_mul, abs_of_pos (by norm_num : (0 : K) < 0.98)]
        exact mul_le_mul_of_nonneg_left ih (by norm_num)
      have hsplit : val (x (n + 1)) - exacto (n + 1) =
          val (x (n + 1)) - (0.98 * val (x n) + aporte (g n) (val (dt n)) (val (accelAng n))) +
            0.98 * (val (x n) - exacto n) := by
        rw [hnext]
        ring
      rw [← hx] at hlocal
      rw [hsplit]
      linarith [abs_add_le (val (x (n + 1)) - (0.98 * val (x n) +
        aporte (g n) (val (dt n)) (val (accelAng n)))) (0.98 * (val (x n) - exacto n))]
  exact ⟨herr, hsize n herr⟩

variable [Zero F] [One F] [Neg F] [Sub F] [Div F] [NatCast F] [DecidableEq F]

/-- **Rounding errors do not accumulate.** For every arithmetic that rounds with a
relative error `u` and an absolute error `η`, every run of the loop with time steps
up to `T` and accelerometer angles up to `A` from angles that such a run can reach,
and every `B` that leaves room for fifty times the loss of one iteration (`hcap`):
however long the run, both estimates are within that of those of exact arithmetic
on the same accelerometer angles and time steps, and they never leave the range in
which the arithmetic is good. All operations are in this one arithmetic, where the source
computes the filter in `double` and rounds once more on assignment. -/
theorem estimate_rounding_bounded (ha : Aritmetica val u η Ω A T B)
    (hcap : A + 12250 * T + 50 * perdida u η A T B ≤ B) (lib : Libm F) (hw : PwmHw) {x0 y0 : F}
    (ins : ℕ → EntradaBucle F) (hx0 : |val x0| ≤ A + 12250 * T) (hy0 : |val y0| ≤ A + 12250 * T)
    (hdt : ∀ i, 0 ≤ val (ins i).dt ∧ val (ins i).dt ≤ T)
    (hax : ∀ i, |val (accelAngX lib (ins i).muestra)| ≤ A)
    (hay : ∀ i, |val (accelAngY lib (ins i).muestra)| ≤ A) (n : ℕ) :
    let s := stateAt (Bucle.paso lib) (.inicial hw x0 y0) ins n
    let exactoX := eje filtro (val x0) (fun i => (ins i).muestra.gx) (fun i => val (ins i).dt)
      fun i => val (accelAngX lib (ins i).muestra)
    let exactoY := eje filtro (val y0) (fun i => (ins i).muestra.gy) (fun i => val (ins i).dt)
      fun i => val (accelAngY lib (ins i).muestra)
    (|val s.angXPrev - exactoX n| ≤ 50 * perdida u η A T B ∧ |val s.angXPrev| ≤ B) ∧
      |val s.angYPrev - exactoY n| ≤ 50 * perdida u η A T B ∧ |val s.angYPrev| ≤ B :=
  ⟨eje_near (x := fun n => (stateAt (Bucle.paso lib) (.inicial hw x0 y0) ins n).angXPrev) ha hcap
      (fun _ => rfl) hx0 hdt hax n,
    eje_near (x := fun n => (stateAt (Bucle.paso lib) (.inicial hw x0 y0) ins n).angYPrev) ha hcap
      (fun _ => rfl) hy0 hdt hay n⟩

/-! ## A fixed-point arithmetic -/

/-- Drops what is below the twentieth binary digit. -/
def truncar (z : ℚ) : ℚ := ⌊z * 2 ^ 20⌋ / 2 ^ 20

theorem abs_truncar_sub_le (z : ℚ) : |truncar z - z| ≤ 1 / 2 ^ 20 := by
  have hsplit : truncar z - z = -Int.fract (z * 2 ^ 20) / 2 ^ 20 := by
    rw [truncar, Int.fract]
    field_simp
    ring
  rw [hsplit, abs_div, abs_neg, Int.abs_fract, abs_of_pos (by norm_num)]
  exact div_le_div_of_nonneg_right (Int.fract_lt_one _).le (by norm_num)

theorem truncar_intCast (n : ℤ) : truncar n = n := by
  have hfloor : ⌊(n : ℚ) * 2 ^ 20⌋ = n * 2 ^ 20 := by
    rw [Int.floor_eq_iff]
    push_cast
    constructor <;> linarith
  rw [truncar, hfloor]
  push_cast
  exact mul_div_cancel_right₀ _ (by norm_num)

theorem aritmetica_truncar :
    Aritmetica (fun x : Fl truncar => x.val) (1 / 1000) (1 / 2 ^ 20) 1000 0 0.003 50 := by
  have hround (z : ℚ) : |truncar z - z| ≤ 1 / 1000 * |z| + 1 / 2 ^ 20 := by
    linarith [abs_truncar_sub_le z, abs_nonneg z]
  refine ⟨Fl.rounds (by norm_num) (by norm_num) (fun z _ => hround z)
    (fun n _ => truncar_intCast n), by norm_num, by norm_num, ?_, ?_, by norm_num⟩
  · exact (abs_truncar_sub_le 0.98).trans (by norm_num)
  · exact (abs_truncar_sub_le 0.02).trans (by norm_num)

/-- A level sensor that turns at two degrees per second, and a `libm` without arc tangent. -/
def giro : EntradaBucle (Fl truncar) :=
  { muestra := { ax := 0, ay := 0, az := 16384, gx := 262, gy := -131 }
    dt := ⟨0.003⟩
    rawValue := 2000
    num := { isinf := fun _ => false, aUint16 := fun _ _ => 0 } }

def sinArco : Libm (Fl truncar) := { sqrt := id, atan := fun _ => ⟨0⟩ }

theorem anguloAccel_sinArco (num d1 d2 : ℤ) : (anguloAccel sinArco num d1 d2).val = 0 := by
  have hzero : truncar 0 = 0 := by exact_mod_cast truncar_intCast 0
  unfold anguloAccel
  extract_lets norma
  split
  · exact (congrArg truncar (zero_mul _)).trans hzero
  · exact hzero

theorem estimate_rounding_bounded_turning :
    |(stateAt (Bucle.paso sinArco) (.inicial default ⟨0⟩ ⟨0⟩) (fun _ => giro) 1000).angXPrev.val -
      eje filtro 0 (fun _ => 262) (fun _ => 0.003)
        (fun _ => (accelAngX sinArco giro.muestra).val) 1000| ≤
      50 * perdida (1 / 1000) (1 / 2 ^ 20) 0 0.003 50 :=
  (estimate_rounding_bounded aritmetica_truncar (by norm_num [perdida]) sinArco default
    (fun _ => giro) (by norm_num) (by norm_num) (fun _ => by norm_num [giro])
    (fun _ => (abs_eq_zero.mpr (anguloAccel_sinArco ..)).le)
    (fun _ => (abs_eq_zero.mpr (anguloAccel_sinArco ..)).le) 1000).1.1

end PicoDrone.RoundingSoundness
