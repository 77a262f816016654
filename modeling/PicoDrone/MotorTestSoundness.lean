import Mathlib.Algebra.BigOperators.Intervals
import PicoDrone.BankSoundness
import PicoDrone.Firmware.PruebaMotores
import PicoDrone.RoundingSoundness

/-! # The two programs that only drive motors

The sweep counts up and down between its two limits, and the direction it takes is a
function of where it is in a round of a thousand iterations (`avanzar_onda`). Level, LED,
pauses and the whole peripheral follow in closed form (`sweep_closed_form`). -/
namespace PicoDrone.MotorTestSoundness
open Firmware.Pwm Firmware.PruebaMotores Library.Run BankSoundness

/-! ## Channels -/

theorem nivel_escribirCanal (hw : PwmHw) (gpio : ℕ) (level : UInt16) :
    nivel (escribirCanal hw gpio level) = Function.update (nivel hw) (canal gpio) level :=
  nivel_setChanLevel hw (canal gpio) level

theorem ajustes_escribirCanal (hw : PwmHw) (gpio : ℕ) (level : UInt16) :
    ajustes (escribirCanal hw gpio level) = ajustes hw :=
  ajustes_setChanLevel hw _ _ level

theorem prepararCanal_slices (hw : PwmHw) (gpio s : ℕ) :
    (prepararCanal hw gpio).slices s =
      if s = pwmGpioToSliceNum gpio then
        { clkdiv := 16 * 255, wrap := 32550, enabled := true, level := (hw.slices s).level }
      else hw.slices s := by
  simp only [prepararCanal, PwmHw.pwmSetEnabled, PwmHw.pwmSetWrap, PwmHw.pwmSetClkdiv,
    PwmHw.escribirSlice, PwmHw.gpioSetFunctionPwm]
  by_cases h : s = pwmGpioToSliceNum gpio
  · simp only [if_pos h]
    rfl
  · simp only [if_neg h]

theorem nivel_prepararCanal (hw : PwmHw) (gpio : ℕ) :
    nivel (prepararCanal hw gpio) = nivel hw := by
  funext c
  rw [nivel, prepararCanal_slices]
  by_cases h : c.1 = pwmGpioToSliceNum gpio
  · rw [if_pos h, nivel]
  · rw [if_neg h, nivel]

theorem ajustes_prepararCanal (hw : PwmHw) (gpio : ℕ) :
    ajustes (prepararCanal hw gpio) =
      Function.update (ajustes hw) (canal gpio).1 (16 * 255, 32550, true) := by
  funext s
  rw [ajustes, prepararCanal_slices, Function.update_apply]
  by_cases h : s = pwmGpioToSliceNum gpio
  · rw [if_pos h]
    exact (if_pos h).symm
  · rw [if_neg h]
    exact (if_neg h).symm

/-! ## The sweep -/

section Sweep

open Antiguo

/-- The level after `n` iterations, a triangle of period 1000. -/
def onda (n : ℕ) : ℤ := 480 + min (n % 1000 : ℕ) (1000 - (n % 1000 : ℕ))

/-- The branch that iteration `n` (counted from 0) takes. -/
def sube (n : ℕ) : Bool := n % 1000 < 500

theorem onda_sube {n k : ℕ} (hk : n % 1000 = k) (h : k < 500) : onda n = 480 + k := by
  rw [onda, hk]
  omega

theorem onda_baja {n k : ℕ} (hk : n % 1000 = k) (h : 500 ≤ k) : onda n = 1480 - k := by
  rw [onda, hk]
  omega

/-- **Step.** The cases are the four places of a round where a branch behaves alike. -/
theorem avanzar_onda (n : ℕ) :
    avanzar (onda n) (sube n) = (onda (n + 1), sube (n + 1), sube n,
      if (n + 1) % 1000 = 0 then 3000 else 0) := by
  obtain ⟨k, hk⟩ : ∃ k, n % 1000 = k := ⟨_, rfl⟩
  have hlt : k < 1000 := hk ▸ Nat.mod_lt n (by decide)
  obtain h | rfl | ⟨h, h'⟩ | rfl : k < 499 ∨ k = 499 ∨ (499 < k ∧ k < 999) ∨ k = 999 := by omega
  · have hnext : (n + 1) % 1000 = k + 1 := by omega
    rw [onda_sube hk (by omega), onda_sube hnext (by omega)]
    simp [avanzar, sube, hk, hnext, show k < 500 by omega, show k + 1 < 500 by omega, add_assoc]
    omega
  · have hnext : (n + 1) % 1000 = 500 := by omega
    rw [onda_sube hk (by decide), onda_baja hnext le_rfl]
    simp [avanzar, sube, hk, hnext]
  · have hnext : (n + 1) % 1000 = k + 1 := by omega
    rw [onda_baja hk (by omega), onda_baja hnext (by omega)]
    simp [avanzar, sube, hk, hnext, show ¬ k < 500 by omega, show ¬ k + 1 < 500 by omega, sub_sub]
    omega
  · have hnext : (n + 1) % 1000 = 0 := by omega
    rw [onda_baja hk (by decide), onda_sube hnext (by decide)]
    simp [avanzar, sube, hk, hnext]

/-- The state after `n` iterations. -/
def barrido (hw : PwmHw) (n : ℕ) : Estado := stateAt Estado.paso (.inicial hw) (fun _ => ()) n

/-- The milliseconds of iteration `n`. -/
def pausa (hw : PwmHw) (n : ℕ) : ℕ := outputAt Estado.paso (.inicial hw) (fun _ => ()) n

theorem barrido_level (hw : PwmHw) (n : ℕ) :
    (barrido hw n).level = onda n ∧ (barrido hw n).ascenso = sube n := by
  induction n with
  | zero => exact ⟨rfl, rfl⟩
  | succ n ih =>
    have hstep := avanzar_onda n
    rw [← ih.1, ← ih.2] at hstep
    have hnext : barrido hw (n + 1) = ((barrido hw n).paso ()).1 := rfl
    rw [hnext, Estado.paso, hstep]
    exact ⟨rfl, rfl⟩

/-- An iteration takes the level one step along the triangle and stores it. -/
theorem barrido_succ (hw : PwmHw) (n : ℕ) :
    (barrido hw n).paso () =
      ({ level := onda (n + 1), ascenso := sube (n + 1), led := sube n
         hw := escribirCanal (barrido hw n).hw pinOut (UInt16.ofInt (onda (n + 1))) },
        (if (n + 1) % 1000 = 0 then 3000 else 0) + 2) := by
  obtain ⟨hlevel, hascenso⟩ := barrido_level hw n
  rw [Estado.paso, hlevel, hascenso, avanzar_onda]

theorem sum_pausa (hw : PwmHw) (n : ℕ) :
    ∑ i ∈ Finset.range n, pausa hw i = 2 * n + 3000 * (n / 1000) := by
  induction n with
  | zero => rfl
  | succ n ih =>
    have hpausa : pausa hw n = (if (n + 1) % 1000 = 0 then 3000 else 0) + 2 :=
      congrArg Prod.snd (barrido_succ hw n)
    rw [Finset.sum_range_succ, ih, hpausa]
    split <;> omega

/-- Only the level of the motor's channel ever changes. -/
theorem barrido_hw (hw : PwmHw) (n : ℕ) :
    ajustes (barrido hw n).hw = ajustes (prepararCanal hw pinOut) ∧
      ∀ c, c ≠ canal pinOut → nivel (barrido hw n).hw c = nivel hw c := by
  induction n with
  | zero => exact ⟨rfl, fun c _ => congrFun (nivel_prepararCanal hw pinOut) c⟩
  | succ n ih =>
    obtain ⟨hajustes, hnivel⟩ := ih
    have hnext : (barrido hw (n + 1)).hw =
        escribirCanal (barrido hw n).hw pinOut (UInt16.ofInt (onda (n + 1))) :=
      congrArg (fun p => p.1.hw) (barrido_succ hw n)
    rw [hnext, ajustes_escribirCanal, nivel_escribirCanal]
    exact ⟨hajustes, fun c hc => (Function.update_of_ne hc _ _).trans (hnivel c hc)⟩

/-- **The sweep.** Whatever the hardware held before, after any number of iterations the
level is on a triangle between 480 and 980 with a period of 1000 iterations, the LED
shows the direction of the last step, the motor's channel has the level, nothing else of
the peripheral has changed since the set-up, which leaves 255 in the divider, and the time
slept is two milliseconds an iteration and three seconds a round. -/
theorem sweep_closed_form (hw : PwmHw) (n : ℕ) :
    (barrido hw n).level = 480 + min (n % 1000 : ℕ) (1000 - (n % 1000 : ℕ)) ∧
      ((barrido hw n).ascenso = true ↔ n % 1000 < 500) ∧
      (∀ k, n = k + 1 → ((barrido hw n).led = true ↔ k % 1000 < 500) ∧
        ((nivel (barrido hw n).hw (canal pinOut)).toNat : ℤ) = (barrido hw n).level) ∧
      (∀ c, c ≠ canal pinOut → nivel (barrido hw n).hw c = nivel hw c) ∧
      ajustes (barrido hw n).hw (canal pinOut).1 = (16 * 255, 32550, true) ∧
      ∑ i ∈ Finset.range n, pausa hw i = 2 * n + 3000 * (n / 1000) := by
  obtain ⟨hlevel, hascenso⟩ := barrido_level hw n
  obtain ⟨hajustes, hnivel⟩ := barrido_hw hw n
  refine ⟨hlevel, by simp [hascenso, sube], ?_, hnivel, ?_, sum_pausa hw n⟩
  · rintro k rfl
    have hnext : barrido hw (k + 1) = ((barrido hw k).paso ()).1 := rfl
    have hbounds : 0 ≤ onda (k + 1) ∧ onda (k + 1) < 65536 := by
      rw [onda]
      omega
    have hofInt : ((UInt16.ofInt (onda (k + 1))).toNat : ℤ) = onda (k + 1) := by
      rw [UInt16.ofInt, UInt16.toNat_ofNat_of_lt']
      · omega
      · rw [UInt16.size]
        omega
    rw [hnext, barrido_succ]
    refine ⟨by simp [sube], (congrArg (fun x : UInt16 => (x.toNat : ℤ)) ?_).trans hofInt⟩
    rw [nivel_escribirCanal, Function.update_self]
  · rw [hajustes, ajustes_prepararCanal, Function.update_self]

end Sweep

/-! ## Four motors in lockstep -/

section Lockstep

open Firmware.Control Potenciometro Library.Rounding ActuationSoundness

variable {K : Type*} [Field K] [LinearOrder K] [IsStrictOrderedRing K]
variable {F : Type*} [Mul F] [Div F] [NatCast F] {val : F → K} {u : K}

/-- The level a reading asks for, in exact arithmetic. -/
def nivelExacto (rawValue : UInt16) : ℕ := 489 * (100 + (valor rawValue).toNat) / 100

theorem valor_le (rawValue : UInt16) : (valor rawValue).toNat ≤ 100 := by
  rw [valor_toNat]
  omega

/-- What two roundings leave of the exact product. -/
theorem abs_sub_lt_of_two {z q p : K} (hu : u ≤ 1 / 10 ^ 6) (hz0 : 0 ≤ z)
    (hz2 : z ≤ 2) (hq : |q - z| ≤ u * z) (hp : |p - 489 * q| ≤ u * |489 * q|) :
    |p - 489 * z| < 1 / 100 := by
  have huz : u * z ≤ 1 / 10 ^ 6 * 2 := mul_le_mul hu hz2 hz0 (by norm_num)
  have hq3 : |q| ≤ 3 := by linarith [abs_sub_abs_le_abs_sub q z, abs_of_nonneg hz0]
  have huq : u * |489 * q| ≤ 1 / 10 ^ 6 * (489 * 3) := by
    rw [abs_mul, abs_of_pos (by norm_num : (0 : K) < 489)]
    exact mul_le_mul hu (by linarith) (by positivity) (by norm_num)
  calc |p - 489 * z| ≤ |p - 489 * q| + |489 * q - 489 * z| := abs_sub_le _ _ _
    _ = |p - 489 * q| + 489 * |q - z| := by
        rw [← mul_sub, abs_mul, abs_of_pos (by norm_num : (0 : K) < 489)]
    _ < 1 / 100 := by linarith

/-- The exact product is an integer for a stop of the potentiometer, where both operations
are exact, and otherwise a hundredth away from the next ones. -/
theorem producto_cases (rawValue : UInt16) :
    (∃ n, n ≤ 2 ∧ (valor rawValue).toNat + 100 = 100 * n ∧ nivelExacto rawValue = 489 * n) ∨
      (nivelExacto rawValue * 100 + 1 ≤ 489 * (100 + (valor rawValue).toNat) ∧
        489 * (100 + (valor rawValue).toNat) + 1 ≤ (nivelExacto rawValue + 1) * 100) := by
  have hle := valor_le rawValue
  rw [nivelExacto]
  by_cases h0 : (valor rawValue).toNat = 0
  · exact .inl ⟨1, by omega, by omega, by omega⟩
  · by_cases h100 : (valor rawValue).toNat = 100
    · exact .inl ⟨2, by omega, by omega, by omega⟩
    · exact .inr (by omega)

/-- The factor of `usDeseados` in exact arithmetic, between 1 and 2. -/
def factor (K : Type*) [Field K] (rawValue : UInt16) : K :=
  ((100 + (valor rawValue).toNat : ℕ) : K) / 100

theorem factor_mul (rawValue : UInt16) :
    (100 : K) * factor K rawValue = 100 + (valor rawValue).toNat := by
  rw [factor, mul_div_cancel₀ _ (by norm_num : (100 : K) ≠ 0)]
  push_cast
  rfl

theorem factor_bounds (rawValue : UInt16) : 1 ≤ factor K rawValue ∧ factor K rawValue ≤ 2 := by
  have hmul := factor_mul (K := K) rawValue
  have hv0 : (0 : K) ≤ (valor rawValue).toNat := Nat.cast_nonneg _
  have hv1 : ((valor rawValue).toNat : K) ≤ 100 := by exact_mod_cast valor_le rawValue
  constructor <;> linarith

/-- The quotient of the two numbers that are divided. -/
theorem cociente_eq (hr : RoundsQuotients val u) (rawValue : UInt16) :
    val ((100 : ℕ) : F) ≠ 0 ∧
      val ((100 + (valor rawValue).toNat : ℕ) : F) / val ((100 : ℕ) : F) = factor K rawValue := by
  have hle := valor_le rawValue
  have h100 : val ((100 : ℕ) : F) = 100 := by simpa using hr.natCast 100 (by norm_num)
  rw [h100, hr.natCast _ (by omega)]
  exact ⟨by norm_num, rfl⟩

/-- Both operations are exact at a stop of the potentiometer. -/
theorem producto_exacto (hr : RoundsQuotients val u) {rawValue : UInt16} {n : ℕ} (hn : n ≤ 2)
    (hv : (valor rawValue).toNat + 100 = 100 * n) :
    val ((489 : ℕ) * usDeseados rawValue : F) = (489 * n : ℕ) := by
  obtain ⟨h100, hz⟩ := cociente_eq hr rawValue
  have hfactor : factor K rawValue = n := by
    have hcast : ((100 + (valor rawValue).toNat : ℕ) : K) = 100 * n := by
      rw [add_comm, hv]
      push_cast
      rfl
    rw [factor, hcast, mul_div_cancel_left₀ _ (by norm_num : (100 : K) ≠ 0)]
  have hus : val (usDeseados rawValue : F) = n :=
    hr.div_nat _ _ n h100 (by omega) (hz.trans hfactor)
  refine hr.mul_nat _ _ _ (by omega) ?_
  rw [hr.natCast 489 (by norm_num), hus]
  push_cast
  rfl

/-- Both operations rounded, anywhere else. -/
theorem producto_redondeado (hr : RoundsQuotients val u) (hu : u ≤ 1 / 10 ^ 6)
    (rawValue : UInt16) :
    |val ((489 : ℕ) * usDeseados rawValue : F) - 489 * factor K rawValue| < 1 / 100 := by
  obtain ⟨h100, hz⟩ := cociente_eq hr rawValue
  obtain ⟨h1, h2⟩ := factor_bounds (K := K) rawValue
  have h489 : val ((489 : ℕ) : F) = 489 := by simpa using hr.natCast 489 (by norm_num)
  have hq : |val (usDeseados rawValue : F) - factor K rawValue| ≤ u * factor K rawValue := by
    have hdiv := hr.div ((100 + (valor rawValue).toNat : ℕ) : F) ((100 : ℕ) : F) h100
    rw [hz, abs_of_nonneg (by linarith : 0 ≤ factor K rawValue)] at hdiv
    exact hdiv h1 (by linarith)
  have huz : u * factor K rawValue ≤ 1 / 10 ^ 6 * 2 :=
    mul_le_mul hu h2 (by linarith) (by norm_num)
  have hbounds := abs_le.mp (hq.trans huz)
  have hpos : 0 ≤ 489 * val (usDeseados rawValue : F) := by linarith
  have hp : |val ((489 : ℕ) * usDeseados rawValue : F) - 489 * val (usDeseados rawValue : F)| ≤
      u * |489 * val (usDeseados rawValue : F)| := by
    have hmul := hr.mul ((489 : ℕ) : F) (usDeseados rawValue)
    rw [h489, abs_of_nonneg hpos] at hmul
    rw [abs_of_nonneg hpos]
    exact hmul (by linarith) (by linarith)
  exact abs_sub_lt_of_two hu (by linarith) h2 hq hp

theorem producto_near (hr : RoundsQuotients val u) (hu : u ≤ 1 / 10 ^ 6)
    (rawValue : UInt16) :
    (nivelExacto rawValue : K) ≤ val ((489 : ℕ) * usDeseados rawValue : F) ∧
      val ((489 : ℕ) * usDeseados rawValue : F) < nivelExacto rawValue + 1 := by
  obtain ⟨n, hn, hv, hexacto⟩ | ⟨hlo, hhi⟩ := producto_cases rawValue
  · rw [producto_exacto hr hn hv, hexacto]
    exact ⟨le_rfl, lt_add_one _⟩
  · have hnear := abs_lt.mp (producto_redondeado (F := F) hr hu rawValue)
    have hfactor := factor_mul (K := K) rawValue
    have hlo' : (nivelExacto rawValue : K) * 100 + 1 ≤ 489 * (100 + (valor rawValue).toNat) := by
      exact_mod_cast hlo
    have hhi' : 489 * (100 + ((valor rawValue).toNat : K)) + 1 ≤
        ((nivelExacto rawValue : K) + 1) * 100 := by
      exact_mod_cast hhi
    constructor <;> linarith

theorem nivelExacto_bounds (rawValue : UInt16) :
    489 ≤ nivelExacto rawValue ∧ nivelExacto rawValue ≤ 978 := by
  have := valor_le rawValue
  rw [nivelExacto]
  omega

theorem nivelExacto_mono {rawValue rawValue' : UInt16} (h : rawValue ≤ rawValue') :
    nivelExacto rawValue ≤ nivelExacto rawValue' := by
  rw [UInt16.le_iff_toNat_le] at h
  rw [nivelExacto, nivelExacto, valor_toNat, valor_toNat]
  omega

theorem level_toNat [FloorRing K] {aUint16 : F → UInt16}
    (hconv : ∀ x, 0 ≤ val x → val x < 65536 → (aUint16 x).toNat = ⌊val x⌋₊)
    (hr : RoundsQuotients val u) (hu : u ≤ 1 / 10 ^ 6) (rawValue : UInt16) :
    (level aUint16 rawValue).toNat = nivelExacto rawValue := by
  obtain ⟨hlo, hhi⟩ := producto_near hr hu rawValue
  obtain ⟨-, hle⟩ := nivelExacto_bounds rawValue
  have hle' : (nivelExacto rawValue : K) ≤ 978 := by exact_mod_cast hle
  have h0 : (0 : K) ≤ nivelExacto rawValue := Nat.cast_nonneg _
  rw [level, hconv _ (by linarith) (by linarith)]
  exact (Nat.floor_eq_iff (by linarith)).mpr ⟨hlo, hhi⟩

/-! ### The peripheral -/

theorem nivel_foldl (hw : PwmHw) (gs : List ℕ) (level : UInt16) (c : ℕ × ℕ) :
    nivel (gs.foldl (fun hw gpio => escribirCanal hw gpio level) hw) c =
      if c ∈ gs.map canal then level else nivel hw c := by
  induction gs generalizing hw with
  | nil => rfl
  | cons g gs ih =>
    rw [List.foldl_cons, ih, nivel_escribirCanal, Function.update_apply, List.map_cons]
    by_cases hmem : c ∈ gs.map canal <;> by_cases hc : c = canal g <;> simp [hmem, hc]

theorem ajustes_foldl (hw : PwmHw) (gs : List ℕ) (level : UInt16) :
    ajustes (gs.foldl (fun hw gpio => escribirCanal hw gpio level) hw) = ajustes hw := by
  induction gs generalizing hw with
  | nil => rfl
  | cons g gs ih => rw [List.foldl_cons, ih, ajustes_escribirCanal]

theorem nivel_inicial (hw : PwmHw) : nivel (inicial hw) = nivel hw := by
  simp only [inicial, pines, List.foldl_cons, List.foldl_nil, nivel_prepararCanal]

theorem ajustes_preparar (hw : PwmHw) (gs : List ℕ) (s : ℕ) :
    ajustes (gs.foldl prepararCanal hw) s =
      if s ∈ gs.map (fun g => (canal g).1) then (16 * 255, 32550, true) else ajustes hw s := by
  induction gs generalizing hw with
  | nil => rfl
  | cons g gs ih =>
    rw [List.foldl_cons, ih, ajustes_prepararCanal, Function.update_apply, List.map_cons]
    by_cases hmem : s ∈ gs.map (fun g => (canal g).1) <;>
      by_cases hs : s = (canal g).1 <;> simp [hmem, hs]

/-- What holds of the peripheral after any readings. -/
structure EnMarcha (hw s : PwmHw) : Prop where
  ajustes_eq : ajustes s = ajustes (inicial hw)
  resto : ∀ c, c ∉ pines.map canal → nivel s c = nivel hw c

theorem EnMarcha.paso {hw s : PwmHw} (h : EnMarcha hw s) (aUint16 : F → UInt16)
    (rawValue : UInt16) : EnMarcha hw (paso aUint16 s rawValue).1 := by
  refine ⟨(ajustes_foldl s pines _).trans h.ajustes_eq, fun c hc => ?_⟩
  rw [Potenciometro.paso, nivel_foldl, if_neg hc]
  exact h.resto c hc

/-- **Lockstep.** In any arithmetic that rounds as single precision does, after any
readings of the potentiometer, the last of them `rawValue`: all four motors have the level
of exact arithmetic for it, between 489 and 978 and never smaller for a larger reading,
their slices are still set up, and no other channel has changed. -/
theorem potentiometer_lockstep [FloorRing K] {aUint16 : F → UInt16}
    (hconv : ∀ x, 0 ≤ val x → val x < 65536 → (aUint16 x).toNat = ⌊val x⌋₊)
    (hr : RoundsQuotients val u) (hu : u ≤ 1 / 10 ^ 6) (hw : PwmHw) (ls : List UInt16)
    (rawValue : UInt16) :
    let s := stateAfter (paso aUint16) (inicial hw) (ls ++ [rawValue])
    (∀ g ∈ pines, (nivel s (canal g)).toNat = nivelExacto rawValue ∧
        ajustes s (canal g).1 = (16 * 255, 32550, true)) ∧
      (489 ≤ nivelExacto rawValue ∧ nivelExacto rawValue ≤ 978 ∧
        ∀ rawValue', rawValue ≤ rawValue' → nivelExacto rawValue ≤ nivelExacto rawValue') ∧
      ∀ c, c ∉ pines.map canal → nivel s c = nivel hw c := by
  intro s
  obtain ⟨hlo, hhi⟩ := nivelExacto_bounds rawValue
  have hstart : EnMarcha hw (inicial hw) := ⟨rfl, fun c _ => congrFun (nivel_inicial hw) c⟩
  have hrun : EnMarcha hw s := stateAfter_inv hstart (fun _ r h => h.paso aUint16 r) _
  have hlast : s = (paso aUint16 (stateAfter (paso aUint16) (inicial hw) ls) rawValue).1 :=
    stateAfter_concat _ _ _
  refine ⟨fun g hg => ⟨?_, ?_⟩, ⟨hlo, hhi, fun _ => nivelExacto_mono⟩, hrun.resto⟩
  · rw [hlast, Potenciometro.paso, nivel_foldl, if_pos (List.mem_map_of_mem hg)]
    exact level_toNat hconv hr hu rawValue
  · rw [hrun.ajustes_eq, inicial, ajustes_preparar, if_pos (List.mem_map_of_mem hg)]

open RoundingSoundness in
theorem cocientes_truncar :
    RoundsQuotients (fun x : Fl truncar => x.val) (1 / 10 ^ 6 : ℚ) :=
  Fl.roundsQuotients
    (fun z hz _ => (abs_truncar_sub_le z).trans (by linarith))
    (fun n _ => by exact_mod_cast truncar_intCast n)

open RoundingSoundness in
/-- With numbers that are cut off after twenty binary digits. -/
theorem potentiometer_lockstep_half_way :
    (nivel (stateAfter (paso fun x : Fl truncar => aUint16 0 x.val) (inicial default)
      ([0, 4095] ++ [2000])) (canal 9)).toNat = 694 :=
  ((potentiometer_lockstep (fun _ h0 h1 => aUint16_toNat 0 (by linarith) h1) cocientes_truncar
    le_rfl default [0, 4095] 2000).1 9 (by decide)).1

end Lockstep

end PicoDrone.MotorTestSoundness
