import PicoDrone.Firmware.MedidorPulso
import PicoDrone.Library.Run
import PicoDrone.Library.WrappingClock
import PicoDrone.LoopSoundness

/-! # Time across the wraps of the counter

The loop and the pulse handler both keep the last reading of the counter and
subtract it from the next one, so each difference is that of two consecutive
readings, and their sum is the time that passed (`time_conserved`). The loop scales
its differences and integrates the gyroscope over them. -/
namespace PicoDrone.ClockSoundness
open Firmware.Pwm Firmware.Mpu Firmware.MedidorPulso Library.Run Library.WrappingClock
open LoopSoundness

theorem sum_timeUs32 {d : ℕ → UInt32} {t : ℕ → ℕ} {n : ℕ}
    (hd : ∀ i < n, d i = timeUs32 (t (i + 1)) - timeUs32 (t i)) :
    ∑ i ∈ Finset.range n, (d i).toNat = elapsed 32 t n := by
  refine Finset.sum_congr rfl fun i hi => ?_
  rw [hd i (Finset.mem_range.mp hi)]
  rfl

/-! ## The pulses -/

/-- The interval `pulse_handler` prints at pulse `n`, with pulse `i` at true time `t i`. -/
def intervalo (t : ℕ → ℕ) (n : ℕ) : UInt32 :=
  outputAt pulseHandler lastPulseTime (fun i => timeUs32 (t i)) n

theorem intervalo_succ (t : ℕ → ℕ) (n : ℕ) :
    intervalo t (n + 1) = timeUs32 (t (n + 1)) - timeUs32 (t n) := rfl

/-! ## The loop -/

section Loop

variable {F : Type*} [Zero F] [One F] [Neg F] [Add F] [Sub F] [Mul F] [Div F]
  [NatCast F] [IntCast F] [OfScientific F] [DecidableEq F]
variable (lib : Libm F) (hw : PwmHw) (angXPrev : F) (tiempoPrevio : UInt32)
  (ins : ℕ → EntradaReloj F)

/-- The state of `mpu6050_run` before iteration `n`. -/
def estadoEn (n : ℕ) : Reloj F :=
  stateAt (Reloj.paso lib) (mpu6050Run hw angXPrev tiempoPrevio) ins n

/-- What iteration `n` of `mpu6050_run` computes. -/
def salidaEn (n : ℕ) : SalidaReloj F :=
  outputAt (Reloj.paso lib) (mpu6050Run hw angXPrev tiempoPrevio) ins n

theorem tiempoPrevio_eq {t : ℕ → ℕ} (hread : ∀ i, (ins i).tiempoActual = timeUs32 (t (i + 1)))
    (n : ℕ) : (estadoEn lib hw angXPrev (timeUs32 (t 0)) ins n).tiempoPrevio = timeUs32 (t n) :=
  stateAt_inv (P := fun n (s : Reloj F) => s.tiempoPrevio = timeUs32 (t n)) rfl
    (fun n _ _ => hread n) n

/-- The loop subtracts consecutive readings: what it keeps is replaced afterwards. -/
theorem salidaEn_diferencia {t : ℕ → ℕ}
    (hread : ∀ i, (ins i).tiempoActual = timeUs32 (t (i + 1))) (n : ℕ) :
    (salidaEn lib hw angXPrev (timeUs32 (t 0)) ins n).diferencia =
      timeUs32 (t (n + 1)) - timeUs32 (t n) := by
  have hprevio := tiempoPrevio_eq lib hw angXPrev ins hread n
  calc (salidaEn lib hw angXPrev (timeUs32 (t 0)) ins n).diferencia
      = diferencia (ins n).tiempoActual
          (estadoEn lib hw angXPrev (timeUs32 (t 0)) ins n).tiempoPrevio := rfl
    _ = timeUs32 (t (n + 1)) - timeUs32 (t n) := by rw [hread n, hprevio, diferencia]

/-- Both filters integrate over the difference, in seconds. -/
theorem salidaEn_filtro (n : ℕ) :
    let s := estadoEn lib hw angXPrev tiempoPrevio ins n
    let o := salidaEn lib hw angXPrev tiempoPrevio ins n
    let dt : F := (o.diferencia.toNat : F) / 1000000
    let m := (ins n).muestra
    o.angX = filtro s.bucle.angXPrev m.gx dt (accelAngX lib m) ∧
      o.angY = filtro s.bucle.angYPrev m.gy dt (accelAngY lib m) :=
  ⟨rfl, rfl⟩

/-- **Time is neither lost nor counted twice when the counter wraps.** For every
number type, all true times that do not go back and everything else the loop
reads: the differences that `n` iterations take sum to the time that passed less the
full turns of the counter inside the gaps, so exactly to it if every gap is
shorter than a turn; and these are the differences, scaled to seconds, over which
the two filters integrate. The same sums hold of the intervals between `n + 1` pulses. -/
theorem time_conserved (t : ℕ → ℕ) (hread : ∀ i, (ins i).tiempoActual = timeUs32 (t (i + 1)))
    (n : ℕ) (ht : ∀ i < n, t i ≤ t (i + 1)) :
    let s := estadoEn lib hw angXPrev (timeUs32 (t 0)) ins
    let o := salidaEn lib hw angXPrev (timeUs32 (t 0)) ins
    (∑ i ∈ Finset.range n, (o i).diferencia.toNat +
        2 ^ 32 * ∑ i ∈ Finset.range n, (t (i + 1) - t i) / 2 ^ 32 = t n - t 0 ∧
      ((∀ i < n, t (i + 1) - t i < 2 ^ 32) →
        ∑ i ∈ Finset.range n, (o i).diferencia.toNat = t n - t 0)) ∧
    (∀ i, (o i).angX = filtro (s i).bucle.angXPrev (ins i).muestra.gx
          (((o i).diferencia.toNat : F) / 1000000) (accelAngX lib (ins i).muestra) ∧
        (o i).angY = filtro (s i).bucle.angYPrev (ins i).muestra.gy
          (((o i).diferencia.toNat : F) / 1000000) (accelAngY lib (ins i).muestra)) ∧
    (∑ i ∈ Finset.range n, (intervalo t (i + 1)).toNat +
        2 ^ 32 * ∑ i ∈ Finset.range n, (t (i + 1) - t i) / 2 ^ 32 = t n - t 0 ∧
      ((∀ i < n, t (i + 1) - t i < 2 ^ 32) →
        ∑ i ∈ Finset.range n, (intervalo t (i + 1)).toNat = t n - t 0)) := by
  intro s o
  have hdif : ∀ i < n, (o i).diferencia = timeUs32 (t (i + 1)) - timeUs32 (t i) :=
    fun i _ => salidaEn_diferencia lib hw angXPrev ins hread i
  have hint : ∀ i < n, intervalo t (i + 1) = timeUs32 (t (i + 1)) - timeUs32 (t i) :=
    fun i _ => intervalo_succ t i
  have hall := elapsed_add_turns (w := 32) ht
  have hsum : elapsed 32 t n + 2 ^ 32 * turns 32 t n = t n - t 0 := by omega
  have hexact : (∀ i < n, t (i + 1) - t i < 2 ^ 32) → elapsed 32 t n = t n - t 0 := by
    intro hgap
    rw [turns_eq_zero hgap] at hsum
    omega
  rw [sum_timeUs32 hdif, sum_timeUs32 hint]
  exact ⟨⟨hsum, hexact⟩, fun i => salidaEn_filtro lib hw angXPrev _ ins i, hsum, hexact⟩

end Loop

/-- Readings every three milliseconds, the first of them just before a wrap. -/
def desborde (i : ℕ) : ℕ := 4294966000 + 3000 * i

def lecturas (i : ℕ) : EntradaReloj ℝ :=
  { muestra := { ax := 0, ay := 0, az := 16384, gx := 0, gy := 0 }
    tiempoActual := timeUs32 (desborde (i + 1))
    rawValue := 2000
    num := { isinf := fun _ => false, aUint16 := fun _ _ => 0 } }

theorem time_conserved_across_a_wrap :
    ∑ i ∈ Finset.range 100,
      (salidaEn libmReal default 0 (timeUs32 (desborde 0)) lecturas i).diferencia.toNat =
        300000 :=
  (time_conserved libmReal default 0 lecturas desborde (fun _ => rfl) 100
    (fun i _ => by simp only [desborde]; omega)).1.2 (fun i _ => by simp only [desborde]; omega)

end PicoDrone.ClockSoundness
