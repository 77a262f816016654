import Mathlib.Tactic.NormNum
import Mathlib.Tactic.Linarith
import PicoDrone.ActuationSoundness

/-! # Flights with the gains of `mpu6050_run`

With the gains the source sets, a controller weighs the last twenty angles with
positive weights that add up to 16.8 (`inclinacion`). In exact arithmetic every
request of a flight is therefore the throttle plus half of a signed sum of two
weighted tilts (`mandos_eq_orden`), and the levels follow from the requests. -/
namespace PicoDrone.FlightSoundness
open Firmware.Pwm Firmware.Control Library.Run Library.Fir
open PidSoundness CommandSoundness MixerSoundness ActuationSoundness

/-! ## The tuned controller -/

section Tuned

variable {K : Type*} [Field K] [LinearOrder K] [IsStrictOrderedRing K]

def pesosVuelo : ℕ → K
  | 0 => 2.0
  | 1 => 0.4
  | _ + 2 => 0.8

theorem pesos_vuelo : pesos (0.8 : K) 0.003 0.0015 = pesosVuelo := by
  funext j
  match j with
  | 0 => norm_num [pesos, pesosVuelo]
  | 1 => norm_num [pesos, pesosVuelo]
  | _ + 2 => norm_num [pesos, pesosVuelo]

theorem pesosVuelo_nonneg (j : ℕ) : (0 : K) ≤ pesosVuelo j := by
  match j with
  | 0 => norm_num [pesosVuelo]
  | 1 => norm_num [pesosVuelo]
  | _ + 2 => norm_num [pesosVuelo]

/-- The weighted tilt of one axis: twice the newest angle, 0.4 times the one
before, and 0.8 times each of the eighteen before that. -/
def inclinacion (ang : ℕ → K) (n : ℕ) : K := fir pesosVuelo 20 ang n

theorem sum_pesosVuelo : (∑ j ∈ Finset.range 20, pesosVuelo j : K) = 16.8 := by
  norm_num [Finset.sum_range_succ, pesosVuelo]

theorem sum_abs_pesosVuelo : (∑ j ∈ Finset.range 20, |pesosVuelo j| : K) = 16.8 := by
  have hpos : ∀ j, |(pesosVuelo j : K)| = pesosVuelo j := fun j =>
    abs_of_nonneg (pesosVuelo_nonneg j)
  simp only [hpos, sum_pesosVuelo]

theorem abs_inclinacion_le {ang : ℕ → K} {n : ℕ} {A : K} (h : ∀ i ≤ n, |ang i| ≤ A) :
    |inclinacion ang n| ≤ 16.8 * A := by
  rw [← sum_abs_pesosVuelo]
  exact abs_fir_le h

theorem salida_vuelo (polaridad : Bool) (ang : ℕ → K) (n : ℕ) :
    salida 0.8 0.003 0.0015 polaridad (fun i => (0, ang i)) n =
      -signo polaridad * inclinacion ang n := by
  rw [salida_eq_signo_fir, pesos_vuelo, inclinacion]

/-- The correction of a motor: the tilts with the signs of its polarities. -/
def correccion (angX angY : ℕ → K) (n : ℕ) (m : Motor) : K :=
  -media (signo (polaridadRoll m) * inclinacion angX n)
    (signo (polaridadPitch m) * inclinacion angY n)

omit [LinearOrder K] [IsStrictOrderedRing K] in
theorem correccion_eq (angX angY : ℕ → K) (n : ℕ) (m : Motor) : correccion angX angY n m =
    -(signo (polaridadRoll m) * inclinacion angX n +
      signo (polaridadPitch m) * inclinacion angY n) / 2 := by
  rw [correccion, media, neg_div]

theorem ctrl_eq_correccion (v : Vuelo K) (n : ℕ) :
    v.ctrl 0.8 0.003 0.0015 n = correccion v.angX v.angY n := by
  funext m
  rw [Vuelo.ctrl, salida_vuelo, salida_vuelo, correccion_eq, media]
  ring

omit [IsStrictOrderedRing K] in
theorem abs_signo_mul (polaridad : Bool) (x : K) : |signo polaridad * x| = |x| := by
  cases polaridad <;> simp [signo]

theorem abs_correccion_le (angX angY : ℕ → K) (n : ℕ) (m : Motor) :
    |correccion angX angY n m| ≤ (|inclinacion angX n| + |inclinacion angY n|) / 2 := by
  rw [correccion_eq, abs_div, abs_neg, abs_two]
  have h := abs_add_le (signo (polaridadRoll m) * inclinacion angX n)
    (signo (polaridadPitch m) * inclinacion angY n)
  rw [abs_signo_mul, abs_signo_mul] at h
  linarith

/-- A motor that is asked for the whole reduction. -/
theorem exists_correccion_eq (angX angY : ℕ → K) (n : ℕ) :
    ∃ m, correccion angX angY n m = -(|inclinacion angX n| + |inclinacion angY n|) / 2 := by
  rcases abs_cases (inclinacion angX n) with ⟨hx, -⟩ | ⟨hx, -⟩ <;>
    rcases abs_cases (inclinacion angY n) with ⟨hy, -⟩ | ⟨hy, -⟩
  · exact ⟨.m1, by rw [hx, hy]; simp [correccion_eq, signo, polaridadRoll, polaridadPitch]⟩
  · exact ⟨.m2, by rw [hx, hy]; simp [correccion_eq, signo, polaridadRoll, polaridadPitch]⟩
  · exact ⟨.m3, by rw [hx, hy]; simp [correccion_eq, signo, polaridadRoll, polaridadPitch]⟩
  · exact ⟨.m4, by rw [hx, hy]; simp [correccion_eq, signo, polaridadRoll, polaridadPitch]⟩

end Tuned

/-! ## Exact flights -/

/-- A run of the control step of `mpu6050_run` in exact arithmetic. `indef` is
what a conversion yields where C leaves it undefined. -/
structure VueloExacto (K : Type*) where
  angX : ℕ → K
  angY : ℕ → K
  rawValue : ℕ → UInt16
  indef : ℕ → Motor → UInt16

def VueloExacto.constante {K : Type*} (angX angY : K) (rawValue : UInt16) : VueloExacto K :=
  { angX := fun _ => angX, angY := fun _ => angY, rawValue := fun _ => rawValue,
    indef := fun _ _ => 0 }

variable {K : Type*} [Field K] [LinearOrder K] [IsStrictOrderedRing K] [FloorRing K]

def VueloExacto.vuelo (v : VueloExacto K) : Vuelo K :=
  { angX := v.angX, angY := v.angY, rawValue := v.rawValue,
    conv := fun n m x => aUint16 (v.indef n m) x }

def VueloExacto.control (v : VueloExacto K) (hw : PwmHw) (n : ℕ) : EstadoControl K :=
  stateAt EstadoControl.paso (.inicial hw) v.vuelo.entrada n

def VueloExacto.mandos (v : VueloExacto K) (hw : PwmHw) (n : ℕ) : Option (Mandos K) :=
  outputAt EstadoControl.paso (.inicial hw) v.vuelo.entrada n

/-- The commands of iteration `n`, computed from the inputs alone. -/
def VueloExacto.orden (v : VueloExacto K) (n : ℕ) : Mandos K :=
  mandar ⟨fun _ => false, v.vuelo.conv n⟩ (v.rawValue n) (correccion v.angX v.angY n)

/-- The sum `us_deseados + ctrlM` of motor `m` in iteration `n`. -/
def VueloExacto.suma (v : VueloExacto K) (n : ℕ) (m : Motor) : K :=
  (microsegundos (v.rawValue n) : K) + correccion v.angX v.angY n m

omit [LinearOrder K] [IsStrictOrderedRing K] [FloorRing K] in
theorem suma_eq (v : VueloExacto K) (n : ℕ) (m : Motor) :
    v.suma n m = (acelerador (v.rawValue n) : K) + correccion v.angX v.angY n m := by
  rw [VueloExacto.suma, microsegundos_eq]

theorem suma_bounds {v : VueloExacto K} {n : ℕ} {A : K} (hx : ∀ i ≤ n, |v.angX i| ≤ A)
    (hy : ∀ i ≤ n, |v.angY i| ≤ A) (m : Motor) :
    800 - 16.8 * A ≤ v.suma n m ∧ v.suma n m ≤ 1800 + 16.8 * A := by
  have htx := abs_inclinacion_le hx
  have hty := abs_inclinacion_le hy
  obtain ⟨hclo, hchi⟩ := abs_le.mp (abs_correccion_le v.angX v.angY n m)
  obtain ⟨hlo, hhi⟩ := acelerador_bounds (v.rawValue n)
  have hulo : (800 : K) ≤ acelerador (v.rawValue n) := by exact_mod_cast hlo
  have huhi : (acelerador (v.rawValue n) : K) ≤ 1800 := by exact_mod_cast hhi
  rw [suma_eq]
  constructor <;> linarith

theorem mandos_eq_orden (v : VueloExacto K) (hw : PwmHw) (n : ℕ) :
    v.mandos hw n = some (v.orden n) := by
  have h := mandos_eq v.vuelo 0.8 0.003 0.0015 hw n
  rw [ctrl_eq_correccion] at h
  exact h

theorem orden_us_toNat (v : VueloExacto K) {n : ℕ} {m : Motor} (h0 : -1 < v.suma n m)
    (h1 : v.suma n m < 65536) :
    ((v.orden n).us m).toNat = if v.suma n m < 2001 then ⌊v.suma n m⌋₊ else 0 :=
  pulso_toNat (v.indef n m) h0 h1

omit [IsStrictOrderedRing K] in
theorem control_cableado (v : VueloExacto K) (hw : PwmHw) (n : ℕ) :
    Cableado (v.control hw n) :=
  stateAt_inv (P := fun _ s => Cableado s) (cableado_nuevo _ _ _ hw)
    (fun _ _ hs => (nivel_paso hs _).1) n

/-- The levels after an iteration: its pulses if the gate is open, else the old levels. -/
theorem nivel_control_succ (v : VueloExacto K) (hw : PwmHw) (n : ℕ) (m : Motor) :
    nivel (v.control hw (n + 1)) m =
      if puerta ((v.orden n).us .m1) then (v.orden n).us m else nivel (v.control hw n) m := by
  have hq : v.orden n ∈ ((v.control hw n).paso (v.vuelo.entrada n)).2 := mandos_eq_orden v hw n
  have hesc : puerta ((v.orden n).us .m1) = (v.orden n).escrito := (paso_escrito hq).symm
  obtain ⟨-, -, ⟨hold, hcl⟩ | ⟨q, hq', hopen, hnew⟩⟩ :=
    nivel_paso (control_cableado v hw n) (v.vuelo.entrada n)
  · rw [hesc, hcl _ hq]
    exact hold m
  · cases Option.mem_unique hq hq'
    rw [hesc, hopen]
    exact hnew m

/-- The level of motor 1 is never exactly 2000: the gate would not have let it out. -/
theorem nivel_m1_ne (v : VueloExacto K) (hw : PwmHw) (n : ℕ) :
    (nivel (v.control hw n) .m1).toNat ≠ 2000 := by
  induction n with
  | zero =>
    rw [show nivel (v.control hw 0) .m1 = 1000 from (nivel_nuevo _ _ _ hw .m1).1]
    decide
  | succ n ih =>
    rw [nivel_control_succ]
    by_cases hopen : puerta ((v.orden n).us .m1) = true
    · rw [if_pos hopen]
      have := (puerta_iff _).mp hopen
      omega
    · rw [if_neg hopen]
      exact ih

end PicoDrone.FlightSoundness
