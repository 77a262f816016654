import PicoDrone.LoopSoundness

/-! # The quarter turn

Turning the frame by 90 degrees about its vertical axis turns every sample, and
the loop answers with turned estimates and with the corrections of the motors
that the turn brings to each place (`quarter_turn`). The proof follows the chain:
the accelerometer angles, what the filter adds, the two recursions, the mixer. -/
namespace PicoDrone.SymmetrySoundness
open Firmware.Pwm Firmware.Control Firmware.Mpu Library.Fir Library.Leaky
open PidSoundness MixerSoundness LoopSoundness

def girada (m : Muestra) : Muestra :=
  { ax := m.ay, ay := -m.ax, az := m.az, gx := m.gy, gy := -m.gx }

/-- The run whose samples are turned, with any throttle readings and conversions. -/
def girado {K : Type*} (t : Trayecto K) (rawValue : ℕ → UInt16)
    (conv : ℕ → Motor → K → UInt16) : Trayecto K :=
  { muestra := fun n => girada (t.muestra n), dt := t.dt, rawValue, conv }

theorem toInt_neg_of_ne {x : Int16} (h : x ≠ Int16.minValue) : (-x).toInt = -x.toInt := by
  have hbv : x.toBitVec ≠ BitVec.intMin 16 := by
    intro hmin
    apply h
    exact Int16.toBitVec_inj.mp (hmin.trans rfl)
  exact BitVec.toInt_neg_of_ne_intMin hbv

variable {K : Type*} [Field K] [DecidableEq K]

/-! ## The accelerometer and the filter -/

section Sample

variable {lib : Libm K} {m : Muestra}

theorem anguloAccel_neg_left (lib : Libm K) (num d1 d2 : ℤ) :
    anguloAccel lib num (-d1) d2 = anguloAccel lib num d1 d2 := by
  have hpow : pow2 ((-d1 : ℤ) : K) = pow2 (d1 : K) := by
    rw [Int.cast_neg]
    exact neg_mul_neg _ _
  simp only [anguloAccel, hpow]

theorem anguloAccel_neg (hodd : ∀ x, lib.atan (-x) = -lib.atan x) (num d1 d2 : ℤ) :
    anguloAccel lib (-num) d1 d2 = -anguloAccel lib num d1 d2 := by
  unfold anguloAccel
  dsimp only
  split
  · rw [Int.cast_neg, neg_div, hodd, neg_mul]
  · exact neg_zero.symm

theorem accelAngX_girada (lib : Libm K) (hax : m.ax ≠ Int16.minValue) :
    accelAngX lib (girada m) = accelAngY lib m := by
  unfold accelAngX accelAngY girada
  rw [toInt_neg_of_ne hax]

theorem accelAngY_girada (hodd : ∀ x, lib.atan (-x) = -lib.atan x)
    (hax : m.ax ≠ Int16.minValue) : accelAngY lib (girada m) = -accelAngX lib m := by
  unfold accelAngX accelAngY girada
  rw [toInt_neg_of_ne hax, anguloAccel_neg_left, anguloAccel_neg hodd]

omit [DecidableEq K] in
theorem aporte_neg {g : Int16} (hg : g ≠ Int16.minValue) (dt a : K) :
    aporte (-g) dt (-a) = -aporte g dt a := by
  unfold aporte
  -- the division truncates, so it commutes with the sign
  rw [toInt_neg_of_ne hg, Int.neg_tdiv, Int.cast_neg]
  ring

end Sample

/-! ## The estimates -/

section Loop

variable {lib : Libm K} {t : Trayecto K} (rawValue' : ℕ → UInt16)
  (conv' : ℕ → Motor → K → UInt16)

theorem aporteX_girado (lib : Libm K) (hax : ∀ n, (t.muestra n).ax ≠ Int16.minValue) :
    (girado t rawValue' conv').aporteX lib = t.aporteY lib := by
  funext n
  exact congrArg (aporte _ _) (accelAngX_girada lib (hax n))

theorem aporteY_girado (hodd : ∀ x, lib.atan (-x) = -lib.atan x)
    (hax : ∀ n, (t.muestra n).ax ≠ Int16.minValue)
    (hgx : ∀ n, (t.muestra n).gx ≠ Int16.minValue) :
    (girado t rawValue' conv').aporteY lib = fun n => -t.aporteX lib n := by
  funext n
  have hacc := accelAngY_girada hodd (hax n)
  calc (girado t rawValue' conv').aporteY lib n
      = aporte (-(t.muestra n).gx) (t.dt n) (accelAngY lib (girada (t.muestra n))) := rfl
    _ = -t.aporteX lib n := by rw [hacc, aporte_neg (hgx n)]; rfl

theorem vuelo_girado (hodd : ∀ x, lib.atan (-x) = -lib.atan x)
    (hax : ∀ n, (t.muestra n).ax ≠ Int16.minValue)
    (hgx : ∀ n, (t.muestra n).gx ≠ Int16.minValue) (x0 y0 : K) :
    let v := t.vuelo lib x0 y0
    let v' := (girado t rawValue' conv').vuelo lib y0 (-x0)
    v'.angX = v.angY ∧ v'.angY = fun n => -v.angX n := by
  intro v v'
  constructor
  · funext n
    change leaky 0.98 y0 _ (n + 1) = leaky 0.98 y0 _ (n + 1)
    rw [aporteX_girado rawValue' conv' lib hax]
  · funext n
    change leaky 0.98 (-x0) _ (n + 1) = -leaky 0.98 x0 _ (n + 1)
    rw [aporteY_girado rawValue' conv' hodd hax hgx, leaky_neg]

end Loop

/-! ## The motors -/

theorem referencia_neg (kp ki kd : K) (ang : ℕ → K) (n : ℕ) :
    referencia kp ki kd (fun i => -ang i) n = -referencia kp ki kd ang n := by
  unfold referencia
  rw [salida_eq_signo_fir, salida_eq_signo_fir, fir_neg]
  ring

/-- The motor whose place a motor takes in the turn. -/
def relevo : Motor → Motor
  | .m1 => .m3
  | .m2 => .m1
  | .m3 => .m4
  | .m4 => .m2

theorem ctrl_girado {v v' : Vuelo K} (hx : v'.angX = v.angY) (hy : v'.angY = fun n => -v.angX n)
    (kp ki kd : K) (n : ℕ) (m : Motor) :
    v'.ctrl kp ki kd n m = v.ctrl kp ki kd n (relevo m) := by
  rw [ctrl_eq_mixer, ctrl_eq_mixer, hx, hy, referencia_neg]
  cases m <;> simp only [relevo, signo, polaridadRoll, polaridadPitch, if_true, if_false,
    Bool.false_eq_true] <;> ring

/-- **Quarter-turn symmetry of the whole chain.** For every odd `atan` and any
`sqrt`, every run of samples without the two values that have no opposite, all
time steps and previous angles: the turned run has in every iteration the turned
estimates and the corrections of the motors it brings round. -/
theorem quarter_turn (lib : Libm K) (hodd : ∀ x, lib.atan (-x) = -lib.atan x) (t : Trayecto K)
    (rawValue' : ℕ → UInt16) (conv' : ℕ → Motor → K → UInt16)
    (hax : ∀ n, (t.muestra n).ax ≠ Int16.minValue)
    (hgx : ∀ n, (t.muestra n).gx ≠ Int16.minValue) (hw hw' : PwmHw) (x0 y0 : K) (n : ℕ) :
    let o := t.salida lib hw x0 y0 n
    let o' := (girado t rawValue' conv').salida lib hw' y0 (-x0) n
    o'.angX = o.angY ∧ o'.angY = -o.angX ∧
      ∃ q q', o.mandos = some q ∧ o'.mandos = some q' ∧
        q'.ctrl .m1 = q.ctrl .m3 ∧ q'.ctrl .m2 = q.ctrl .m1 ∧
        q'.ctrl .m3 = q.ctrl .m4 ∧ q'.ctrl .m4 = q.ctrl .m2 := by
  intro o o'
  obtain ⟨hx, hy⟩ := vuelo_girado rawValue' conv' hodd hax hgx x0 y0
  have ho := salida_eq t lib hw x0 y0 n
  have ho' := salida_eq (girado t rawValue' conv') lib hw' y0 (-x0) n
  have hq : o.mandos = _ := (congrArg Salida.mandos ho).trans (mandos_eq _ _ _ _ hw n)
  have hq' : o'.mandos = _ := (congrArg Salida.mandos ho').trans (mandos_eq _ _ _ _ hw' n)
  have hctrl := ctrl_girado hx hy 0.8 0.003 0.0015 n
  refine ⟨?_, ?_, _, _, hq, hq', hctrl .m1, hctrl .m2, hctrl .m3, hctrl .m4⟩
  · calc o'.angX = ((girado t rawValue' conv').vuelo lib y0 (-x0)).angX n :=
          congrArg Salida.angX ho'
      _ = (t.vuelo lib x0 y0).angY n := congrFun hx n
      _ = o.angY := (congrArg Salida.angY ho).symm
  · calc o'.angY = ((girado t rawValue' conv').vuelo lib y0 (-x0)).angY n :=
          congrArg Salida.angY ho'
      _ = -(t.vuelo lib x0 y0).angX n := congrFun hy n
      _ = -o.angX := congrArg (fun x => -x) (congrArg Salida.angX ho).symm

noncomputable def ladeado : Trayecto ℝ :=
  { muestra := fun _ => { ax := 3000, ay := -32768, az := 16384, gx := 262, gy := -500 }
    dt := fun _ => 0.003
    rawValue := fun _ => 2000
    conv := fun _ _ _ => 0 }

theorem quarter_turn_tilted :
    let o := ladeado.salida libmReal default 1 2 25
    let o' := (girado ladeado (fun _ => 0) (fun _ _ _ => 0)).salida libmReal default 2 (-1) 25
    o'.angX = o.angY ∧ o'.angY = -o.angX ∧
      ∃ q q', o.mandos = some q ∧ o'.mandos = some q' ∧
        q'.ctrl .m1 = q.ctrl .m3 ∧ q'.ctrl .m2 = q.ctrl .m1 ∧
        q'.ctrl .m3 = q.ctrl .m4 ∧ q'.ctrl .m4 = q.ctrl .m2 :=
  quarter_turn libmReal Real.arctan_neg ladeado (fun _ => 0) (fun _ _ _ => 0)
    (fun _ => show (3000 : Int16) ≠ Int16.minValue by decide)
    (fun _ => show (262 : Int16) ≠ Int16.minValue by decide) default default 1 2 25

end PicoDrone.SymmetrySoundness
