import Mathlib.Data.Rat.Floor
import PicoDrone.FlightSoundness

/-! # Requests, pulses and the gate

Two facts about what the motors get for a request. The range checks cut a
request above 2000 to 0, so a larger request means a larger pulse only below the
cut-off (`pulse_monotone_below_cutoff`). The gate refuses the one pulse of
motor 1 that the range checks let through, exactly 2000, and then no motor is
written (`fresh_iff_not_in_gap`). -/
namespace PicoDrone.PulseSoundness
open Firmware.Pwm Firmware.Control
open CommandSoundness MixerSoundness ActuationSoundness FlightSoundness

variable {K : Type*} [Field K] [LinearOrder K] [IsStrictOrderedRing K] [FloorRing K]

theorem mandos_some {v : VueloExacto K} {hw : PwmHw} {n : ℕ} {q : Mandos K}
    (h : v.mandos hw n = some q) : q = v.orden n := by
  rw [mandos_eq_orden] at h
  exact (Option.some.inj h).symm

theorem suma_nonneg_lt {v : VueloExacto K} {n : ℕ} {m : Motor}
    (h : 0 ≤ v.suma n m ∧ v.suma n m < 65536) : -1 < v.suma n m ∧ v.suma n m < 65536 :=
  ⟨neg_one_lt_zero.trans_le h.1, h.2⟩

/-! ## Monotone below the cut-off -/

theorem suma_mono {v v' : VueloExacto K} {n n' : ℕ} {m : Motor}
    (hraw : v.rawValue n ≤ v'.rawValue n')
    (hctrl : correccion v.angX v.angY n m ≤ correccion v'.angX v'.angY n' m) :
    v.suma n m ≤ v'.suma n' m :=
  add_le_add (Nat.cast_le.mpr (microsegundos_mono hraw)) hctrl

/-- **More thrust asked for, no lower pulse, below the cut-off.** For any two
iterations of any two flights and any motor: if throttle reading and correction
are not larger in the first one, its pulse is not larger either, unless the
second request truncates to more than 2000, and then the second pulse is 0. -/
theorem pulse_monotone_below_cutoff (v v' : VueloExacto K) (hw hw' : PwmHw) (n n' : ℕ)
    {q q' : Mandos K} (hq : v.mandos hw n = some q) (hq' : v'.mandos hw' n' = some q')
    (m : Motor) (hraw : v.rawValue n ≤ v'.rawValue n') (hctrl : q.ctrl m ≤ q'.ctrl m)
    (h : 0 ≤ q.usDeseados + q.ctrl m ∧ q.usDeseados + q.ctrl m < 65536)
    (h' : 0 ≤ q'.usDeseados + q'.ctrl m ∧ q'.usDeseados + q'.ctrl m < 65536) :
    (q'.usDeseados + q'.ctrl m < 2001 → q.us m ≤ q'.us m) ∧
      (2001 ≤ q'.usDeseados + q'.ctrl m → q'.us m = 0) := by
  obtain rfl := mandos_some hq
  obtain rfl := mandos_some hq'
  obtain ⟨h0, h1⟩ := suma_nonneg_lt h
  obtain ⟨h0', h1'⟩ := suma_nonneg_lt h'
  have hle : v.suma n m ≤ v'.suma n' m := suma_mono hraw hctrl
  have hus := orden_us_toNat v h0 h1
  have hus' := orden_us_toNat v' h0' h1'
  constructor
  · intro hcut
    change v'.suma n' m < 2001 at hcut
    rw [if_pos (hle.trans_lt hcut)] at hus
    rw [if_pos hcut] at hus'
    rw [UInt16.le_iff_toNat_le, hus, hus']
    exact Nat.floor_mono hle
  · intro hcut
    change 2001 ≤ v'.suma n' m at hcut
    rw [if_neg hcut.not_gt] at hus'
    exact UInt16.toNat_inj.mp hus'

theorem pulse_monotone_level_and_tilted :
    ((VueloExacto.constante (0 : ℚ) 0 4000).orden 0).us .m1 ≤
      ((VueloExacto.constante (-11 : ℚ) (-11) 4000).orden 0).us .m1 :=
  (pulse_monotone_below_cutoff (.constante (0 : ℚ) 0 4000) (.constante (-11) (-11) 4000)
    default default 0 0 (mandos_eq_orden _ _ _) (mandos_eq_orden _ _ _) .m1 (by decide)
    (by decide +kernel) (by decide +kernel) (by decide +kernel)).1 (by decide +kernel)

/-- Full throttle, level against twenty iterations tilted by 12.5 degrees: the
larger request, 2010 against 1800, gets the lower pulse. -/
theorem request_above_cutoff_gets_less : ∃ q q',
    (VueloExacto.constante (0 : ℚ) 0 4000).mandos default 0 = some q ∧
    (VueloExacto.constante (-12.5 : ℚ) (-12.5) 4000).mandos default 19 = some q' ∧
    q.ctrl .m1 ≤ q'.ctrl .m1 ∧
    (0 ≤ q.usDeseados + q.ctrl .m1 ∧ q.usDeseados + q.ctrl .m1 < 65536) ∧
    (0 ≤ q'.usDeseados + q'.ctrl .m1 ∧ q'.usDeseados + q'.ctrl .m1 < 65536) ∧
    ¬q.us .m1 ≤ q'.us .m1 :=
  ⟨_, _, mandos_eq_orden _ _ _, mandos_eq_orden _ _ _, by decide +kernel, by decide +kernel,
    by decide +kernel, by decide +kernel⟩

/-! ## The gap between the range check and the gate -/

/-- **When the motors follow the iteration.** In every iteration of every flight
whose sums the conversion is defined on, the four levels after the iteration
are its own pulses exactly when the request of motor 1, throttle minus half of
the two weighted tilts, is not in [2000, 2001). -/
theorem fresh_iff_not_in_gap (v : VueloExacto K) (hw : PwmHw) (n : ℕ)
    (hsum : ∀ q, v.mandos hw n = some q → ∀ m,
      0 ≤ q.usDeseados + q.ctrl m ∧ q.usDeseados + q.ctrl m < 65536) :
    (∃ q, v.mandos hw n = some q ∧ ∀ m, nivel (v.control hw (n + 1)) m = q.us m) ↔
      ¬(2000 ≤ (acelerador (v.rawValue n) : K) -
          (inclinacion v.angX n + inclinacion v.angY n) / 2 ∧
        (acelerador (v.rawValue n) : K) -
          (inclinacion v.angX n + inclinacion v.angY n) / 2 < 2001) := by
  have hreq : (acelerador (v.rawValue n) : K) -
      (inclinacion v.angX n + inclinacion v.angY n) / 2 = v.suma n .m1 := by
    simp only [suma_eq, correccion_eq, signo, polaridadRoll, polaridadPitch, if_true,
      one_mul]
    ring
  obtain ⟨h0, h1⟩ := suma_nonneg_lt (hsum _ (mandos_eq_orden v hw n) .m1)
  have hus := orden_us_toNat v h0 h1
  rw [hreq]
  constructor
  · -- a pulse of 2000 keeps the gate closed, and no old level is 2000
    rintro ⟨q, hq, hlev⟩ ⟨hlo, hhi⟩
    obtain rfl := mandos_some hq
    have hfloor : ⌊v.suma n .m1⌋₊ = 2000 := by
      rw [Nat.floor_eq_iff (by linarith)]
      exact ⟨by exact_mod_cast hlo, by norm_num; linarith⟩
    rw [if_pos hhi, hfloor] at hus
    refine nivel_m1_ne v hw (n + 1) ?_
    rw [hlev .m1, hus]
  · intro hgap
    refine ⟨_, mandos_eq_orden v hw n, fun m => ?_⟩
    have hopen : puerta ((v.orden n).us .m1) = true := by
      rw [puerta_iff, hus]
      by_cases hcut : v.suma n .m1 < 2001
      · have hlt : v.suma n .m1 < 2000 := not_le.mp fun hlo => hgap ⟨hlo, hcut⟩
        rw [if_pos hcut, Nat.floor_lt' (by decide)]
        exact_mod_cast hlt
      · rw [if_neg hcut]
        decide
    rw [nivel_control_succ, if_pos hopen]

theorem fresh_when_level :
    ∃ q, (VueloExacto.constante (0 : ℚ) 0 4000).mandos default 0 = some q ∧
      ∀ m, nivel ((VueloExacto.constante (0 : ℚ) 0 4000).control default 1) m = q.us m :=
  (fresh_iff_not_in_gap (.constante (0 : ℚ) 0 4000) default 0 (by
    intro q hq m
    obtain rfl := mandos_some hq
    cases m <;> decide +kernel)).mpr (by decide +kernel)

/-- Full throttle and twenty iterations tilted by 11.92 degrees: every sum of
the flight is in range, and the twentieth iteration asks motor 1 for 2000 and
leaves it on the 1990 of the nineteenth. -/
theorem stale_at_two_thousand :
    (∀ n q, (VueloExacto.constante (-11.92 : ℚ) (-11.92) 4000).mandos default n = some q →
      ∀ m, 0 ≤ q.usDeseados + q.ctrl m ∧ q.usDeseados + q.ctrl m < 65536) ∧
    (∃ q, (VueloExacto.constante (-11.92 : ℚ) (-11.92) 4000).mandos default 19 = some q ∧
      q.us .m1 = 2000 ∧
      nivel ((VueloExacto.constante (-11.92 : ℚ) (-11.92) 4000).control default 20) .m1 = 1990) ∧
    ¬∃ q, (VueloExacto.constante (-11.92 : ℚ) (-11.92) 4000).mandos default 19 = some q ∧
      ∀ m, nivel ((VueloExacto.constante (-11.92 : ℚ) (-11.92) 4000).control default 20) m =
        q.us m := by
  refine ⟨?_, ⟨_, mandos_eq_orden _ _ _, by decide +kernel, by decide +kernel⟩, ?_⟩
  · intro n q hq m
    obtain rfl := mandos_some hq
    have hang : ∀ i ≤ n, |(-11.92 : ℚ)| ≤ 11.92 := fun _ _ => by norm_num [abs_le]
    obtain ⟨hlo, hhi⟩ :=
      suma_bounds (v := .constante (-11.92 : ℚ) (-11.92) 4000) (n := n) hang hang m
    change 0 ≤ (VueloExacto.constante (-11.92 : ℚ) (-11.92) 4000).suma n m ∧
      (VueloExacto.constante (-11.92 : ℚ) (-11.92) 4000).suma n m < 65536
    constructor <;> linarith
  · rintro ⟨q, hq, hlev⟩
    obtain rfl := mandos_some hq
    exact absurd (hlev .m1) (by decide +kernel)

end PicoDrone.PulseSoundness
