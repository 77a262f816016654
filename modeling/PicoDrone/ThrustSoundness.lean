import PicoDrone.PulseSoundness

/-! # Collective thrust

The corrections of opposite motors cancel, so their two requests sum to twice the
throttle. While every request is in range the motors get them truncated, and
truncation loses less than one microsecond for each pair (`thrust_conserved`). -/
namespace PicoDrone.ThrustSoundness
open Firmware.Pwm Firmware.Control
open CommandSoundness MixerSoundness ActuationSoundness FlightSoundness PulseSoundness

variable {K : Type*} [Field K] [LinearOrder K] [IsStrictOrderedRing K] [FloorRing K]

/-- Two numbers whose sum is whole lose one or nothing to truncation. -/
theorem floor_add_floor {x y : K} {N : ℕ} (hx : 0 ≤ x) (hy : 0 ≤ y) (h : x + y = N) :
    ⌊x⌋₊ + ⌊y⌋₊ = N ∨ ⌊x⌋₊ + ⌊y⌋₊ + 1 = N := by
  have hfloor : ⌊x + y⌋ = N := by rw [h, Int.floor_natCast]
  have hle := Int.le_floor_add x y
  have hge := Int.le_floor_add_floor x y
  rw [hfloor, ← Int.natCast_floor_eq_floor hx, ← Int.natCast_floor_eq_floor hy] at hle hge
  omega

omit [LinearOrder K] [IsStrictOrderedRing K] in
/-- The motors with both polarities exchanged get the opposite correction. -/
theorem correccion_opuesta (angX angY : ℕ → K) (n : ℕ) :
    correccion angX angY n .m4 = -correccion angX angY n .m1 ∧
      correccion angX angY n .m3 = -correccion angX angY n .m2 := by
  constructor <;> rw [correccion_eq, correccion_eq] <;>
    simp only [signo, polaridadRoll, polaridadPitch, if_true, if_false, Bool.false_eq_true] <;>
    ring

omit [LinearOrder K] [IsStrictOrderedRing K] [FloorRing K] in
theorem suma_opuesta (v : VueloExacto K) (n : ℕ) :
    v.suma n .m1 + v.suma n .m4 = (2 * acelerador (v.rawValue n) : ℕ) ∧
      v.suma n .m2 + v.suma n .m3 = (2 * acelerador (v.rawValue n) : ℕ) := by
  obtain ⟨h4, h3⟩ := correccion_opuesta v.angX v.angY n
  simp only [suma_eq, h4, h3]
  push_cast
  constructor <;> ring

/-- In range, the level is the truncated request. -/
theorem nivel_eq_floor {v : VueloExacto K} {n : ℕ} (hw : PwmHw)
    (hsum : ∀ m, 0 ≤ v.suma n m ∧ v.suma n m < 2000) (m : Motor) :
    (nivel (v.control hw (n + 1)) m).toNat = ⌊v.suma n m⌋₊ := by
  have hus : ∀ m, ((v.orden n).us m).toNat = ⌊v.suma n m⌋₊ := by
    intro m
    obtain ⟨hlo, hhi⟩ := hsum m
    rw [orden_us_toNat v (by linarith) (by linarith), if_pos (by linarith)]
  have hopen : puerta ((v.orden n).us .m1) = true := by
    rw [puerta_iff, hus, Nat.floor_lt' (by decide)]
    exact_mod_cast (hsum .m1).2
  rw [nivel_control_succ, if_pos hopen, hus]

/-- **Collective thrust is conserved down to the pulses.** In every iteration of
every flight whose four sums lie in [0, 2000): the levels of motors 1 and 4 sum
to twice the throttle or to one less, those of motors 2 and 3 too, so that the
attitude never adds thrust and never takes more than two microseconds of it. -/
theorem thrust_conserved (v : VueloExacto K) (hw : PwmHw) (n : ℕ)
    (hsum : ∀ q, v.mandos hw n = some q → ∀ m,
      0 ≤ q.usDeseados + q.ctrl m ∧ q.usDeseados + q.ctrl m < 2000) :
    ∃ q u, v.mandos hw n = some q ∧ q.usDeseados = (u : ℕ) ∧
      let level := fun m => (nivel (v.control hw (n + 1)) m).toNat
      (level .m1 + level .m4 = 2 * u ∨ level .m1 + level .m4 + 1 = 2 * u) ∧
      (level .m2 + level .m3 = 2 * u ∨ level .m2 + level .m3 + 1 = 2 * u) ∧
      level .m1 + level .m2 + level .m3 + level .m4 ≤ 4 * u ∧
      4 * u ≤ level .m1 + level .m2 + level .m3 + level .m4 + 2 := by
  have hq := mandos_eq_orden v hw n
  have hrange : ∀ m, 0 ≤ v.suma n m ∧ v.suma n m < 2000 := hsum _ hq
  obtain ⟨h14, h23⟩ := suma_opuesta v n
  have hp14 := floor_add_floor (hrange .m1).1 (hrange .m4).1 h14
  have hp23 := floor_add_floor (hrange .m2).1 (hrange .m3).1 h23
  refine ⟨_, acelerador (v.rawValue n), hq, congrArg Nat.cast (microsegundos_eq _), ?_⟩
  simp only [nivel_eq_floor hw hrange]
  refine ⟨hp14, hp23, ?_, ?_⟩ <;> omega

theorem thrust_conserved_tilted :
    ∃ q u, (VueloExacto.constante (3 : ℚ) (-4.1) 2000).mandos default 25 = some q ∧
      q.usDeseados = (u : ℕ) ∧
      let level := fun m =>
        (nivel ((VueloExacto.constante (3 : ℚ) (-4.1) 2000).control default (25 + 1)) m).toNat
      (level .m1 + level .m4 = 2 * u ∨ level .m1 + level .m4 + 1 = 2 * u) ∧
      (level .m2 + level .m3 = 2 * u ∨ level .m2 + level .m3 + 1 = 2 * u) ∧
      level .m1 + level .m2 + level .m3 + level .m4 ≤ 4 * u ∧
      4 * u ≤ level .m1 + level .m2 + level .m3 + level .m4 + 2 :=
  thrust_conserved (.constante (3 : ℚ) (-4.1) 2000) default 25 (by
    intro q hq m
    obtain rfl := mandos_some hq
    cases m <;> decide +kernel)

end PicoDrone.ThrustSoundness
