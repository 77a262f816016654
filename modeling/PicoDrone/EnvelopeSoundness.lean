import Mathlib.Data.Rat.Floor
import PicoDrone.PulseSoundness

/-! # The envelope of angles

While every angle stays within 11 degrees no history trips a range check or the
gate (`flight_envelope`). The conversion to `uint16_t` is defined as long as the
two weighted tilts do not outweigh the throttle (`conversion_defined_iff`), which
angles up to 90 degrees do not ensure: the negative test comes after it. -/
namespace PicoDrone.EnvelopeSoundness
open Firmware.Pwm Firmware.Control
open CommandSoundness ActuationSoundness FlightSoundness PulseSoundness

variable {K : Type*} [Field K] [LinearOrder K] [IsStrictOrderedRing K] [FloorRing K]

/-- **The safe envelope.** In every iteration of every flight whose angles so
far are at most 11 degrees, whatever the throttle, the gate is open, no pulse is
cut, and every motor is written the truncated sum, between 615 and 1984. -/
theorem flight_envelope (v : VueloExacto K) (hw : PwmHw) (n : ℕ)
    (hx : ∀ i ≤ n, |v.angX i| ≤ 11) (hy : ∀ i ≤ n, |v.angY i| ≤ 11) :
    ∃ q, v.mandos hw n = some q ∧ q.escrito = true ∧ ∀ m,
      q.us m = q.pedido m ∧ nivel (v.control hw (n + 1)) m = q.us m ∧
      (q.us m).toNat = ⌊q.usDeseados + q.ctrl m⌋₊ ∧
      615 ≤ (q.us m).toNat ∧ (q.us m).toNat ≤ 1984 := by
  have hb : ∀ m, (615 : K) ≤ v.suma n m ∧ v.suma n m < 1985 := by
    intro m
    obtain ⟨hlo, hhi⟩ := suma_bounds hx hy m
    constructor <;> linarith
  have hped : ∀ m, ((v.orden n).pedido m).toNat = ⌊v.suma n m⌋₊ := by
    intro m
    obtain ⟨hlo, hhi⟩ := hb m
    have h0 : -1 < v.suma n m := by linarith
    have h1 : v.suma n m < 65536 := by linarith
    exact aUint16_toNat (v.indef n m) h0 h1
  have hfloor : ∀ m, 615 ≤ ⌊v.suma n m⌋₊ ∧ ⌊v.suma n m⌋₊ ≤ 1984 := by
    intro m
    refine ⟨Nat.le_floor (by exact_mod_cast (hb m).1), Nat.lt_succ_iff.mp ?_⟩
    rw [Nat.floor_lt' (by decide)]
    exact_mod_cast (hb m).2
  have hus : ∀ m, (v.orden n).us m = (v.orden n).pedido m := by
    intro m
    have hle : ((v.orden n).pedido m).toNat ≤ 2000 := by
      rw [hped m]
      exact (hfloor m).2.trans (by decide)
    exact comprobarRango_of_le hle
  have hopen : puerta ((v.orden n).us .m1) = true := by
    rw [puerta_iff, hus, hped]
    have := (hfloor .m1).2
    omega
  refine ⟨_, mandos_eq_orden v hw n, (mandar_escrito _ _ _).trans hopen, fun m => ?_⟩
  refine ⟨hus m, ?_, ?_, ?_, ?_⟩
  · rw [nivel_control_succ, if_pos hopen]
  · rw [hus m]; exact hped m
  · rw [hus m, hped m]; exact (hfloor m).1
  · rw [hus m, hped m]; exact (hfloor m).2

theorem flight_envelope_at_the_edge :
    ∃ q, (VueloExacto.constante (11 : ℚ) 11 0).mandos default 30 = some q ∧ q.escrito = true ∧
      ∀ m, q.us m = q.pedido m ∧
        nivel ((VueloExacto.constante (11 : ℚ) 11 0).control default 31) m = q.us m ∧
        (q.us m).toNat = ⌊q.usDeseados + q.ctrl m⌋₊ ∧
        615 ≤ (q.us m).toNat ∧ (q.us m).toNat ≤ 1984 :=
  flight_envelope (.constante (11 : ℚ) 11 0) default 30
    (fun _ _ => by simp [VueloExacto.constante])
    (fun _ _ => by simp [VueloExacto.constante])

/-! ## When the conversions are defined -/

/-- **The conversions of an iteration are defined exactly when the tilts do not
outweigh the throttle.** In every iteration of every flight with angles up to 90
degrees: the sums of all four motors lie in the range in which C defines their
conversion if and only if half the sum of the two absolute weighted tilts is
less than the throttle plus one. -/
theorem conversion_defined_iff (v : VueloExacto K) (hw : PwmHw) (n : ℕ)
    (hx : ∀ i ≤ n, |v.angX i| ≤ 90) (hy : ∀ i ≤ n, |v.angY i| ≤ 90) :
    (∃ q, v.mandos hw n = some q ∧ ∀ m,
      -1 < q.usDeseados + q.ctrl m ∧ q.usDeseados + q.ctrl m < 65536) ↔
    (|inclinacion v.angX n| + |inclinacion v.angY n|) / 2 <
      (acelerador (v.rawValue n) : K) + 1 := by
  have hupper : ∀ m, v.suma n m < 65536 := by
    intro m
    have := (suma_bounds hx hy m).2
    linarith
  constructor
  · rintro ⟨q, hq, hdef⟩
    obtain rfl := mandos_some hq
    -- the motor that is asked for the whole reduction
    obtain ⟨m, hm⟩ := exists_correccion_eq v.angX v.angY n
    have hlo : -1 < v.suma n m := (hdef m).1
    rw [suma_eq, hm] at hlo
    linarith
  · intro htilt
    refine ⟨_, mandos_eq_orden v hw n, fun m => ⟨?_, hupper m⟩⟩
    have hcorr := (abs_le.mp (abs_correccion_le v.angX v.angY n m)).1
    change -1 < v.suma n m
    rw [suma_eq]
    linarith

theorem conversion_defined_when_level :
    ∃ q, (VueloExacto.constante (10 : ℚ) 10 0).mandos default 40 = some q ∧ ∀ m,
      -1 < q.usDeseados + q.ctrl m ∧ q.usDeseados + q.ctrl m < 65536 :=
  (conversion_defined_iff (.constante (10 : ℚ) 10 0) default 40
    (fun _ _ => by norm_num [VueloExacto.constante, abs_le])
    (fun _ _ => by norm_num [VueloExacto.constante, abs_le])).mpr (by decide +kernel)

/-- Twenty iterations at 90 degrees of roll and pitch with the throttle down ask
motor 1 for -712 before the conversion. -/
theorem conversion_undefined_at_ninety :
    (∀ i, |(VueloExacto.constante (90 : ℚ) 90 0).angX i| ≤ 90 ∧
      |(VueloExacto.constante (90 : ℚ) 90 0).angY i| ≤ 90) ∧
    ∃ q, (VueloExacto.constante (90 : ℚ) 90 0).mandos default 19 = some q ∧
      q.usDeseados + q.ctrl .m1 = -712 ∧
      ¬(-1 < q.usDeseados + q.ctrl .m1 ∧ q.usDeseados + q.ctrl .m1 < 65536) :=
  ⟨fun _ => by simp [VueloExacto.constante], _, mandos_eq_orden _ _ _,
    by decide +kernel, by decide +kernel⟩

end PicoDrone.EnvelopeSoundness
