import Mathlib.Tactic.NormNum
import PicoDrone.Firmware.MpuPid
import PicoDrone.Library.ExtendedField
import PicoDrone.ResyncSoundness

/-! # What a controller does after a number that is not finite

The windowed controller answers with a finite number exactly when the arguments
of its last twenty calls were finite, and then with the number that exact
arithmetic gives for these calls alone (`windowed_output_finite_iff`,
`windowed_recovers`). The running-sum controller of `MPU_PID` never answers with
one again (`running_sum_finite_iff`). -/
namespace PicoDrone.RecoverySoundness
open Firmware Firmware.Pid Library.Run Library.ExtendedField Library.ExtendedField.Extended
open Library.SlidingWindow ResyncSoundness

variable {K : Type*} [Field K] [LinearOrder K] [IsStrictOrderedRing K]

/-- The arguments of a call are finite numbers. -/
def Finitos (sc : Extended K × Extended K) : Prop := sc.1.kind = .finite ∧ sc.2.kind = .finite

omit [IsStrictOrderedRing K] in
theorem error_finite_iff (polaridad : Extended K) (sc : Extended K × Extended K) :
    (errorLlamada polaridad sc).kind = .finite ↔ Finitos sc := by
  unfold errorLlamada Finitos
  rw [sub_finite_iff]
  split
  · rw [kind_neg]
  · rfl

omit [LinearOrder K] [IsStrictOrderedRing K] in
theorem drenar_finite_iff (s : Extended K) (l : List (Extended K)) :
    (drenar s l).kind = .finite ↔ s.kind = .finite ∧ ∀ x ∈ l, x.kind = .finite := by
  induction l generalizing s with
  | nil => simp [drenar]
  | cons x l ih => rw [drenar, ih, add_finite_iff, List.forall_mem_cons, and_assoc]

/-! ## The last of some calls -/

section Last

variable {F : Type*} [Zero F] [One F] [Neg F] [Add F] [Sub F] [Mul F] [Div F] [OfScientific F]
  [DecidableEq F]

/-- The output of a call on a controller that has been called with `l`. -/
def ultima (c : ControladorPID F) (l : List (F × F)) (sc : F × F) : F :=
  ((stateAfter ControladorPID.llamada c l).llamada sc).2

theorem prevError_nuevo (kp ki kd : F) (polaridad : Bool) (l : List (F × F)) :
    (stateAfter ControladorPID.llamada (.nuevo kp ki kd polaridad) l).prevError =
      (l.map (errorLlamada (miembroPolaridad polaridad))).getLastD 0 := by
  rcases List.eq_nil_or_concat' l with rfl | ⟨l, sc, rfl⟩
  · rfl
  · rw [llamadas_nuevo, List.map_append]
    simp

theorem ultima_nuevo (kp ki kd : F) (polaridad : Bool) (l : List (F × F)) (sc : F × F) :
    let error := errorLlamada (miembroPolaridad polaridad)
    ultima (.nuevo kp ki kd polaridad) l sc =
      kp * (error sc + (1 / ki) * (drenar 0 (((l ++ [sc]).map error).rtake 20) * 0.003) +
        kd * (error sc - (l.map error).getLastD 0) / 0.003) := by
  intro error
  let s := stateAfter ControladorPID.llamada (.nuevo kp ki kd polaridad) l
  have hout : ultima (.nuevo kp ki kd polaridad) l sc =
      s.kp * (errorLlamada s.polaridad sc +
        (1 / s.ki) * (drenar 0 (s.llamada sc).1.bufferIntegrador * 0.003) +
        s.kd * (errorLlamada s.polaridad sc - s.prevError) / 0.003) := rfl
  have hbuf : (s.llamada sc).1.bufferIntegrador = ((l ++ [sc]).map error).rtake 20 := by
    rw [← stateAfter_concat, llamadas_nuevo]
  obtain ⟨p, i, hl⟩ := llamadas_eq (c := .nuevo kp ki kd polaridad) (w := .empty) rfl rfl l
  rw [hout, hbuf, prevError_nuevo]
  simp only [s, hl]
  rfl

end Last

/-! ## The windowed controller -/

section Windowed

variable (kp ki kd : K) (polaridad : Bool)

/-- **Twenty calls suffice.** For all gains with `ki ≠ 0`, both polarities and any
calls on a fresh controller: the output of the last one is finite if and only if
the arguments of the last twenty are. -/
theorem windowed_output_finite_iff (hki : ki ≠ 0) (l : List (Extended K × Extended K))
    (sc : Extended K × Extended K) :
    (ultima (.nuevo (fin kp) (fin ki) (fin kd) polaridad) l sc).kind = .finite ↔
      ∀ x ∈ (l ++ [sc]).rtake 20, Finitos x := by
  have hinv : (1 / fin ki : Extended K) = fin (1 / ki) := fin_div_fin 1 hki
  have hts : (0.003 : Extended K) = fin 0.003 := rfl
  have hts0 : (0.003 : K) ≠ 0 := by norm_num
  have hmap : (∀ e ∈ ((l ++ [sc]).map (errorLlamada (miembroPolaridad polaridad))).rtake 20,
      e.kind = .finite) ↔ ∀ x ∈ (l ++ [sc]).rtake 20, Finitos x := by
    rw [map_rtake, List.forall_mem_map]
    exact forall₂_congr fun x _ => error_finite_iff _ x
  rw [ultima_nuevo, hinv, hts, fin_mul_finite_iff, add_finite_iff, add_finite_iff,
    fin_mul_finite_iff, mul_fin_finite_iff, drenar_finite_iff, div_fin_finite_iff hts0,
    fin_mul_finite_iff, sub_finite_iff, hmap]
  constructor
  · exact fun h => h.1.2.2
  · intro h
    have hnew := forall_rtake_newest (P := fun e => Extended.kind e = .finite)
      (f := errorLlamada (miembroPolaridad polaridad)) (d := 0) (l := l) (a := sc) rfl
      fun x hx => (error_finite_iff _ x).mpr (h x hx)
    exact ⟨⟨hnew.1, rfl, h⟩, hnew⟩

/-- A call of before twenty others is forgotten. -/
theorem windowed_output_finite_after_nan :
    (ultima (.nuevo (fin (0.8 : ℚ)) (fin 0.003) (fin 0.0015) true)
      ((nan, inf true) :: List.replicate 19 (fin 0, fin 5)) (fin 0, fin 5)).kind = .finite := by
  refine (windowed_output_finite_iff 0.8 0.003 0.0015 true (by norm_num) _ _).mpr ?_
  intro x hx
  have hwindow : x ∈ List.replicate 20 (fin (0 : ℚ), fin (5 : ℚ)) := hx
  obtain rfl := List.eq_of_mem_replicate hwindow
  exact ⟨rfl, rfl⟩

/-! ## Back to exact numbers -/

/-- A finite call. -/
def exacta (sc : K × K) : Extended K × Extended K := (fin sc.1, fin sc.2)

omit [IsStrictOrderedRing K] in
theorem error_exacta (sc : K × K) :
    errorLlamada (miembroPolaridad polaridad : Extended K) (exacta sc) =
      fin (errorLlamada (miembroPolaridad polaridad) sc) := by
  have hone : (1 : Extended K) ≠ 0 := fun h => one_ne_zero (Extended.fin.inj h)
  unfold errorLlamada miembroPolaridad exacta
  cases polaridad with
  | true =>
    rw [if_pos rfl, if_pos rfl, if_neg hone, if_neg one_ne_zero]
    exact fin_sub_fin _ _
  | false =>
    rw [if_neg Bool.false_ne_true, if_neg Bool.false_ne_true, if_pos rfl, if_pos rfl]
    exact fin_sub_fin _ _

omit [LinearOrder K] [IsStrictOrderedRing K] in
theorem drenar_fin (s : K) (l : List K) :
    drenar (fin s : Extended K) (l.map fin) = fin (drenar s l) := by
  induction l generalizing s with
  | nil => rfl
  | cons x l ih => exact ih (s + x)

/-- **After twenty finite calls nothing is left of the others**: the output is
the one of exact arithmetic on a controller that has seen these twenty only. -/
theorem windowed_recovers (hki : ki ≠ 0) (pre : List (Extended K × Extended K)) {l : List (K × K)}
    (hlen : 19 ≤ l.length) (sc : K × K) :
    ultima (.nuevo (fin kp) (fin ki) (fin kd) polaridad) (pre ++ l.map exacta) (exacta sc) =
      fin (ultima (.nuevo kp ki kd polaridad) l sc) := by
  have hinv : (1 / fin ki : Extended K) = fin (1 / ki) := fin_div_fin 1 hki
  have hts0 : (0.003 : K) ≠ 0 := by norm_num
  let error : K × K → K := errorLlamada (miembroPolaridad polaridad)
  have hmap : ∀ l : List (K × K), (l.map exacta).map
      (errorLlamada (miembroPolaridad polaridad : Extended K)) = (l.map error).map fin := by
    intro l
    simp only [List.map_map, Function.comp_def, error_exacta, error]
  have hbuf : ((pre ++ l.map exacta ++ [exacta sc]).map
      (errorLlamada (miembroPolaridad polaridad : Extended K))).rtake 20 =
        (((l ++ [sc]).map error).rtake 20).map fin := by
    have hsplit : pre ++ l.map exacta ++ [exacta sc] = pre ++ (l ++ [sc]).map exacta := by simp
    rw [hsplit, List.map_append, hmap, rtake_append_of_le (by simpa using hlen), map_rtake]
  have hprev : ((pre ++ l.map exacta).map
      (errorLlamada (miembroPolaridad polaridad : Extended K))).getLastD 0 =
        fin ((l.map error).getLastD 0) := by
    rcases List.eq_nil_or_concat' l with rfl | ⟨l, b, rfl⟩
    · simp at hlen
    · simp [error_exacta, error]
  have hsum := drenar_fin 0 (((l ++ [sc]).map error).rtake 20)
  have hdiv : ∀ x : K, (fin x / 0.003 : Extended K) = fin (x / 0.003) := fun x =>
    fin_div_fin x hts0
  rw [ultima_nuevo, ultima_nuevo, hbuf, hprev, error_exacta, hinv, fin_sub_fin]
  change fin kp * (fin _ + fin (1 / ki) * (drenar (fin 0) _ * 0.003) + fin (kd * _) / 0.003) = _
  rw [hsum, hdiv]
  rfl

theorem windowed_recovers_after_nan :
    ultima (.nuevo (fin (0.8 : ℚ)) (fin 0.003) (fin 0.0015) true)
        ([(nan, inf true)] ++ (List.replicate 19 (0, 5)).map exacta) (exacta (0, 4)) =
      fin (ultima (.nuevo 0.8 0.003 0.0015 true) (List.replicate 19 (0, 5)) (0, 4)) :=
  windowed_recovers 0.8 0.003 0.0015 true (by norm_num) [(nan, inf true)] (by decide) (0, 4)

end Windowed

/-! ## The running sum -/

section RunningSum

variable (kp ki kd : K) (polaridad : Bool)

/-- The output of a call on a running-sum controller that has been called with `l`. -/
def ultimaAcumulada {F : Type*} [Zero F] [Neg F] [Add F] [Sub F] [Mul F] [DecidableEq F]
    (c : MpuPid.ControladorPID F) (l : List (F × F)) (sc : F × F) : F :=
  ((stateAfter MpuPid.ControladorPID.llamada c l).llamada sc).2

/-- The running sum is finite as long as every call was. -/
structure Intacto (l : List (Extended K × Extended K)) (c : MpuPid.ControladorPID (Extended K)) :
    Prop where
  kp_eq : c.kp = fin kp
  ki_eq : c.ki = fin ki
  kd_eq : c.kd = fin kd
  suma : c.integral.kind = .finite ↔ ∀ x ∈ l, Finitos x
  previo : (∀ x ∈ l, Finitos x) → c.prevError.kind = .finite

omit [IsStrictOrderedRing K] in
theorem intacto_llamadas (l : List (Extended K × Extended K)) :
    Intacto kp ki kd l (stateAfter MpuPid.ControladorPID.llamada
      (.nuevo (fin kp) (fin ki) (fin kd) polaridad) l) := by
  induction l using List.reverseRecOn with
  | nil => exact ⟨rfl, rfl, rfl, iff_of_true rfl nofun, fun _ => rfl⟩
  | append_singleton l sc ih =>
    rw [stateAfter_concat]
    refine ⟨ih.kp_eq, ih.ki_eq, ih.kd_eq, ?_, fun h => ?_⟩
    · rw [List.forall_mem_append, List.forall_mem_singleton, ← ih.suma]
      exact add_finite_iff.trans (and_congr_right fun _ => error_finite_iff _ sc)
    · exact (error_finite_iff _ sc).mpr (h sc (by simp))

omit [IsStrictOrderedRing K] in
/-- **One such number is enough.** For all gains, both polarities and any calls on
a fresh running-sum controller: the output of the last one is finite if and only
if the arguments of all of them are. -/
theorem running_sum_finite_iff (l : List (Extended K × Extended K))
    (sc : Extended K × Extended K) :
    (ultimaAcumulada (.nuevo (fin kp) (fin ki) (fin kd) polaridad) l sc).kind = .finite ↔
      ∀ x ∈ l ++ [sc], Finitos x := by
  let c := stateAfter MpuPid.ControladorPID.llamada
    (.nuevo (fin kp) (fin ki) (fin kd) polaridad) l
  let error := errorLlamada c.polaridad sc
  have hc : Intacto kp ki kd l c := intacto_llamadas kp ki kd polaridad l
  have hout : ultimaAcumulada (.nuevo (fin kp) (fin ki) (fin kd) polaridad) l sc =
      c.kp * error + c.ki * (c.integral + error) + c.kd * (error - c.prevError) := rfl
  rw [hout, hc.kp_eq, hc.ki_eq, hc.kd_eq, add_finite_iff, add_finite_iff, fin_mul_finite_iff,
    fin_mul_finite_iff, fin_mul_finite_iff, add_finite_iff, sub_finite_iff, hc.suma,
    error_finite_iff, List.forall_mem_append, List.forall_mem_singleton]
  constructor
  · exact fun h => ⟨h.1.2.1, h.1.1⟩
  · exact fun h => ⟨⟨h.2, h.1, h.2⟩, h.2, hc.previo h.1⟩

end RunningSum

end PicoDrone.RecoverySoundness
