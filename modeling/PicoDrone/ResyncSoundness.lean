import PicoDrone.CommandSoundness
import PicoDrone.PidSoundness

/-! # How much the control step remembers

Whatever the numbers are, a controller is determined by the last twenty errors it
was called with, and an iteration whose angles are rejected does not call it. Two
runs that end in the same twenty accepted pairs of angles therefore command alike
from then on, and their motors agree from the first open gate
(`control_resynchronises`). -/
namespace PicoDrone.ResyncSoundness
open Firmware.Pid Firmware.Pwm Firmware.Control Library.Run Library.SlidingWindow
open PidSoundness CommandSoundness

variable {F : Type*} [Zero F] [One F] [Neg F] [Add F] [Sub F] [Mul F] [Div F]
  [OfScientific F] [DecidableEq F]

/-! ## A controller -/

/-- The error of a call on a controller with this member `polaridad`. -/
def errorLlamada (polaridad : F) (sc : F × F) : F :=
  sc.1 - if polaridad = 0 then -sc.2 else sc.2

theorem llamada_eq {c : ControladorPID F} {w : Window F 20} (hsize : c.integradorSize = 20)
    (hw : c.bufferIntegrador = w.elems) (sc : F × F) :
    let buffer := (w.push (errorLlamada c.polaridad sc)).elems
    (c.llamada sc).1 = { c with
      prevError := errorLlamada c.polaridad sc
      integral := drenar 0 buffer * 0.003
      bufferIntegrador := buffer } := by
  have hbuf : encolar c.integradorSize c.bufferIntegrador (errorLlamada c.polaridad sc) =
      (w.push (errorLlamada c.polaridad sc)).elems := by
    rw [hsize, hw]
    exact encolar_eq_push w _
  intro buffer
  simp only [buffer, ← hbuf]
  rfl

theorem llamadas_eq {c : ControladorPID F} {w : Window F 20} (hsize : c.integradorSize = 20)
    (hw : c.bufferIntegrador = w.elems) (l : List (F × F)) :
    ∃ prevError integral, stateAfter ControladorPID.llamada c l = { c with
      prevError, integral,
      bufferIntegrador := (w.pushAll (l.map (errorLlamada c.polaridad))).elems } := by
  induction l generalizing c w with
  | nil =>
    refine ⟨c.prevError, c.integral, ?_⟩
    simp only [List.map_nil, Window.pushAll, stateAfter, ← hw]
  | cons sc l ih =>
    have hstep := llamada_eq hsize hw sc
    simp only [stateAfter, hstep]
    exact ih hsize rfl

/-- The member `polaridad` that the constructor sets. -/
def miembroPolaridad (polaridad : Bool) : F := if polaridad then 1 else 0

/-- A fresh controller after some calls: what its last twenty errors make of it. -/
theorem llamadas_nuevo (kp ki kd : F) (polaridad : Bool) (l : List (F × F)) (sc : F × F) :
    let error := errorLlamada (miembroPolaridad polaridad)
    let buffer := ((l ++ [sc]).map error).rtake 20
    stateAfter ControladorPID.llamada (.nuevo kp ki kd polaridad) (l ++ [sc]) =
      { ControladorPID.nuevo kp ki kd polaridad with
        prevError := error sc
        integral := drenar 0 buffer * 0.003
        bufferIntegrador := buffer } := by
  intro error buffer
  let w : Window F 20 := Window.empty.pushAll (l.map error)
  obtain ⟨p, i, hl⟩ := llamadas_eq (c := .nuevo kp ki kd polaridad) (w := .empty) rfl rfl l
  have hbuf : (w.push (error sc)).elems = buffer := by
    simp only [w, buffer, ← Window.pushAll_concat, Window.pushAll_elems, List.map_append,
      List.map_cons, List.map_nil]
    rfl
  rw [stateAfter_concat, hl, llamada_eq (w := w) rfl rfl]
  simp only [← hbuf]
  rfl

/-- A controller is what its last twenty calls have made of it. -/
theorem llamadas_resync (kp ki kd : F) (polaridad : Bool) {suf : List (F × F)}
    (hlen : 20 ≤ suf.length) (pre pre' : List (F × F)) :
    stateAfter ControladorPID.llamada (.nuevo kp ki kd polaridad) (pre ++ suf) =
      stateAfter ControladorPID.llamada (.nuevo kp ki kd polaridad) (pre' ++ suf) := by
  rcases List.eq_nil_or_concat' suf with rfl | ⟨l, sc, rfl⟩
  · simp at hlen
  · have hlast : ∀ pre : List (F × F), ∀ e : F × F → F,
        ((pre ++ l ++ [sc]).map e).rtake 20 = ((l ++ [sc]).map e).rtake 20 := by
      intro pre e
      rw [List.append_assoc, List.map_append]
      exact rtake_append_of_le (by simpa using hlen)
    rw [← List.append_assoc, ← List.append_assoc, llamadas_nuevo, llamadas_nuevo]
    simp only [hlast]

/-! ## The control step -/

section Guard

variable {F : Type*}

/-- The angles of an iteration, if the guard lets them pass. -/
def aceptado (e : EntradaControl F) : Option (F × F) :=
  if !e.num.isinf e.angX && !e.num.isinf e.angY then some (e.angX, e.angY) else none

theorem aceptado_eq_some {e : EntradaControl F} {a : F × F} (h : aceptado e = some a) :
    a = (e.angX, e.angY) ∧ e.num.isinf e.angX = false ∧ e.num.isinf e.angY = false := by
  unfold aceptado at h
  split at h
  · rename_i hinf
    rw [Bool.and_eq_true, Bool.not_eq_true', Bool.not_eq_true'] at hinf
    exact ⟨(Option.some.inj h).symm, hinf⟩
  · cases h

end Guard

variable [NatCast F]

theorem paso_rechazado {s : EstadoControl F} {e : EntradaControl F} (h : aceptado e = none) :
    s.paso e = (s, none) := by
  unfold aceptado at h
  split at h
  · cases h
  · rename_i hinf
    rw [EstadoControl.paso, if_neg hinf]

theorem pidRoll_tras (s : EstadoControl F) (m : Motor) (l : List (EntradaControl F)) :
    (stateAfter EstadoControl.paso s l).pidRoll m =
      stateAfter ControladorPID.llamada (s.pidRoll m)
        ((l.filterMap aceptado).map fun a => (0, a.1)) := by
  rw [List.map_filterMap]
  refine stateAfter_proj (fun s => s.pidRoll m) _ ?_ ?_ s l
  · intro s e h
    rw [paso_rechazado (Option.map_eq_none_iff.mp h)]
  · intro s e j h
    obtain ⟨a, ha, rfl⟩ := Option.map_eq_some_iff.mp h
    obtain ⟨rfl, hx, hy⟩ := aceptado_eq_some ha
    exact (paso_pids hx hy m).1

theorem pidPitch_tras (s : EstadoControl F) (m : Motor) (l : List (EntradaControl F)) :
    (stateAfter EstadoControl.paso s l).pidPitch m =
      stateAfter ControladorPID.llamada (s.pidPitch m)
        ((l.filterMap aceptado).map fun a => (0, a.2)) := by
  rw [List.map_filterMap]
  refine stateAfter_proj (fun s => s.pidPitch m) _ ?_ ?_ s l
  · intro s e h
    rw [paso_rechazado (Option.map_eq_none_iff.mp h)]
  · intro s e j h
    obtain ⟨a, ha, rfl⟩ := Option.map_eq_some_iff.mp h
    obtain ⟨rfl, hx, hy⟩ := aceptado_eq_some ha
    exact (paso_pids hx hy m).2

/-! ## Twins -/

/-- Two control states that command alike from here on. -/
structure Gemelos (s t : EstadoControl F) : Prop where
  roll : s.pidRoll = t.pidRoll
  pitch : s.pidPitch = t.pidPitch
  cableado_left : Cableado s
  cableado_right : Cableado t

theorem Gemelos.corregir {s t : EstadoControl F} (h : Gemelos s t) (angX angY : F) :
    (s.corregir angX angY).2 = (t.corregir angX angY).2 := by
  simp only [EstadoControl.corregir, h.roll, h.pitch]

theorem Gemelos.paso {s t : EstadoControl F} (h : Gemelos s t) (e : EntradaControl F) :
    (s.paso e).2 = (t.paso e).2 ∧ Gemelos (s.paso e).1 (t.paso e).1 := by
  cases ha : aceptado e with
  | none =>
    rw [paso_rechazado ha, paso_rechazado ha]
    exact ⟨rfl, h⟩
  | some a =>
    obtain ⟨-, hx, hy⟩ := aceptado_eq_some ha
    have hroll : (s.paso e).1.pidRoll = (t.paso e).1.pidRoll := by
      funext m
      rw [(paso_pids hx hy m).1, (paso_pids hx hy m).1, h.roll]
    have hpitch : (s.paso e).1.pidPitch = (t.paso e).1.pidPitch := by
      funext m
      rw [(paso_pids hx hy m).2, (paso_pids hx hy m).2, h.pitch]
    refine ⟨?_, hroll, hpitch, ?_, ?_⟩
    · rw [paso_aceptado hx hy, paso_aceptado hx hy, h.corregir]
    · exact (nivel_paso h.cableado_left e).1
    · exact (nivel_paso h.cableado_right e).1

/-- An open gate makes the levels of both agree, and a closed one leaves them alone. -/
theorem Gemelos.niveles_paso {s t : EstadoControl F} (h : Gemelos s t) (e : EntradaControl F)
    (hlev : (∀ m, nivel s m = nivel t m) ∨ ∃ q ∈ (s.paso e).2, q.escrito = true) (m : Motor) :
    nivel (s.paso e).1 m = nivel (t.paso e).1 m := by
  have hout := (h.paso e).1
  obtain ⟨-, -, ⟨hold, hcl⟩ | ⟨q, hq, hopen, hnew⟩⟩ := nivel_paso h.cableado_left e
  · obtain ⟨-, -, ⟨hold', -⟩ | ⟨q', hq', hopen', -⟩⟩ := nivel_paso h.cableado_right e
    · rcases hlev with hlev | ⟨q, hq, hopen⟩
      · rw [hold, hold', hlev]
      · rw [hcl q hq] at hopen
        cases hopen
    · rw [← hout] at hq'
      rw [hcl q' hq'] at hopen'
      cases hopen'
  · obtain ⟨-, -, ⟨-, hcl'⟩ | ⟨q', hq', -, hnew'⟩⟩ := nivel_paso h.cableado_right e
    · rw [hout] at hq
      rw [hcl' q hq] at hopen
      cases hopen
    · rw [← hout] at hq'
      cases Option.mem_unique hq hq'
      rw [hnew, hnew']

theorem Gemelos.niveles_tras {s t : EstadoControl F} (h : Gemelos s t)
    {l : List (EntradaControl F)}
    (hlev : (∀ m, nivel s m = nivel t m) ∨
      ∃ q, some q ∈ outputs EstadoControl.paso s l ∧ q.escrito = true) (m : Motor) :
    nivel (stateAfter EstadoControl.paso s l) m = nivel (stateAfter EstadoControl.paso t l) m := by
  induction l generalizing s t with
  | nil =>
    rcases hlev with hlev | ⟨q, hq, -⟩
    · exact hlev m
    · cases hq
  | cons e l ih =>
    refine ih (h.paso e).2 ?_
    rcases hlev with hlev | ⟨q, hq, hopen⟩
    · exact .inl (h.niveles_paso e (.inl hlev))
    · rcases List.mem_cons.mp hq with hq | hq
      · exact .inl (h.niveles_paso e (.inr ⟨q, hq.symm, hopen⟩))
      · exact .inr ⟨q, hq, hopen⟩

/-! ## Runs from the start -/

theorem gemelos_inicial (hw hw' : PwmHw) {l l' : List (EntradaControl F)}
    {pre pre' suf : List (F × F)} (h : l.filterMap aceptado = pre ++ suf)
    (h' : l'.filterMap aceptado = pre' ++ suf) (hlen : 20 ≤ suf.length) :
    Gemelos (stateAfter EstadoControl.paso (.inicial hw) l)
      (stateAfter EstadoControl.paso (.inicial hw') l') := by
  have hroll : (suf.map fun a => ((0 : F), a.1)).length = suf.length := List.length_map _
  have hpitch : (suf.map fun a => ((0 : F), a.2)).length = suf.length := List.length_map _
  constructor
  · funext m
    rw [pidRoll_tras, pidRoll_tras, h, h', List.map_append, List.map_append]
    exact llamadas_resync _ _ _ _ (hroll ▸ hlen) _ _
  · funext m
    rw [pidPitch_tras, pidPitch_tras, h, h', List.map_append, List.map_append]
    exact llamadas_resync _ _ _ _ (hpitch ▸ hlen) _ _
  · exact stateAfter_inv (cableado_nuevo _ _ _ hw) (fun s e hs => (nivel_paso hs e).1) l
  · exact stateAfter_inv (cableado_nuevo _ _ _ hw') (fun s e hs => (nivel_paso hs e).1) l'

/-- **Twenty accepted iterations resynchronise the control step**, bit by bit:
for every number type, every answer of `isinf` and of the conversions, and any
two runs whose accepted angles end in the same twenty pairs, whatever came before
and however many iterations were rejected in between. The two give the same
commands on all further inputs, and once one of these opens the gate their
levels are the same. -/
theorem control_resynchronises (hw hw' : PwmHw) (l l' mas : List (EntradaControl F))
    {pre pre' suf : List (F × F)} (h : l.filterMap aceptado = pre ++ suf)
    (h' : l'.filterMap aceptado = pre' ++ suf) (hlen : 20 ≤ suf.length) :
    let s := stateAfter EstadoControl.paso (.inicial hw) l
    let s' := stateAfter EstadoControl.paso (.inicial hw') l'
    outputs EstadoControl.paso s mas = outputs EstadoControl.paso s' mas ∧
      ((∃ q, some q ∈ outputs EstadoControl.paso s mas ∧ q.escrito = true) →
        ∀ m, nivel (stateAfter EstadoControl.paso s mas) m =
          nivel (stateAfter EstadoControl.paso s' mas) m) := by
  intro s s'
  have htwin : Gemelos s s' := gemelos_inicial hw hw' h h' hlen
  refine ⟨(stateAfter_bisim (fun s t e hst => hst.paso e) htwin mas).1, fun hopen => ?_⟩
  exact htwin.niveles_tras (.inr hopen)

def lectura (angX angY : ℚ) : EntradaControl ℚ :=
  { angX, angY, rawValue := 2000
    num := { isinf := fun x => decide (x = 1000), aUint16 := fun _ _ => 1200 } }

/-- One run starts with a fall to the side, the other has a rejected iteration in the middle. -/
theorem control_resynchronises_after_a_fall :
    outputs EstadoControl.paso (stateAfter EstadoControl.paso (.inicial default)
        (lectura 80 60 :: List.replicate 20 (lectura 3 (-2)))) [lectura 1 1] =
      outputs EstadoControl.paso (stateAfter EstadoControl.paso (.inicial default)
        (List.replicate 10 (lectura 3 (-2)) ++ lectura 1000 0 ::
          List.replicate 10 (lectura 3 (-2)))) [lectura 1 1] := by
  have hfall : (lectura 80 60 :: List.replicate 20 (lectura 3 (-2))).filterMap aceptado =
      [(80, 60)] ++ List.replicate 20 (3, -2) := by decide +kernel
  have hreject : (List.replicate 10 (lectura 3 (-2)) ++ lectura 1000 0 ::
      List.replicate 10 (lectura 3 (-2))).filterMap aceptado =
      [] ++ List.replicate 20 (3, -2) := by decide +kernel
  exact (control_resynchronises default default _ _ [lectura 1 1] hfall hreject (by decide)).1

end PicoDrone.ResyncSoundness
