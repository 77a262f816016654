import Mathlib.Data.List.Induction
import Mathlib.Tactic.NormNum
import PicoDrone.MemorySoundness
import PicoDrone.ServerInvariant

/-! # The server and the loop, interleaved

Whatever order the steps of the thread and the requests come in, no pointer is
used before it is set, and the pages show the estimate of the last sample or of
the one before it (`server_pages`); the lines the thread prints are the angles
the flight program computes from the same samples, and the handlers add nothing to
them but the angles of their pages (`server_lines`); and a request changes nothing
but the LED (`requests_do_not_disturb`). -/
namespace PicoDrone.ServerSoundness
open Library.CStrings Library.Run Firmware.Cgi Firmware.Mpu Firmware.Pwm Firmware.Servidor
open CgiSoundness MemorySoundness ServerInvariant

variable {F : Type*} [Zero F] [Add F] [Mul F] [Div F] [NatCast F] [IntCast F]
  [OfScientific F] [DecidableEq F]

section Runs

variable (lib : Libm F) (formato : F → List Char) (nulo : CString → ℤ) (led : Bool)
  (angX angXPrev angYPrev dt : F) (tiempoPrevio : UInt32) (muestra : Muestra)

/-- **The pages are never stale by more than one sample, and the server never
uses a pointer before it is set.** For every order of the steps and the requests:
no fault is reached, and a page asked for after the handlers are set shows, and
prints, the estimate after as many samples as the angle has been written (what was in
memory before the first), which is every sample read so far or all but the last. The
second angle may lag one sample behind the first, never the other way round. -/
theorem server_pages (l : List Evento) :
    let inicio := Estado.inicial led angX angXPrev angYPrev dt tiempoPrevio muestra
    let h := historia (outputs (paso lib formato nulo) (some inicio) l)
    ∃ s, stateAfter (paso lib formato nulo) (some inicio) l = some s ∧
      h.escritasY ≤ h.escritasX ∧ h.escritasX ≤ h.muestras.length ∧
      h.muestras.length ≤ h.escritasY + 1 ∧
      ∀ n, s.ssi = true →
        paso lib formato nulo (some s) (.ssi 0 n) =
          (some s, .pagina (formato (h.valorX lib angX angXPrev h.escritasX) ++ ['\t'])
            (snprintf n (formato (h.valorX lib angX angXPrev h.escritasX)))) ∧
        paso lib formato nulo (some s) (.ssi 1 n) =
          (some s, .pagina (formato (h.valorY lib angXPrev h.escritasY) ++ ['\n'])
            (snprintf n (formato (h.valorY lib angXPrev h.escritasY)))) := by
  intro inicio h
  obtain ⟨s, hs, hc, hcalc, -⟩ := inv_run lib formato nulo led angX angXPrev angYPrev dt
    tiempoPrevio muestra l
  obtain ⟨hlin, hyx, hxn, hn⟩ := hcalc.cuentas
  refine ⟨s, hs, hyx, hxn, Nat.le_trans hn (Nat.add_le_add_right hlin 1), fun n hssi => ?_⟩
  have hready := hc.ssi hssi
  have hx := hc.referenciaAngX (by omega)
  have hy := hc.referenciaAngY (by omega)
  have hmx := hcalc.memX
  have hmy := hcalc.memY
  constructor
  · simp [paso, Estado.evento, Estado.ssiHandler, Estado.leer, hssi, hx, hmx, h, inicio]
  · simp [paso, Estado.evento, Estado.ssiHandler, Estado.leer, hssi, hy, hmy, h, inicio]

/-! ## The requests -/

def esPrincipal : Evento → Bool
  | .principal _ _ => true
  | _ => false

/-- The thread of two runs that differ in their requests. -/
def Mismo (s t : Option (Estado F)) : Prop :=
  ∃ a, s = some a ∧ t = some (conLed led a) ∧ Conectado a

variable {led} in
theorem Mismo.principal {s t : Option (Estado F)} (h : Mismo led s t) {e : Evento}
    (he : esPrincipal e = true) :
    ((paso lib formato nulo s e).2 = (paso lib formato nulo t e).2 ∧
      delHilo (paso lib formato nulo s e).2 = true) ∧
    Mismo led (paso lib formato nulo s e).1 (paso lib formato nulo t e).1 := by
  obtain ⟨a, rfl, rfl, hc⟩ := h
  cases e with
  | principal m t =>
    obtain ⟨a', r, hstep, hc'⟩ := hc.principal lib m t
    have hled : (conLed led a).principal lib m t = some (conLed led a', r) := by
      rw [principal_conLed, hstep]; rfl
    rw [paso_of_evento (e := .principal m t) hstep, paso_of_evento (e := .principal m t) hled]
    exact ⟨⟨rfl, principal_delHilo hstep⟩, a', rfl, rfl, hc'⟩
  | ssi iIndex n => cases he
  | cgi r => cases he

variable {led} in
theorem Mismo.peticion {s t : Option (Estado F)} (h : Mismo led s t) {e : Evento}
    (he : esPrincipal e = false) :
    delHilo (paso lib formato nulo s e).2 = false ∧ Mismo led (paso lib formato nulo s e).1 t := by
  obtain ⟨a, rfl, rfl, hc⟩ := h
  cases e with
  | principal m t => cases he
  | ssi iIndex n =>
    obtain ⟨r, hr, hvis, -⟩ := evento_ssi lib formato nulo hc iIndex n
    rw [paso_of_evento hr]
    exact ⟨hvis, a, rfl, rfl, hc⟩
  | cgi q =>
    rcases evento_cgi lib formato nulo a q with hr | hr
    · rw [paso_of_evento hr]
      exact ⟨rfl, a, rfl, rfl, hc⟩
    · rw [paso_of_evento hr]
      exact ⟨rfl, _, rfl, rfl, hc.conLed _⟩

/-- **Requests do not disturb the measurement.** However many of them come in and
whatever they look like, the thread puts out what it would without them and ends
in the same state but for the LED. The LED is what the last command among the
requests that were served says, as long as these are well formed, and its page
says so. -/
theorem requests_do_not_disturb (l : List Evento) :
    let inicio := Estado.inicial led angX angXPrev angYPrev dt tiempoPrevio muestra
    let h := historia (outputs (paso lib formato nulo) (some inicio) l)
    (outputs (paso lib formato nulo) (some inicio) l).filter delHilo =
        outputs (paso lib formato nulo) (some inicio) (l.filter esPrincipal) ∧
      ∃ s, stateAfter (paso lib formato nulo) (some inicio) l = some s ∧
        stateAfter (paso lib formato nulo) (some inicio) (l.filter esPrincipal) =
          some (conLed led s) ∧
        ((∀ r ∈ h.peticiones, BienFormada r.params) →
          let pedido := (h.peticiones.filterMap fun r => orden r.params).getLast?.getD led
          s.led = pedido ∧ ∀ n, s.ssi = true → paso lib formato nulo (some s) (.ssi 2 n) =
            (some s, .pagina [] (snprintf n (if pedido then ['O', 'N'] else ['O', 'F', 'F'])))) := by
  intro inicio h
  obtain ⟨s, hs, -, -, hled⟩ := inv_run lib formato nulo led angX angXPrev angYPrev dt
    tiempoPrevio muestra l
  have hsame : Mismo led (some inicio) (some inicio) :=
    ⟨inicio, rfl, rfl, conectado_inicial led angX angXPrev angYPrev dt tiempoPrevio muestra⟩
  have hkeep (s t : Option (Estado F)) (e : Evento) (hst : Mismo led s t)
      (he : esPrincipal e = true) := hst.principal lib formato nulo he
  have hdrop (s t : Option (Estado F)) (e : Evento) (hst : Mismo led s t)
      (he : esPrincipal e = false) := hst.peticion lib formato nulo he
  obtain ⟨houts, a, ha, hend, -⟩ := stateAfter_erase hkeep hdrop hsame l
  refine ⟨houts, s, hs, ?_, fun hform => ?_⟩
  · rw [hs] at ha
    cases ha
    exact hend
  · intro pedido
    have hpedido : s.led = pedido := hled hform
    refine ⟨hpedido, fun n hssi => ?_⟩
    rw [← hpedido]
    simp [paso, Estado.evento, Estado.ssiHandler, hssi]

/-! ## The serial port -/

omit [Zero F] [Add F] [Mul F] [Div F] [NatCast F] [IntCast F] [OfScientific F] [DecidableEq F] in
/-- What the thread has printed is its lines. -/
theorem serie_delHilo (l : List (Respuesta F)) :
    (l.filter delHilo).flatMap (Respuesta.serie formato) =
      (historia l).lineas.flatMap fun v => formato v.1 ++ ',' :: formato v.2 ++ ['\n'] := by
  induction l using List.reverseRecOn with
  | nil => rfl
  | append_singleton l r ih =>
    rw [List.filter_append, List.flatMap_append, ih, historia_concat]
    cases r <;> simp [List.filter, delHilo, Historia.anotar, Respuesta.serie]

variable {lib led angX angXPrev} in
/-- A request prints nothing, or the angle of its page. -/
theorem serie_peticion {h : Historia F} {s : Estado F} (hinv : Inv lib angX angXPrev led h s)
    {e : Evento} (he : esPrincipal e = false) :
    (paso lib formato nulo (some s) e).2.serie formato ∈
      [[], formato (h.valorX lib angX angXPrev h.escritasX) ++ ['\t'],
        formato (h.valorY lib angXPrev h.escritasY) ++ ['\n']] := by
  obtain ⟨hc, ⟨hmx, hmy, -, -⟩, -⟩ := hinv
  cases e with
  | principal m t => cases he
  | ssi iIndex n =>
    obtain ⟨r, hr, -, -, hserie⟩ := evento_ssi lib formato nulo hc iIndex n
    rw [paso_of_evento hr, ← hmx, ← hmy]
    exact hserie
  | cgi q =>
    rcases evento_cgi lib formato nulo s q with hr | hr <;> rw [paso_of_evento hr]
    · exact List.mem_cons_self
    · exact List.mem_cons_self

/-! ## The flight program -/

section Flight

variable [One F] [Neg F] [Sub F]

/-- What the filter of the flight program carries from one iteration to the next. -/
def estimacion (s : Reloj F) : Estimacion F :=
  ⟨s.bucle.angXPrev, s.bucle.angYPrev, s.tiempoPrevio⟩

def lectura (e : EntradaReloj F) : Muestra × UInt32 := (e.muestra, e.tiempoActual)

theorem estimacion_paso (s : Reloj F) (e : EntradaReloj F) :
    estimacion (s.paso lib e).1 = (estimacion s).paso lib (lectura e) ∧
      ((s.paso lib e).2.angX, (s.paso lib e).2.angY) =
        ((estimacion (s.paso lib e).1).angX, (estimacion (s.paso lib e).1).angY) :=
  ⟨rfl, rfl⟩

/-- The angles of the flight program are the estimates after one, two, ... samples. -/
theorem angulos_eq (s : Reloj F) (ins : List (EntradaReloj F)) :
    ((outputs (Reloj.paso lib) s ins).map fun o => (o.angX, o.angY)) =
      (List.range ins.length).map fun k =>
        let e := estimar lib (estimacion s) ((ins.map lectura).take (k + 1))
        (e.angX, e.angY) := by
  induction ins generalizing s with
  | nil => rfl
  | cons e ins ih =>
    obtain ⟨hnext, hout⟩ := estimacion_paso lib s e
    rw [outputs, List.map_cons, List.length_cons, List.range_succ_eq_map, List.map_cons,
      List.map_map, ih, hout, hnext]
    rfl

end Flight

end Runs

/-! ## One run -/

def enReposo : Muestra := { ax := 0, ay := 0, az := 16384, gx := 262, gy := -131 }

/-- The set-up and one iteration, with a request for the first angle after every step. -/
def interrumpida : List Evento :=
  (List.range 14).flatMap fun i => [.principal enReposo (UInt32.ofNat (1000 * i)), .ssi 0 192]

/-- Six decimals, as `%f` prints them. -/
def seisDecimales (x : ℚ) : List Char :=
  let n := (x.num.natAbs * 1000000 + x.den / 2) / x.den
  (if x < 0 then ['-'] else []) ++ Nat.toDigits 10 (n / 1000000) ++
    '.' :: (Nat.toDigits 10 (1000000 + n % 1000000)).tail

def deInterrumpida (l : List Evento) : List (Respuesta ℚ) :=
  outputs (paso libmNivelado seisDecimales fun _ => 1) (some (.inicial false 0 0 0 0 0 enReposo)) l

/-- Between the two writes the page of the second angle is a sample behind. -/
example : (historia (deInterrumpida (interrumpida.take 20))).escritasX = 1 ∧
    (historia (deInterrumpida (interrumpida.take 20))).escritasY = 0 := ⟨rfl, rfl⟩

/-- Its line, found among what the pages print by dropping these. -/
example : ((deInterrumpida interrumpida).filter delHilo).flatMap
    (Respuesta.serie seisDecimales) = ['0', '.', '0', '0', '1', '9', '6', '0', ',',
      '-', '0', '.', '0', '0', '0', '9', '8', '0', '\n'] := by decide +kernel

end PicoDrone.ServerSoundness
