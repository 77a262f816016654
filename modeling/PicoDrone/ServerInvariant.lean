import PicoDrone.CgiSoundness
import PicoDrone.Firmware.Servidor

/-! # The invariant of the server and the loop

What holds between any two steps of the thread and the handlers, in terms of what
the run has done so far: how many samples it has read, how often it has written
each angle, which lines it has printed and which requests it has served. -/
namespace PicoDrone.ServerInvariant
open Library.CStrings Library.Run Firmware.Cgi Firmware.Mpu Firmware.Servidor
open CgiSoundness

variable {F : Type*}

/-! ## The history of a run -/

/-- What a run has done so far. -/
structure Historia (F : Type*) where
  tiempo0 : UInt32
  muestras : List (Muestra × UInt32)
  escritasX : ℕ
  escritasY : ℕ
  lineas : List (F × F)
  peticiones : List Peticion

def Historia.vacia : Historia F := ⟨0, [], 0, 0, [], []⟩

def Historia.anotar (h : Historia F) : Respuesta F → Historia F
  | .reloj t => { h with tiempo0 := t }
  | .muestra m t => { h with muestras := h.muestras ++ [(m, t)] }
  | .angX _ => { h with escritasX := h.escritasX + 1 }
  | .angY _ => { h with escritasY := h.escritasY + 1 }
  | .linea x y => { h with lineas := h.lineas ++ [(x, y)] }
  | .orden r _ => { h with peticiones := h.peticiones ++ [r] }
  | _ => h

def historia (l : List (Respuesta F)) : Historia F := l.foldl Historia.anotar .vacia

theorem historia_concat (l : List (Respuesta F)) (r : Respuesta F) :
    historia (l ++ [r]) = (historia l).anotar r :=
  List.foldl_append

/-- What only the thread puts out. -/
def delHilo : Respuesta F → Bool
  | .pagina _ _ => false
  | .orden _ _ => false
  | .sinManejador => false
  | _ => true

theorem anotar_peticiones {h : Historia F} {r : Respuesta F} (hr : delHilo r = true) :
    (h.anotar r).peticiones = h.peticiones := by
  cases r with
  | orden q traza => cases hr
  | _ => rfl

/-! ## The pointers -/

/-- How far the thread has come with the set-up. -/
def rango : Pc → ℕ
  | .mpuInitX => 0
  | .mpuInitY => 1
  | .ssiInitX => 2
  | .ssiInitY => 3
  | .setSsiHandler => 4
  | .setCgiHandlers => 5
  | _ => 6

/-- A pointer is set once the thread is past it, and the handlers are known to the
server only after the pointers are. -/
structure Conectado (s : Estado F) : Prop where
  angX : 1 ≤ rango s.pc → s.angX = some .angX
  angY : 2 ≤ rango s.pc → s.angY = some .angY
  referenciaAngX : 3 ≤ rango s.pc → s.referenciaAngX = some .angX
  referenciaAngY : 4 ≤ rango s.pc → s.referenciaAngY = some .angY
  ssi : s.ssi = true → 5 ≤ rango s.pc
  cgi : s.cgi = true → 6 ≤ rango s.pc

def conLed (b : Bool) (s : Estado F) : Estado F := { s with led := b }

theorem Conectado.conLed {s : Estado F} (hc : Conectado s) (b : Bool) : Conectado (conLed b s) :=
  ⟨hc.1, hc.2, hc.3, hc.4, hc.5, hc.6⟩

theorem conectado_inicial [Zero F] (led : Bool) (angX angXPrev angYPrev dt : F)
    (tiempoPrevio : UInt32) (muestra : Muestra) :
    Conectado (Estado.inicial led angX angXPrev angYPrev dt tiempoPrevio muestra) := by
  constructor <;> simp [Estado.inicial, rango]

/-- A page is served, and prints nothing but the angle it shows. -/
theorem Conectado.ssiHandler {s : Estado F} (hc : Conectado s) (hssi : s.ssi = true)
    (formato : F → List Char) (iIndex : ℤ) (n : ℕ) :
    ∃ serie pcInsert, s.ssiHandler formato iIndex n = some (.pagina serie pcInsert) ∧
      serie ∈ [[], formato (s.memoria .angX) ++ ['\t'], formato (s.memoria .angY) ++ ['\n']] := by
  have hready := hc.ssi hssi
  have hx := hc.referenciaAngX (by omega)
  have hy := hc.referenciaAngY (by omega)
  unfold Estado.ssiHandler
  split
  · exact ⟨_, _, by rw [hx]; rfl, by simp⟩
  · exact ⟨_, _, by rw [hy]; rfl, by simp⟩
  · exact ⟨_, _, rfl, List.mem_cons_self⟩
  · exact ⟨_, _, rfl, List.mem_cons_self⟩

variable [Zero F] [Add F] [Mul F] [Div F] [NatCast F] [IntCast F]
  [OfScientific F] [DecidableEq F]

theorem Conectado.principal {s : Estado F} (hc : Conectado s) (lib : Libm F) (m : Muestra)
    (t : UInt32) : ∃ s' r, s.principal lib m t = some (s', r) ∧ Conectado s' := by
  obtain ⟨hx, hy, hrx, hry, hssi, hcgi⟩ := hc
  cases hpc : s.pc <;> simp [hpc, rango] at hx hy hrx hry hssi hcgi <;>
    simp [Estado.principal, Estado.leer, Estado.escribir, *] <;>
    constructor <;> simp [rango, *]

/-! ## The estimates -/

/-- What the filter carries from one sample to the next. -/
structure Estimacion (F : Type*) where
  angX : F
  angY : F
  tiempoPrevio : UInt32

def Estimacion.paso (lib : Libm F) (e : Estimacion F) (i : Muestra × UInt32) : Estimacion F :=
  let dt := pasoTiempo (diferencia i.2 e.tiempoPrevio)
  { angX := filtro e.angX i.1.gx dt (accelAngX lib i.1)
    angY := filtro e.angY i.1.gy dt (accelAngY lib i.1)
    tiempoPrevio := i.2 }

def estimar (lib : Libm F) (e : Estimacion F) (l : List (Muestra × UInt32)) : Estimacion F :=
  l.foldl (Estimacion.paso lib) e

theorem estimar_concat (lib : Libm F) (e : Estimacion F) (l : List (Muestra × UInt32))
    (i : Muestra × UInt32) : estimar lib e (l ++ [i]) = (estimar lib e l).paso lib i :=
  List.foldl_append

/-- The estimate after the first `k` samples. -/
def Historia.tras (lib : Libm F) (angXPrev : F) (h : Historia F) (k : ℕ) : Estimacion F :=
  estimar lib ⟨angXPrev, 0, h.tiempo0⟩ (h.muestras.take k)

/-- What the first angle holds after `k` writes. -/
def Historia.valorX (lib : Libm F) (angX angXPrev : F) (h : Historia F) (k : ℕ) : F :=
  if k = 0 then angX else (h.tras lib angXPrev k).angX

/-- What the second angle holds after `k` writes. -/
def Historia.valorY (lib : Libm F) (angXPrev : F) (h : Historia F) (k : ℕ) : F :=
  (h.tras lib angXPrev k).angY

/-! ## The angles -/

section Angles

variable (lib : Libm F) (angX angXPrev : F)

/-- The thread is in the iteration of the last sample, after those of `l`. -/
def EnCurso (h : Historia F) (s : Estado F) (l : List (Muestra × UInt32)) : Prop :=
  h.muestras = l ++ [(s.muestra, s.tiempoPrevio)] ∧ h.lineas.length = l.length ∧
    s.dt = pasoTiempo (diferencia s.tiempoPrevio (h.tras lib angXPrev l.length).tiempoPrevio)

/-- What the run has done, and what the locals hold, by what the thread does next. -/
def Fase (h : Historia F) (s : Estado F) : Prop :=
  match s.pc with
  | .muestrear =>
    h.escritasX = h.muestras.length ∧ h.escritasY = h.muestras.length ∧
      h.lineas.length = h.muestras.length ∧
      h.tras lib angXPrev h.muestras.length = ⟨s.angXPrev, s.angYPrev, s.tiempoPrevio⟩
  | .escribirX => ∃ l, EnCurso lib angXPrev h s l ∧
      h.escritasX = l.length ∧ h.escritasY = l.length ∧
      (h.tras lib angXPrev l.length).angX = s.angXPrev ∧
      (h.tras lib angXPrev l.length).angY = s.angYPrev
  | .escribirY => ∃ l, EnCurso lib angXPrev h s l ∧
      h.escritasX = l.length + 1 ∧ h.escritasY = l.length ∧
      (h.tras lib angXPrev l.length).angY = s.angYPrev
  | .guardarX => ∃ l, EnCurso lib angXPrev h s l ∧
      h.escritasX = l.length + 1 ∧ h.escritasY = l.length + 1
  | .guardarY => ∃ l, EnCurso lib angXPrev h s l ∧
      h.escritasX = l.length + 1 ∧ h.escritasY = l.length + 1 ∧
      (h.tras lib angXPrev (l.length + 1)).angX = s.angXPrev
  | .imprimir => ∃ l, EnCurso lib angXPrev h s l ∧
      h.escritasX = l.length + 1 ∧ h.escritasY = l.length + 1 ∧
      h.tras lib angXPrev (l.length + 1) = ⟨s.angXPrev, s.angYPrev, s.tiempoPrevio⟩
  | .reloj =>
    h.muestras = [] ∧ h.escritasX = 0 ∧ h.escritasY = 0 ∧ h.lineas = [] ∧
      s.angXPrev = angXPrev ∧ s.angYPrev = 0
  | _ =>
    h.muestras = [] ∧ h.escritasX = 0 ∧ h.escritasY = 0 ∧ h.lineas = [] ∧ s.angXPrev = angXPrev

structure Calculo (h : Historia F) (s : Estado F) : Prop where
  memX : s.memoria .angX = h.valorX lib angX angXPrev h.escritasX
  memY : s.memoria .angY = h.valorY lib angXPrev h.escritasY
  lineas : h.lineas = (List.range h.lineas.length).map fun k =>
    ((h.tras lib angXPrev (k + 1)).angX, (h.tras lib angXPrev (k + 1)).angY)
  fase : Fase lib angXPrev h s

/-- What holds between any two steps of a run. -/
structure Inv (led : Bool) (h : Historia F) (s : Estado F) : Prop where
  conectado : Conectado s
  calculo : Calculo lib angX angXPrev h s
  led : (∀ r ∈ h.peticiones, BienFormada r.params) →
    s.led = (h.peticiones.filterMap fun r => orden r.params).getLast?.getD led

variable {lib angX angXPrev} {h : Historia F} {s s' : Estado F} {l : List (Muestra × UInt32)}

theorem tras_muestra (m : Muestra) (t : UInt32) {k : ℕ} (hk : k ≤ h.muestras.length) :
    (h.anotar (.muestra m t)).tras lib angXPrev k = h.tras lib angXPrev k := by
  simp only [Historia.tras, Historia.anotar, List.take_append_of_le_length hk]

theorem EnCurso.tras_succ (he : EnCurso lib angXPrev h s l) :
    h.tras lib angXPrev (l.length + 1) =
      { angX := filtro (h.tras lib angXPrev l.length).angX s.muestra.gx s.dt
          (accelAngX lib s.muestra)
        angY := filtro (h.tras lib angXPrev l.length).angY s.muestra.gy s.dt
          (accelAngY lib s.muestra)
        tiempoPrevio := s.tiempoPrevio } := by
  have hprev : h.tras lib angXPrev l.length = estimar lib ⟨angXPrev, 0, h.tiempo0⟩ l := by
    rw [Historia.tras, he.1, List.take_left]
  have hall : h.tras lib angXPrev (l.length + 1) =
      (h.tras lib angXPrev l.length).paso lib (s.muestra, s.tiempoPrevio) := by
    rw [hprev, ← estimar_concat, Historia.tras, he.1, List.take_of_length_le (by simp)]
  rw [hall, Estimacion.paso, he.2.2]

theorem valorX_succ (k : ℕ) :
    h.valorX lib angX angXPrev (k + 1) = (h.tras lib angXPrev (k + 1)).angX := by
  rw [Historia.valorX, if_neg (Nat.succ_ne_zero k)]

theorem valorX_muestra (m : Muestra) (t : UInt32) {k : ℕ} (hk : k ≤ h.muestras.length) :
    (h.anotar (.muestra m t)).valorX lib angX angXPrev k = h.valorX lib angX angXPrev k := by
  rw [Historia.valorX, Historia.valorX, tras_muestra m t hk]

theorem eq_map_range_concat {α : Type*} {f : ℕ → α} {l : List α}
    (hl : l = (List.range l.length).map f) :
    l ++ [f l.length] = (List.range (l ++ [f l.length]).length).map f := by
  simp [List.range_succ, ← hl]

/-- The clock is read for the first time. -/
theorem Calculo.reloj (h' : Calculo lib angX angXPrev h s) (hpc : s.pc = .reloj) (t : UInt32) :
    Calculo lib angX angXPrev (h.anotar (.reloj t))
      { s with tiempoPrevio := t, pc := .muestrear } := by
  obtain ⟨hmx, hmy, hlin, hfase⟩ := h'
  simp only [Fase, hpc] at hfase
  obtain ⟨hm, hkx, hky, hnil, hpx, hpy⟩ := hfase
  rw [hkx] at hmx
  rw [hky] at hmy
  constructor
  · simpa [Historia.anotar, hkx, Historia.valorX] using hmx
  · simpa [Historia.anotar, hky, Historia.valorY, Historia.tras, estimar] using hmy
  · simp [Historia.anotar, hnil]
  · simp [Fase, Historia.anotar, hm, hkx, hky, hnil, hpx, hpy, Historia.tras, estimar]

/-- A new sample leaves the estimates of the earlier ones alone. -/
theorem Calculo.muestrear (h' : Calculo lib angX angXPrev h s) (hpc : s.pc = .muestrear)
    (m : Muestra) (t : UInt32) : Calculo lib angX angXPrev (h.anotar (.muestra m t))
      { s with muestra := m, dt := pasoTiempo (diferencia t s.tiempoPrevio), tiempoPrevio := t,
               pc := .escribirX } := by
  obtain ⟨hmx, hmy, hlin, hfase⟩ := h'
  simp only [Fase, hpc] at hfase
  obtain ⟨hkx, hky, hlen, hprev⟩ := hfase
  have hall : (h.anotar (.muestra m t)).tras lib angXPrev h.muestras.length =
      h.tras lib angXPrev h.muestras.length := tras_muestra m t (Nat.le_refl _)
  constructor
  · exact hmx.trans (valorX_muestra m t (Nat.le_of_eq hkx)).symm
  · exact hmy.trans (congrArg Estimacion.angY (tras_muestra m t (Nat.le_of_eq hky)).symm)
  · refine hlin.trans (List.map_congr_left fun k hk => ?_)
    have hk' : k + 1 ≤ h.muestras.length := hlen ▸ List.mem_range.mp hk
    rw [tras_muestra m t hk']
  · refine ⟨h.muestras, ⟨rfl, hlen, ?_⟩, hkx, hky, ?_, ?_⟩
    · rw [hall, hprev]
    · rw [hall, hprev]
    · rw [hall, hprev]

/-- The line shows the estimates after the last sample. -/
theorem Calculo.imprimir (h' : Calculo lib angX angXPrev h s) (hpc : s.pc = .imprimir) :
    Calculo lib angX angXPrev (h.anotar (.linea (s.memoria .angX) (s.memoria .angY)))
      { s with pc := .muestrear } := by
  obtain ⟨hmx, hmy, hlin, hfase⟩ := h'
  simp only [Fase, hpc] at hfase
  obtain ⟨l, he, hkx, hky, hprev⟩ := hfase
  have hlen : h.muestras.length = l.length + 1 := by rw [he.1, List.length_append]; rfl
  have hlin' : h.lineas.length + 1 = h.muestras.length := by rw [he.2.1, hlen]
  have hpar : (s.memoria .angX, s.memoria .angY) =
      ((h.tras lib angXPrev (h.lineas.length + 1)).angX,
        (h.tras lib angXPrev (h.lineas.length + 1)).angY) := by
    rw [hmx, hmy, hkx, hky, he.2.1, valorX_succ, Historia.valorY]
  have hlin'' := eq_map_range_concat hlin
  rw [← hpar] at hlin''
  exact ⟨hmx, hmy, hlin'', hkx.trans hlen.symm, hky.trans hlen.symm,
    List.length_append.trans hlin', hlen ▸ hprev⟩

/-- `*ang_y = 0.0`. -/
theorem Calculo.anular (h' : Calculo lib angX angXPrev h s) (hpc : s.pc = .anular) :
    Calculo lib angX angXPrev (h.anotar .nada)
      { s with memoria := Function.update s.memoria .angY 0, angYPrev := 0, pc := .reloj } := by
  obtain ⟨hmx, hmy, hlin, hfase⟩ := h'
  simp only [Fase, hpc] at hfase
  obtain ⟨hm, hkx, hky, hnil, hpx⟩ := hfase
  refine ⟨?_, ?_, hlin, hm, hkx, hky, hnil, hpx, rfl⟩
  · dsimp only
    rw [Function.update_of_ne (by decide)]
    exact hmx
  · simp [Historia.anotar, hky, Historia.valorY, Historia.tras, estimar]

/-- The filter writes the estimate after the last sample to the first angle. -/
theorem Calculo.escribirX (h' : Calculo lib angX angXPrev h s) (hpc : s.pc = .escribirX) {v : F}
    (hv : v = filtro s.angXPrev s.muestra.gx s.dt (accelAngX lib s.muestra)) :
    Calculo lib angX angXPrev (h.anotar (.angX v))
      { s with memoria := Function.update s.memoria .angX v, pc := .escribirY } := by
  obtain ⟨hmx, hmy, hlin, hfase⟩ := h'
  simp only [Fase, hpc] at hfase
  obtain ⟨l, he, hkx, hky, hpx, hpy⟩ := hfase
  have hnew : v = h.valorX lib angX angXPrev (h.escritasX + 1) := by
    rw [hv, hkx, valorX_succ, he.tras_succ, hpx]
  refine ⟨?_, ?_, hlin, l, he, congrArg (· + 1) hkx, hky, hpy⟩
  · dsimp only
    rw [Function.update_self]
    exact hnew
  · dsimp only
    rw [Function.update_of_ne (by decide)]
    exact hmy

theorem Calculo.escribirY (h' : Calculo lib angX angXPrev h s) (hpc : s.pc = .escribirY) {v : F}
    (hv : v = filtro s.angYPrev s.muestra.gy s.dt (accelAngY lib s.muestra)) :
    Calculo lib angX angXPrev (h.anotar (.angY v))
      { s with memoria := Function.update s.memoria .angY v, pc := .guardarX } := by
  obtain ⟨hmx, hmy, hlin, hfase⟩ := h'
  simp only [Fase, hpc] at hfase
  obtain ⟨l, he, hkx, hky, hpy⟩ := hfase
  have hnew : v = h.valorY lib angXPrev (h.escritasY + 1) := by
    rw [hv, hky, Historia.valorY, he.tras_succ, hpy]
  refine ⟨?_, ?_, hlin, l, he, hkx, congrArg (· + 1) hky⟩
  · dsimp only
    rw [Function.update_of_ne (by decide)]
    exact hmx
  · dsimp only
    rw [Function.update_self]
    exact hnew

/-- `ang_x_prev=*ang_x` takes over what was written. -/
theorem Calculo.guardarX (h' : Calculo lib angX angXPrev h s) (hpc : s.pc = .guardarX) :
    Calculo lib angX angXPrev (h.anotar .nada)
      { s with angXPrev := s.memoria .angX, pc := .guardarY } := by
  obtain ⟨hmx, hmy, hlin, hfase⟩ := h'
  simp only [Fase, hpc] at hfase
  obtain ⟨l, he, hkx, hky⟩ := hfase
  refine ⟨hmx, hmy, hlin, l, he, hkx, hky, ?_⟩
  rw [hmx, hkx, valorX_succ]
  rfl

theorem Calculo.guardarY (h' : Calculo lib angX angXPrev h s) (hpc : s.pc = .guardarY) :
    Calculo lib angX angXPrev (h.anotar .nada)
      { s with angYPrev := s.memoria .angY, pc := .imprimir } := by
  obtain ⟨hmx, hmy, hlin, hfase⟩ := h'
  simp only [Fase, hpc] at hfase
  obtain ⟨l, he, hkx, hky, hpx⟩ := hfase
  have hprev : h.tras lib angXPrev (l.length + 1) =
      ⟨s.angXPrev, s.memoria .angY, s.tiempoPrevio⟩ := by
    rw [← hpx, hmy, hky, Historia.valorY, he.tras_succ]
  exact ⟨hmx, hmy, hlin, l, he, hkx, hky, hprev⟩

theorem Calculo.principal {r : Respuesta F} {m : Muestra} {t : UInt32} (hc : Conectado s)
    (h' : Calculo lib angX angXPrev h s) (hstep : s.principal lib m t = some (s', r)) :
    Calculo lib angX angXPrev (h.anotar r) s' := by
  cases hpc : s.pc <;> simp only [Estado.principal, hpc] at hstep
  case mpuInitX | mpuInitY | ssiInitX | ssiInitY | setSsiHandler | setCgiHandlers =>
    obtain ⟨hmx, hmy, hlin, hfase⟩ := h'
    simp only [Fase, hpc] at hfase
    cases hstep
    exact ⟨hmx, hmy, hlin, hfase⟩
  case reloj =>
    cases hstep
    exact h'.reloj hpc t
  case muestrear =>
    cases hstep
    exact h'.muestrear hpc m t
  all_goals
    have hx := hc.angX (by simp [rango, hpc])
    have hy := hc.angY (by simp [rango, hpc])
    simp [Estado.leer, Estado.escribir, hx, hy] at hstep
    obtain ⟨rfl, rfl⟩ := hstep
  case anular => simpa only [hx, hy] using h'.anular hpc
  case escribirX => simpa only [hx, hy] using h'.escribirX hpc rfl
  case escribirY => simpa only [hx, hy] using h'.escribirY hpc rfl
  case guardarX => simpa only [hx, hy] using h'.guardarX hpc
  case guardarY => simpa only [hx, hy] using h'.guardarY hpc
  case imprimir => simpa only [hx, hy] using h'.imprimir hpc

/-! ## One step -/

variable {led : Bool}

/-- The thread does not look at the LED. -/
theorem principal_conLed (s : Estado F) (b : Bool) (m : Muestra) (t : UInt32) :
    (conLed b s).principal lib m t = (s.principal lib m t).map fun p => (conLed b p.1, p.2) := by
  cases hpc : s.pc <;> cases hx : s.angX <;> cases hy : s.angY <;>
    simp [Estado.principal, conLed, Estado.leer, Estado.escribir, hpc, hx, hy]

theorem principal_led {r : Respuesta F} {m : Muestra} {t : UInt32}
    (hstep : s.principal lib m t = some (s', r)) : s'.led = s.led := by
  have hsame : s.principal lib m t = (s.principal lib m t).map fun p => (conLed s.led p.1, p.2) :=
    principal_conLed s s.led m t
  have hstep' : some (s', r) = some (conLed s.led s', r) := by rw [hstep] at hsame; exact hsame
  rw [Option.some.injEq, Prod.mk.injEq] at hstep'
  rw [hstep'.1, conLed]

theorem principal_delHilo {r : Respuesta F} {m : Muestra} {t : UInt32}
    (hstep : s.principal lib m t = some (s', r)) : delHilo r = true := by
  cases hpc : s.pc <;> cases hx : s.angX <;> cases hy : s.angY <;>
    simp [Estado.principal, Estado.leer, Estado.escribir, hpc, hx, hy] at hstep <;>
    obtain ⟨-, rfl⟩ := hstep <;> rfl

theorem paso_of_evento {formato : F → List Char} {nulo : CString → ℤ} {e : Evento}
    {r : Respuesta F} (h : s.evento lib formato nulo e = some (s', r)) :
    paso lib formato nulo (some s) e = (some s', r) := by
  simp [paso, h]

theorem evento_ssi (lib : Libm F) (formato : F → List Char) (nulo : CString → ℤ)
    (hc : Conectado s) (iIndex : ℤ) (n : ℕ) :
    ∃ r, s.evento lib formato nulo (.ssi iIndex n) = some (s, r) ∧ delHilo r = false ∧
      (∀ h : Historia F, h.anotar r = h) ∧ r.serie formato ∈
        [[], formato (s.memoria .angX) ++ ['\t'], formato (s.memoria .angY) ++ ['\n']] := by
  cases hssi : s.ssi with
  | false =>
    exact ⟨.sinManejador, by simp [Estado.evento, hssi], rfl, fun _ => rfl, List.mem_cons_self⟩
  | true =>
    obtain ⟨serie, pcInsert, hr, hserie⟩ := hc.ssiHandler hssi formato iIndex n
    exact ⟨.pagina serie pcInsert, by simp [Estado.evento, hssi, hr], rfl, fun _ => rfl, hserie⟩

theorem evento_cgi (lib : Libm F) (formato : F → List Char) (nulo : CString → ℤ) (s : Estado F)
    (q : Peticion) :
    s.evento lib formato nulo (.cgi q) = some (s, .sinManejador) ∨
      s.evento lib formato nulo (.cgi q) =
        some (conLed (atender nulo s.led q).1 s, .orden q (atender nulo s.led q).2) := by
  cases hcgi : s.cgi with
  | false => exact .inl (by simp [Estado.evento, hcgi])
  | true => exact .inr (by simp [Estado.evento, hcgi, conLed])

theorem Inv.peticion (hinv : Inv lib angX angXPrev led h s) (nulo : CString → ℤ) (q : Peticion) :
    Inv lib angX angXPrev led (h.anotar (.orden q (atender nulo s.led q).2))
      (conLed (atender nulo s.led q).1 s) := by
  obtain ⟨hc, hcalc, hled⟩ := hinv
  refine ⟨hc.conLed _, ⟨hcalc.1, hcalc.2, hcalc.3, hcalc.4⟩, fun hform => ?_⟩
  have hq : BienFormada q.params := hform q (List.mem_append_right _ List.mem_cons_self)
  have hprev := hled fun r hr => hform r (List.mem_append_left _ hr)
  change (atender nulo s.led q).1 =
    ((h.peticiones ++ [q]).filterMap fun r => orden r.params).getLast?.getD led
  rw [atender_led nulo s.led q hq, List.filterMap_append]
  cases ho : orden q.params with
  | none => simpa [ho] using hprev
  | some b => simp [ho]

theorem Inv.evento (hinv : Inv lib angX angXPrev led h s) (formato : F → List Char)
    (nulo : CString → ℤ) (e : Evento) :
    ∃ s' r, s.evento lib formato nulo e = some (s', r) ∧
      Inv lib angX angXPrev led (h.anotar r) s' := by
  cases e with
  | principal m t =>
    obtain ⟨hc, hcalc, hled⟩ := hinv
    obtain ⟨s', r, hstep, hc'⟩ := hc.principal lib m t
    refine ⟨s', r, hstep, hc', hcalc.principal hc hstep, ?_⟩
    rw [anotar_peticiones (principal_delHilo hstep), principal_led hstep]
    exact hled
  | ssi iIndex n =>
    obtain ⟨r, hr, -, hsame, -⟩ := evento_ssi lib formato nulo hinv.conectado iIndex n
    exact ⟨s, r, hr, (hsame h).symm ▸ hinv⟩
  | cgi q =>
    rcases evento_cgi lib formato nulo s q with hr | hr
    · exact ⟨s, .sinManejador, hr, hinv⟩
    · exact ⟨_, _, hr, hinv.peticion nulo q⟩

theorem Calculo.cuentas (hcalc : Calculo lib angX angXPrev h s) :
    h.lineas.length ≤ h.escritasY ∧ h.escritasY ≤ h.escritasX ∧
      h.escritasX ≤ h.muestras.length ∧ h.muestras.length ≤ h.lineas.length + 1 := by
  have hfase := hcalc.fase
  have hlast (l : List (Muestra × UInt32)) (he : EnCurso lib angXPrev h s l) :
      h.muestras.length = l.length + 1 ∧ h.lineas.length = l.length :=
    ⟨by rw [he.1, List.length_append]; rfl, he.2.1⟩
  cases hpc : s.pc <;> simp only [Fase, hpc] at hfase
  case muestrear =>
    omega
  case escribirX | escribirY | guardarX | guardarY | imprimir =>
    obtain ⟨l, he, hrest⟩ := hfase
    have := hlast l he
    omega
  all_goals simp [hfase]

end Angles

/-! ## Every run -/

section Runs

variable (lib : Libm F) (formato : F → List Char) (nulo : CString → ℤ) (led : Bool)
  (angX angXPrev angYPrev dt : F) (tiempoPrevio : UInt32) (muestra : Muestra)

theorem inv_run (l : List Evento) :
    ∃ s, stateAfter (paso lib formato nulo)
        (some (.inicial led angX angXPrev angYPrev dt tiempoPrevio muestra)) l = some s ∧
      Inv lib angX angXPrev led (historia (outputs (paso lib formato nulo)
        (some (.inicial led angX angXPrev angYPrev dt tiempoPrevio muestra)) l)) s := by
  refine stateAfter_history (P := fun out σ => ∃ s, σ = some s ∧
    Inv lib angX angXPrev led (historia out) s) ⟨_, rfl, ?_, ?_, ?_⟩ ?_ l
  · exact conectado_inicial led angX angXPrev angYPrev dt tiempoPrevio muestra
  · exact ⟨rfl, rfl, rfl, rfl, rfl, rfl, rfl, rfl⟩
  · exact fun _ => rfl
  · rintro out - e ⟨s, rfl, hinv⟩
    obtain ⟨s', r, hstep, hinv'⟩ := hinv.evento formato nulo e
    rw [paso_of_evento hstep, historia_concat]
    exact ⟨s', rfl, hinv'⟩

end Runs

end PicoDrone.ServerInvariant
