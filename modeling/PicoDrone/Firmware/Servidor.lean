import Mathlib.Logic.Function.Basic
import PicoDrone.Firmware.Cgi
import PicoDrone.Firmware.Mpu

/-! # The web server of the sensor (`WifiGiroscopio/main.c`, `mpu.c`, `ssi.h`, `cgi.h`)

`main` sets up the sensor and the handlers of the server and then stays in the
loop of `mpu_run`. The server is lwIP, built to run in the background: it
interrupts that thread between any two instructions, and a handler it calls runs
to its end. A step of the machine is therefore a call of a handler, or one access
of the thread to what the handlers can see, with what the thread does on its own
before the next. Using a pointer that is NULL is a fault (`none`). Thread and
handlers print the angles on the same serial port, a `printf` in one piece. -/
namespace PicoDrone.Firmware.Servidor
open Library.CStrings Library.Trace Cgi Mpu

/-- The locals of `main` that the pointers refer to. -/
inductive Celda where
  | angX
  | angY
  deriving DecidableEq

/-- What the thread does next. -/
inductive Pc where
  /-- `ang_x = ang_x_referencia` in `mpu_init`. -/
  | mpuInitX
  | mpuInitY
  /-- `referencia_ang_x = ang_x_ref` in `ssi_init`. -/
  | ssiInitX
  | ssiInitY
  | setSsiHandler
  | setCgiHandlers
  /-- `*ang_x , *ang_y = 0.0` in `mpu_run`. -/
  | anular
  /-- `tiempo_previo = time_us_32()`. -/
  | reloj
  /-- The loop of `mpu_run`, up to the time step. -/
  | muestrear
  /-- `*ang_x = ...`, the filter. -/
  | escribirX
  | escribirY
  /-- `ang_x_prev=*ang_x`. -/
  | guardarX
  | guardarY
  /-- `printf("%f,%f\n",*ang_x,*ang_y)`. -/
  | imprimir
  deriving DecidableEq

structure Estado (F : Type*) where
  pc : Pc
  memoria : Celda → F
  /-- The pointers of `mpu.c`. -/
  angX : Option Celda
  angY : Option Celda
  /-- The pointers of `ssi.h`. -/
  referenciaAngX : Option Celda
  referenciaAngY : Option Celda
  /-- The server knows `ssi_handler`. -/
  ssi : Bool
  /-- The server knows `cgi_handlers`. -/
  cgi : Bool
  led : Bool
  angXPrev : F
  angYPrev : F
  tiempoPrevio : UInt32
  muestra : Muestra
  dt : F

/-- A step of the thread, with what the sensor and the clock deliver if it asks
them, or a call of a handler. -/
inductive Evento where
  | principal (muestra : Muestra) (tiempoActual : UInt32)
  | ssi (iIndex : ℤ) (iInsertLen : ℕ)
  | cgi (r : Peticion)

/-- What can be seen of a step. -/
inductive Respuesta (F : Type*) where
  | nada
  | reloj (t : UInt32)
  | muestra (m : Muestra) (t : UInt32)
  | angX (v : F)
  | angY (v : F)
  | linea (angX angY : F)
  /-- What the handler printed on the serial port, and what it wrote to `pcInsert`, if
  it did, with what it returned. -/
  | pagina (serie : List Char) (pcInsert : Option (List Char) × UInt16)
  | orden (r : Peticion) (traza : Traced Suceso String)
  /-- The server has no handler for the request yet. -/
  | sinManejador

variable {F : Type*}

def Estado.leer (s : Estado F) (p : Option Celda) : Option F := p.map s.memoria

def Estado.escribir (s : Estado F) (p : Option Celda) (v : F) : Option (Estado F) :=
  p.map fun c => { s with memoria := Function.update s.memoria c v }

/-! ## The handlers -/

/-- `snprintf` cuts the text to leave room for the terminator, writes nothing to
a buffer of size zero, and returns the length of the whole text. -/
def snprintf (n : ℕ) (texto : List Char) : Option (List Char) × UInt16 :=
  (if n = 0 then none else some (texto.take (n - 1)), UInt16.ofNat texto.length)

/-- `ssi_handler`, with `formato` the text of a float under `%f`. The tags of the
two angles print the angle first, with a tab or a line feed after it. -/
def Estado.ssiHandler (formato : F → List Char) (s : Estado F) (iIndex : ℤ) (iInsertLen : ℕ) :
    Option (Respuesta F) :=
  match iIndex with
  | 0 => do
    let angXStatic ← s.leer s.referenciaAngX
    let serie := formato angXStatic ++ ['\t']
    return .pagina serie (snprintf iInsertLen (formato angXStatic))
  | 1 => do
    let angYStatic ← s.leer s.referenciaAngY
    let serie := formato angYStatic ++ ['\n']
    return .pagina serie (snprintf iInsertLen (formato angYStatic))
  | 2 => some (.pagina [] (snprintf iInsertLen (if s.led then ['O', 'N'] else ['O', 'F', 'F'])))
  | _ => some (.pagina [] (none, 0))

/-- What a step prints on the serial port, the reports of the set-up apart. -/
def Respuesta.serie (formato : F → List Char) : Respuesta F → List Char
  | .linea x y => formato x ++ ',' :: formato y ++ ['\n']
  | .pagina serie _ => serie
  | _ => []

/-! ## The thread -/

variable [Zero F] [Add F] [Mul F] [Div F] [NatCast F] [IntCast F] [OfScientific F]
  [DecidableEq F]

def Estado.principal (lib : Libm F) (s : Estado F) (m : Muestra) (tiempoActual : UInt32) :
    Option (Estado F × Respuesta F) :=
  match s.pc with
  | .mpuInitX => some ({ s with angX := some .angX, pc := .mpuInitY }, .nada)
  | .mpuInitY => some ({ s with angY := some .angY, pc := .ssiInitX }, .nada)
  | .ssiInitX => some ({ s with referenciaAngX := some .angX, pc := .ssiInitY }, .nada)
  | .ssiInitY => some ({ s with referenciaAngY := some .angY, pc := .setSsiHandler }, .nada)
  | .setSsiHandler => some ({ s with ssi := true, pc := .setCgiHandlers }, .nada)
  | .setCgiHandlers => some ({ s with cgi := true, pc := .anular }, .nada)
  | .anular => do
    -- the comma only reads the first angle
    let _ ← s.leer s.angX
    let s ← s.escribir s.angY 0
    return ({ s with angYPrev := 0, pc := .reloj }, .nada)
  | .reloj => some ({ s with tiempoPrevio := tiempoActual, pc := .muestrear }, .reloj tiempoActual)
  | .muestrear =>
    some ({ s with
      muestra := m
      dt := pasoTiempo (diferencia tiempoActual s.tiempoPrevio)
      tiempoPrevio := tiempoActual
      pc := .escribirX }, .muestra m tiempoActual)
  | .escribirX => do
    let v := filtro s.angXPrev s.muestra.gx s.dt (accelAngX lib s.muestra)
    let s ← s.escribir s.angX v
    return ({ s with pc := .escribirY }, .angX v)
  | .escribirY => do
    let v := filtro s.angYPrev s.muestra.gy s.dt (accelAngY lib s.muestra)
    let s ← s.escribir s.angY v
    return ({ s with pc := .guardarX }, .angY v)
  | .guardarX => do
    let v ← s.leer s.angX
    return ({ s with angXPrev := v, pc := .guardarY }, .nada)
  | .guardarY => do
    let v ← s.leer s.angY
    return ({ s with angYPrev := v, pc := .imprimir }, .nada)
  | .imprimir => do
    let x ← s.leer s.angX
    let y ← s.leer s.angY
    return ({ s with pc := .muestrear }, .linea x y)

/-! ## The machine -/

def Estado.evento (lib : Libm F) (formato : F → List Char) (nulo : CString → ℤ) (s : Estado F) :
    Evento → Option (Estado F × Respuesta F)
  | .principal m t => s.principal lib m t
  | .ssi iIndex iInsertLen =>
    if s.ssi then do
      let r ← s.ssiHandler formato iIndex iInsertLen
      return (s, r)
    else some (s, .sinManejador)
  | .cgi r =>
    if s.cgi then
      let (led, traza) := atender nulo s.led r
      some ({ s with led }, .orden r traza)
    else some (s, .sinManejador)

/-- A fault ends the run. -/
def paso (lib : Libm F) (formato : F → List Char) (nulo : CString → ℤ) (s : Option (Estado F))
    (e : Evento) : Option (Estado F) × Respuesta F :=
  match s.bind fun s => s.evento lib formato nulo e with
  | some (s, r) => (some s, r)
  | none => (none, .nada)

/-- `main` once the server runs. Its `ang_y` is initialised; its `ang_x` and the
`ang_x_prev` of `mpu_run` hold whatever was in memory. -/
def Estado.inicial (led : Bool) (angX angXPrev angYPrev dt : F) (tiempoPrevio : UInt32)
    (muestra : Muestra) : Estado F :=
  { pc := .mpuInitX
    memoria := fun c => match c with
      | .angX => angX
      | .angY => 0
    angX := none
    angY := none
    referenciaAngX := none
    referenciaAngY := none
    ssi := false
    cgi := false
    led, angXPrev, angYPrev, tiempoPrevio, muestra, dt }

end PicoDrone.Firmware.Servidor
