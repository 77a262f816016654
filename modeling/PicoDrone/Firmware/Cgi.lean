import Mathlib.Data.Nat.Notation
import PicoDrone.Library.CStrings
import PicoDrone.Library.Trace

/-! # The LED handler (`WifiLED/cgi.h`, the same text in `WifiGiroscopio/cgi.h`)

The web server is lwIP, whose source is not part of the repository: it hands a request
for `/led.cgi` to the handler as two arrays of which it has filled one entry for
each parameter. What the handler reads, compares and writes is recorded, since
on this processor neither reading further nor comparing NULL stops it. -/
namespace PicoDrone.Firmware.Cgi
open Library.CStrings Library.Trace

/-- A `char *`; `none` is NULL. -/
abbrev Puntero := Option CString

inductive Suceso where
  | param (i : ℕ)
  | value (i : ℕ)
  | strcmp (s : Puntero)
  | gpioPut (value : Bool)
  deriving DecidableEq

/-! ## The string literals -/

def led : CString := ⟨['l', 'e', 'd'].map Char.toUInt8, by decide⟩

def cero : CString := ⟨['0'].map Char.toUInt8, by decide⟩

def uno : CString := ⟨['1'].map Char.toUInt8, by decide⟩

/-! ## The handler -/

/-- The result of comparing with NULL is `nulo`. C leaves it undefined; on the RP2040 address
0 is the boot ROM, which can be read, so that the comparison returns. -/
def comparar (nulo : CString → ℤ) (s : Puntero) (t : CString) : ℤ :=
  match s with
  | some s => s.strcmp t
  | none => nulo t

def strcmp (nulo : CString → ℤ) (s : Puntero) (t : CString) : Traced Suceso ℤ :=
  .log (.strcmp s) (comparar nulo s t)

def leerParam (pcParam : ℕ → Puntero) (i : ℕ) : Traced Suceso Puntero :=
  .log (.param i) (pcParam i)

def leerValue (pcValue : ℕ → Puntero) (i : ℕ) : Traced Suceso Puntero :=
  .log (.value i) (pcValue i)

/-- `cyw43_arch_gpio_put(CYW43_WL_GPIO_LED_PIN, value)`. -/
def cyw43ArchGpioPut (value : Bool) : Traced Suceso Unit := .log (.gpioPut value) ()

/-- `cgi_led_handler`. Like the source it makes no use of its first two arguments. -/
def cgiLedHandler (nulo : CString → ℤ) (_iIndex _iNumParams : ℕ) (pcParam pcValue : ℕ → Puntero) :
    Traced Suceso String := do
  if (← strcmp nulo (← leerParam pcParam 0) led) = 0 then
    if (← strcmp nulo (← leerValue pcValue 0) cero) = 0 then
      cyw43ArchGpioPut false
    else if (← strcmp nulo (← leerValue pcValue 0) uno) = 0 then
      cyw43ArchGpioPut true
  return "/index.shtml"

/-! ## Requests -/

/-- A parameter of a request; one without `=` has no value. -/
structure Parametro where
  nombre : CString
  valor : Puntero
  deriving DecidableEq

/-- The parameters of a request to `/led.cgi`, and what the two arrays hold
where the server has not filled them. -/
structure Peticion where
  params : List Parametro
  restoParam : ℕ → Puntero
  restoValue : ℕ → Puntero

def Peticion.pcParam (r : Peticion) (i : ℕ) : Puntero :=
  match r.params[i]? with
  | some p => some p.nombre
  | none => r.restoParam i

def Peticion.pcValue (r : Peticion) (i : ℕ) : Puntero :=
  match r.params[i]? with
  | some p => p.valor
  | none => r.restoValue i

/-- The LED after an event. -/
def ledTras (estado : Bool) : Suceso → Bool
  | .gpioPut value => value
  | _ => estado

/-- One request: the LED after it, and what the handler did. The handler of
`/led.cgi` is entry 0 of `cgi_handlers`. -/
def atender (nulo : CString → ℤ) (estado : Bool) (r : Peticion) : Bool × Traced Suceso String :=
  let traza := cgiLedHandler nulo 0 r.params.length r.pcParam r.pcValue
  (traza.fold ledTras estado, traza)

end PicoDrone.Firmware.Cgi
