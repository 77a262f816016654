import PicoDrone.Firmware.Control

/-! # The two programs that only drive motors

`PicoDronAntiguo/PicoDrone.cpp` sweeps one motor up and down, and
`PicoDronPotenciometro/PicoDrone.cpp` drives four motors with one potentiometer, which it
reads like the flight program reads the throttle. -/
namespace PicoDrone.Firmware.PruebaMotores
open Pwm Control

/-- The set-up of one channel, the same lines in both programs. The divider `256.0f` that
they ask for is more than the register holds. -/
def prepararCanal (hw : PwmHw) (gpio : ℕ) : PwmHw :=
  let slice := pwmGpioToSliceNum gpio
  (((hw.gpioSetFunctionPwm gpio).pwmSetClkdiv slice 256).pwmSetWrap slice 32550).pwmSetEnabled
    slice true

def escribirCanal (hw : PwmHw) (gpio : ℕ) (level : UInt16) : PwmHw :=
  hw.pwmSetChanLevel (pwmGpioToSliceNum gpio) (pwmGpioToChannel gpio) level

/-! ## `PicoDronAntiguo/PicoDrone.cpp` -/

namespace Antiguo

def pinOut : ℕ := 0

/-- The locals of the loop, the LED and the peripheral. -/
structure Estado where
  level : ℤ
  ascenso : Bool
  led : Bool
  hw : PwmHw

def Estado.inicial (hw : PwmHw) : Estado :=
  { level := 480, ascenso := true, led := true, hw := prepararCanal hw pinOut }

/-- The two branches of the loop; the last component is the pause of `sleep_ms(3000)`. -/
def avanzar (level : ℤ) (ascenso : Bool) : ℤ × Bool × Bool × ℕ :=
  if ascenso = false then
    let level := level - 1
    if level ≤ 480 then (480, true, false, 3000) else (level, ascenso, false, 0)
  else
    let level := level + 1
    if level ≥ 980 then (980, false, true, 0) else (level, ascenso, true, 0)

/-- One iteration and the milliseconds it sleeps. -/
def Estado.paso (s : Estado) (_ : Unit) : Estado × ℕ :=
  let (level, ascenso, led, pausa) := avanzar s.level s.ascenso
  ({ level, ascenso, led, hw := escribirCanal s.hw pinOut (UInt16.ofInt level) }, pausa + 2)

end Antiguo

/-! ## `PicoDronPotenciometro/PicoDrone.cpp` -/

namespace Potenciometro

/-- `PWM1`, …, `PWM4`. -/
def pines : List ℕ := [0, 5, 9, 13]

def inicial (hw : PwmHw) : PwmHw := pines.foldl prepararCanal hw

variable {F : Type*} [Mul F] [Div F] [NatCast F]

/-- `us_deseados`, first `100 + valor` and then that divided by 100. -/
def usDeseados (rawValue : UInt16) : F := ((100 + (valor rawValue).toNat : ℕ) : F) / (100 : ℕ)

/-- `level = (489*us_deseados)`; `aUint16` is the conversion to `uint16_t`. -/
def level (aUint16 : F → UInt16) (rawValue : UInt16) : UInt16 :=
  aUint16 ((489 : ℕ) * usDeseados rawValue)

/-- One iteration. -/
def paso (aUint16 : F → UInt16) (hw : PwmHw) (rawValue : UInt16) : PwmHw × Unit :=
  (pines.foldl (fun hw gpio => escribirCanal hw gpio (level aUint16 rawValue)) hw, ())

end Potenciometro

end PicoDrone.Firmware.PruebaMotores
