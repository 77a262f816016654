import Mathlib.Data.Nat.Notation

/-! # The PWM outputs (`MPU_PID_PWM/pwm.cpp`)

`PwmHw` is the peripheral: what each slice was told and the level of each of its
channels. The slice and channel of a pin are the ones the SDK computes, as the
listing of `inicializar` in `build/mpu_pid_pwm.dis` shows (`gpio >> 1 & 7` and
`gpio & 1`). -/
namespace PicoDrone.Firmware.Pwm

/-- One slice; `clkdiv` is the register, in sixteenths, and `level` is indexed by the
channel. -/
structure PwmSlice where
  clkdiv : UInt32
  wrap : UInt16
  enabled : Bool
  level : ℕ → UInt16
  deriving Inhabited

/-- `pines` tells the pins whose function is `GPIO_FUNC_PWM`. -/
structure PwmHw where
  pines : ℕ → Bool
  slices : ℕ → PwmSlice
  deriving Inhabited

def pwmGpioToSliceNum (gpio : ℕ) : ℕ := (gpio >>> 1) &&& 7

def pwmGpioToChannel (gpio : ℕ) : ℕ := gpio &&& 1

def PwmHw.gpioSetFunctionPwm (hw : PwmHw) (gpio : ℕ) : PwmHw :=
  { hw with pines := fun g => if g = gpio then true else hw.pines g }

/-- A register write to one slice. -/
def PwmHw.escribirSlice (hw : PwmHw) (slice : ℕ) (f : PwmSlice → PwmSlice) : PwmHw :=
  { hw with slices := fun s => if s = slice then f (hw.slices s) else hw.slices s }

/-- The whole part of the divider has eight bits: the listings show `125 << 4` stored for
`125.0f`, and `255 << 4` for `256.0f` (`PicoDronAntiguo/build/PicoDrone.dis`, 100003be). -/
def PwmHw.pwmSetClkdiv (hw : PwmHw) (slice : ℕ) (div : ℕ) : PwmHw :=
  hw.escribirSlice slice fun p => { p with clkdiv := UInt32.ofNat (min div 255) <<< 4 }

def PwmHw.pwmSetWrap (hw : PwmHw) (slice : ℕ) (wrap : UInt16) : PwmHw :=
  hw.escribirSlice slice fun p => { p with wrap := wrap }

def PwmHw.pwmSetEnabled (hw : PwmHw) (slice : ℕ) (enabled : Bool) : PwmHw :=
  hw.escribirSlice slice fun p => { p with enabled := enabled }

def PwmHw.pwmSetChanLevel (hw : PwmHw) (slice channel : ℕ) (level : UInt16) : PwmHw :=
  hw.escribirSlice slice fun p =>
    { p with level := fun c => if c = channel then level else p.level c }

/-- The members of `controladorPWM`. -/
structure ControladorPWM where
  gpioPwm : ℕ
  slice : ℕ
  channel : ℕ

/-- `controladorPWM::controladorPWM`. -/
def ControladorPWM.nuevo (gpioPwm : ℕ) : ControladorPWM := ⟨gpioPwm, 0, 0⟩

/-- `controladorPWM::inicializar`. -/
def ControladorPWM.inicializar (c : ControladorPWM) (hw : PwmHw) : ControladorPWM × PwmHw :=
  let slice := pwmGpioToSliceNum c.gpioPwm
  let channel := pwmGpioToChannel c.gpioPwm
  ({ c with slice := slice, channel := channel },
    ((((hw.gpioSetFunctionPwm c.gpioPwm).pwmSetClkdiv slice 125).pwmSetWrap slice 3000
      ).pwmSetEnabled slice true).pwmSetChanLevel slice channel 1000)

/-- `controladorPWM::controlar`. -/
def ControladorPWM.controlar (c : ControladorPWM) (hw : PwmHw) (signal : UInt16) : PwmHw :=
  hw.pwmSetChanLevel c.slice c.channel signal

/-! ## What a level write changes -/

theorem PwmHw.pwmSetChanLevel_level (hw : PwmHw) (slice channel s c : ℕ) (level : UInt16) :
    ((hw.pwmSetChanLevel slice channel level).slices s).level c =
      if s = slice ∧ c = channel then level else (hw.slices s).level c := by
  simp only [pwmSetChanLevel, escribirSlice]
  by_cases hs : s = slice <;> simp [hs]

/-- A level write leaves the set-up of every slice and pin alone. -/
theorem PwmHw.pwmSetChanLevel_frame (hw : PwmHw) (slice channel s : ℕ) (level : UInt16) :
    ((hw.pwmSetChanLevel slice channel level).slices s).wrap = (hw.slices s).wrap ∧
      ((hw.pwmSetChanLevel slice channel level).slices s).enabled = (hw.slices s).enabled ∧
      (hw.pwmSetChanLevel slice channel level).pines = hw.pines := by
  simp only [pwmSetChanLevel, escribirSlice]
  by_cases hs : s = slice <;> simp [hs]

end PicoDrone.Firmware.Pwm
