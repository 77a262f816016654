import PicoDrone.Firmware.Pid
import PicoDrone.Firmware.Pwm

/-! # The control step of `mpu6050_run` (`MPU_PID_PWM/mpu.cpp`, lines 186-209 and 290-376)

From a pair of angles and a throttle reading to the four PWM levels: eight PID
controllers, the mixing, the conversion to `uint16_t`, the range checks and the
gate on motor 1. What the numbers do where the source leaves it open (which
values `isinf` catches, what an out of range conversion yields) is an input of
each iteration. -/
namespace PicoDrone.Firmware.Control
open Pid Pwm

/-- The four motors, numbered as in the source. -/
inductive Motor where
  | m1 | m2 | m3 | m4
  deriving DecidableEq

/-- The polarities of `pidMotor1_roll, …, pidMotor4_roll`. -/
def polaridadRoll : Motor → Bool
  | .m1 => true
  | .m2 => true
  | .m3 => false
  | .m4 => false

/-- The polarities of `pidMotor1_pitch, …, pidMotor4_pitch`. -/
def polaridadPitch : Motor → Bool
  | .m1 => true
  | .m2 => false
  | .m3 => true
  | .m4 => false

/-- The pins of `pwm_motor1, …, pwm_motor4`. -/
def gpioMotor : Motor → ℕ
  | .m1 => 19
  | .m2 => 7
  | .m3 => 20
  | .m4 => 0

/-- How the numbers behave in one iteration: the `isinf` test, and the
conversion of motor `m`'s request to `uint16_t`. -/
structure Numerica (F : Type*) where
  isinf : F → Bool
  aUint16 : Motor → F → UInt16

/-- The locals of `mpu6050_run` that the control step keeps from one iteration
to the next, and the peripheral it writes. -/
structure EstadoControl (F : Type*) where
  pidRoll : Motor → ControladorPID F
  pidPitch : Motor → ControladorPID F
  pwmMotor : Motor → ControladorPWM
  hw : PwmHw

/-- What the control step reads in one iteration. -/
structure EntradaControl (F : Type*) where
  angX : F
  angY : F
  rawValue : UInt16
  num : Numerica F

/-- What an iteration that accepts its angles computes: the corrections, the
throttle, the converted sums, the pulses `us_m1, …, us_m4` left by the range
checks and whether the gate lets them out. -/
structure Mandos (F : Type*) where
  ctrl : Motor → F
  usDeseados : F
  pedido : Motor → UInt16
  us : Motor → UInt16
  escrito : Bool

/-! ## Set-up -/

/-- The four `inicializar` calls. -/
def inicializarMotores (hw : PwmHw) : (Motor → ControladorPWM) × PwmHw :=
  let (pwm1, hw) := (ControladorPWM.nuevo (gpioMotor .m1)).inicializar hw
  let (pwm2, hw) := (ControladorPWM.nuevo (gpioMotor .m2)).inicializar hw
  let (pwm3, hw) := (ControladorPWM.nuevo (gpioMotor .m3)).inicializar hw
  let (pwm4, hw) := (ControladorPWM.nuevo (gpioMotor .m4)).inicializar hw
  (fun | .m1 => pwm1 | .m2 => pwm2 | .m3 => pwm3 | .m4 => pwm4, hw)

section Numbers

variable {F : Type*} [Zero F] [One F] [OfScientific F]

/-- The eight controllers with common gains, and the initialised motors. -/
def EstadoControl.nuevo (kp ki kd : F) (hw : PwmHw) : EstadoControl F :=
  { pidRoll := fun m => .nuevo kp ki kd (polaridadRoll m)
    pidPitch := fun m => .nuevo kp ki kd (polaridadPitch m)
    pwmMotor := (inicializarMotores hw).1
    hw := (inicializarMotores hw).2 }

/-- The state in which the loop starts, with the gains the source sets. -/
def EstadoControl.inicial (hw : PwmHw) : EstadoControl F := .nuevo 0.8 0.003 0.0015 hw

end Numbers

/-! ## Throttle, range checks and gate -/

def limitarRaw (rawValue : UInt16) : UInt16 :=
  if rawValue ≤ 500 then 500 else if rawValue ≥ 4000 then 4000 else rawValue

/-- `valor = ((raw_value-500)/35)`, an `int` stored in a `uint16_t`. -/
def valor (rawValue : UInt16) : UInt16 :=
  UInt16.ofInt ((((limitarRaw rawValue).toNat : ℤ) - 500).tdiv 35)

/-- `800 + 10*valor`, the `int` that `us_deseados` holds as a `float`. -/
def microsegundos (rawValue : UInt16) : ℕ := 800 + 10 * (valor rawValue).toNat

/-- `if(us_m < 0 || us_m > 2000) us_m = 0`, on the promoted `uint16_t`. -/
def comprobarRango (us : UInt16) : UInt16 :=
  if (us.toNat : ℤ) < 0 ∨ (us.toNat : ℤ) > 2000 then 0 else us

/-- `us_m1 < 2000 && us_m1 > -2000`. -/
def puerta (usM1 : UInt16) : Bool :=
  (usM1.toNat : ℤ) < 2000 && (usM1.toNat : ℤ) > -2000

/-! ## One iteration -/

section Commands

variable {F : Type*} [Add F] [NatCast F]

/-- What the corrections and the throttle become. -/
def mandar (num : Numerica F) (rawValue : UInt16) (ctrl : Motor → F) : Mandos F :=
  let usDeseados : F := (microsegundos rawValue : F)
  let pedido := fun m => num.aUint16 m (usDeseados + ctrl m)
  let us := fun m => comprobarRango (pedido m)
  { ctrl, usDeseados, pedido, us, escrito := puerta (us .m1) }

@[simp] theorem mandar_ctrl (num : Numerica F) (rawValue : UInt16) (ctrl : Motor → F) :
    (mandar num rawValue ctrl).ctrl = ctrl := rfl

theorem mandar_escrito (num : Numerica F) (rawValue : UInt16) (ctrl : Motor → F) :
    (mandar num rawValue ctrl).escrito = puerta ((mandar num rawValue ctrl).us .m1) := by
  simp only [mandar]

end Commands

section Iteration

variable {F : Type*}

/-- `(ctrlM_roll + ctrlM_pitch)/2`. -/
def media [Add F] [Div F] [NatCast F] (ctrlRoll ctrlPitch : F) : F := (ctrlRoll + ctrlPitch) / 2

variable [Zero F] [One F] [Neg F] [Add F] [Sub F] [Mul F] [Div F]
  [NatCast F] [OfScientific F] [DecidableEq F]

/-- The eight calls of `computar` and the four means. -/
def EstadoControl.corregir (s : EstadoControl F) (angX angY : F) :
    EstadoControl F × (Motor → F) :=
  let roll := fun m => (s.pidRoll m).computar 0 angX
  let pitch := fun m => (s.pidPitch m).computar 0 angY
  ({ s with pidRoll := fun m => (roll m).1, pidPitch := fun m => (pitch m).1 },
    fun m => media (roll m).2 (pitch m).2)

/-- The four `controlar` calls, in the source's order. -/
def EstadoControl.escribir (s : EstadoControl F) (us : Motor → UInt16) : EstadoControl F :=
  let hw := (s.pwmMotor .m1).controlar s.hw (us .m1)
  let hw := (s.pwmMotor .m2).controlar hw (us .m2)
  let hw := (s.pwmMotor .m3).controlar hw (us .m3)
  let hw := (s.pwmMotor .m4).controlar hw (us .m4)
  { s with hw := hw }

/-- The control step. A rejected pair of angles changes nothing. -/
def EstadoControl.paso (s : EstadoControl F) (e : EntradaControl F) :
    EstadoControl F × Option (Mandos F) :=
  if !e.num.isinf e.angX && !e.num.isinf e.angY then
    let (s, ctrl) := s.corregir e.angX e.angY
    let q := mandar e.num e.rawValue ctrl
    (if q.escrito then s.escribir q.us else s, some q)
  else
    (s, none)

end Iteration

end PicoDrone.Firmware.Control
