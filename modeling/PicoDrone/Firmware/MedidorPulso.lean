import Mathlib.Data.Nat.Notation

/-! # The pulse meter (`MedidorPulsoInterrMPU/MedidorPulsoInterrMPU.cpp`)

The interrupt handler keeps the time of the last pulse in a global and prints
the time since then. The counter it reads belongs to the Pico SDK. -/
namespace PicoDrone.Firmware.MedidorPulso

/-- `time_us_32` at a true time in microseconds. -/
def timeUs32 (t : ℕ) : UInt32 := UInt32.ofNat t

/-- The value the global `last_pulse_time` starts with. -/
def lastPulseTime : UInt32 := 0

/-- `pulse_handler`: the new `last_pulse_time` and the interval it prints. -/
def pulseHandler (lastPulseTime currentTime : UInt32) : UInt32 × UInt32 :=
  let timeSinceLastPulse := currentTime - lastPulseTime
  (currentTime, timeSinceLastPulse)

end PicoDrone.Firmware.MedidorPulso
