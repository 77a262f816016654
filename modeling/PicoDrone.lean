import PicoDrone.Library.Run
import PicoDrone.Library.SlidingWindow
import PicoDrone.Library.Fir
import PicoDrone.Library.Leaky
import PicoDrone.Library.RegisterFile
import PicoDrone.Firmware.Pid
import PicoDrone.PidSoundness
import PicoDrone.Firmware.Pwm
import PicoDrone.Firmware.Control
import PicoDrone.Firmware.Mpu
import PicoDrone.Firmware.I2c
import PicoDrone.Firmware.Offsets
import PicoDrone.CommandSoundness
import PicoDrone.MixerSoundness
import PicoDrone.ActuationSoundness
import PicoDrone.FlightSoundness
import PicoDrone.PulseSoundness
import PicoDrone.EnvelopeSoundness
import PicoDrone.LoopSoundness
import PicoDrone.SymmetrySoundness
import PicoDrone.ForgettingSoundness
import PicoDrone.OffsetsSoundness
import PicoDrone.AttitudeSoundness
import PicoDrone.Firmware.MpuPid
import PicoDrone.RunningSumSoundness
import PicoDrone.ThrustSoundness
import PicoDrone.TiltSoundness
import PicoDrone.ClockSoundness
import PicoDrone.Firmware.Sensor
import PicoDrone.SensorSoundness
import PicoDrone.Library.ExtendedField
import PicoDrone.MemorySoundness
import PicoDrone.RejectionSoundness
import PicoDrone.Firmware.Cgi
import PicoDrone.CgiSoundness
import PicoDrone.ResyncSoundness
import PicoDrone.RecoverySoundness
import PicoDrone.Firmware.Servidor
import PicoDrone.ServerSoundness
import PicoDrone.BusSoundness
import PicoDrone.Library.Rounding
import PicoDrone.RoundingSoundness
import PicoDrone.BankSoundness
import PicoDrone.Firmware.Makefsdata
import PicoDrone.Library.CLexer
import PicoDrone.Library.TokenReader
import PicoDrone.Fsdata
import PicoDrone.FsdataRoundTrip
import PicoDrone.FsdataSoundness
import PicoDrone.Firmware.MpuPidRun
import PicoDrone.MpuPidRunSoundness
import PicoDrone.Firmware.PruebaMotores
import PicoDrone.MotorTestSoundness
import PicoDrone.ConfigurationSoundness
import PicoDrone.PowerOnSoundness
