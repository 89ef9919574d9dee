import TuxedoDrivers.Nb04.StatusMethods

/-!
# Sensors of the NB04 machines

`tuxedo_nb04_sensors.c`.  A method of the firmware returns a buffer that
starts with a status; the readings are at fixed places of it.  The highest
speeds of the fans are read once, by the probe.
-/

namespace TuxedoDrivers.Nb04

open Interaction

/-! ## Readings

The input buffers of these methods are not initialised. -/

structure CpuInfo where
  cpuTemp : U8
  cpuTurboMode : U8
  deriving DecidableEq, Repr

def readCpuInfo (input : Vector U8 bsInputBufferLength) :
    Methods (Except Int CpuInfo) := do
  let result ← bsMethodWithStatus 0x04 input
  match result with
  | .error err => return .error err
  | .ok out => return .ok ⟨out.getD 2 0, out.getD 3 0⟩

structure GpuInfo where
  gpuTemp : U8
  gpuTurboMode : U8
  gpuMaxFreq : U16
  deriving DecidableEq, Repr

def readGpuInfo (input : Vector U8 bsInputBufferLength) :
    Methods (Except Int GpuInfo) := do
  let result ← bsMethodWithStatus 0x06 input
  match result with
  | .error err => return .error err
  | .ok out =>
      return .ok ⟨out.getD 2 0, out.getD 3 0,
        wordOfBytes (out.getD 5 0) (out.getD 4 0)⟩

structure FanSetting where
  fan1CurRpm : U16
  fan2CurRpm : U16
  fan1MaxRpm : U16
  fan2MaxRpm : U16
  fullFanStatus : Bool
  deriving DecidableEq, Repr

def readFanSetting (input : Vector U8 bsInputBufferLength) :
    Methods (Except Int FanSetting) := do
  let result ← bsMethodWithStatus 0x02 input
  match result with
  | .error err => return .error err
  | .ok out =>
      return .ok
        { fan1CurRpm := wordOfBytes (out.getD 3 0) (out.getD 2 0)
          fan2CurRpm := wordOfBytes (out.getD 5 0) (out.getD 4 0)
          fan1MaxRpm := wordOfBytes (out.getD 7 0) (out.getD 6 0)
          fan2MaxRpm := wordOfBytes (out.getD 9 0) (out.getD 8 0)
          fullFanStatus := decide (out.getD 10 0 = 0x01) }

/-! ## The driver -/

/-- `struct driver_data_t` of the sensors. -/
structure SensorsData where
  fanCpuMax : Int
  fanCpuMin : Int
  fanGpuMax : Int
  fanGpuMin : Int
  deriving DecidableEq, Repr

/-- The probe up to the registration with the kernel. -/
def tuxedoNb04SensorsProbe (input : Vector U8 bsInputBufferLength) :
    Methods (Except Int SensorsData) := do
  let result ← readFanSetting input
  match result with
  | .error err => return .error err
  | .ok setting =>
      return .ok
        { fanCpuMax := setting.fan1MaxRpm.toNat
          fanCpuMin := 0
          fanGpuMax := setting.fan2MaxRpm.toNat
          fanGpuMin := 0 }

def tuxedoNb04SensorsRead (input : Vector U8 bsInputBufferLength)
    (driverData : SensorsData) (type : HwmonSensorType)
    (attr : HwmonFanAttr) (channel : Int) : Methods (Except Int Int) := do
  match type with
  | .temp =>
      if channel = 0 then
        let result ← readCpuInfo input
        return result.map fun info => info.cpuTemp.toNat * 1000
      else if channel = 1 then
        let result ← readGpuInfo input
        return result.map fun info => info.gpuTemp.toNat * 1000
      else return .error (-eopnotsupp)
  | .fan =>
      match attr with
      | .min =>
          if channel = 0 then return .ok driverData.fanCpuMin
          else if channel = 1 then return .ok driverData.fanGpuMin
          else return .error (-eopnotsupp)
      | .max =>
          if channel = 0 then return .ok driverData.fanCpuMax
          else if channel = 1 then return .ok driverData.fanGpuMax
          else return .error (-eopnotsupp)
      | .input =>
          if channel = 0 then
            let result ← readFanSetting input
            return result.map fun setting => setting.fan1CurRpm.toNat
          else if channel = 1 then
            let result ← readFanSetting input
            return result.map fun setting => setting.fan2CurRpm.toNat
          else return .error (-eopnotsupp)
      | .other => return .error (-eopnotsupp)
  | .other => return .error (-eopnotsupp)

/-! ## Firmware that returns one buffer -/

section BufferFirmware

variable {out : List U8}

/-- The bytes that `read_fan_setting` takes. -/
def fanSettingOf (out : List U8) : FanSetting :=
  { fan1CurRpm := wordOfBytes (out.getD 3 0) (out.getD 2 0)
    fan2CurRpm := wordOfBytes (out.getD 5 0) (out.getD 4 0)
    fan1MaxRpm := wordOfBytes (out.getD 7 0) (out.getD 6 0)
    fan2MaxRpm := wordOfBytes (out.getD 9 0) (out.getD 8 0)
    fullFanStatus := decide (out.getD 10 0 = 0x01) }

theorem run_readFanSetting (length : out.length = bsOutputBufferLength)
    (input : Vector U8 bsInputBufferLength) :
    ((readFanSetting input).run (bufferFirmware out) ()).1 =
      if StatusSuccess out then .ok (fanSettingOf out)
      else .error (-eio) := by
  simp only [readFanSetting, Program.run_bind,
    run_bsMethodWithStatus length]
  by_cases success : StatusSuccess out
  · rw [if_pos success, if_pos success]
    rfl
  · rw [if_neg success, if_neg success]
    rfl

end BufferFirmware

end TuxedoDrivers.Nb04
