import TuxedoDrivers.Hwmon
import TuxedoDrivers.Sysfs
import TuxedoDrivers.Tuxi.Acpi

/-!
# Fan control through TUXI

The attributes and the sensors of `tuxedo_tuxi_fan_control.c`.  The functions
for the two fans are the same but for the index of the fan.  A variable that a
getter writes is passed with what it holds before.
-/

namespace TuxedoDrivers.Tuxi

open Interaction

abbrev fanSetDutyMax : Nat := 255

abbrev fanOnMinSpeedPercent : Nat := 25

/-! ## Speeds -/

/-- The duty that a speed is stored as: no value between fan-off and the
minimum fan-on-speed. -/
def dutyOfPwm (pwmData : U8) : U8 :=
  let dutyData := BitVec.ofNat 8 (pwmData.toNat * fanSetDutyMax / 0xff)
  if dutyData.toNat ≤ fanOnMinSpeedPercent * fanSetDutyMax / 2 / 100 then 0
  else if dutyData.toNat < fanOnMinSpeedPercent * fanSetDutyMax / 100 then
    BitVec.ofNat 8 (fanOnMinSpeedPercent * fanSetDutyMax / 100)
  else dutyData

/-- The returned status replaces what the getter wrote. -/
def fanPwmShow (fanIndex dutyData : U8) : Acpi String := do
  let result ← tuxiGetFanSpeed fanIndex dutyData
  let dutyData : U8 := BitVec.ofInt 8 result.1
  let pwmData : U8 := BitVec.ofNat 8 (dutyData.toNat * 0xff / fanSetDutyMax)
  return sysfsEmitByte pwmData

def fanPwmStore (fanIndex : U8) (buffer : String) (size : Nat) :
    Acpi Int := do
  match kstrtou8 buffer 0 with
  | .error _ => return -einval
  | .ok pwmData =>
      let err ← tuxiSetFanSpeed fanIndex (dutyOfPwm pwmData)
      if err ≠ 0 then
        return err
      else
        return size

def fan1PwmShow : U8 → Acpi String :=
  fanPwmShow 0

def fan1PwmStore : String → Nat → Acpi Int :=
  fanPwmStore 0

def fan2PwmShow : U8 → Acpi String :=
  fanPwmShow 1

def fan2PwmStore : String → Nat → Acpi Int :=
  fanPwmStore 1

/-! ## Modes -/

/-- The mode is shown whatever the getter returned; the text is what all
paths lead to. -/
def fanPwmEnableShow (mode : U32) : Acpi (Except Int String) := do
  let result ← tuxiGetFanMode mode
  let enableHwmon : U8 := if result.2 = modeManual then 1 else 2
  return .ok (sysfsEmitByte enableHwmon)

def fanPwmEnableStore (buffer : String) (size : Nat) : Acpi Int := do
  match kstrtou8 buffer 0 with
  | .error _ => return -einval
  | .ok enableHwmon =>
      let mode := if enableHwmon = 1 then modeManual else modeAuto
      let err ← tuxiSetFanMode mode
      if err ≠ 0 then
        return err
      else
        return size

def fan1PwmEnableShow : U32 → Acpi (Except Int String) :=
  fanPwmEnableShow

def fan1PwmEnableStore : String → Nat → Acpi Int :=
  fanPwmEnableStore

def fan2PwmEnableShow : U32 → Acpi (Except Int String) :=
  fanPwmEnableShow

def fan2PwmEnableStore : String → Nat → Acpi Int :=
  fanPwmEnableStore

/-! ## Sensors -/

/-- The temperature is in tenths of a Kelvin, of which the last digit is
always 0. -/
def hwmRead (type : HwmonSensorType) (attr : HwmonFanAttr) (channel : Int)
    (temp rpm : U16) : Acpi (Except Int Int) := do
  match type with
  | .temp =>
      let result ← tuxiGetFanTemp (BitVec.ofInt 8 channel) temp
      if result.1 ≠ 0 then return .error result.1
      else return .ok ((result.2.toNat - 2730) * 100)
  | .fan =>
      match attr with
      | .min => return .ok 0
      | .max => return .ok 6000
      | .input =>
          let result ← tuxiGetFanRpm (BitVec.ofInt 8 channel) rpm
          if result.1 ≠ 0 then return .error result.1
          else return .ok result.2.toNat
      | .other => return .error (-eopnotsupp)
  | .other => return .error (-eopnotsupp)

end TuxedoDrivers.Tuxi
