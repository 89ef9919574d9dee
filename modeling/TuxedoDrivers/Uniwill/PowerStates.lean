import TuxedoDrivers.Uniwill.Backlight
import TuxedoDrivers.Uniwill.DeviceFeatures
import TuxedoDrivers.Uniwill.FanControl

/-!
# Custom profile mode, suspend and resume
-/

namespace TuxedoDrivers.Uniwill

open Interaction

abbrev uwEcRegCustomProfile : U16 := 0x0727

/-- The update of `uniwill_set_custom_profile_mode` once the feature is known
to be needed.  Certain devices need the bit to be zero first. -/
def writeCustomProfileMode (zeroBitInitially : Bool) : Driver Unit := do
  let data ← uniwillReadEcRam uwEcRegCustomProfile
  if zeroBitInitially = true then
    let _ ← uniwillWriteEcRam uwEcRegCustomProfile
      (data.data &&& ~~~((1 : U8) <<< 6))
    let _ ← uniwillWriteEcRam uwEcRegCustomProfile
      ((data.data &&& ~~~((1 : U8) <<< 6)) ||| ((1 : U8) <<< 6))
    return ()
  else
    let _ ← uniwillWriteEcRam uwEcRegCustomProfile
      (data.data ||| ((1 : U8) <<< 6))
    return ()

def uniwillSetCustomProfileMode (dmi : Dmi) (zeroBitInitially : Bool) :
    Driver Unit := do
  let features ← uniwillGetDeviceFeatures dmi
  if features.uniwillCustomProfileModeNeeded = true then
    writeCustomProfileMode zeroBitInitially
  else
    return ()

/-- Unset "customer mode light" before suspend; otherwise at least one device
wakes up at once. -/
def suspendCustomProfile : Driver Unit := do
  let statics ← getStatics
  if statics.uniwillDeviceFeatures.uniwillCustomProfileModeNeeded = true then
    let _ ← updateUnchecked uwEcRegCustomProfile fun data =>
      data &&& ~~~((1 : U8) <<< 6)
    return ()
  else
    return ()

/-- Set "customer mode light" again on resume. -/
def resumeCustomProfile : Driver Unit := do
  let statics ← getStatics
  if statics.uniwillDeviceFeatures.uniwillCustomProfileModeNeeded = true then
    let _ ← updateUnchecked uwEcRegCustomProfile fun data =>
      data ||| ((1 : U8) <<< 6)
    return ()
  else
    return ()

/-- The speeds of the direct fan control are kept over the suspend. -/
def suspendFans : Driver Unit := do
  let statics ← getStatics
  if statics.fan.directFanControlStarted = true then
    setStatics fun statics =>
      { statics with
        fan.directFanControlSuspend := true
        fan.directFanControlCurrentValueFan0SuspendSave :=
          statics.fan.directFanControlCurrentValueFan0
        fan.directFanControlCurrentValueFan1SuspendSave :=
          statics.fan.directFanControlCurrentValueFan1 }
    let _ ← uwSetFanAuto
    return ()
  else
    return ()

def resumeFans : Driver Unit := do
  let statics ← getStatics
  if statics.fan.directFanControlSuspend = true then
    setStatics fun statics =>
      { statics with fan.directFanControlSuspend := false }
    let _ ← uwSetFan 0
      statics.fan.directFanControlCurrentValueFan0SuspendSave
    let statics ← getStatics
    let _ ← uwSetFan 1
      statics.fan.directFanControlCurrentValueFan1SuspendSave
    return ()
  else
    return ()

def uniwillKeyboardSuspend : Driver Int := do
  suspendCustomProfile
  uniwillWriteKbdBlEnable 0
  suspendFans
  return 0

def uniwillKeyboardResume : Driver Int := do
  resumeFans
  resumeCustomProfile
  uniwillLedsRestoreStateExtern
  uniwillWriteKbdBlEnable 1
  uwChargingPriorityWriteState
  uwChargingProfileWriteState
  return 0

end TuxedoDrivers.Uniwill
