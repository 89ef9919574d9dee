import TuxedoDrivers.Interaction.Program
import TuxedoDrivers.Sysfs
import TuxedoDrivers.Wmi

/-!
# Power profiles of the NB05 machines

`tuxedo_nb05_power_profiles.c` and the notification of
`tuxedo_nb05_keyboard.c`, down to the firmware calls and the accesses to the
variables they share.
-/

namespace TuxedoDrivers.Nb05.PowerProfiles

open Interaction
open TuxedoDrivers.Wmi

/-! ## Requests -/

/-- The driver data of a device is told by the device, and `none` is
`NULL`. -/
inductive ProfileRequest where
  | getWmiDev
  | setWmiDev (device : Option Device)
  | getDrvdata (device : Option Device)
  | setDrvdata (device : Device)
  /-- No input stands for a variable nobody has stored to. -/
  | evaluateMethod (device : Device) (methodId : U32) (input : Option U64)
  | getLastChosenProfile (data : Option Device)
  | setLastChosenProfile (data : Option Device) (profile : U64)
  | getProfileChangedByDriverFlag
  | setProfileChangedByDriverFlag (changed : Bool)
  /-- `mod_timer` of `profile_changed_timer`. -/
  | modTimer
  | timerDelete
  /-- `schedule_work` of `nb05_rewrite_profile_work`. -/
  | scheduleWork
  | tuxedoIsCompatible
  | wmiHasGuid
  | devmKzalloc (device : Device)
  | platformDeviceRegister
  | platformDeviceUnregister
  | sysfsCreateGroup
  | sysfsRemoveGroup
  | reportGaugeKeyCombo
  | ledsNotifyBrightness (step : U8)
  | sparseKeymapReport (code : U32)
  /-- A user writes to `platform_profile`. -/
  | beginStore
  /-- The firmware changes the profile by itself. -/
  | changeMode (profile : U64)
  /-- The timer expires if it is armed. -/
  | expireTimer
  /-- The work queue starts an execution if the work is queued and none is
  running. -/
  | beginWork
  | endWork
  deriving DecidableEq, Repr

abbrev ProfileRequest.Answer : ProfileRequest → Type
  | .getWmiDev => Option Device
  | .getDrvdata _ => Option Device
  | .evaluateMethod _ _ _ => Reply
  | .getLastChosenProfile _ => U64
  | .getProfileChangedByDriverFlag => Bool
  | .tuxedoIsCompatible => Bool
  | .wmiHasGuid => Bool
  | .devmKzalloc _ => Bool
  | .platformDeviceRegister => Bool
  | .sysfsCreateGroup => Int
  | .expireTimer => Bool
  | .beginWork => Bool
  | _ => Unit

abbrev profileSignature : Signature :=
  ⟨ProfileRequest, ProfileRequest.Answer⟩

abbrev Profiles (α : Type) : Type :=
  Program profileSignature α

def request (item : ProfileRequest) : Profiles item.Answer :=
  Program.request (S := profileSignature) item

/-! ## Firmware methods -/

def nb05WmiAaMethod (methodId : U32) (input : Option U64) :
    Profiles (Except Int U64) := do
  let wmiDev ← request .getWmiDev
  match wmiDev with
  | some device =>
      let reply ← request (.evaluateMethod device methodId input)
      return reply.integer
  | none => return .error (-enodev)

def profileChangedTimerBump : Profiles Unit := do
  request (.setProfileChangedByDriverFlag true)
  request .modTimer

/-- What `write_profile` makes of the answer of the method. -/
def writeResult : Except Int U64 → Int
  | .error err => err
  | .ok out => if out ≠ 0 then -einval else 0

def writeProfile (profile : U64) : Profiles Int := do
  profileChangedTimerBump
  let result ← nb05WmiAaMethod 1 (some profile)
  return writeResult result

def readProfile : Profiles (Except Int U64) :=
  nb05WmiAaMethod 2 none

/-! ## The rewrite of the last profile -/

def rewriteLastProfileInternal : Profiles Int := do
  let wmiDev ← request .getWmiDev
  let driverData ← request (.getDrvdata wmiDev)
  let current ← readProfile
  match current with
  | .error err => return err
  | .ok currentProfile =>
      let lastChosen ← request (.getLastChosenProfile driverData)
      if currentProfile ≠ lastChosen then
        let profile ← request (.getLastChosenProfile driverData)
        writeProfile profile
      else
        return 0

def nb05RewriteProfileWorkHandler : Profiles Unit := do
  let _ ← rewriteLastProfileInternal
  return ()

def rewriteLastProfile : Profiles Unit :=
  request .scheduleWork

def profileChangedByDriver : Profiles Bool :=
  request .getProfileChangedByDriverFlag

def profileChangedTimeout : Profiles Unit := do
  request (.setProfileChangedByDriverFlag false)
  -- Again make sure that the last profile is written
  rewriteLastProfile

/-! ## The attribute -/

def platformProfileOptions : List (String × U64) :=
  [("low-power", 2), ("balanced", 0), ("performance", 1)]

/-- The value of the option that a text names. -/
def platformProfileValue (buffer : String) : Option U64 :=
  (platformProfileOptions.find? fun choice =>
    decide (choice.1 = strstrip buffer)).map Prod.snd

def platformProfileStore (wdev : Device) (buffer : String) (size : Nat) :
    Profiles Int := do
  let driverData ← request (.getDrvdata (some wdev))
  match platformProfileValue buffer with
  | some profile =>
      let err ← writeProfile profile
      if err ≠ 0 then
        return err
      else
        request (.setLastChosenProfile driverData profile)
        return size
  | none => return -einval

example : platformProfileValue " performance\n" = some 1 ∧
    platformProfileValue "perform" = none := by decide

def platformProfileShow : Profiles (Except Int String) := do
  let current ← readProfile
  match current with
  | .error _ => return .error (-eio)
  | .ok value =>
      match platformProfileOptions.find? fun choice =>
          decide (choice.2 = value) with
      | some choice => return .ok (choice.1 ++ "\n")
      | none => return .error (-eio)

/-! ## Binding -/

def tuxedoNb05PowerProfilesProbe (wdev : Device) : Profiles Int := do
  request (.setWmiDev (some wdev))
  let compatible ← request .tuxedoIsCompatible
  if compatible = false then
    return -enodev
  else
    let hasGuid ← request .wmiHasGuid
    if hasGuid = false then
      return -enodev
    else
      let allocated ← request (.devmKzalloc wdev)
      if allocated = false then
        return -enomem
      else
        request (.setDrvdata wdev)
        let current ← readProfile
        match current with
        | .error _ => return -eio
        | .ok profile =>
            request (.setLastChosenProfile (some wdev) profile)
            let registered ← request .platformDeviceRegister
            if registered = false then
              return -enomem
            else
              let err ← request .sysfsCreateGroup
              if err ≠ 0 then
                request .platformDeviceUnregister
                return err
              else
                return 0

def tuxedoNb05PowerProfilesRemove (wdev : Device) : Profiles Unit := do
  request .timerDelete
  let _ ← request (.getDrvdata (some wdev))
  request .sysfsRemoveGroup
  request .platformDeviceUnregister

/-! ## Notifications of the keyboard driver -/

abbrev nb05WmiEventKbdBrtChange : U8 := 0x03
abbrev nb05WmiEventKbdBrtMax : U8 := 0x07
abbrev nb05WmiEventKbdBrtMiddle : U8 := 0x08
abbrev nb05WmiEventKbdBrtOff : U8 := 0x09
abbrev nb05WmiEventModePowerSave : U8 := 0x11
abbrev nb05WmiEventModeBalance : U8 := 0x12
abbrev nb05WmiEventModeHighPerformance : U8 := 0x13

/-- `EVENT_STATUS_COMBO`. -/
def eventStatusCombo (event : U8) (status : U16) : U32 :=
  event.setWidth 32 ||| (status.setWidth 32 <<< 8)

/-- The switch of the notification. -/
def actOnEvent (eventCode : U8) (deviceStatus : U16) : Profiles Unit := do
  if eventCode = nb05WmiEventModePowerSave ∨
      eventCode = nb05WmiEventModeBalance ∨
      eventCode = nb05WmiEventModeHighPerformance then
    let byDriver ← profileChangedByDriver
    if byDriver = false then
      request .reportGaugeKeyCombo
      rewriteLastProfile
    else
      return ()
  else if eventCode = nb05WmiEventKbdBrtMax then
    request (.ledsNotifyBrightness 2)
  else if eventCode = nb05WmiEventKbdBrtMiddle then
    request (.ledsNotifyBrightness 1)
  else if eventCode = nb05WmiEventKbdBrtOff then
    request (.ledsNotifyBrightness 0)
  else if eventCode = nb05WmiEventKbdBrtChange then
    request (.ledsNotifyBrightness (deviceStatus.setWidth 8))
  else
    return ()

theorem actOnEvent_of_mode {eventCode : U8} {deviceStatus : U16}
    (isMode : eventCode = nb05WmiEventModePowerSave ∨
      eventCode = nb05WmiEventModeBalance ∨
      eventCode = nb05WmiEventModeHighPerformance) :
    actOnEvent eventCode deviceStatus =
      (do
        let byDriver ← profileChangedByDriver
        if byDriver = false then
          request .reportGaugeKeyCombo
          rewriteLastProfile
        else
          return ()) :=
  if_pos isMode

def tuxedoNb05KeyboardNotify (object : Option AcpiObject) :
    Profiles Unit :=
  match object with
  | some (.buffer (_ :: eventCode :: low :: high :: _)) => do
      actOnEvent eventCode (high ++ low)
      request (.sparseKeymapReport (eventCode.setWidth 32))
      request (.sparseKeymapReport (eventStatusCombo eventCode (high ++ low)))
  | _ => return ()

end TuxedoDrivers.Nb05.PowerProfiles
