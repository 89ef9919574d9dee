import TuxedoDrivers.Interaction.Registry
import TuxedoDrivers.Uniwill.PlatformDriver

/-!
# What the platform driver has registered

`uniwill_keyboard_probe` and `uniwill_keyboard_remove` once more, together
with the LEDs, sysfs groups, battery hook and i8042 filter that the kernel has
registered for them.  Apart from these both are the programs of the platform
driver.
-/

namespace TuxedoDrivers.Uniwill.Platform

open Interaction

/-! ## Resources -/

/-- The sysfs groups of the platform device. -/
inductive UwGroup where
  | chargingPrio
  | chargingProfile
  | acAutoBoot
  | usbPowershare
  | miniLedLocalDimming
  deriving DecidableEq, Repr

inductive UwResource where
  /-- `uniwill_led_cdev`. -/
  | ledCdev
  /-- `uniwill_mcled_cdev`. -/
  | mcledCdev
  | lightbarLed (name : String)
  | group (group : UwGroup)
  | batteryHook
  | i8042Filter
  deriving DecidableEq, Repr

def UwGroup.supported : UwGroup → DeviceFeatures → Bool
  | .chargingPrio, features => features.uniwillHasChargingPrio
  | .chargingProfile, features => features.uniwillHasChargingProfile
  | .acAutoBoot, features => features.uniwillHasAcAutoBoot
  | .usbPowershare, features => features.uniwillHasUsbPowershare
  | .miniLedLocalDimming, features =>
      features.uniwillHasMiniLedLocalDimming

/-- The registration of an LED returns zero or a negative error. -/
abbrev LedStatus : Type :=
  { status : Int // status ≤ 0 }

/-- What the kernel answers in one probe: the status for each LED, whether
each group is created, what `device_add_groups` returns for each battery that
is present, and whether the i8042 filter is installed. -/
structure Outcomes where
  backlightLed : KbBacklightType → LedStatus
  lightbarLed : String → LedStatus
  group : UwGroup → Bool
  batteries : List Int
  i8042Filter : Bool

def Outcomes.registrations (outcomes : Outcomes) : Registrations where
  backlightLed type := (outcomes.backlightLed type).val
  lightbarLed led := (outcomes.lightbarLed led).val
  chargingPrioGroup := outcomes.group .chargingPrio
  chargingProfileGroup := outcomes.group .chargingProfile
  acAutoBootGroup := outcomes.group .acAutoBoot
  usbPowershareGroup := outcomes.group .usbPowershare

/-- The variables of the driver, the EC, and what is registered. -/
structure PlatformState (σ : Type) where
  machine : Machine σ
  probe : ProbeStatics := {}
  uwMiniLedLocalDimmingLoaded : Bool := false
  uwBatteryHookRegistered : Bool := false
  registry : Registry UwResource := .empty

namespace PlatformState

variable {σ α : Type}

/-- A part of the driver that registers nothing. -/
def drive (device : EcDevice σ) (program : Driver α)
    (platform : PlatformState σ) : α × PlatformState σ :=
  ((device.run program platform.machine).1,
    { platform with machine := (device.run program platform.machine).2 })

abbrev features (platform : PlatformState σ) : DeviceFeatures :=
  platform.machine.1.uniwillDeviceFeatures

abbrev leds (platform : PlatformState σ) : LedStatics :=
  platform.machine.1.leds

end PlatformState

/-! ## LEDs -/

/-- The LED of a backlight type. -/
def backlightLeds : KbBacklightType → List UwResource
  | .fixedColor | .fixedColor5Levels => [.ledCdev]
  | .oneZoneRgb => [.mcledCdev]
  | .none | .perKeyRgb => []

section Probe

variable {σ : Type} (device : EcDevice σ) (dmi : Dmi) (outcomes : Outcomes)

def registerBacklight (platform : PlatformState σ) :
    Int × PlatformState σ :=
  let answered :=
    platform.drive device
      (Uniwill.registerBacklight outcomes.registrations.backlightLed)
  (answered.1,
    { answered.2 with
      registry :=
        if answered.1 = 0 then
          platform.registry.registerAll
            (backlightLeds platform.leds.uniwillKbBacklightType)
        else
          platform.registry })

/-- The result of `uniwill_leds_init` is ignored. -/
def uniwillLedsInit (platform : PlatformState σ) : PlatformState σ :=
  let read := platform.drive device (readBareboneId 3 0)
  if read.1 ≠ 0 ∨ read.2.leds.uniwillBareboneId = 0 then
    read.2
  else
    let enabled := read.2.drive device enableFixedColor5
    let detected := enabled.2.drive device (detectBacklightType dmi)
    if detected.1 ≠ 0 then
      detected.2
    else
      let registered := registerBacklight device outcomes detected.2
      if registered.1 ≠ 0 then
        registered.2
      else
        (registered.2.drive device
          (setStatics fun statics =>
            { statics with leds.uwLedsInitialized := true })).2

def lightbarDefaults : Driver Unit := do
  uniwillWriteLightbarAnimation false
  uniwillWriteLightbarRgb 0 0 0

def uwLightbarInit (platform : PlatformState σ) : Int × PlatformState σ :=
  if lightbarSupported dmi = false then
    (-enodev, platform)
  else
    let registered :=
      Registry.registerOrUndo UwResource.lightbarLed
        outcomes.registrations.lightbarLed [] lightbarLedClassdevs
        platform.registry
    let platform := { platform with registry := registered.2 }
    if registered.1 < 0 then
      (registered.1, platform)
    else
      (0, (platform.drive device lightbarDefaults).2)

/-! ## Groups -/

/-- `sysfs_create_group`, if the device has the feature. -/
def createGroup (group : UwGroup) (platform : PlatformState σ) :
    PlatformState σ :=
  { platform with
    registry :=
      if group.supported platform.features = true ∧
          outcomes.group group = true then
        platform.registry.register (.group group)
      else
        platform.registry }

def uwChargingPriorityInit (platform : PlatformState σ) :
    PlatformState σ :=
  ((createGroup outcomes .chargingPrio platform).drive device
    (Uniwill.uwChargingPriorityInit (outcomes.group .chargingPrio))).2

def uwChargingProfileInit (platform : PlatformState σ) :
    PlatformState σ :=
  ((createGroup outcomes .chargingProfile platform).drive device
    (Uniwill.uwChargingProfileInit (outcomes.group .chargingProfile))).2

def uwAcAutoBootInit (platform : PlatformState σ) : PlatformState σ :=
  let initialised :=
    (createGroup outcomes .acAutoBoot platform).drive device
      (Uniwill.uwAcAutoBootInit (outcomes.group .acAutoBoot)
        platform.probe)
  { initialised.2 with probe := initialised.1 }

def uwUsbPowershareInit (platform : PlatformState σ) : PlatformState σ :=
  let initialised :=
    (createGroup outcomes .usbPowershare platform).drive device
      (Uniwill.uwUsbPowershareInit (outcomes.group .usbPowershare)
        platform.probe)
  { initialised.2 with probe := initialised.1 }

def uwMiniLedLocalDimmingInit (platform : PlatformState σ) :
    PlatformState σ :=
  { createGroup outcomes .miniLedLocalDimming platform with
    uwMiniLedLocalDimmingLoaded :=
      if platform.features.uniwillHasMiniLedLocalDimming = true then
        outcomes.group .miniLedLocalDimming
      else
        platform.uwMiniLedLocalDimmingLoaded }

/-! ## Battery hook and i8042 filter -/

/-- `status` is what `device_add_groups` returns. -/
def uwBatteryAdd (status : Int) : Int :=
  if status ≠ 0 then -enodev else 0

/-- The kernel calls the hook for one battery after the other, and unregisters
it when a call fails. -/
def callBatteryHook :
    List Int → Registry UwResource → Registry UwResource
  | [], registry => registry
  | status :: rest, registry =>
      if uwBatteryAdd status ≠ 0 then registry.lose .batteryHook
      else callBatteryHook rest registry

def uwBatteryInit (platform : PlatformState σ) : PlatformState σ :=
  { platform with
    registry :=
      callBatteryHook outcomes.batteries
        (platform.registry.register .batteryHook)
    uwBatteryHookRegistered := true }

def i8042InstallFilter (platform : PlatformState σ) : PlatformState σ :=
  { platform with
    registry :=
      if outcomes.i8042Filter = true then
        platform.registry.register .i8042Filter
      else
        platform.registry }

/-! ## Probe -/

/-- What the probe does before the first registration. -/
def probeSetup : Driver EcRead := do
  let _ ← setRomId dmi
  let features ← uniwillGetDeviceFeatures dmi
  let _ ← uniwillWriteEcRam 0x0751 0x00
  initManualFanCurve features
  uniwillSetCustomProfileMode dmi true
  let _ ← uniwillWriteEcRam uwEcRegManualMode 0x01
  let _ ← uniwillWriteEcRam 0x044f 0x00
  uniwillReadEcRam uwEcRegKbdBlStatus

def uniwillKeyboardProbe (platform : PlatformState σ) :
    PlatformState σ :=
  let setup := platform.drive device (probeSetup dmi)
  let leds :=
    uniwillLedsInit device dmi outcomes
      { setup.2 with
        probe.uniwillKbdBlEnableStateOnStart :=
          (setup.1.data >>> 1) &&& 0x01 }
  let enabled := leds.drive device (uniwillWriteKbdBlEnable 1)
  let lightbar := uwLightbarInit device dmi outcomes enabled.2
  let chargingPrio :=
    uwChargingPriorityInit device outcomes
      { lightbar.2 with
        probe.uwLightbarLoaded := decide (lightbar.1 ≥ 0) }
  let chargingProfile := uwChargingProfileInit device outcomes chargingPrio
  let acAutoBoot := uwAcAutoBootInit device outcomes chargingProfile
  let usbPowershare := uwUsbPowershareInit device outcomes acAutoBoot
  let miniLed := uwMiniLedLocalDimmingInit outcomes usbPowershare
  i8042InstallFilter outcomes (uwBatteryInit outcomes miniLed)

/-! ## Removal -/

def unregisterIf (loaded : Bool) (resources : List UwResource)
    (platform : PlatformState σ) : PlatformState σ :=
  { platform with
    registry :=
      if loaded = true then platform.registry.unregisterAll resources
      else platform.registry }

def uniwillLedsRemove (platform : PlatformState σ) : PlatformState σ :=
  if platform.leds.uwLedsInitialized = true then
    let cleared :=
      platform.drive device
        (setStatics fun statics =>
          { statics with leds.uwLedsInitialized := false })
    unregisterIf true
      (backlightLeds platform.leds.uniwillKbBacklightType) cleared.2
  else
    platform

def uwLightbarLeds : List UwResource :=
  lightbarLedClassdevs.map .lightbarLed

/-- Only a filter that is installed is removed. -/
def i8042RemoveFilter (platform : PlatformState σ) : PlatformState σ :=
  unregisterIf (platform.registry.registered .i8042Filter) [.i8042Filter]
    platform

def restoreKbdBlEnable (probe : ProbeStatics) : Driver Unit :=
  if probe.uniwillKbdBlEnableStateOnStart ≠ 0xff then
    uniwillWriteKbdBlEnable probe.uniwillKbdBlEnableStateOnStart
  else
    pure ()

def uniwillKeyboardRemove (platform : PlatformState σ) :
    PlatformState σ :=
  let chargingPrio :=
    unregisterIf platform.machine.1.settings.uwChargingPrioLoaded
      [.group .chargingPrio] platform
  let chargingProfile :=
    unregisterIf chargingPrio.machine.1.settings.uwChargingProfileLoaded
      [.group .chargingProfile] chargingPrio
  let battery :=
    unregisterIf chargingProfile.uwBatteryHookRegistered [.batteryHook]
      chargingProfile
  let leds := uniwillLedsRemove device battery
  let restored := leds.drive device (restoreKbdBlEnable leds.probe)
  let lightbar :=
    unregisterIf restored.2.probe.uwLightbarLoaded uwLightbarLeds
      restored.2
  let manual :=
    lightbar.drive device (uniwillWriteEcRam uwEcRegManualMode 0x00)
  let filter := i8042RemoveFilter manual.2
  (filter.drive device cancelRestartWork).2

end Probe

/-! ## The programs of the platform driver -/

section Erasure

variable {σ : Type} (device : EcDevice σ) (dmi : Dmi) (outcomes : Outcomes)
  (platform : PlatformState σ)

/-- What the programs of the platform driver work on. -/
def PlatformState.erase (platform : PlatformState σ) :
    ProbeStatics × Machine σ :=
  (platform.probe, platform.machine)

theorem erase_uniwillLedsInit :
    (uniwillLedsInit device dmi outcomes platform).erase =
      (platform.probe,
        (device.run
          (Uniwill.uniwillLedsInit dmi outcomes.registrations.backlightLed)
          platform.machine).2) := by
  unfold uniwillLedsInit Uniwill.uniwillLedsInit registerBacklight
  simp only [run_bind, run_getStatics, run_ite, run_pure, run_setStatics,
    PlatformState.drive]
  split
  · rfl
  · split
    · rfl
    · split
      · rfl
      · rfl

theorem erase_uwLightbarInit :
    ((uwLightbarInit device dmi outcomes platform).1,
        (uwLightbarInit device dmi outcomes platform).2.machine) =
        device.run
          (Uniwill.uwLightbarInit dmi outcomes.registrations.lightbarLed)
          platform.machine ∧
      (uwLightbarInit device dmi outcomes platform).2.probe =
        platform.probe := by
  unfold uwLightbarInit Uniwill.uwLightbarInit
  dsimp only
  rw [Registry.status_registerOrUndo, run_ite]
  split
  · exact ⟨rfl, rfl⟩
  · cases found : lightbarLedClassdevs.find? fun led =>
        decide (outcomes.registrations.lightbarLed led < 0) with
    | some led =>
        have negative : outcomes.registrations.lightbarLed led < 0 := by
          simpa using List.find?_some found
        dsimp only
        rw [if_pos negative]
        exact ⟨rfl, rfl⟩
    | none =>
        exact ⟨rfl, rfl⟩

/-- What a probe does to the variables and the EC does not depend on what is
registered. -/
theorem erase_uniwillKeyboardProbe :
    (uniwillKeyboardProbe device dmi outcomes platform).erase =
      device.run
        (Uniwill.uniwillKeyboardProbe dmi outcomes.registrations
          platform.probe)
        platform.machine := by
  have ledsProbe : ∀ later : PlatformState σ,
      (uniwillLedsInit device dmi outcomes later).probe = later.probe :=
    fun later =>
      congrArg Prod.fst (erase_uniwillLedsInit device dmi outcomes later)
  have ledsMachine : ∀ later : PlatformState σ,
      (uniwillLedsInit device dmi outcomes later).machine =
        (device.run
          (Uniwill.uniwillLedsInit dmi
            outcomes.registrations.backlightLed) later.machine).2 :=
    fun later =>
      congrArg Prod.snd (erase_uniwillLedsInit device dmi outcomes later)
  have lightbarStatus : ∀ later : PlatformState σ,
      (uwLightbarInit device dmi outcomes later).1 =
        (device.run
          (Uniwill.uwLightbarInit dmi outcomes.registrations.lightbarLed)
          later.machine).1 :=
    fun later =>
      congrArg Prod.fst (erase_uwLightbarInit device dmi outcomes later).1
  have lightbarMachine : ∀ later : PlatformState σ,
      (uwLightbarInit device dmi outcomes later).2.machine =
        (device.run
          (Uniwill.uwLightbarInit dmi outcomes.registrations.lightbarLed)
          later.machine).2 :=
    fun later =>
      congrArg Prod.snd (erase_uwLightbarInit device dmi outcomes later).1
  have lightbarProbe : ∀ later : PlatformState σ,
      (uwLightbarInit device dmi outcomes later).2.probe = later.probe :=
    fun later => (erase_uwLightbarInit device dmi outcomes later).2
  simp only [uniwillKeyboardProbe, Uniwill.uniwillKeyboardProbe, probeSetup,
    run_bind, PlatformState.drive, PlatformState.erase,
    i8042InstallFilter, uwBatteryInit, uwMiniLedLocalDimmingInit,
    uwUsbPowershareInit, uwAcAutoBootInit, uwChargingProfileInit,
    uwChargingPriorityInit, createGroup, lightbarStatus, lightbarMachine,
    lightbarProbe, ledsProbe, ledsMachine, Outcomes.registrations]

theorem erase_uniwillLedsRemove :
    (uniwillLedsRemove device platform).erase =
      (platform.probe,
        (device.run Uniwill.uniwillLedsRemove platform.machine).2) := by
  unfold uniwillLedsRemove Uniwill.uniwillLedsRemove
  simp only [run_bind, run_setStatics, run_pure]
  split
  case isTrue initialised =>
    rfl
  case isFalse notInitialised =>
    rw [Bool.not_eq_true] at notInitialised
    rw [← notInitialised]
    rfl

/-- So it is with a removal. -/
theorem erase_uniwillKeyboardRemove :
    (uniwillKeyboardRemove device platform).erase =
      (platform.probe,
        (device.run (Uniwill.uniwillKeyboardRemove platform.probe)
          platform.machine).2) := by
  have ledsProbe : ∀ later : PlatformState σ,
      (uniwillLedsRemove device later).probe = later.probe :=
    fun later => congrArg Prod.fst (erase_uniwillLedsRemove device later)
  have ledsMachine : ∀ later : PlatformState σ,
      (uniwillLedsRemove device later).machine =
        (device.run Uniwill.uniwillLedsRemove later.machine).2 :=
    fun later => congrArg Prod.snd (erase_uniwillLedsRemove device later)
  simp only [uniwillKeyboardRemove, Uniwill.uniwillKeyboardRemove, run_bind,
    PlatformState.drive, PlatformState.erase, i8042RemoveFilter,
    unregisterIf, restoreKbdBlEnable, ledsProbe, ledsMachine, run_ite,
    run_pure]
  split
  · rfl
  · rfl

end Erasure

end TuxedoDrivers.Uniwill.Platform
