import TuxedoDrivers.Uniwill.RegisteredPlatform

/-!
# What a probe registers

A probe that finds nothing registered leaves a list of resources registered,
and variables that tell some of them.  The LEDs of the backlight and of the
lightbar are registered exactly if the variables say so; the variable of a
charging setting is only assigned where the setting is supported.
-/

namespace TuxedoDrivers.Uniwill.Platform

open Interaction

/-! ## What the parts of a probe leave alone -/

/-- Any access to the EC, and no assignment that a view shows. -/
def Keeps {β : Type} (view : DriverState → β) : UniwillRequest → Prop :=
  Confined (fun _ => True) view

section Keeps

variable {α β : Type} {view : DriverState → β} {program : Driver α}

theorem keeps_of_confined {registers : U16 → Prop}
    (asks : program.Asks (Confined registers view)) :
    program.Asks (Keeps view) :=
  confined_mono asks (fun _ _ => trivial) fun _ _ same => same

theorem uniwillWriteEcRam_keeps (address : U16) (data : U8) :
    (uniwillWriteEcRam address data).Asks (Keeps view) :=
  uniwillWriteEcRam_confined trivial data

/-- Before the first registration only features are assigned. -/
theorem probeSetup_keeps (dmi : Dmi) :
    (probeSetup dmi).Asks (Keeps otherStatics) := by
  have setRomId : (setRomId dmi).Asks (Keeps otherStatics) :=
    keeps_of_confined (confined_of_accessWithin (setRomId_within dmi))
  have curve : ∀ features : DeviceFeatures,
      (initManualFanCurve features).Asks (Keeps otherStatics) :=
    fun features => initManualFanCurve_confined (fun _ _ => trivial) features
  have features :
      (uniwillGetDeviceFeatures dmi).Asks (Keeps otherStatics) :=
    confined_of_loadRequests (uniwillGetDeviceFeatures_asks dmi)
  have profile :
      (uniwillSetCustomProfileMode dmi true).Asks (Keeps otherStatics) :=
    keeps_of_confined (uniwillSetCustomProfileMode_confined dmi true)
  apply setRomId.bind
  intro _
  apply features.bind
  intro loaded
  apply (uniwillWriteEcRam_keeps _ _).bind
  intro _
  apply (curve loaded).bind
  intro _
  apply profile.bind
  intro _
  apply (uniwillWriteEcRam_keeps _ _).bind
  intro _
  apply (uniwillWriteEcRam_keeps _ _).bind
  intro _
  exact uniwillReadEcRam_confined _

theorem lightbarDefaults_keeps :
    lightbarDefaults.Asks (Keeps view) := by
  have animation :
      (uniwillWriteLightbarAnimation false).Asks (Keeps view) :=
    (updateUnchecked_confined trivial _).bind fun _ => trivial
  apply animation.bind
  intro _
  exact uniwillWriteLightbarRgb_confined trivial trivial trivial 0 0 0

/-- What the detection of the backlight does not assign. -/
def beforeDetection (statics : DriverState) :
    DeviceFeatures × SettingStatics × Bool :=
  (statics.uniwillDeviceFeatures, statics.settings,
    statics.leds.uwLedsInitialized)

theorem readBareboneId_keeps (retries : Nat) (result : Int) :
    (readBareboneId retries result).Asks (Keeps beforeDetection) :=
  readBareboneId_confined (fun _ _ => rfl) retries result

theorem enableFixedColor5_keeps :
    enableFixedColor5.Asks (Keeps view) :=
  (updateUnchecked_confined trivial _).bind fun _ => trivial

theorem detectBacklightType_keeps (dmi : Dmi) :
    (detectBacklightType dmi).Asks (Keeps beforeDetection) :=
  detectBacklightType_confined (fun _ _ => rfl) dmi

theorem registerBacklight_keeps (register : KbBacklightType → Int) :
    (Uniwill.registerBacklight register).Asks
      (Keeps fun statics =>
        (beforeDetection statics, statics.leds.uniwillKbBacklightType)) :=
  registerBacklight_confined (fun _ => rfl) register

end Keeps

/-! ## What a probe registers -/

/-- The LEDs that the variables of the backlight stand for. -/
def heldLeds (leds : LedStatics) : List UwResource :=
  if leds.uwLedsInitialized = true then
    backlightLeds leds.uniwillKbBacklightType
  else []

def groupResources (outcomes : Outcomes) (features : DeviceFeatures)
    (group : UwGroup) : List UwResource :=
  if group.supported features = true ∧ outcomes.group group = true then
    [.group group]
  else []

def hookResources (batteries : List Int) : List UwResource :=
  if ∀ status ∈ batteries, status = 0 then [.batteryHook] else []

def filterResources (outcomes : Outcomes) : List UwResource :=
  if outcomes.i8042Filter = true then [.i8042Filter] else []

section Registered

variable {σ : Type} (device : EcDevice σ) (dmi : Dmi) (outcomes : Outcomes)
  (platform : PlatformState σ)

theorem view_drive {α β : Type} {view : DriverState → β}
    {program : Driver α} (asks : program.Asks (Keeps view)) :
    view (platform.drive device program).2.machine.1 =
      view platform.machine.1 :=
  view_of_confined asks device platform.machine

theorem statics_drive {α : Type} {program : Driver α}
    (asks : program.Asks (Keeps (id : DriverState → DriverState))) :
    (platform.drive device program).2.machine.1 = platform.machine.1 :=
  view_drive device platform asks

/-- Nothing is registered yet, and no variable tells otherwise. -/
structure Undetected (platform later : PlatformState σ) : Prop where
  registry : later.registry = platform.registry
  statics :
    beforeDetection later.machine.1 = beforeDetection platform.machine.1

theorem Undetected.drive {platform later : PlatformState σ} {α : Type}
    {program : Driver α} (asks : program.Asks (Keeps beforeDetection))
    (undetected : Undetected platform later) :
    Undetected platform (later.drive device program).2 := by
  constructor
  · exact undetected.registry
  · exact (view_drive device later asks).trans undetected.statics

/-- The LED of the backlight is registered exactly if the variables say so. -/
structure LedsRegistered (platform later : PlatformState σ) : Prop where
  registry :
    later.registry = platform.registry.registerAll (heldLeds later.leds)
  features : later.features = platform.features
  settings : later.machine.1.settings = platform.machine.1.settings

theorem Undetected.ledsRegistered {platform later : PlatformState σ}
    (undetected : Undetected platform later)
    (notInitialized : platform.leds.uwLedsInitialized = false) :
    LedsRegistered platform later := by
  have stillNot : later.leds.uwLedsInitialized = false :=
    (congrArg (fun view => view.2.2) undetected.statics).trans
      notInitialized
  constructor
  · rw [heldLeds, stillNot, undetected.registry]
    rfl
  · exact congrArg (fun view => view.1) undetected.statics
  · exact congrArg (fun view => view.2.1) undetected.statics

theorem ledsRegistered_uniwillLedsInit
    (notInitialized : platform.leds.uwLedsInitialized = false) :
    LedsRegistered platform
      (uniwillLedsInit device dmi outcomes platform) := by
  have read : Undetected platform
      (platform.drive device (readBareboneId 3 0)).2 :=
    Undetected.drive device (readBareboneId_keeps 3 0) ⟨rfl, rfl⟩
  unfold uniwillLedsInit
  dsimp only
  split
  · exact read.ledsRegistered notInitialized
  · have enabled := read.drive device enableFixedColor5_keeps
    have detected := enabled.drive device (detectBacklightType_keeps dmi)
    split
    · exact detected.ledsRegistered notInitialized
    · generalize
        (((platform.drive device (readBareboneId 3 0)).2.drive device
          enableFixedColor5).2.drive device
          (detectBacklightType dmi)).2 = later at detected ⊢
      have answered :=
        view_drive device later
          (registerBacklight_keeps outcomes.registrations.backlightLed)
      split
      case isTrue failed =>
        have unregistered : Undetected platform
            (registerBacklight device outcomes later).2 := by
          constructor
          · exact (if_neg failed).trans detected.registry
          · exact (congrArg Prod.fst answered).trans detected.statics
        exact unregistered.ledsRegistered notInitialized
      case isFalse succeeded =>
        have statics := congrArg Prod.fst answered
        have type :
            (registerBacklight device outcomes
                later).2.leds.uniwillKbBacklightType =
              later.leds.uniwillKbBacklightType :=
          congrArg Prod.snd answered
        have registered :
            (registerBacklight device outcomes later).2.registry =
              later.registry.registerAll
                (backlightLeds later.leds.uniwillKbBacklightType) :=
          if_pos (not_not.mp succeeded)
        constructor
        · rw [detected.registry, ← type] at registered
          exact registered
        · exact congrArg (fun view => view.1) (statics.trans detected.statics)
        · exact
            congrArg (fun view => view.2.1) (statics.trans detected.statics)

/-- The status of the lightbar tells whether its LEDs are registered. -/
theorem registry_uwLightbarInit
    (fresh : ∀ led,
      platform.registry.registered (.lightbarLed led) = false) :
    (uwLightbarInit device dmi outcomes platform).2.registry =
      platform.registry.registerAll
        (if (uwLightbarInit device dmi outcomes platform).1 ≥ 0 then
          uwLightbarLeds
        else []) := by
  have registry :
      (Registry.registerOrUndo UwResource.lightbarLed
        outcomes.registrations.lightbarLed [] lightbarLedClassdevs
        platform.registry).2 =
        if (Registry.registerOrUndo UwResource.lightbarLed
            outcomes.registrations.lightbarLed [] lightbarLedClassdevs
            platform.registry).1 < 0 then
          platform.registry
        else platform.registry.registerAll uwLightbarLeds :=
    Registry.registry_registerOrUndo [] lightbarLedClassdevs
      (by decide) fun led _ => fresh led
  unfold uwLightbarInit
  dsimp only
  generalize
    Registry.registerOrUndo UwResource.lightbarLed
      outcomes.registrations.lightbarLed [] lightbarLedClassdevs
      platform.registry = registered at registry ⊢
  split
  · rfl
  · split
    case isTrue negative =>
      rw [if_pos negative] at registry
      rw [if_neg (by omega)]
      exact registry
    case isFalse succeeded =>
      rw [if_neg succeeded] at registry
      exact registry

theorem statics_uwLightbarInit :
    (uwLightbarInit device dmi outcomes platform).2.machine.1 =
      platform.machine.1 := by
  unfold uwLightbarInit
  dsimp only
  split
  · rfl
  · split
    · rfl
    · exact statics_drive device _ lightbarDefaults_keeps

end Registered

/-! ## Groups -/

section Groups

variable {σ : Type} (device : EcDevice σ) (outcomes : Outcomes)

def settingGroup : ChargingSetting → UwGroup
  | .priority => .chargingPrio
  | .profile => .chargingProfile

/-- After the initialisations of these groups each is registered if it is
supported and created, and the variable of a charging setting is assigned only
if it is supported. -/
structure GroupsInitialized (groups : List UwGroup)
    (before after : PlatformState σ) : Prop where
  registry : after.registry =
    before.registry.registerAll
      (groups.flatMap (groupResources outcomes before.features))
  loaded : ∀ setting : ChargingSetting,
    setting.loaded after.machine.1 =
      if settingGroup setting ∈ groups ∧
          (settingGroup setting).supported before.features = true then
        outcomes.group (settingGroup setting)
      else setting.loaded before.machine.1
  features : after.features = before.features
  leds : after.leds = before.leds
  lightbar : after.probe.uwLightbarLoaded = before.probe.uwLightbarLoaded

theorem GroupsInitialized.append {first second : List UwGroup}
    {before between after : PlatformState σ}
    (earlier : GroupsInitialized outcomes first before between)
    (later : GroupsInitialized outcomes second between after) :
    GroupsInitialized outcomes (first ++ second) before after := by
  constructor
  · rw [later.registry, earlier.registry, earlier.features,
      ← Registry.registerAll_append, List.flatMap_append]
  · intro setting
    rw [later.loaded, earlier.loaded, earlier.features]
    by_cases supported :
        (settingGroup setting).supported before.features = true
    · by_cases inSecond : settingGroup setting ∈ second
      · simp [supported, inSecond]
      · simp [supported, inSecond]
    · simp [supported]
  · exact later.features.trans earlier.features
  · exact later.leds.trans earlier.leds
  · exact later.lightbar.trans earlier.lightbar

/-- What the removal and the initialisation of another group read. -/
def groupView (statics : DriverState) :
    DeviceFeatures × LedStatics × Bool × Bool :=
  (statics.uniwillDeviceFeatures, statics.leds,
    ChargingSetting.priority.loaded statics,
    ChargingSetting.profile.loaded statics)

theorem loaded_of_groupView {first second : DriverState}
    (same : groupView first = groupView second)
    (setting : ChargingSetting) :
    setting.loaded first = setting.loaded second := by
  cases setting with
  | priority => exact congrArg (fun view => view.2.2.1) same
  | profile => exact congrArg (fun view => view.2.2.2) same

theorem registry_createGroup (group : UwGroup)
    (platform : PlatformState σ) :
    (createGroup outcomes group platform).registry =
      platform.registry.registerAll
        ([group].flatMap (groupResources outcomes platform.features)) := by
  rw [List.flatMap_singleton]
  unfold createGroup groupResources
  dsimp only
  split
  · rfl
  · rfl

theorem groupView_init (setting : ChargingSetting) (created : Bool)
    (machine : Machine σ) :
    groupView (device.run (setting.init created) machine).2.1 =
      groupView (setting.attach created machine.1) := by
  rw [ChargingSetting.statics_init]
  split
  · cases setting with
    | priority => rfl
    | profile => rfl
  · rfl

theorem loaded_attach (setting other : ChargingSetting)
    (statics : DriverState) :
    other.loaded
        (setting.attach (outcomes.group (settingGroup setting)) statics) =
      if settingGroup other ∈ [settingGroup setting] ∧
          (settingGroup other).supported statics.uniwillDeviceFeatures =
            true then
        outcomes.group (settingGroup other)
      else other.loaded statics := by
  cases setting with
  | priority =>
      unfold ChargingSetting.attach
      dsimp only
      split
      case isTrue supported =>
        cases other with
        | priority =>
            simp [settingGroup, UwGroup.supported, supported,
              ChargingSetting.loaded]
        | profile =>
            simp [settingGroup, ChargingSetting.loaded]
      case isFalse unsupported =>
        cases other with
        | priority =>
            simp [settingGroup, UwGroup.supported, unsupported]
        | profile =>
            simp [settingGroup]
  | profile =>
      unfold ChargingSetting.attach
      dsimp only
      split
      case isTrue supported =>
        cases other with
        | priority =>
            simp [settingGroup, ChargingSetting.loaded]
        | profile =>
            simp [settingGroup, UwGroup.supported, supported,
              ChargingSetting.loaded]
      case isFalse unsupported =>
        cases other with
        | priority =>
            simp [settingGroup]
        | profile =>
            simp [settingGroup, UwGroup.supported, unsupported]

theorem frame_attach (setting : ChargingSetting) (created : Bool)
    (statics : DriverState) :
    (setting.attach created statics).uniwillDeviceFeatures =
        statics.uniwillDeviceFeatures ∧
      (setting.attach created statics).leds = statics.leds := by
  cases setting with
  | priority =>
      unfold ChargingSetting.attach
      dsimp only
      split
      · exact ⟨rfl, rfl⟩
      · exact ⟨rfl, rfl⟩
  | profile =>
      unfold ChargingSetting.attach
      dsimp only
      split
      · exact ⟨rfl, rfl⟩
      · exact ⟨rfl, rfl⟩

/-- Creates the group of a setting and initialises it. -/
theorem groupsInitialized_charging (setting : ChargingSetting)
    {platform after : PlatformState σ}
    (registry : after.registry =
      (createGroup outcomes (settingGroup setting) platform).registry)
    (lightbar :
      after.probe.uwLightbarLoaded = platform.probe.uwLightbarLoaded)
    (machine : after.machine =
      (device.run (setting.init (outcomes.group (settingGroup setting)))
        platform.machine).2) :
    GroupsInitialized outcomes [settingGroup setting] platform after := by
  have view := groupView_init device setting
    (outcomes.group (settingGroup setting)) platform.machine
  rw [← machine] at view
  have frame := frame_attach setting
    (outcomes.group (settingGroup setting)) platform.machine.1
  constructor
  · exact registry.trans (registry_createGroup outcomes _ platform)
  · intro other
    rw [loaded_of_groupView view other, loaded_attach]
  · exact (congrArg (fun view => view.1) view).trans frame.1
  · exact (congrArg (fun view => view.2.1) view).trans frame.2
  · exact lightbar

/-- Creates a group that no charging setting has. -/
theorem groupsInitialized_of_groupView {group : UwGroup}
    {platform after : PlatformState σ}
    (registry : after.registry =
      (createGroup outcomes group platform).registry)
    (lightbar :
      after.probe.uwLightbarLoaded = platform.probe.uwLightbarLoaded)
    (notCharging : group ∉ [UwGroup.chargingPrio, .chargingProfile])
    (view :
      groupView after.machine.1 = groupView platform.machine.1) :
    GroupsInitialized outcomes [group] platform after := by
  constructor
  · exact registry.trans (registry_createGroup outcomes group platform)
  · intro setting
    have different : settingGroup setting ∉ [group] := by
      intro same
      rw [← List.mem_singleton.mp same] at notCharging
      cases setting with
      | priority => exact notCharging (by decide)
      | profile => exact notCharging (by decide)
    rw [loaded_of_groupView view setting, if_neg fun both =>
      different both.1]
  · exact congrArg (fun view => view.1) view
  · exact congrArg (fun view => view.2.1) view
  · exact lightbar

theorem uwAcAutoBootInit_keeps (created : Bool) (probe : ProbeStatics) :
    (Uniwill.uwAcAutoBootInit created probe).Asks (Keeps groupView) :=
  uwAcAutoBootInit_confined (fun _ _ => rfl) created probe

theorem uwUsbPowershareInit_keeps (created : Bool) (probe : ProbeStatics) :
    (Uniwill.uwUsbPowershareInit created probe).Asks (Keeps groupView) :=
  uwUsbPowershareInit_confined (fun _ _ => rfl) created probe

theorem lightbarLoaded_uwAcAutoBootInit (created : Bool)
    (probe : ProbeStatics) (machine : Machine σ) :
    (device.run (Uniwill.uwAcAutoBootInit created probe)
        machine).1.uwLightbarLoaded =
      probe.uwLightbarLoaded := by
  simp only [Uniwill.uwAcAutoBootInit, run_bind, run_getStatics, run_ite,
    run_pure]
  split
  · split
    · rfl
    · rfl
  · split
    · rfl
    · rfl

theorem lightbarLoaded_uwUsbPowershareInit (created : Bool)
    (probe : ProbeStatics) (machine : Machine σ) :
    (device.run (Uniwill.uwUsbPowershareInit created probe)
        machine).1.uwLightbarLoaded =
      probe.uwLightbarLoaded := by
  simp only [Uniwill.uwUsbPowershareInit, run_bind, run_getStatics, run_ite,
    run_pure]
  split
  · split
    · rfl
    · rfl
  · split
    · rfl
    · rfl

/-- The groups of a probe, in its order. -/
def allGroups : List UwGroup :=
  [.chargingPrio, .chargingProfile, .acAutoBoot, .usbPowershare,
    .miniLedLocalDimming]

/-- The part of a probe that initialises the groups. -/
def initGroups (platform : PlatformState σ) : PlatformState σ :=
  let chargingPrio := uwChargingPriorityInit device outcomes platform
  let chargingProfile := uwChargingProfileInit device outcomes chargingPrio
  let acAutoBoot := uwAcAutoBootInit device outcomes chargingProfile
  let usbPowershare := uwUsbPowershareInit device outcomes acAutoBoot
  uwMiniLedLocalDimmingInit outcomes usbPowershare

theorem groupsInitialized_initGroups (platform : PlatformState σ) :
    GroupsInitialized outcomes allGroups platform
      (initGroups device outcomes platform) := by
  have prio : ∀ later : PlatformState σ,
      GroupsInitialized outcomes [.chargingPrio] later
        (uwChargingPriorityInit device outcomes later) :=
    fun later =>
      groupsInitialized_charging device outcomes .priority rfl rfl rfl
  have profile : ∀ later : PlatformState σ,
      GroupsInitialized outcomes [.chargingProfile] later
        (uwChargingProfileInit device outcomes later) :=
    fun later =>
      groupsInitialized_charging device outcomes .profile rfl rfl rfl
  have acAutoBoot : ∀ later : PlatformState σ,
      GroupsInitialized outcomes [.acAutoBoot] later
        (uwAcAutoBootInit device outcomes later) := by
    intro later
    apply groupsInitialized_of_groupView
    · rfl
    · exact lightbarLoaded_uwAcAutoBootInit device _ _ later.machine
    · decide
    · exact view_of_confined (uwAcAutoBootInit_keeps _ _) device later.machine
  have usbPowershare : ∀ later : PlatformState σ,
      GroupsInitialized outcomes [.usbPowershare] later
        (uwUsbPowershareInit device outcomes later) := by
    intro later
    apply groupsInitialized_of_groupView
    · rfl
    · exact lightbarLoaded_uwUsbPowershareInit device _ _ later.machine
    · decide
    · exact
        view_of_confined (uwUsbPowershareInit_keeps _ _) device later.machine
  have miniLed : ∀ later : PlatformState σ,
      GroupsInitialized outcomes [.miniLedLocalDimming] later
        (uwMiniLedLocalDimmingInit outcomes later) := by
    intro later
    apply groupsInitialized_of_groupView
    · rfl
    · rfl
    · decide
    · rfl
  exact
    (prio _).append outcomes <| (profile _).append outcomes <|
      (acAutoBoot _).append outcomes <| (usbPowershare _).append outcomes <|
        miniLed _

end Groups

/-! ## The state a probe leaves -/

section AfterProbe

variable {σ : Type} (device : EcDevice σ) (dmi : Dmi) (outcomes : Outcomes)

/-- A hook that was registered is called until a call fails. -/
theorem callBatteryHook_eq (batteries : List Int)
    (registry : Registry UwResource) :
    callBatteryHook batteries registry =
      if ∀ status ∈ batteries, status = 0 then registry
      else registry.lose .batteryHook := by
  induction batteries with
  | nil =>
      simp [callBatteryHook]
  | cons status rest inductionHypothesis =>
      unfold callBatteryHook
      by_cases succeeded : status = 0
      · rw [inductionHypothesis]
        simp [uwBatteryAdd, succeeded]
      · have failed : uwBatteryAdd status ≠ 0 := by
          rw [uwBatteryAdd, if_pos succeeded]
          decide
        simp [failed, succeeded]

theorem registry_uwBatteryInit {platform : PlatformState σ}
    (fresh : platform.registry.registered .batteryHook = false) :
    (uwBatteryInit outcomes platform).registry =
      platform.registry.registerAll (hookResources outcomes.batteries) := by
  unfold uwBatteryInit hookResources
  dsimp only
  rw [callBatteryHook_eq]
  split
  · rfl
  · exact Registry.lose_register fresh

/-- The features that the probe finds. -/
def probeFeatures (machine : Machine σ) : DeviceFeatures :=
  (device.run (probeSetup dmi) machine).2.1.uniwillDeviceFeatures

/-- What a probe has registered, where `before` are the variables that it
found and `after` is the platform afterwards. -/
structure Probed (features : DeviceFeatures) (before : DriverState)
    (after : PlatformState σ) : Prop where
  registry : after.registry =
    Registry.empty.registerAll
      (heldLeds after.leds ++
        ((if after.probe.uwLightbarLoaded = true then uwLightbarLeds
          else []) ++
        (allGroups.flatMap (groupResources outcomes features) ++
        (hookResources outcomes.batteries ++ filterResources outcomes))))
  loaded : ∀ setting : ChargingSetting,
    setting.loaded after.machine.1 =
      if (settingGroup setting).supported features = true then
        outcomes.group (settingGroup setting)
      else setting.loaded before
  hook : after.uwBatteryHookRegistered = true

theorem isLed_of_mem_heldLeds {leds : LedStatics} {resource : UwResource}
    (member : resource ∈ heldLeds leds) :
    resource = .ledCdev ∨ resource = .mcledCdev := by
  unfold heldLeds at member
  split at member
  · cases type : leds.uniwillKbBacklightType with
    | none =>
        rw [type] at member
        cases member
    | fixedColor =>
        rw [type] at member
        exact Or.inl (List.mem_singleton.mp member)
    | fixedColor5Levels =>
        rw [type] at member
        exact Or.inl (List.mem_singleton.mp member)
    | oneZoneRgb =>
        rw [type] at member
        exact Or.inr (List.mem_singleton.mp member)
    | perKeyRgb =>
        rw [type] at member
        cases member
  · cases member

theorem mem_groupResources {features : DeviceFeatures}
    {resource : UwResource} :
    resource ∈ allGroups.flatMap (groupResources outcomes features) ↔
      ∃ group, resource = .group group ∧
        group.supported features = true ∧ outcomes.group group = true := by
  have complete : ∀ group, group ∈ allGroups := by
    intro group
    cases group <;> decide
  constructor
  · intro member
    obtain ⟨group, -, member⟩ := List.mem_flatMap.mp member
    unfold groupResources at member
    split at member
    case isTrue created =>
      exact ⟨group, List.mem_singleton.mp member, created⟩
    case isFalse =>
      cases member
  · intro ⟨group, same, created⟩
    apply List.mem_flatMap.mpr
    refine ⟨group, complete group, ?_⟩
    rw [groupResources, if_pos created, same]
    exact List.mem_singleton_self _

theorem registry_i8042InstallFilter (platform : PlatformState σ) :
    (i8042InstallFilter outcomes platform).registry =
      platform.registry.registerAll (filterResources outcomes) := by
  unfold i8042InstallFilter filterResources
  dsimp only
  split
  · rfl
  · rfl

theorem loaded_of_settings {first second : DriverState}
    (same : first.settings = second.settings)
    (setting : ChargingSetting) :
    setting.loaded first = setting.loaded second :=
  congrArg Prod.fst (ChargingSetting.known_of_settings same setting)

/-- The stages of a probe, put together. -/
theorem probed_of_stages {start leds lightbar grouped : PlatformState σ}
    (startEmpty : start.registry = .empty)
    (ledsRegistered : LedsRegistered start leds)
    (lightbarRegistered : lightbar.registry =
      leds.registry.registerAll
        (if lightbar.probe.uwLightbarLoaded = true then uwLightbarLeds
        else []))
    (lightbarStatics : lightbar.machine.1 = leds.machine.1)
    (initialized :
      GroupsInitialized outcomes allGroups lightbar grouped) :
    Probed outcomes start.features start.machine.1
      (i8042InstallFilter outcomes (uwBatteryInit outcomes grouped)) := by
  have features : lightbar.features = start.features := by
    unfold PlatformState.features
    rw [lightbarStatics]
    exact ledsRegistered.features
  have sameLeds : grouped.leds = leds.leds := by
    rw [initialized.leds]
    unfold PlatformState.leds
    rw [lightbarStatics]
  have registry : grouped.registry =
      Registry.empty.registerAll
        (heldLeds leds.leds ++
          ((if lightbar.probe.uwLightbarLoaded = true then uwLightbarLeds
            else []) ++
          allGroups.flatMap (groupResources outcomes start.features))) := by
    rw [initialized.registry, lightbarRegistered, ledsRegistered.registry,
      startEmpty, features, Registry.registerAll_append,
      Registry.registerAll_append]
  have fresh : grouped.registry.registered .batteryHook = false := by
    rw [← Bool.not_eq_true, registry, Registry.registered_registerAll,
      List.mem_append, List.mem_append, mem_groupResources]
    intro registered
    rcases registered with (led | lightbarLed | ⟨group, same, -⟩) | before
    · rcases isLed_of_mem_heldLeds led with same | same
      · cases same
      · cases same
    · split at lightbarLed
      · revert lightbarLed
        decide
      · cases lightbarLed
    · cases same
    · cases before
  constructor
  · rw [registry_i8042InstallFilter, registry_uwBatteryInit outcomes fresh,
      registry, ← Registry.registerAll_append,
      ← Registry.registerAll_append, ← initialized.lightbar, ← sameLeds]
    simp only [List.append_assoc]
    rfl
  · intro setting
    have named : settingGroup setting ∈ allGroups := by
      cases setting <;> decide
    have settings :
        lightbar.machine.1.settings = start.machine.1.settings := by
      rw [lightbarStatics]
      exact ledsRegistered.settings
    have loaded := initialized.loaded setting
    rw [features, loaded_of_settings settings setting] at loaded
    simp only [named, true_and] at loaded
    exact loaded
  · rfl

/-- The part of a probe that initialises the lightbar. -/
def initLightbar (platform : PlatformState σ) : PlatformState σ :=
  let enabled := platform.drive device (uniwillWriteKbdBlEnable 1)
  let lightbar := uwLightbarInit device dmi outcomes enabled.2
  { lightbar.2 with probe.uwLightbarLoaded := decide (lightbar.1 ≥ 0) }

theorem statics_initLightbar (platform : PlatformState σ) :
    (initLightbar device dmi outcomes platform).machine.1 =
      platform.machine.1 := by
  have enabled :
      (platform.drive device (uniwillWriteKbdBlEnable 1)).2.machine.1 =
        platform.machine.1 :=
    statics_drive device platform
      (keeps_of_confined (uniwillWriteKbdBlEnable_confined 1))
  exact (statics_uwLightbarInit device dmi outcomes _).trans enabled

theorem registry_initLightbar {start platform : PlatformState σ}
    (startEmpty : start.registry = .empty)
    (ledsRegistered : LedsRegistered start platform) :
    (initLightbar device dmi outcomes platform).registry =
      platform.registry.registerAll
        (if (initLightbar device dmi outcomes
            platform).probe.uwLightbarLoaded = true then
          uwLightbarLeds
        else []) := by
  have fresh : ∀ led,
      platform.registry.registered (.lightbarLed led) = false := by
    intro led
    rw [← Bool.not_eq_true, ledsRegistered.registry, startEmpty,
      Registry.registered_registerAll]
    intro registered
    rcases registered with member | before
    · rcases isLed_of_mem_heldLeds member with same | same
      · cases same
      · cases same
    · cases before
  have lightbar :=
    registry_uwLightbarInit device dmi outcomes
      (platform.drive device (uniwillWriteKbdBlEnable 1)).2 fresh
  simp only [initLightbar, decide_eq_true_eq]
  exact lightbar

/-- The part of a probe before the LEDs. -/
def startProbe (platform : PlatformState σ) : PlatformState σ :=
  let setup := platform.drive device (probeSetup dmi)
  { setup.2 with
    probe.uniwillKbdBlEnableStateOnStart :=
      (setup.1.data >>> 1) &&& 0x01 }

theorem otherStatics_startProbe (platform : PlatformState σ) :
    otherStatics (startProbe device dmi platform).machine.1 =
      otherStatics platform.machine.1 :=
  view_drive device platform (probeSetup_keeps dmi)

theorem uniwillKeyboardProbe_eq (platform : PlatformState σ) :
    uniwillKeyboardProbe device dmi outcomes platform =
      i8042InstallFilter outcomes
        (uwBatteryInit outcomes
          (initGroups device outcomes
            (initLightbar device dmi outcomes
              (uniwillLedsInit device dmi outcomes
                (startProbe device dmi platform))))) :=
  rfl

theorem probed_uniwillKeyboardProbe {platform : PlatformState σ}
    (empty : platform.registry = .empty)
    (notInitialized : platform.leds.uwLedsInitialized = false) :
    Probed outcomes (probeFeatures device dmi platform.machine)
      platform.machine.1
      (uniwillKeyboardProbe device dmi outcomes platform) := by
  have kept := otherStatics_startProbe device dmi platform
  have settings := congrArg (fun view => view.2.1) kept
  have startNot :
      (startProbe device dmi platform).leds.uwLedsInitialized = false :=
    (congrArg (fun view => view.2.2.uwLedsInitialized) kept).trans
      notInitialized
  have startEmpty : (startProbe device dmi platform).registry = .empty :=
    empty
  have leds :=
    ledsRegistered_uniwillLedsInit device dmi outcomes
      (startProbe device dmi platform) startNot
  have stages :=
    probed_of_stages outcomes startEmpty leds
      (registry_initLightbar device dmi outcomes startEmpty leds)
      (statics_initLightbar device dmi outcomes _)
      (groupsInitialized_initGroups device outcomes _)
  rw [uniwillKeyboardProbe_eq]
  constructor
  · exact stages.registry
  · intro setting
    rw [← loaded_of_settings settings setting]
    exact stages.loaded setting
  · exact stages.hook

end AfterProbe

end TuxedoDrivers.Uniwill.Platform
