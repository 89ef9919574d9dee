import TuxedoDrivers.Interaction.Runs
import TuxedoDrivers.Uniwill.ProbeResources

/-!
# Cycles of probe and removal

A removal undoes a probe if what it unregisters is what is registered at that
time.  It decides by variables that the probe assigned.  Three groups are
never removed, a variable of a charging setting can be left from an earlier
cycle, and the variable of the battery hook does not tell when the kernel has
unregistered it.
-/

namespace TuxedoDrivers.Uniwill.Platform

open Interaction

/-! ## What a removal unregisters -/

/-- What the variables of the driver name, in the order of a removal. -/
def namedRemovals {σ : Type} (platform : PlatformState σ) :
    List UwResource :=
  ((((if platform.machine.1.settings.uwChargingPrioLoaded = true then
          [.group .chargingPrio]
        else []) ++
      (if platform.machine.1.settings.uwChargingProfileLoaded = true then
        [.group .chargingProfile]
      else [])) ++
    (if platform.uwBatteryHookRegistered = true then [.batteryHook]
    else [])) ++
    heldLeds platform.leds) ++
  (if platform.probe.uwLightbarLoaded = true then uwLightbarLeds else [])

/-- The resources that a removal unregisters. -/
def removals {σ : Type} (platform : PlatformState σ) : List UwResource :=
  namedRemovals platform ++
    if platform.registry.registered .i8042Filter = true then
      [.i8042Filter]
    else []

section Removal

variable {σ : Type} (device : EcDevice σ) (platform : PlatformState σ)

theorem frame_unregisterIf (loaded : Bool) (resources : List UwResource) :
    (unregisterIf loaded resources platform).machine = platform.machine ∧
      (unregisterIf loaded resources platform).probe = platform.probe ∧
      (unregisterIf loaded resources platform).uwBatteryHookRegistered =
        platform.uwBatteryHookRegistered :=
  ⟨rfl, rfl, rfl⟩

theorem registry_unregisterIf (loaded : Bool)
    (resources : List UwResource) :
    (unregisterIf loaded resources platform).registry =
      platform.registry.unregisterAll
        (if loaded = true then resources else []) := by
  unfold unregisterIf
  dsimp only
  split
  · rfl
  · rfl

theorem registry_uniwillLedsRemove :
    (uniwillLedsRemove device platform).registry =
      platform.registry.unregisterAll (heldLeds platform.leds) := by
  unfold uniwillLedsRemove heldLeds
  split
  · rfl
  · rfl

theorem probe_uniwillLedsRemove :
    (uniwillLedsRemove device platform).probe = platform.probe :=
  congrArg Prod.fst (erase_uniwillLedsRemove device platform)

theorem heldLeds_sublist (leds : LedStatics) :
    (heldLeds leds).Sublist [.ledCdev, .mcledCdev] := by
  unfold heldLeds
  split
  · cases leds.uniwillKbBacklightType <;> decide
  · exact List.nil_sublist _

/-- Everything that the variables can name, once. -/
def removable : List UwResource :=
  (((([.group .chargingPrio] ++ [.group .chargingProfile]) ++
    [.batteryHook]) ++ [.ledCdev, .mcledCdev]) ++ uwLightbarLeds)

theorem optional_sublist {α : Type} (loaded : Bool) (resources : List α) :
    (if loaded = true then resources else []).Sublist resources := by
  split
  · exact List.Sublist.refl resources
  · exact List.nil_sublist resources

theorem namedRemovals_sublist :
    (namedRemovals platform).Sublist removable := by
  apply List.Sublist.append
  · apply List.Sublist.append
    · apply List.Sublist.append
      · exact (optional_sublist _ _).append (optional_sublist _ _)
      · exact optional_sublist _ _
    · exact heldLeds_sublist _
  · exact optional_sublist _ _

theorem filter_notMem_namedRemovals :
    UwResource.i8042Filter ∉ namedRemovals platform := by
  intro member
  have removable := (namedRemovals_sublist platform).subset member
  revert removable
  decide

theorem nodup_removals : (removals platform).Nodup := by
  have sublist :
      (removals platform).Sublist (removable ++ [.i8042Filter]) :=
    (namedRemovals_sublist platform).append (optional_sublist _ _)
  exact sublist.nodup (by decide)

theorem registry_uniwillKeyboardRemove :
    (uniwillKeyboardRemove device platform).registry =
      platform.registry.unregisterAll (removals platform) := by
  have stillInstalled :
      (platform.registry.unregisterAll
          (namedRemovals platform)).registered .i8042Filter =
        platform.registry.registered .i8042Filter := by
    rw [Bool.eq_iff_iff, Registry.registered_unregisterAll]
    exact and_iff_left (filter_notMem_namedRemovals platform)
  simp only [uniwillKeyboardRemove, PlatformState.drive, i8042RemoveFilter,
    PlatformState.leds, frame_unregisterIf, registry_unregisterIf,
    registry_uniwillLedsRemove, probe_uniwillLedsRemove,
    ← Registry.unregisterAll_append]
  rw [removals, ← stillInstalled]
  rfl

end Removal

/-! ## Cycles -/

/-- The variables of the EC part of the driver that a removal reads. -/
def removalView (statics : DriverState) :
    Bool × Bool × Bool × KbBacklightType :=
  (statics.settings.uwChargingPrioLoaded,
    statics.settings.uwChargingProfileLoaded,
    statics.leds.uwLedsInitialized,
    statics.leds.uniwillKbBacklightType)

/-- What the EC and the rest of the driver do meanwhile: these variables are
assigned by probe and removal only. -/
abbrev Activity (σ : Type) : Type :=
  { run : Machine σ → Machine σ //
    ∀ machine, removalView (run machine).1 = removalView machine.1 }

/-- A probe and the next removal, with what happens before and between, and
what `device_add_groups` returns for the batteries that appear in between. -/
structure ProbeCycle (σ : Type) where
  before : Activity σ
  outcomes : Outcomes
  during : Activity σ
  laterBatteries : List Int

section Cycles

variable {σ : Type} (device : EcDevice σ) (dmi : Dmi)

def PlatformState.act (activity : Activity σ)
    (platform : PlatformState σ) : PlatformState σ :=
  { platform with machine := activity.val platform.machine }

/-- The hook is called for a new battery while it is registered. -/
def batteriesAppear (batteries : List Int) (platform : PlatformState σ) :
    PlatformState σ :=
  { platform with
    registry :=
      if platform.registry.registered .batteryHook = true then
        callBatteryHook batteries platform.registry
      else
        platform.registry }

/-- The platform before the removal of a cycle. -/
def beforeRemoval (cycle : ProbeCycle σ) (platform : PlatformState σ) :
    PlatformState σ :=
  batteriesAppear cycle.laterBatteries <|
    (uniwillKeyboardProbe device dmi cycle.outcomes
      (platform.act cycle.before)).act cycle.during

def probeCycle (cycle : ProbeCycle σ) (platform : PlatformState σ) :
    PlatformState σ :=
  uniwillKeyboardRemove device (beforeRemoval device dmi cycle platform)

/-- Nothing is left registered, and nothing was unregistered that was not
registered. -/
def Undone (platform : PlatformState σ) : Prop :=
  platform.registry.Clean

/-- The features that the probe of a cycle finds. -/
abbrev cycleFeatures (cycle : ProbeCycle σ) (platform : PlatformState σ) :
    DeviceFeatures :=
  probeFeatures device dmi (cycle.before.val platform.machine)

/-- None of the groups without a removal is created, no charging setting that
the probe finds unsupported was loaded before, and the battery hook does not
fail. -/
structure CycleCondition (cycle : ProbeCycle σ)
    (platform : PlatformState σ) : Prop where
  notCreated : ∀ group,
    group ∈ [UwGroup.acAutoBoot, .usbPowershare, .miniLedLocalDimming] →
    group.supported (cycleFeatures device dmi cycle platform) = true →
    cycle.outcomes.group group = false
  notStale : ∀ setting : ChargingSetting,
    setting.loaded platform.machine.1 = true →
    (settingGroup setting).supported
      (cycleFeatures device dmi cycle platform) = true
  hookKept : ∀ status ∈ cycle.outcomes.batteries ++ cycle.laterBatteries,
    status = 0

end Cycles

/-! ## Membership -/

section Membership

variable {σ : Type} (platform : PlatformState σ)

theorem mem_optional {α : Type} {loaded : Bool} {resources : List α}
    {resource : α} :
    resource ∈ (if loaded = true then resources else []) ↔
      loaded = true ∧ resource ∈ resources := by
  split
  case isTrue set => exact (and_iff_right set).symm
  case isFalse clear =>
    exact iff_of_false List.not_mem_nil fun both => clear both.1

/-- Two charging groups, what the variables say of the LEDs, the hook and the
filter. -/
theorem mem_removals {resource : UwResource} :
    resource ∈ removals platform ↔
      (∃ setting : ChargingSetting,
        resource = .group (settingGroup setting) ∧
          setting.loaded platform.machine.1 = true) ∨
      (platform.uwBatteryHookRegistered = true ∧
        resource = .batteryHook) ∨
      resource ∈ heldLeds platform.leds ∨
      (platform.probe.uwLightbarLoaded = true ∧
        resource ∈ uwLightbarLeds) ∨
      (platform.registry.registered .i8042Filter = true ∧
        resource = .i8042Filter) := by
  have settings :
      (∃ setting : ChargingSetting,
        resource = .group (settingGroup setting) ∧
          setting.loaded platform.machine.1 = true) ↔
        (platform.machine.1.settings.uwChargingPrioLoaded = true ∧
          resource = .group .chargingPrio) ∨
        (platform.machine.1.settings.uwChargingProfileLoaded = true ∧
          resource = .group .chargingProfile) := by
    constructor
    · intro ⟨setting, same, loaded⟩
      cases setting with
      | priority => exact Or.inl ⟨loaded, same⟩
      | profile => exact Or.inr ⟨loaded, same⟩
    · intro named
      rcases named with ⟨loaded, same⟩ | ⟨loaded, same⟩
      · exact ⟨.priority, same, loaded⟩
      · exact ⟨.profile, same, loaded⟩
  rw [settings]
  simp only [removals, namedRemovals, List.mem_append, mem_optional,
    List.mem_singleton, or_assoc]

theorem registered_batteriesAppear (batteries : List Int)
    (resource : UwResource) :
    (batteriesAppear batteries platform).registry.registered resource =
        true ↔
      platform.registry.registered resource = true ∧
        (resource = .batteryHook → ∀ status ∈ batteries, status = 0) := by
  unfold batteriesAppear
  dsimp only
  split
  case isTrue =>
    rw [callBatteryHook_eq]
    split
    case isTrue succeeded =>
      exact (and_iff_left fun _ => succeeded).symm
    case isFalse failed =>
      rw [Registry.registered_lose]
      exact and_congr_right fun _ =>
        ⟨fun other same => absurd same other,
          fun kept same => failed (kept same)⟩
  case isFalse notRegistered =>
    constructor
    · intro registered
      constructor
      · exact registered
      · intro same
        rw [same] at registered
        exact absurd registered notRegistered
    · intro both
      exact both.1

theorem forall_resource {property : UwResource → Prop} :
    (∀ resource, property resource) ↔
      (∀ group, property (.group group)) ∧ property .batteryHook ∧
        property .ledCdev ∧ property .mcledCdev ∧
        (∀ name, property (.lightbarLed name)) ∧ property .i8042Filter := by
  constructor
  · intro all
    exact
      ⟨fun group => all _, all _, all _, all _, fun name => all _, all _⟩
  · intro ⟨group, hook, led, mcled, lightbar, filter⟩ resource
    cases resource with
    | ledCdev => exact led
    | mcledCdev => exact mcled
    | lightbarLed name => exact lightbar name
    | group selected => exact group selected
    | batteryHook => exact hook
    | i8042Filter => exact filter

theorem notMem_heldLeds {leds : LedStatics} {resource : UwResource}
    (notLed : resource ≠ .ledCdev) (notMcled : resource ≠ .mcledCdev) :
    resource ∉ heldLeds leds := by
  intro member
  rcases isLed_of_mem_heldLeds member with same | same
  · exact notLed same
  · exact notMcled same

theorem mem_uwLightbarLeds_iff {resource : UwResource} :
    resource ∈ uwLightbarLeds ↔
      ∃ name ∈ lightbarLedClassdevs, .lightbarLed name = resource :=
  List.mem_map

end Membership

/-! ## One cycle -/

section Cycle

variable {σ : Type} (device : EcDevice σ) (dmi : Dmi)
  {outcomes : Outcomes} {features : DeviceFeatures} {before : DriverState}
  {probed running : PlatformState σ} {laterBatteries : List Int}

/-- What is registered when the removal begins. -/
theorem registered_probed_iff
    (isProbed : Probed outcomes features before probed)
    {resource : UwResource} :
    probed.registry.registered resource = true ↔
      resource ∈ heldLeds probed.leds ∨
      (probed.probe.uwLightbarLoaded = true ∧ resource ∈ uwLightbarLeds) ∨
      (∃ group, resource = .group group ∧
        group.supported features = true ∧ outcomes.group group = true) ∨
      (resource = .batteryHook ∧
        ∀ status ∈ outcomes.batteries, status = 0) ∨
      (resource = .i8042Filter ∧ outcomes.i8042Filter = true) := by
  have hook : resource ∈ hookResources outcomes.batteries ↔
      resource = .batteryHook ∧
        ∀ status ∈ outcomes.batteries, status = 0 := by
    unfold hookResources
    split
    case isTrue kept =>
      rw [List.mem_singleton]
      exact (and_iff_left kept).symm
    case isFalse failed =>
      exact iff_of_false List.not_mem_nil fun both => failed both.2
  have filter : resource ∈ filterResources outcomes ↔
      resource = .i8042Filter ∧ outcomes.i8042Filter = true := by
    rw [filterResources, mem_optional, List.mem_singleton, and_comm]
  have nothingBefore :
      ¬ (Registry.empty : Registry UwResource).registered resource = true :=
    Bool.false_ne_true
  rw [isProbed.registry, Registry.registered_registerAll,
    or_iff_left nothingBefore]
  simp only [List.mem_append, mem_optional, mem_groupResources, hook, filter]

/-- The groups match exactly if the features do not leave one behind or name
one that is not there. -/
theorem groups_match_iff :
    (∀ group, (group.supported features = true ∧
        outcomes.group group = true) ↔
      ∃ setting : ChargingSetting, group = settingGroup setting ∧
        (if (settingGroup setting).supported features = true then
          outcomes.group (settingGroup setting)
        else setting.loaded before) = true) ↔
      (∀ group,
        group ∈ [UwGroup.acAutoBoot, .usbPowershare, .miniLedLocalDimming] →
        group.supported features = true → outcomes.group group = false) ∧
      (∀ setting : ChargingSetting, setting.loaded before = true →
        (settingGroup setting).supported features = true) := by
  constructor
  · intro exactly
    constructor
    · intro group notCharging supported
      rw [← Bool.not_eq_true]
      intro created
      obtain ⟨setting, same, -⟩ :=
        (exactly group).mp ⟨supported, created⟩
      rw [same] at notCharging
      cases setting with
      | priority => exact absurd notCharging (by decide)
      | profile => exact absurd notCharging (by decide)
    · intro setting loaded
      by_contra unsupported
      have named := (exactly (settingGroup setting)).mpr
        ⟨setting, rfl, by rw [if_neg unsupported]; exact loaded⟩
      exact unsupported named.1
  · intro ⟨notCreated, notStale⟩ group
    constructor
    · intro ⟨supported, created⟩
      have notOther :
          group ∉ [UwGroup.acAutoBoot, .usbPowershare,
            .miniLedLocalDimming] := by
        intro member
        rw [notCreated group member supported] at created
        cases created
      cases group with
      | chargingPrio =>
          exact ⟨.priority, rfl, (if_pos supported).trans created⟩
      | chargingProfile =>
          exact ⟨.profile, rfl, (if_pos supported).trans created⟩
      | acAutoBoot =>
          exact absurd (by decide) notOther
      | usbPowershare =>
          exact absurd (by decide) notOther
      | miniLedLocalDimming =>
          exact absurd (by decide) notOther
    · intro ⟨setting, same, loaded⟩
      subst same
      split at loaded
      case isTrue supported =>
        exact ⟨supported, loaded⟩
      case isFalse unsupported =>
        exact absurd (notStale setting loaded) unsupported

theorem loaded_of_removalView {first second : DriverState}
    (same : removalView first = removalView second)
    (setting : ChargingSetting) :
    setting.loaded first = setting.loaded second := by
  cases setting with
  | priority => exact congrArg (fun view => view.1) same
  | profile => exact congrArg (fun view => view.2.1) same

theorem heldLeds_of_removalView {first second : DriverState}
    (same : removalView first = removalView second) :
    heldLeds first.leds = heldLeds second.leds := by
  have initialized :
      first.leds.uwLedsInitialized = second.leds.uwLedsInitialized :=
    congrArg (fun view => view.2.2.1) same
  have type : first.leds.uniwillKbBacklightType =
      second.leds.uniwillKbBacklightType :=
    congrArg (fun view => view.2.2.2) same
  rw [heldLeds, heldLeds, initialized, type]

theorem stale_batteriesAppear (batteries : List Int)
    (platform : PlatformState σ) :
    (batteriesAppear batteries platform).registry.stale =
      platform.registry.stale := by
  unfold batteriesAppear
  dsimp only
  split
  · rw [callBatteryHook_eq]
    split
    · rfl
    · rfl
  · rfl

/-- A removal is right exactly if the groups match and the hook was never
lost. -/
theorem clean_remove_iff
    (isProbed : Probed outcomes features before probed)
    (during : Activity σ) (laterBatteries : List Int) :
    (uniwillKeyboardRemove device
        (batteriesAppear laterBatteries
          (probed.act during))).registry.Clean ↔
      (∀ group, (group.supported features = true ∧
          outcomes.group group = true) ↔
        ∃ setting : ChargingSetting, group = settingGroup setting ∧
          (if (settingGroup setting).supported features = true then
            outcomes.group (settingGroup setting)
          else setting.loaded before) = true) ∧
      ∀ status ∈ outcomes.batteries ++ laterBatteries, status = 0 := by
  have notStale :
      (batteriesAppear laterBatteries
        (probed.act during)).registry.stale = false := by
    rw [stale_batteriesAppear]
    unfold PlatformState.act
    dsimp only
    rw [isProbed.registry, Registry.stale_registerAll]
    rfl
  have loaded : ∀ setting : ChargingSetting,
      setting.loaded
          (batteriesAppear laterBatteries
            (probed.act during)).machine.1 =
        if (settingGroup setting).supported features = true then
          outcomes.group (settingGroup setting)
        else setting.loaded before :=
    fun setting =>
      (loaded_of_removalView (during.property _) setting).trans
        (isProbed.loaded setting)
  have leds :
      heldLeds
          (batteriesAppear laterBatteries (probed.act during)).leds =
        heldLeds probed.leds :=
    heldLeds_of_removalView (during.property _)
  have lightbarLoaded :
      (batteriesAppear laterBatteries
          (probed.act during)).probe.uwLightbarLoaded =
        probed.probe.uwLightbarLoaded :=
    rfl
  have hookLoaded :
      (batteriesAppear laterBatteries
          (probed.act during)).uwBatteryHookRegistered = true :=
    isProbed.hook
  have registered : ∀ resource,
      (batteriesAppear laterBatteries
          (probed.act during)).registry.registered resource = true ↔
        probed.registry.registered resource = true ∧
          (resource = .batteryHook →
            ∀ status ∈ laterBatteries, status = 0) :=
    registered_batteriesAppear (probed.act during) laterBatteries
  rw [registry_uniwillKeyboardRemove,
    Registry.clean_unregisterAll_iff (nodup_removals _) notStale,
    forall_resource]
  generalize
    batteriesAppear laterBatteries (probed.act during) = running at *
  have group : ∀ selected,
      (running.registry.registered (.group selected) = true ↔
          .group selected ∈ removals running) ↔
        ((selected.supported features = true ∧
            outcomes.group selected = true) ↔
          ∃ setting : ChargingSetting, selected = settingGroup setting ∧
            setting.loaded running.machine.1 = true) := by
    intro selected
    have notLed : .group selected ∉ heldLeds probed.leds :=
      notMem_heldLeds nofun nofun
    rw [registered, registered_probed_iff isProbed, mem_removals, leds]
    simp [mem_uwLightbarLeds_iff, notLed]
  have hook :
      (running.registry.registered .batteryHook = true ↔
          .batteryHook ∈ removals running) ↔
        ∀ status ∈ outcomes.batteries ++ laterBatteries, status = 0 := by
    have notLed : .batteryHook ∉ heldLeds probed.leds :=
      notMem_heldLeds nofun nofun
    rw [registered, registered_probed_iff isProbed, mem_removals, leds]
    simp [mem_uwLightbarLeds_iff, notLed, hookLoaded, or_imp, forall_and]
  have led :
      running.registry.registered .ledCdev = true ↔
        .ledCdev ∈ removals running := by
    rw [registered, registered_probed_iff isProbed, mem_removals, leds]
    simp [mem_uwLightbarLeds_iff]
  have mcled :
      running.registry.registered .mcledCdev = true ↔
        .mcledCdev ∈ removals running := by
    rw [registered, registered_probed_iff isProbed, mem_removals, leds]
    simp [mem_uwLightbarLeds_iff]
  have lightbar : ∀ name,
      running.registry.registered (.lightbarLed name) = true ↔
        .lightbarLed name ∈ removals running := by
    intro name
    have notLed : .lightbarLed name ∉ heldLeds probed.leds :=
      notMem_heldLeds nofun nofun
    rw [registered, registered_probed_iff isProbed, mem_removals, leds]
    simp [mem_uwLightbarLeds_iff, notLed, lightbarLoaded]
  have filter :
      running.registry.registered .i8042Filter = true ↔
        .i8042Filter ∈ removals running := by
    have notLed : .i8042Filter ∉ heldLeds probed.leds :=
      notMem_heldLeds nofun nofun
    rw [mem_removals, leds]
    simp [mem_uwLightbarLeds_iff, notLed]
  simp only [group, hook, led, mcled, lightbar, filter, loaded,
    implies_true, and_true]

/-- A cycle undoes itself exactly if it meets the condition. -/
theorem undone_probeCycle_iff {cycle : ProbeCycle σ}
    {platform : PlatformState σ} (undone : Undone platform)
    (notInitialized : platform.leds.uwLedsInitialized = false) :
    Undone (probeCycle device dmi cycle platform) ↔
      CycleCondition device dmi cycle platform := by
  have startNot :
      (platform.act cycle.before).leds.uwLedsInitialized = false :=
    (congrArg (fun view => view.2.2.1)
      (cycle.before.property platform.machine)).trans notInitialized
  have isProbed :=
    probed_uniwillKeyboardProbe device dmi cycle.outcomes
      (Registry.eq_empty_of_clean undone :
        (platform.act cycle.before).registry = .empty) startNot
  have loaded : ∀ setting : ChargingSetting,
      setting.loaded (platform.act cycle.before).machine.1 =
        setting.loaded platform.machine.1 :=
    loaded_of_removalView (cycle.before.property platform.machine)
  unfold Undone probeCycle beforeRemoval
  rw [clean_remove_iff device isProbed, groups_match_iff]
  simp only [loaded]
  constructor
  · intro ⟨⟨notCreated, notStale⟩, hookKept⟩
    exact ⟨notCreated, notStale, hookKept⟩
  · intro condition
    exact
      ⟨⟨condition.notCreated, condition.notStale⟩, condition.hookKept⟩

theorem notInitialized_uniwillKeyboardRemove
    (platform : PlatformState σ) :
    (uniwillKeyboardRemove device platform).leds.uwLedsInitialized =
      false := by
  have enabled : ∀ (enable : U8) (later : Machine σ),
      (device.run (uniwillWriteKbdBlEnable enable) later).2.1 =
        later.1 := by
    intro enable later
    have asks :
        (uniwillWriteKbdBlEnable enable).Asks
          (Keeps (id : DriverState → DriverState)) :=
      keeps_of_confined (uniwillWriteKbdBlEnable_confined enable)
    exact view_of_confined asks device later
  have erased := congrArg (fun erased => erased.2.1.leds.uwLedsInitialized)
    (erase_uniwillKeyboardRemove device platform)
  apply erased.trans
  simp only [Uniwill.uniwillKeyboardRemove, Uniwill.uniwillLedsRemove,
    cancelRestartWork, run_bind, run_setStatics, run_pure, run_ite,
    run_uniwillWriteEcRam]
  split
  · simp only [enabled]
  · rfl

/-- Over every sequence of cycles a removal undoes its probe each time exactly
if each cycle creates no group without a removal, finds no charging setting
unsupported that was loaded before, and does not lose the battery hook. -/
theorem throughout_undone_iff (cycles : List (ProbeCycle σ)) (ec : σ) :
    Throughout (probeCycle device dmi) Undone cycles
        { machine := ({}, ec) } ↔
      EachStep (probeCycle device dmi) (CycleCondition device dmi) cycles
        { machine := ({}, ec) } := by
  have exactly : ∀ (cycle : ProbeCycle σ) (platform : PlatformState σ),
      Undone platform → platform.leds.uwLedsInitialized = false →
      (Undone (probeCycle device dmi cycle platform) ↔
        CycleCondition device dmi cycle platform) :=
    fun cycle platform undone notInitialized =>
      undone_probeCycle_iff device dmi undone notInitialized
  have preserved : ∀ (cycle : ProbeCycle σ) (platform : PlatformState σ),
      Undone platform → platform.leds.uwLedsInitialized = false →
      Undone (probeCycle device dmi cycle platform) →
      (probeCycle device dmi cycle
        platform).leds.uwLedsInitialized = false :=
    fun _ _ _ _ _ => notInitialized_uniwillKeyboardRemove device _
  exact
    throughout_iff_eachStep_of_invariant exactly preserved cycles
      Registry.clean_empty rfl

end Cycle

/-- An EC that reads as zero, on a board with both AC auto boot and USB
powershare. -/
def zeroEc : EcDevice Unit where
  read _ ec := (.ok 0, ec)
  write _ _ ec := (.ok, ec)

def acAutoBootDmi : Dmi
  | .boardName => some "GMxHGxx"
  | _ => none

/-- Every registration succeeds, without a battery. -/
def plainCycle : ProbeCycle Unit where
  before := ⟨id, fun _ => rfl⟩
  outcomes :=
    { backlightLed := fun _ => ⟨0, le_rfl⟩
      lightbarLed := fun _ => ⟨0, le_rfl⟩
      group := fun _ => true
      batteries := []
      i8042Filter := true }
  during := ⟨id, fun _ => rfl⟩
  laterBatteries := []

/-- The removal leaves the group of the AC auto boot. -/
theorem not_throughout_undone_acAutoBoot :
    ¬ Throughout (probeCycle zeroEc acAutoBootDmi) Undone [plainCycle]
      { machine := ({}, ()) } := by
  intro throughout
  have undone := throughout [plainCycle] List.prefix_rfl
  have left := undone.nothingLeft (.group .acAutoBoot)
  revert left
  decide

end TuxedoDrivers.Uniwill.Platform
