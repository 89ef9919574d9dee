import TuxedoDrivers.Interaction.Results
import TuxedoDrivers.Uniwill.BacklightRestore
import TuxedoDrivers.Uniwill.PlatformDriver

/-!
# The backlight switch over the life of the driver

Bit 1 of the backlight status switches the backlight off.  Probe remembers
the bit, and removal hands what was remembered to the function that switches
the backlight, which takes it for whether the backlight is to be on.

The other operations on the register keep its bits 0, 2 and 3, and the bits
that removal leaves are known for every life of the driver.
-/

namespace TuxedoDrivers.Uniwill

open Interaction

/-! ## Changes of the brightness -/

/-- `uniwill_leds_set_brightness`. -/
def uniwillLedsSetBrightness (brightness : U32) : Driver Unit := do
  let result ←
    uniwillWriteKbdBlBrightnessWhiteWorkaround (brightness.setWidth 8)
  if result ≠ 0 then
    return ()
  else
    setStatics fun statics =>
      { statics with leds.ledCdevBrightness := brightness }

/-- The case of `uniwill_leds_notify_brightness_change_extern` for a keyboard
with one zone.  A brightness that the EC did not change is increased. -/
def notifyOneZoneRgb (brightness : U8) : Driver Bool := do
  let statics ← getStatics
  if statics.leds.mcledCdevBrightness = brightness.setWidth 32 then
    let next := BitVec.ofNat 8 ((brightness.toNat + 1) % 5)
    let result ← uniwillWriteKbdBlBrightness next
    if result ≠ 0 then
      return true
    else
      setStatics fun statics =>
        { statics with leds.mcledCdevBrightness := next.setWidth 32 }
      return true
  else
    setStatics fun statics =>
      { statics with leds.mcledCdevBrightness := brightness.setWidth 32 }
    return true

def uniwillLedsNotifyBrightnessChangeExtern : Driver Bool := do
  let statics ← getStatics
  if statics.leds.uwLedsInitialized = true ∧
      statics.leds.uniwillKblBrightnessEcControlled = true then
    let data ← uniwillReadEcRam uwEcRegKbdBlStatus
    let brightness := (data.data >>> 5) &&& 0x07
    match statics.leds.uniwillKbBacklightType with
    | .fixedColor | .fixedColor5Levels =>
        setStatics fun statics =>
          { statics with leds.ledCdevBrightness := brightness.setWidth 32 }
        return true
    | .oneZoneRgb => notifyOneZoneRgb brightness
    | .none | .perKeyRgb => return false
  else
    return false

/-! ## Lives of the driver -/

/-- What happens between probe and removal: the brightness of a white
keyboard or the colour and brightness of the other one is set, the EC says
that the brightness changed, or the machine is suspended and resumed. -/
inductive BacklightLifeStep where
  | white (brightness : U32)
  | color (red green blue brightness : U32)
  | notified
  | powerCycle
  deriving DecidableEq, Repr

def BacklightLifeStep.program : BacklightLifeStep → Driver Unit
  | .white brightness => uniwillLedsSetBrightness brightness
  | .color red green blue brightness =>
      setMultiIntensity red green blue brightness
  | .notified => do
      let _ ← uniwillLedsNotifyBrightnessChangeExtern
      return ()
  | .powerCycle => do
      let _ ← uniwillKeyboardSuspend
      let _ ← uniwillKeyboardResume
      return ()

def applyBacklightLife (step : BacklightLifeStep) (machine : Machine Ram) :
    Machine Ram :=
  (reliableEc.run step.program machine).2

/-- Probe, the steps, and removal. -/
def backlightLife (dmi : Dmi) (registrations : Registrations)
    (probe : ProbeStatics) (steps : List BacklightLifeStep)
    (machine : Machine Ram) : Machine Ram :=
  let probed :=
    reliableEc.run (uniwillKeyboardProbe dmi registrations probe) machine
  (reliableEc.run (uniwillKeyboardRemove probed.1)
    (runSteps applyBacklightLife steps probed.2)).2

/-- Of the backlight status, the switch and the bits 0, 2 and 3 are as they
were. -/
structure RestoresBacklight (before after : U8) : Prop where
  enable : after &&& 0x02 = before &&& 0x02
  others : after &&& 0x0d = before &&& 0x0d

/-! ## Bits of the status -/

section Bits

theorem kbdBlBrightnessByte_others (brightness data : U8) :
    kbdBlBrightnessByte brightness data &&& 0x0d = data &&& 0x0d := by
  have lower : ∀ data : U8,
      (data &&& ((0x0f : Nat) : U8)) &&& 0x0d = data &&& 0x0d := by
    decide
  have upper : ∀ brightness : U8, (brightness <<< 5) &&& 0x0d = 0 := by
    decide
  have reset : uwEcRegKbdBlStatusSubcmdReset &&& (0x0d : U8) = 0 := by
    decide
  rw [kbdBlBrightnessByte, BitVec.and_or_distrib_right,
    BitVec.and_or_distrib_right, lower, upper, reset]
  simp

/-- The byte that switches the backlight. -/
def switchedByte (enable data : U8) : U8 :=
  (data &&& ~~~((1 : U8) <<< 1)) |||
    (if enable &&& 0x01 = 0 then (1 : U8) <<< 1 else 0)

theorem switchedByte_others (enable data : U8) :
    switchedByte enable data &&& 0x0d = data &&& 0x0d := by
  unfold switchedByte
  split <;> (revert data; decide)

theorem switchedByte_enable (enable data : U8) :
    switchedByte enable data &&& 0x02 =
      if enable &&& 0x01 = 0 then 0x02 else 0x00 := by
  unfold switchedByte
  split <;> (revert data; decide)

theorem run_uniwillWriteKbdBlEnable (enable : U8) (machine : Machine Ram) :
    (reliableEc.run (uniwillWriteKbdBlEnable enable) machine).2 =
      (machine.1,
        Function.update machine.2 uwEcRegKbdBlStatus
          (switchedByte enable (machine.2 uwEcRegKbdBlStatus))) := by
  simp [uniwillWriteKbdBlEnable, updateUnchecked, switchedByte]

end Bits

/-! ## Operations that keep the other bits -/

/-- The bits 0, 2 and 3 of the status. -/
def otherBits (ram : Ram) : U8 :=
  ram uwEcRegKbdBlStatus &&& 0x0d

theorem otherBits_update (ram : Ram) (data : U8) :
    otherBits (Function.update ram uwEcRegKbdBlStatus data) =
      data &&& 0x0d := by
  rw [otherBits, Function.update_self]

theorem otherBits_update_of_ne {address : U16}
    (elsewhere : address ≠ uwEcRegKbdBlStatus) (ram : Ram) (data : U8) :
    otherBits (Function.update ram address data) = otherBits ram := by
  rw [otherBits, Function.update_of_ne elsewhere.symm, otherBits]

def KeepsOthers {α : Type} (program : Driver α) : Prop :=
  ∀ machine : Machine Ram,
    otherBits (reliableEc.run program machine).2.2 = otherBits machine.2

section KeepsOthers

variable {α β : Type}

theorem keepsOthers_pure (value : α) :
    KeepsOthers (pure value : Driver α) :=
  fun _ => rfl

theorem KeepsOthers.bind {program : Driver α} {rest : α → Driver β}
    (first : KeepsOthers program)
    (second : ∀ value, KeepsOthers (rest value)) :
    KeepsOthers (program >>= rest) := by
  intro machine
  rw [run_bind, second, first]

theorem KeepsOthers.ite {condition : Prop} [Decidable condition]
    {first second : Driver α}
    (positive : KeepsOthers first) (negative : KeepsOthers second) :
    KeepsOthers (if condition then first else second) := by
  split
  · exact positive
  · exact negative

theorem keepsOthers_of_confined {registers : U16 → Prop}
    {view : DriverState → β} {program : Driver α}
    (asks : program.Asks (Confined registers view))
    (elsewhere : ¬ registers uwEcRegKbdBlStatus) :
    KeepsOthers program := by
  intro machine
  rw [otherBits, ram_of_confined asks machine elsewhere]
  rfl

theorem keepsOthers_of_aside {program : Driver α}
    (asks : program.Asks KeepsAside) : KeepsOthers program :=
  keepsOthers_of_confined asks fun differs => differs rfl

theorem uniwillReadEcRam_keepsOthers (address : U16) :
    KeepsOthers (uniwillReadEcRam address) :=
  fun _ => rfl

theorem getStatics_keepsOthers : KeepsOthers getStatics :=
  fun _ => rfl

theorem setStatics_keepsOthers (update : DriverState → DriverState) :
    KeepsOthers (setStatics update) :=
  fun _ => rfl

theorem uniwillWriteEcRam_keepsOthers {address : U16}
    (elsewhere : address ≠ uwEcRegKbdBlStatus) (data : U8) :
    KeepsOthers (uniwillWriteEcRam address data) := by
  intro machine
  rw [run_uniwillWriteEcRam, reliableEc_write]
  exact otherBits_update_of_ne elsewhere machine.2 data

theorem uniwillWriteKbdBlEnable_keepsOthers (enable : U8) :
    KeepsOthers (uniwillWriteKbdBlEnable enable) := by
  intro machine
  rw [run_uniwillWriteKbdBlEnable]
  exact (otherBits_update _ _).trans (switchedByte_others enable _)

theorem uniwillWriteKbdBlBrightness_keepsOthers (brightness : U8) :
    KeepsOthers (uniwillWriteKbdBlBrightness brightness) := by
  intro machine
  rw [run_uniwillWriteKbdBlBrightness]
  exact (otherBits_update _ _).trans (kbdBlBrightnessByte_others brightness _)

theorem uniwillWriteKbdBlBrightnessWhiteWorkaround_keepsOthers
    (brightness : U8) :
    KeepsOthers
      (uniwillWriteKbdBlBrightnessWhiteWorkaround brightness) := by
  have brighten := uniwillWriteKbdBlBrightness_keepsOthers brightness
  refine (uniwillReadEcRam_keepsOthers _).bind fun immediate => ?_
  refine KeepsOthers.ite ?_ brighten
  have lit :=
    uniwillWriteEcRam_keepsOthers
      (show uwEcRegKbdBlRgbBlueBrightnessImmediate ≠ uwEcRegKbdBlStatus by
        decide) 0x01
  exact lit.bind fun _ => brighten

theorem uniwillWriteKbdBlColor_keepsOthers (red green blue : U8) :
    KeepsOthers (uniwillWriteKbdBlColor red green blue) := by
  intro machine
  rw [run_uniwillWriteKbdBlColor]
  simp [otherBits, withColor]

theorem uniwillLedsRestoreStateExtern_keepsOthers :
    KeepsOthers uniwillLedsRestoreStateExtern := by
  refine getStatics_keepsOthers.bind fun statics => ?_
  cases statics.leds.uniwillKbBacklightType with
  | none =>
      exact keepsOthers_pure ()
  | fixedColor =>
      exact
        (uniwillWriteKbdBlBrightnessWhiteWorkaround_keepsOthers _).bind
          fun _ => keepsOthers_pure ()
  | fixedColor5Levels =>
      exact
        (uniwillWriteKbdBlBrightnessWhiteWorkaround_keepsOthers _).bind
          fun _ => keepsOthers_pure ()
  | oneZoneRgb =>
      refine (uniwillWriteKbdBlColor_keepsOthers _ _ _).bind fun _ => ?_
      exact
        (uniwillWriteKbdBlBrightness_keepsOthers _).bind
          fun _ => keepsOthers_pure ()
  | perKeyRgb =>
      exact keepsOthers_pure ()

end KeepsOthers

/-! ## Steps -/

section Steps

theorem uniwillLedsSetBrightness_keepsOthers (brightness : U32) :
    KeepsOthers (uniwillLedsSetBrightness brightness) := by
  have write :=
    uniwillWriteKbdBlBrightnessWhiteWorkaround_keepsOthers
      (brightness.setWidth 8)
  refine write.bind fun result => ?_
  exact KeepsOthers.ite (keepsOthers_pure ()) (setStatics_keepsOthers _)

theorem uniwillLedsSetBrightnessMc_keepsOthers (brightness : U32) :
    KeepsOthers (uniwillLedsSetBrightnessMc brightness) := by
  have brighten : ∀ written : U8,
      KeepsOthers (do
        let result ← uniwillWriteKbdBlBrightness written
        if result ≠ 0 then
          return ()
        else
          setStatics fun statics =>
            { statics with leds.mcledCdevBrightness := brightness }) := by
    intro written
    refine
      (uniwillWriteKbdBlBrightness_keepsOthers written).bind
        fun result => ?_
    exact KeepsOthers.ite (keepsOthers_pure ()) (setStatics_keepsOthers _)
  refine getStatics_keepsOthers.bind fun statics => ?_
  refine KeepsOthers.ite (brighten 0) ?_
  refine (uniwillWriteKbdBlColor_keepsOthers _ _ _).bind fun result => ?_
  exact KeepsOthers.ite (keepsOthers_pure ()) (brighten _)

theorem uniwillLedsNotifyBrightnessChangeExtern_keepsOthers :
    KeepsOthers uniwillLedsNotifyBrightnessChangeExtern := by
  have stored : ∀ update,
      KeepsOthers (do
        setStatics update
        return true) := by
    intro update
    exact (setStatics_keepsOthers update).bind fun _ => keepsOthers_pure true
  have oneZone : ∀ brightness, KeepsOthers (notifyOneZoneRgb brightness) := by
    intro brightness
    refine getStatics_keepsOthers.bind fun statics => ?_
    refine KeepsOthers.ite ?_ (stored _)
    refine
      (uniwillWriteKbdBlBrightness_keepsOthers _).bind fun result => ?_
    exact KeepsOthers.ite (keepsOthers_pure true) (stored _)
  refine getStatics_keepsOthers.bind fun statics => ?_
  refine KeepsOthers.ite ?_ (keepsOthers_pure false)
  refine (uniwillReadEcRam_keepsOthers _).bind fun data => ?_
  cases statics.leds.uniwillKbBacklightType with
  | none => exact keepsOthers_pure false
  | fixedColor => exact stored _
  | fixedColor5Levels => exact stored _
  | oneZoneRgb => exact oneZone _
  | perKeyRgb => exact keepsOthers_pure false

theorem uniwillKeyboardSuspend_keepsOthers :
    KeepsOthers uniwillKeyboardSuspend := by
  have asks :
      suspendCustomProfile.Asks (Confined CustomProfileRegister id) :=
    suspendCustomProfile_confined
  have profile : KeepsOthers suspendCustomProfile :=
    keepsOthers_of_confined asks
      (show uwEcRegKbdBlStatus ≠ uwEcRegCustomProfile by decide)
  have fans : KeepsOthers suspendFans :=
    keepsOthers_of_confined suspendFans_confined (by decide)
  refine profile.bind fun _ => ?_
  refine (uniwillWriteKbdBlEnable_keepsOthers 0).bind fun _ => ?_
  exact fans.bind fun _ => keepsOthers_pure 0

theorem uniwillKeyboardResume_keepsOthers :
    KeepsOthers uniwillKeyboardResume := by
  have fans : KeepsOthers resumeFans :=
    keepsOthers_of_confined resumeFans_confined (by decide)
  have asks :
      resumeCustomProfile.Asks (Confined CustomProfileRegister id) :=
    resumeCustomProfile_confined
  have profile : KeepsOthers resumeCustomProfile :=
    keepsOthers_of_confined asks
      (show uwEcRegKbdBlStatus ≠ uwEcRegCustomProfile by decide)
  have priority : KeepsOthers uwChargingPriorityWriteState :=
    keepsOthers_of_confined uwChargingPriorityWriteState_confined
      (by decide)
  have chargingProfile : KeepsOthers uwChargingProfileWriteState :=
    keepsOthers_of_confined uwChargingProfileWriteState_confined
      (by decide)
  refine fans.bind fun _ => ?_
  refine profile.bind fun _ => ?_
  refine uniwillLedsRestoreStateExtern_keepsOthers.bind fun _ => ?_
  refine (uniwillWriteKbdBlEnable_keepsOthers 1).bind fun _ => ?_
  refine priority.bind fun _ => ?_
  exact chargingProfile.bind fun _ => keepsOthers_pure 0

theorem backlightLifeStep_keepsOthers (step : BacklightLifeStep) :
    KeepsOthers step.program := by
  cases step with
  | white brightness =>
      exact uniwillLedsSetBrightness_keepsOthers brightness
  | color red green blue brightness =>
      refine (setStatics_keepsOthers _).bind fun _ => ?_
      exact uniwillLedsSetBrightnessMc_keepsOthers brightness
  | notified =>
      exact
        uniwillLedsNotifyBrightnessChangeExtern_keepsOthers.bind
          fun _ => keepsOthers_pure ()
  | powerCycle =>
      refine uniwillKeyboardSuspend_keepsOthers.bind fun _ => ?_
      exact
        uniwillKeyboardResume_keepsOthers.bind fun _ => keepsOthers_pure ()

theorem otherBits_of_runSteps (steps : List BacklightLifeStep)
    (machine : Machine Ram) :
    otherBits (runSteps applyBacklightLife steps machine).2 =
      otherBits machine.2 := by
  induction steps generalizing machine with
  | nil => rfl
  | cons step rest inductionHypothesis =>
      rw [runSteps_cons, inductionHypothesis]
      exact backlightLifeStep_keepsOthers step machine

end Steps

/-! ## Probe -/

section Probe

/-- From a status, a program that ends like probe: the other bits are kept
and the switch is remembered. -/
def RemembersSwitch (status : U8) (program : Driver ProbeStatics) : Prop :=
  ∀ machine : Machine Ram, machine.2 uwEcRegKbdBlStatus = status →
    otherBits (reliableEc.run program machine).2.2 = status &&& 0x0d ∧
      (reliableEc.run program machine).1.uniwillKbdBlEnableStateOnStart =
        (status >>> 1) &&& 0x01

variable {status : U8}

/-- What leaves the status alone may come first. -/
theorem RemembersSwitch.after {α : Type} {program : Driver α}
    {rest : α → Driver ProbeStatics}
    (asks : program.Asks KeepsAside)
    (later : ∀ value, RemembersSwitch status (rest value)) :
    RemembersSwitch status (program >>= rest) := by
  intro machine content
  have kept :=
    ram_of_confined asks machine fun differs : uwEcRegKbdBlStatus ≠ _ =>
      differs rfl
  rw [run_bind]
  exact later _ _ (kept.trans content)

/-- What keeps the other bits may follow the read of the status. -/
theorem RemembersSwitch.read {rest : EcRead → Driver ProbeStatics}
    (keeps : KeepsOthers (rest (.ok status)))
    (remembers : (rest (.ok status)).Gives (fun _ => True)
      fun probe =>
        probe.uniwillKbdBlEnableStateOnStart = (status >>> 1) &&& 0x01) :
    RemembersSwitch status
      (uniwillReadEcRam uwEcRegKbdBlStatus >>= rest) := by
  rintro machine rfl
  rw [run_bind, run_uniwillReadEcRam, reliableEc_read]
  exact ⟨keeps machine, remembers.run reliableEc.environment machine⟩

/-- The set-up of a setting in the EC that can be read: whatever is loaded
keeps the state of the switch. -/
theorem settingInit_gives {β : Type} {probe : ProbeStatics}
    (load : DriverState → ProbeStatics) (loaded : ProbeStatics → Bool)
    (get : Driver β) (keep : β → DriverState → DriverState)
    (same : ∀ statics,
      (load statics).uniwillKbdBlEnableStateOnStart =
        probe.uniwillKbdBlEnableStateOnStart) :
    (getStatics >>= fun statics =>
      if loaded (load statics) = true then
        get >>= fun reply =>
          setStatics (keep reply) >>= fun _ => pure (load statics)
      else pure (load statics)).Gives (fun _ => True)
      fun later =>
        later.uniwillKbdBlEnableStateOnStart =
          probe.uniwillKbdBlEnableStateOnStart := by
  refine Program.Gives.after (Program.asks_any _) fun statics => ?_
  refine
    Program.Gives.ite (fun _ => ?_) fun _ =>
      Program.gives_pure (same statics)
  refine Program.Gives.after (Program.asks_any _) fun reply => ?_
  exact
    Program.Gives.after (Program.asks_any _) fun _ =>
      Program.gives_pure (same statics)

theorem uwAcAutoBootInit_gives (created : Bool) (probe : ProbeStatics) :
    (uwAcAutoBootInit created probe).Gives (fun _ => True)
      fun later =>
        later.uniwillKbdBlEnableStateOnStart =
          probe.uniwillKbdBlEnableStateOnStart := by
  apply settingInit_gives
    (fun statics =>
      if statics.uniwillDeviceFeatures.uniwillHasAcAutoBoot = true then
        { probe with uwAcAutoBootLoaded := created }
      else probe)
    ProbeStatics.uwAcAutoBootLoaded
  intro statics
  split <;> rfl

theorem uwUsbPowershareInit_gives (created : Bool) (probe : ProbeStatics) :
    (uwUsbPowershareInit created probe).Gives (fun _ => True)
      fun later =>
        later.uniwillKbdBlEnableStateOnStart =
          probe.uniwillKbdBlEnableStateOnStart := by
  apply settingInit_gives
    (fun statics =>
      if statics.uniwillDeviceFeatures.uniwillHasUsbPowershare = true then
        { probe with uwUsbPowershareLoaded := created }
      else probe)
    ProbeStatics.uwUsbPowershareLoaded
  intro statics
  split <;> rfl

theorem uniwillKeyboardProbe_remembersSwitch (dmi : Dmi)
    (registrations : Registrations) (probe : ProbeStatics) :
    RemembersSwitch status
      (uniwillKeyboardProbe dmi registrations probe) := by
  have write : ∀ {address : U16}, address ≠ uwEcRegKbdBlStatus →
      ∀ data, (uniwillWriteEcRam address data).Asks KeepsAside :=
    fun elsewhere _ => ⟨elsewhere, fun _ => trivial⟩
  refine RemembersSwitch.after (setRomId_aside dmi) fun _ => ?_
  refine
    RemembersSwitch.after (uniwillGetDeviceFeatures_aside dmi)
      fun features => ?_
  refine RemembersSwitch.after (write (by decide) _) fun _ => ?_
  refine
    RemembersSwitch.after (initManualFanCurve_aside features) fun _ => ?_
  refine
    RemembersSwitch.after (uniwillSetCustomProfileMode_aside dmi true)
      fun _ => ?_
  refine RemembersSwitch.after (write (by decide) _) fun _ => ?_
  refine RemembersSwitch.after (write (by decide) _) fun _ => ?_
  apply RemembersSwitch.read
  · refine
      (keepsOthers_of_aside (uniwillLedsInit_aside dmi _)).bind fun _ => ?_
    refine (uniwillWriteKbdBlEnable_keepsOthers 1).bind fun _ => ?_
    refine
      (keepsOthers_of_aside (uwLightbarInit_aside dmi _)).bind
        fun status => ?_
    refine
      (keepsOthers_of_aside (uwChargingPriorityInit_aside _)).bind
        fun _ => ?_
    refine
      (keepsOthers_of_aside (uwChargingProfileInit_aside _)).bind
        fun _ => ?_
    refine
      (keepsOthers_of_aside (uwAcAutoBootInit_aside _ _)).bind
        fun probe => ?_
    exact keepsOthers_of_aside (uwUsbPowershareInit_aside _ probe)
  · refine Program.Gives.after (Program.asks_any _) fun _ => ?_
    refine Program.Gives.after (Program.asks_any _) fun _ => ?_
    refine Program.Gives.after (Program.asks_any _) fun status => ?_
    refine Program.Gives.after (Program.asks_any _) fun _ => ?_
    refine Program.Gives.after (Program.asks_any _) fun _ => ?_
    refine (uwAcAutoBootInit_gives _ _).bind fun probe same => ?_
    have last :=
      uwUsbPowershareInit_gives registrations.usbPowershareGroup probe
    rw [same] at last
    exact last

end Probe

/-! ## Removal -/

/-- Removal switches the backlight the other way than it was. -/
theorem uniwillKeyboardRemove_status {status : U8} {probe : ProbeStatics}
    (remembered :
      probe.uniwillKbdBlEnableStateOnStart = (status >>> 1) &&& 0x01)
    (machine : Machine Ram) :
    (reliableEc.run (uniwillKeyboardRemove probe) machine).2.2
        uwEcRegKbdBlStatus =
      switchedByte ((status >>> 1) &&& 0x01)
        (machine.2 uwEcRegKbdBlStatus) := by
  have known : ∀ status : U8, (status >>> 1) &&& 0x01 ≠ 0xff := by
    decide
  simp only [uniwillKeyboardRemove, uniwillLedsRemove, cancelRestartWork,
    run_bind, run_setStatics, run_pure, remembered, if_pos (known status),
    run_uniwillWriteKbdBlEnable, run_uniwillWriteEcRam, reliableEc_write]
  rw [Function.update_of_ne (by decide), Function.update_self]

/-- After a life of the driver the switch is the other way than probe found
it, and the bits 0, 2 and 3 are as it found them. -/
theorem backlightLife_status (dmi : Dmi) (registrations : Registrations)
    (probe : ProbeStatics) (steps : List BacklightLifeStep)
    (machine : Machine Ram) :
    let before := machine.2 uwEcRegKbdBlStatus
    let after :=
      (backlightLife dmi registrations probe steps machine).2
        uwEcRegKbdBlStatus
    after &&& 0x02 = ~~~before &&& 0x02 ∧
      after &&& 0x0d = before &&& 0x0d := by
  intro before after
  obtain ⟨othersProbed, remembered⟩ :=
    uniwillKeyboardProbe_remembersSwitch dmi registrations probe machine rfl
  have afterIs :
      after = switchedByte ((before >>> 1) &&& 0x01) _ :=
    uniwillKeyboardRemove_status remembered _
  rw [afterIs]
  constructor
  · rw [switchedByte_enable]
    generalize before = status
    revert status
    decide
  · rw [switchedByte_others]
    exact (otherBits_of_runSteps steps _).trans othersProbed

/-- No life of the driver restores the switch. -/
theorem not_restoresBacklight (dmi : Dmi) (registrations : Registrations)
    (probe : ProbeStatics) (steps : List BacklightLifeStep)
    (machine : Machine Ram) :
    ¬ RestoresBacklight (machine.2 uwEcRegKbdBlStatus)
      ((backlightLife dmi registrations probe steps machine).2
        uwEcRegKbdBlStatus) := by
  intro restores
  have inverted : ∀ before : U8,
      ~~~before &&& 0x02 ≠ before &&& 0x02 := by
    decide
  have switched :=
    (backlightLife_status dmi registrations probe steps machine).1
  exact inverted _ (switched.symm.trans restores.enable)

/-- A life on a machine without a keyboard backlight, from a status that is
0, leaves the backlight switched off. -/
theorem backlightLife_switchesOff :
    let registrations : Registrations :=
      { backlightLed := fun _ => 0
        lightbarLed := fun _ => 0
        chargingPrioGroup := true
        chargingProfileGroup := true
        acAutoBootGroup := true
        usbPowershareGroup := true }
    let after :=
      (backlightLife (fun _ => none) registrations {}
        [.white 2, .powerCycle] ({}, fun _ => 0)).2 uwEcRegKbdBlStatus
    after &&& 0x02 = 0x02 ∧ ¬ RestoresBacklight 0 after := by
  intro registrations after
  have switchedOff : after &&& 0x02 = 0x02 :=
    (backlightLife_status (fun _ => none) registrations {}
      [.white 2, .powerCycle] ({}, fun _ => 0)).1
  refine ⟨switchedOff, fun restores => ?_⟩
  have restored := restores.enable
  rw [switchedOff] at restored
  exact absurd restored (by decide)

end TuxedoDrivers.Uniwill
