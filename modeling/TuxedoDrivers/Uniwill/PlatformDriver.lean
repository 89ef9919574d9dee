import TuxedoDrivers.Uniwill.ChargingSettings
import TuxedoDrivers.Uniwill.RomId

/-!
# Probe and removal of the platform driver

`uniwill_keyboard_probe` and `uniwill_keyboard_remove`.  The results of the
kernel's registration functions are parameters; what the kernel does with a
registered LED, sysfs group, battery hook or i8042 filter is left out, and so
are the WMI call of the local dimming and the EFI variable of the hidden BIOS
options, which touch neither the EC RAM nor the variables here.
-/

namespace TuxedoDrivers.Uniwill

open Interaction

abbrev uwEcRegManualMode : U16 := 0x0741

/-- The variables that only probe and removal use. -/
structure ProbeStatics where
  uniwillKbdBlEnableStateOnStart : U8 := 0xff
  uwLightbarLoaded : Bool := false
  uwAcAutoBootLoaded : Bool := false
  uwUsbPowershareLoaded : Bool := false
  deriving DecidableEq, Repr

/-- What the kernel answers to the registrations: the status for each LED,
and whether each sysfs group could be created. -/
structure Registrations where
  backlightLed : KbBacklightType → Int
  lightbarLed : String → Int
  chargingPrioGroup : Bool
  chargingProfileGroup : Bool
  acAutoBootGroup : Bool
  usbPowershareGroup : Bool

/-! ## Lightbar -/

def uniwillLightbarLedMaxBrightness : Nat := 0x24

def uniwillWriteLightbarRgb (red green blue : U8) : Driver Unit := do
  let write (address : U16) (value : U8) : Driver Unit :=
    if value.toNat ≤ uniwillLightbarLedMaxBrightness then do
      let _ ← uniwillWriteEcRam address value
      return ()
    else
      return ()
  write 0x0749 red
  write 0x074a green
  write 0x074b blue

def lightbarSupported (dmi : Dmi) : Bool :=
  dmiMatchAny dmi <|
    boardNames ["LAPQC71A", "LAPQC71B", "TRINITY1501I", "TRINITY1701I"] ++
      [(.productName, "A60 MUV")] ++
      productSkus
        ["STELLARIS1XI03", "STELLARIS1XA03", "STELLARIS1XI04", "STEPOL1XA04"]

def uniwillLightbarLedNameRgbRed : String := "lightbar_rgb:1:status"
def uniwillLightbarLedNameRgbGreen : String := "lightbar_rgb:2:status"
def uniwillLightbarLedNameRgbBlue : String := "lightbar_rgb:3:status"
def uniwillLightbarLedNameAnimation : String := "lightbar_animation::status"

def lightbarLedClassdevs : List String :=
  [ uniwillLightbarLedNameRgbRed, uniwillLightbarLedNameRgbGreen,
    uniwillLightbarLedNameRgbBlue, uniwillLightbarLedNameAnimation ]

/-- Returns the first negative status of a registration. -/
def uwLightbarInit (dmi : Dmi) (register : String → Int) : Driver Int :=
  if lightbarSupported dmi = false then
    pure (-enodev)
  else
    match lightbarLedClassdevs.find? fun led => decide (register led < 0) with
    | some led => pure (register led)
    | none => do
        uniwillWriteLightbarAnimation false
        uniwillWriteLightbarRgb 0 0 0
        return 0

/-! ## AC auto boot and USB powershare -/

/-- Status and the bit `offset` of a register; the byte is not shifted when
the read failed. -/
def uwGetBit (address : U16) (offset : Nat) : Driver (Int × U8) := do
  let reply ← uniwillReadEcRam address
  if reply.status = 0 then
    return (reply.status, (reply.data >>> offset) &&& 0x01)
  else
    return (reply.status, reply.data)

def uwGetAcAutoBoot : Driver (Int × U8) :=
  uwGetBit uwEcRegAcAutoBootStatus 3

def uwGetUsbPowershare : Driver (Int × U8) :=
  uwGetBit uwEcRegUsbPowershareStatus 4

def uwAcAutoBootInit (created : Bool) (probe : ProbeStatics) :
    Driver ProbeStatics := do
  let statics ← getStatics
  let probe :=
    if statics.uniwillDeviceFeatures.uniwillHasAcAutoBoot = true then
      { probe with uwAcAutoBootLoaded := created }
    else probe
  if probe.uwAcAutoBootLoaded = true then
    let reply ← uwGetAcAutoBoot
    setStatics fun statics =>
      { statics with
        settings.uwAcAutoBootLastWrittenValue := decide (reply.2 ≠ 0) }
    return probe
  else
    return probe

def uwUsbPowershareInit (created : Bool) (probe : ProbeStatics) :
    Driver ProbeStatics := do
  let statics ← getStatics
  let probe :=
    if statics.uniwillDeviceFeatures.uniwillHasUsbPowershare = true then
      { probe with uwUsbPowershareLoaded := created }
    else probe
  if probe.uwUsbPowershareLoaded = true then
    let reply ← uwGetUsbPowershare
    setStatics fun statics =>
      { statics with
        settings.uwUsbPowershareLastWrittenValue := decide (reply.2 ≠ 0) }
    return probe
  else
    return probe

/-! ## Probe -/

/-- One byte of the default fan curve becomes the manual one. -/
def copyFanCurveByte (i : Nat) : Driver Unit := do
  let data ← uniwillReadEcRam (0x0786 + BitVec.ofNat 16 i)
  let _ ← uniwillWriteEcRam (0x0743 + BitVec.ofNat 16 i) data.data
  return ()

def initManualFanCurve (features : DeviceFeatures) : Driver Unit :=
  if features.uniwillProfileV1 = true then
    (List.range 5).forM copyFanCurveByte
  else
    pure ()

def uniwillKeyboardProbe (dmi : Dmi) (registrations : Registrations)
    (probe : ProbeStatics) : Driver ProbeStatics := do
  let _ ← setRomId dmi
  let features ← uniwillGetDeviceFeatures dmi
  let _ ← uniwillWriteEcRam 0x0751 0x00
  initManualFanCurve features
  uniwillSetCustomProfileMode dmi true
  let _ ← uniwillWriteEcRam uwEcRegManualMode 0x01
  let _ ← uniwillWriteEcRam 0x044f 0x00
  let data ← uniwillReadEcRam uwEcRegKbdBlStatus
  let _ ← uniwillLedsInit dmi registrations.backlightLed
  uniwillWriteKbdBlEnable 1
  let status ← uwLightbarInit dmi registrations.lightbarLed
  uwChargingPriorityInit registrations.chargingPrioGroup
  uwChargingProfileInit registrations.chargingProfileGroup
  let probe ←
    uwAcAutoBootInit registrations.acAutoBootGroup
      { probe with
        uniwillKbdBlEnableStateOnStart := (data.data >>> 1) &&& 0x01
        uwLightbarLoaded := decide (status ≥ 0) }
  uwUsbPowershareInit registrations.usbPowershareGroup probe

/-! ## Removal -/

def uniwillLedsRemove : Driver Int := do
  setStatics fun statics => { statics with leds.uwLedsInitialized := false }
  return 0

/-- `cancel_delayed_work_sync` waits for a running handler and keeps it from
scheduling itself again. -/
def cancelRestartWork : Driver Unit :=
  setStatics fun statics => { statics with fan.restartWorkPending := false }

def uniwillKeyboardRemove (probe : ProbeStatics) : Driver Unit := do
  let _ ← uniwillLedsRemove
  if probe.uniwillKbdBlEnableStateOnStart ≠ 0xff then
    uniwillWriteKbdBlEnable probe.uniwillKbdBlEnableStateOnStart
  else
    pure ()
  let _ ← uniwillWriteEcRam uwEcRegManualMode 0x00
  cancelRestartWork

/-! ## The parts of a probe -/

section Parts

variable {β : Type} {registers : U16 → Prop} {view : DriverState → β}

theorem initManualFanCurve_confined
    (within : ∀ i ∈ List.range 5, registers (0x0743 + BitVec.ofNat 16 i))
    (features : DeviceFeatures) :
    (initManualFanCurve features).Asks (Confined registers view) := by
  apply Program.Asks.ite
  · intro _
    apply Program.Asks.forM
    intro i member
    apply (uniwillReadEcRam_confined _).bind
    intro data
    exact
      (uniwillWriteEcRam_confined (within i member) _).bind fun _ => trivial
  · intro _
    trivial

theorem readBareboneId_confined
    (hidden : ∀ statics id,
      view { statics with leds.uniwillBareboneId := id } = view statics)
    (retries : Nat) (result : Int) :
    (readBareboneId retries result).Asks (Confined registers view) := by
  induction retries generalizing result with
  | zero =>
      trivial
  | succ retries inductionHypothesis =>
      apply (uniwillReadEcRam_confined _).bind
      intro reply
      apply Program.Asks.bind
      · exact setStatics_confined fun statics => hidden statics reply.data
      · intro _
        exact
          Program.Asks.ite (fun _ => trivial)
            fun _ => inductionHypothesis _

theorem detectBacklightType_confined
    (hidden : ∀ statics type,
      view { statics with
        leds.uniwillKbBacklightType := type
        leds.uniwillKblBrightnessEcControlled := true } = view statics)
    (dmi : Dmi) :
    (detectBacklightType dmi).Asks (Confined registers view) := by
  have detected : ∀ type : KbBacklightType,
      (setBacklightType type).Asks (Confined registers view) :=
    fun type => setStatics_confined fun statics => hidden statics type
  apply getStatics_confined.bind
  intro statics
  apply Program.Asks.ite
  · intro _
    trivial
  · intro _
    apply Program.Asks.ite
    · intro _
      exact (detected _).bind fun _ => trivial
    · intro _
      apply Program.Asks.ite
      · intro _
        exact (detected _).bind fun _ => trivial
      · intro _
        apply (uniwillReadEcRam_confined _).bind
        intro data
        apply Program.Asks.ite
        · intro _
          trivial
        · intro _
          exact
            Program.Asks.ite (fun _ => (detected _).bind fun _ => trivial)
              fun _ => trivial

theorem registerBacklight_confined
    (hidden : ∀ statics,
      view { statics with leds.ledCdevMaxBrightness := 0x04 } =
        view statics)
    (register : KbBacklightType → Int) :
    (registerBacklight register).Asks (Confined registers view) := by
  apply getStatics_confined.bind
  intro statics
  cases statics.leds.uniwillKbBacklightType with
  | fixedColor5Levels =>
      apply Program.Asks.bind
      · exact setStatics_confined hidden
      · intro _
        trivial
  | none =>
      trivial
  | fixedColor =>
      trivial
  | oneZoneRgb =>
      trivial
  | perKeyRgb =>
      trivial

theorem uniwillWriteLightbarRgb_confined
    (redWithin : registers 0x0749) (greenWithin : registers 0x074a)
    (blueWithin : registers 0x074b) (red green blue : U8) :
    (uniwillWriteLightbarRgb red green blue).Asks
      (Confined registers view) := by
  have write : ∀ (address : U16) (value : U8), registers address →
      (if value.toNat ≤ uniwillLightbarLedMaxBrightness then
          uniwillWriteEcRam address value >>= fun _ => pure ()
        else pure () : Driver Unit).Asks (Confined registers view) := by
    intro address value within
    apply Program.Asks.ite
    · intro _
      exact
        (uniwillWriteEcRam_confined within value).bind fun _ => trivial
    · intro _
      trivial
  apply (write 0x0749 red redWithin).bind
  intro _
  apply (write 0x074a green greenWithin).bind
  intro _
  exact write 0x074b blue blueWithin

theorem uwGetBit_confined (address : U16) (offset : Nat) :
    (uwGetBit address offset).Asks (Confined registers view) := by
  apply (uniwillReadEcRam_confined _).bind
  intro reply
  exact Program.Asks.ite (fun _ => trivial) fun _ => trivial

theorem uwAcAutoBootInit_confined
    (hidden : ∀ statics value,
      view { statics with
        settings.uwAcAutoBootLastWrittenValue := value } = view statics)
    (created : Bool) (probe : ProbeStatics) :
    (uwAcAutoBootInit created probe).Asks (Confined registers view) := by
  apply getStatics_confined.bind
  intro statics
  apply Program.Asks.ite
  · intro _
    apply (uwGetBit_confined _ _).bind
    intro reply
    apply Program.Asks.bind
    · exact setStatics_confined fun statics => hidden statics _
    · intro _
      trivial
  · intro _
    trivial

theorem uwUsbPowershareInit_confined
    (hidden : ∀ statics value,
      view { statics with
        settings.uwUsbPowershareLastWrittenValue := value } = view statics)
    (created : Bool) (probe : ProbeStatics) :
    (uwUsbPowershareInit created probe).Asks (Confined registers view) := by
  apply getStatics_confined.bind
  intro statics
  apply Program.Asks.ite
  · intro _
    apply (uwGetBit_confined _ _).bind
    intro reply
    apply Program.Asks.bind
    · exact setStatics_confined fun statics => hidden statics _
    · intro _
      trivial
  · intro _
    trivial

end Parts

/-! ## What probe and removal leave alone -/

section Fan

/-- Any access to the EC but a write of the backlight status, and no variable
of the fan control. -/
def KeepsAside : UniwillRequest → Prop :=
  Confined (fun address => address ≠ uwEcRegKbdBlStatus) DriverState.fan

/-- Any access to the EC, and no variable of the fan control. -/
def KeepsFan : UniwillRequest → Prop :=
  Confined (fun _ => True) DriverState.fan

theorem keepsFan_of_confined {α : Type} {registers : U16 → Prop}
    {program : Driver α}
    (asks : program.Asks (Confined registers DriverState.fan)) :
    program.Asks KeepsFan :=
  confined_mono asks (fun _ _ => trivial) fun _ _ same => same

private theorem aside_of_confined {α : Type} {program : Driver α}
    (asks : program.Asks
      (Confined (fun address => address ≠ uwEcRegKbdBlStatus)
        DriverState.fan)) :
    program.Asks KeepsAside :=
  asks

theorem keepsFan_of_aside {α : Type} {program : Driver α}
    (asks : program.Asks KeepsAside) : program.Asks KeepsFan :=
  keepsFan_of_confined asks

private theorem setStatics_aside {update : DriverState → DriverState}
    (hidden : ∀ statics, (update statics).fan = statics.fan) :
    (setStatics update).Asks KeepsAside :=
  setStatics_confined hidden

private theorem read_aside (address : U16) :
    (uniwillReadEcRam address).Asks KeepsAside :=
  uniwillReadEcRam_confined address

private theorem write_aside {address : U16}
    (elsewhere : address ≠ uwEcRegKbdBlStatus) (data : U8) :
    (uniwillWriteEcRam address data).Asks KeepsAside :=
  ⟨elsewhere, fun _ => trivial⟩

private theorem updateUnchecked_aside {address : U16}
    (elsewhere : address ≠ uwEcRegKbdBlStatus) (update : U8 → U8) :
    (updateUnchecked address update).Asks KeepsAside :=
  (read_aside _).bind fun _ => write_aside elsewhere _

theorem uniwillSetCustomProfileMode_aside
    (dmi : Dmi) (zeroBitInitially : Bool) :
    (uniwillSetCustomProfileMode dmi zeroBitInitially).Asks KeepsAside := by
  refine
    confined_mono (uniwillSetCustomProfileMode_confined dmi _) ?_
      fun _ _ same => congrArg Prod.fst same
  rintro address rfl
  decide

theorem setRomId_aside (dmi : Dmi) : (setRomId dmi).Asks KeepsAside := by
  refine
    confined_mono (confined_of_accessWithin (setRomId_within dmi)) ?_
      fun _ _ same => same
  rintro address within rfl
  exact absurd within (by decide)

theorem uniwillGetDeviceFeatures_aside (dmi : Dmi) :
    (uniwillGetDeviceFeatures dmi).Asks KeepsAside := by
  have loads :
      (uniwillGetDeviceFeatures dmi).Asks
        (Confined (fun address => address ≠ uwEcRegKbdBlStatus)
          otherStatics) :=
    confined_of_loadRequests (uniwillGetDeviceFeatures_asks dmi)
  exact
    confined_mono loads (fun _ elsewhere => elsewhere)
      fun _ _ same => congrArg Prod.fst same

theorem initManualFanCurve_aside (features : DeviceFeatures) :
    (initManualFanCurve features).Asks KeepsAside :=
  aside_of_confined (initManualFanCurve_confined (by decide) features)

theorem uniwillLedsInit_aside
    (dmi : Dmi) (register : KbBacklightType → Int) :
    (uniwillLedsInit dmi register).Asks KeepsAside := by
  have read : (readBareboneId 3 0).Asks KeepsAside :=
    aside_of_confined (readBareboneId_confined (fun _ _ => rfl) 3 0)
  have detected : (detectBacklightType dmi).Asks KeepsAside :=
    aside_of_confined (detectBacklightType_confined (fun _ _ => rfl) dmi)
  have registered : (registerBacklight register).Asks KeepsAside :=
    aside_of_confined (registerBacklight_confined (fun _ => rfl) register)
  refine read.bind fun result => ?_
  refine getStatics_confined.bind fun statics => ?_
  refine Program.Asks.ite (fun _ => trivial) fun _ => ?_
  refine Program.Asks.bind
    ((updateUnchecked_aside (by decide) _).bind fun _ => trivial) fun _ => ?_
  refine detected.bind fun result => ?_
  refine Program.Asks.ite (fun _ => trivial) fun _ => ?_
  refine registered.bind fun result => ?_
  refine Program.Asks.ite (fun _ => trivial) fun _ => ?_
  exact
    Program.Asks.bind (setStatics_aside fun _ => rfl) fun _ => trivial

theorem uwLightbarInit_aside
    (dmi : Dmi) (register : String → Int) :
    (uwLightbarInit dmi register).Asks KeepsAside := by
  have rgb : (uniwillWriteLightbarRgb 0 0 0).Asks KeepsAside :=
    aside_of_confined
      (uniwillWriteLightbarRgb_confined (by decide) (by decide) (by decide)
        0 0 0)
  refine Program.Asks.ite (fun _ => trivial) fun _ => ?_
  cases lightbarLedClassdevs.find? fun led => decide (register led < 0) with
  | some led =>
      trivial
  | none =>
      have animation :
          (uniwillWriteLightbarAnimation false).Asks KeepsAside :=
        (updateUnchecked_aside (by decide) _).bind fun _ => trivial
      apply animation.bind
      intro _
      exact rgb.bind fun _ => trivial

theorem uwChargingPriorityInit_aside (created : Bool) :
    (uwChargingPriorityInit created).Asks KeepsAside := by
  refine Program.Asks.bind (setStatics_aside ?_) fun _ => ?_
  · intro statics
    split <;> rfl
  · refine getStatics_confined.bind fun statics => ?_
    refine Program.Asks.ite (fun _ => ?_) fun _ => trivial
    refine Program.Asks.bind
      ((read_aside _).bind fun _ => trivial) fun _ => ?_
    exact setStatics_aside fun _ => rfl

theorem uwChargingProfileInit_aside (created : Bool) :
    (uwChargingProfileInit created).Asks KeepsAside := by
  have get : uwGetChargingProfile.Asks KeepsAside := by
    refine (read_aside _).bind fun reply => ?_
    exact Program.Asks.ite (fun _ => trivial) fun _ => trivial
  refine Program.Asks.bind (setStatics_aside ?_) fun _ => ?_
  · intro statics
    split <;> rfl
  · refine getStatics_confined.bind fun statics => ?_
    refine Program.Asks.ite (fun _ => ?_) fun _ => trivial
    exact get.bind fun _ => setStatics_aside fun _ => rfl

theorem uwAcAutoBootInit_aside
    (created : Bool) (probe : ProbeStatics) :
    (uwAcAutoBootInit created probe).Asks KeepsAside :=
  aside_of_confined
    (uwAcAutoBootInit_confined (fun _ _ => rfl) created probe)

theorem uwUsbPowershareInit_aside
    (created : Bool) (probe : ProbeStatics) :
    (uwUsbPowershareInit created probe).Asks KeepsAside :=
  aside_of_confined
    (uwUsbPowershareInit_confined (fun _ _ => rfl) created probe)

theorem uniwillKeyboardProbe_keepsFan
    (dmi : Dmi) (registrations : Registrations) (probe : ProbeStatics) :
    (uniwillKeyboardProbe dmi registrations probe).Asks KeepsFan := by
  have aside : ∀ {α : Type} {program : Driver α},
      program.Asks KeepsAside → program.Asks KeepsFan := keepsFan_of_aside
  have write : ∀ address data,
      (uniwillWriteEcRam address data).Asks KeepsFan :=
    fun _ _ => ⟨trivial, fun _ => trivial⟩
  refine (aside (setRomId_aside dmi)).bind fun _ => ?_
  refine (aside (uniwillGetDeviceFeatures_aside dmi)).bind fun features => ?_
  refine (write _ _).bind fun _ => ?_
  refine (aside (initManualFanCurve_aside features)).bind fun _ => ?_
  refine
    (aside (uniwillSetCustomProfileMode_aside dmi true)).bind fun _ => ?_
  refine (write _ _).bind fun _ => ?_
  refine (write _ _).bind fun _ => ?_
  refine (aside (read_aside _)).bind fun data => ?_
  refine (aside (uniwillLedsInit_aside dmi _)).bind fun _ => ?_
  refine
    (keepsFan_of_confined (uniwillWriteKbdBlEnable_confined 1)).bind
      fun _ => ?_
  refine (aside (uwLightbarInit_aside dmi _)).bind fun status => ?_
  refine (aside (uwChargingPriorityInit_aside _)).bind fun _ => ?_
  refine (aside (uwChargingProfileInit_aside _)).bind fun _ => ?_
  refine (aside (uwAcAutoBootInit_aside _ _)).bind fun probe => ?_
  exact aside (uwUsbPowershareInit_aside _ probe)

/-- Removal takes the restart work off the queue and changes no other
variable of the fan control. -/
theorem fan_uniwillKeyboardRemove {σ : Type} (device : EcDevice σ)
    (probe : ProbeStatics) (machine : Machine σ) :
    (device.run (uniwillKeyboardRemove probe) machine).2.1.fan =
      { machine.1.fan with restartWorkPending := false } := by
  have switched : ∀ later : Machine σ,
      (device.run (uniwillWriteKbdBlEnable
        probe.uniwillKbdBlEnableStateOnStart) later).2.1.fan =
        later.1.fan :=
    view_of_confined (uniwillWriteKbdBlEnable_confined _) device
  simp only [uniwillKeyboardRemove, uniwillLedsRemove, cancelRestartWork,
    run_bind, run_setStatics, run_pure, run_ite, run_uniwillWriteEcRam]
  split
  · simp only [switched]
  · rfl

end Fan

end TuxedoDrivers.Uniwill
