import TuxedoDrivers.Keyboard.Core

/-!
# Interfaces and event callbacks

How the drivers of the firmware interfaces come and go: the functions of
`clevo_keyboard.h` and `uniwill_keyboard.h` that add and remove an interface,
and the callbacks that these hand to the interface for its events.
-/

namespace TuxedoDrivers.Keyboard

open Interaction
open Clevo (ClevoInterface)

/-! ## Clevo -/

def clevoInterfaceWmiStrid : String :=
  "clevo_wmi"

def clevoInterfaceAcpiStrid : String :=
  "clevo_acpi"

/-- WMI is used only if nothing else is, ACPI takes priority. -/
def clevoKeyboardAddInterface (newInterface : ClevoInterface) :
    Core Int := do
  if newInterface.stringId = clevoInterfaceWmiStrid then
    setStatics fun statics =>
      { statics with clevoInterfacesWmi := some newInterface }
    kernel (.setEventCallb (.clevo newInterface))
    enableWmi
    initIfActive
    return 0
  else if newInterface.stringId = clevoInterfaceAcpiStrid then
    setStatics fun statics =>
      { statics with clevoInterfacesAcpi := some newInterface }
    kernel (.setEventCallb (.clevo newInterface))
    let _ ← kernel (.setEventsEnabled newInterface)
    setStatics fun statics =>
      { statics with activeClevoInterface := statics.clevoInterfacesAcpi }
    initIfActive
    return 0
  else
    return -einval
where
  enableWmi : Core Unit := do
    let statics ← getStatics
    if statics.activeClevoInterface = none then
      let _ ← kernel (.setEventsEnabled newInterface)
      setStatics fun statics =>
        { statics with activeClevoInterface := statics.clevoInterfacesWmi }
    else
      return
  initIfActive : Core Unit := do
    let statics ← getStatics
    if statics.activeClevoInterface ≠ none then
      let _ ← tuxedoKeyboardInitDriver .clevo
      return
    else
      return

def clevoKeyboardRemoveInterface (interface : ClevoInterface) :
    Core Int := do
  if interface.stringId = clevoInterfaceWmiStrid then
    setStatics fun statics => { statics with clevoInterfacesWmi := none }
    removeIfActive
    return 0
  else if interface.stringId = clevoInterfaceAcpiStrid then
    setStatics fun statics => { statics with clevoInterfacesAcpi := none }
    removeIfActive
    return 0
  else
    return -einval
where
  removeIfActive : Core Unit := do
    let statics ← getStatics
    if statics.activeClevoInterface = some interface then
      tuxedoKeyboardRemoveDriver (some .clevo)
      setStatics fun statics => { statics with activeClevoInterface := none }
    else
      return

/-! ## Uniwill -/

/-- The only interface object there is has the identifier that is asked
for. -/
def uniwillAddInterface : Core Int := do
  setStatics fun statics => { statics with uniwillInterfacesWmi := true }
  kernel (.setEventCallb .uniwill)
  let _ ← tuxedoKeyboardInitDriver .uniwill
  return 0

def uniwillRemoveInterface : Core Int := do
  tuxedoKeyboardRemoveDriver (some .uniwill)
  setStatics fun statics => { statics with uniwillInterfacesWmi := false }
  return 0

/-! ## Drivers of the interfaces -/

/-- The end of `clevo_wmi_probe`, `clevo_platform_probe` and
`uniwill_wmi_probe`, after their checks. -/
def probeInterface : EventSource → Core Int
  | .clevo interface => do
      kernel (.installNotifyHandler (.clevo interface))
      clevoKeyboardAddInterface interface
  | .uniwill => do
      kernel (.installNotifyHandler .uniwill)
      uniwillAddInterface

/-- `clevo_wmi_remove`, `clevo_acpi_remove` and `uniwill_wmi_remove`.  Only
the ACPI driver stops the events first, for the others the WMI core does it
after the driver has returned. -/
def removeInterface : EventSource → Core Int
  | .clevo .wmi => do
      let result ← clevoKeyboardRemoveInterface .wmi
      kernel (.removeNotifyHandler (.clevo .wmi))
      return result
  | .clevo .acpi => do
      kernel (.removeNotifyHandler (.clevo .acpi))
      clevoKeyboardRemoveInterface .acpi
  | .uniwill => do
      let result ← uniwillRemoveInterface
      kernel (.removeNotifyHandler .uniwill)
      return result

/-! ## Event callbacks -/

/-- The key combination that opens the control center, reported to the input
device of a driver. -/
def reportCombo (driver : KeyboardDriver) : Core Unit := do
  reportKey .leftMeta true
  reportKey .leftAlt true
  reportKey .f6 true
  sync
  reportKey .f6 false
  reportKey .leftAlt false
  reportKey .leftMeta false
  sync
where
  reportKey (key : ComboKey) (pressed : Bool) : Core Unit := do
    let device ← kernel (.driverInputDevice driver)
    kernel (.inputReportKey device key pressed)
  sync : Core Unit := do
    let device ← kernel (.driverInputDevice driver)
    kernel (.inputSync device)

def clevoSendCcCombo : Core Unit :=
  reportCombo .clevo

/-- The event as a key of the keymap of the input device of a driver, if that
is set. -/
def reportKnownEvent (driver : KeyboardDriver) (code : U32) :
    Core Unit := do
  let inputDevice ← kernel (.driverInputDevice driver)
  match inputDevice with
  | none => return
  | some device =>
      let _ ← kernel (.sparseKeymapReportKnownEvent device code)
      return

def clevoEventGaugeKey : U32 := 0x59
def clevoEventKbLedsCycleMode : U32 := 0x83
def clevoEventKbLedsCycleBrightness : U32 := 0x8A
def clevoEventFnLockToggle : U32 := 0x25

/-- The `switch` of `clevo_keyboard_event_callb`. -/
def clevoHandleEvent (event : U32) : Core Unit := do
  if event = clevoEventGaugeKey then
    clevoSendCcCombo
  else if event = clevoEventKbLedsCycleMode then
    let backlight ← kernel .clevoLedsGetBacklightType
    if backlight = .fixedColor then
      clevoSendCcCombo
    else
      kernel (.eventAction .setNextColorWholeKb)
  else if event = clevoEventKbLedsCycleBrightness then
    kernel (.eventAction .clevoLedsNotifyBrightnessChange)
  else if event = clevoEventFnLockToggle then
    kernel (.eventAction .toggleFnLock)
  else
    return

/-- The end of the Clevo callback: the current driver may be the other
one. -/
def reportToCurrentDriver (event : U32) : Core Unit := do
  let statics ← getStatics
  match statics.currentDriver with
  | none => return
  | some driver => reportKnownEvent driver event

def clevoKeyboardEventCallb (event : U32) : Core Unit := do
  clevoHandleEvent event
  reportToCurrentDriver event

def uniwillOsdModeChangeKeyEvent : U32 := 0x0B0
def uniwillOsdDcAdapterChange : U32 := 0x0AB

/-- `UNIWILL_KEY_KBDILLUMTOGGLE` and the levels 0 to 4. -/
def uniwillBrightnessEvents : List U32 :=
  [0x0B9, 0x03B, 0x03C, 0x03D, 0x03E, 0x03F]

def uniwillEventCallb (code : U32) : Core Unit := do
  if code = uniwillOsdModeChangeKeyEvent then
    reportCombo .uniwill
  else if code = uniwillOsdDcAdapterChange then
    kernel (.eventAction .restoreAfterAdapterChange)
  else if code ∈ uniwillBrightnessEvents then
    let notified ← kernel .uniwillLedsNotifyBrightnessChange
    if notified = true then
      return
    else
      reportKnownEvent .uniwill code
  else
    reportKnownEvent .uniwill code

/-- The callback of an interface. -/
def eventCallb : EventSource → U32 → Core Unit
  | .clevo _ => clevoKeyboardEventCallb
  | .uniwill => uniwillEventCallb

/-! ## The Uniwill interface -/

section UniwillInterface

theorem uniwillInterfacesWmi_ignoresCore :
    IgnoresCore KeyboardStatics.uniwillInterfacesWmi :=
  fun _ _ _ _ => rfl

private theorem initIfActive_keepsUniwill :
    clevoKeyboardAddInterface.initIfActive.Asks
      (KeepsView KeyboardStatics.uniwillInterfacesWmi) := by
  refine Program.Asks.bind getStatics_keepsView fun statics => ?_
  refine Program.Asks.ite (fun _ => ?_) fun _ => trivial
  refine Program.Asks.bind ?_ fun _ => trivial
  exact
    tuxedoKeyboardInitDriver_keepsView uniwillInterfacesWmi_ignoresCore _

theorem clevoKeyboardAddInterface_keepsUniwill
    (newInterface : ClevoInterface) :
    (clevoKeyboardAddInterface newInterface).Asks
      (KeepsView KeyboardStatics.uniwillInterfacesWmi) := by
  refine Program.Asks.ite (fun _ => ?_) fun _ => ?_
  · refine Program.Asks.bind (setStatics_keepsView fun _ => rfl) fun _ => ?_
    refine Program.Asks.bind (kernel_keepsView _) fun _ => ?_
    refine Program.Asks.bind ?_ fun _ =>
      initIfActive_keepsUniwill.bind fun _ => trivial
    refine Program.Asks.bind getStatics_keepsView fun statics => ?_
    refine Program.Asks.ite (fun _ => ?_) fun _ => trivial
    refine Program.Asks.bind (kernel_keepsView _) fun _ => ?_
    exact setStatics_keepsView fun _ => rfl
  · refine Program.Asks.ite (fun _ => ?_) fun _ => trivial
    refine Program.Asks.bind (setStatics_keepsView fun _ => rfl) fun _ => ?_
    refine Program.Asks.bind (kernel_keepsView _) fun _ => ?_
    refine Program.Asks.bind (kernel_keepsView _) fun _ => ?_
    refine Program.Asks.bind (setStatics_keepsView fun _ => rfl) fun _ => ?_
    exact initIfActive_keepsUniwill.bind fun _ => trivial

private theorem removeIfActive_keepsUniwill (interface : ClevoInterface) :
    (clevoKeyboardRemoveInterface.removeIfActive interface).Asks
      (KeepsView KeyboardStatics.uniwillInterfacesWmi) := by
  refine Program.Asks.bind getStatics_keepsView fun statics => ?_
  refine Program.Asks.ite (fun _ => ?_) fun _ => trivial
  refine Program.Asks.bind ?_ fun _ => setStatics_keepsView fun _ => rfl
  exact
    tuxedoKeyboardRemoveDriver_keepsView uniwillInterfacesWmi_ignoresCore _

theorem clevoKeyboardRemoveInterface_keepsUniwill
    (interface : ClevoInterface) :
    (clevoKeyboardRemoveInterface interface).Asks
      (KeepsView KeyboardStatics.uniwillInterfacesWmi) := by
  refine Program.Asks.ite (fun _ => ?_) fun _ => ?_
  · refine Program.Asks.bind (setStatics_keepsView fun _ => rfl) fun _ => ?_
    exact (removeIfActive_keepsUniwill interface).bind fun _ => trivial
  · refine Program.Asks.ite (fun _ => ?_) fun _ => trivial
    refine Program.Asks.bind (setStatics_keepsView fun _ => rfl) fun _ => ?_
    exact (removeIfActive_keepsUniwill interface).bind fun _ => trivial

variable {σ : Type} (environment : Environment kernelSignature σ)
  (state : KeyboardStatics × σ)

/-- The Uniwill interface is there after its own driver has come. -/
theorem uniwillInterfacesWmi_probeInterface (source : EventSource) :
    ((probeInterface source).run (keyboardEnvironment environment)
        state).2.1.uniwillInterfacesWmi =
      (decide (source = .uniwill) || state.1.uniwillInterfacesWmi) := by
  cases source with
  | clevo interface =>
      refine view_of_keepsView environment ?_ state
      refine Program.Asks.bind (kernel_keepsView _) fun _ => ?_
      exact clevoKeyboardAddInterface_keepsUniwill interface
  | uniwill =>
      have keeps : (tuxedoKeyboardInitDriver .uniwill).Asks
          (KeepsView KeyboardStatics.uniwillInterfacesWmi) :=
        tuxedoKeyboardInitDriver_keepsView uniwillInterfacesWmi_ignoresCore _
      simp [probeInterface, uniwillAddInterface, Program.run,
        view_of_keepsView environment keeps]

theorem uniwillInterfacesWmi_removeInterface (source : EventSource) :
    ((removeInterface source).run (keyboardEnvironment environment)
        state).2.1.uniwillInterfacesWmi =
      (!decide (source = .uniwill) && state.1.uniwillInterfacesWmi) := by
  cases source with
  | clevo interface =>
      refine view_of_keepsView environment ?_ state
      cases interface with
      | wmi =>
          refine
            (clevoKeyboardRemoveInterface_keepsUniwill .wmi).bind
              fun _ => ?_
          exact Program.Asks.bind (kernel_keepsView _) fun _ => trivial
      | acpi =>
          exact
            Program.Asks.bind (kernel_keepsView _) fun _ =>
              clevoKeyboardRemoveInterface_keepsUniwill .acpi
  | uniwill =>
      simp [removeInterface, uniwillRemoveInterface, Program.run]

end UniwillInterface

end TuxedoDrivers.Keyboard
