import Mathlib.Logic.Function.Basic
import TuxedoDrivers.Keyboard.Core

/-!
# The kernel's side of the keyboard core

The devices and drivers that the keyboard core registers, kept so that a use
of one that is not there is seen.  What can succeed or fail does so as the
outcomes say.
-/

namespace TuxedoDrivers.Keyboard

open Interaction

/-! ## Objects -/

inductive InputStatus where
  | unknown
  | allocated
  | registered
  | freed
  deriving DecidableEq, Repr

/-- What happens to the input devices of the drivers, for the history. -/
inductive Milestone where
  | taken (driver : KeyboardDriver)
  | cleared (driver : KeyboardDriver)
  | unregistered
  deriving DecidableEq, Repr

structure KernelObjects where
  platformDevices : Nat → Bool := fun _ => false
  nextPlatformDevice : Nat := 0
  platformDrivers : KeyboardDriver → Bool := fun _ => false
  inputDevices : InputDevice → InputStatus := fun _ => .unknown
  nextInputDevice : InputDevice := 0
  driverInputDevice : KeyboardDriver → Option InputDevice := fun _ => none
  notifyHandlers : EventSource → Bool := fun _ => false
  eventCallbs : EventSource → Bool := fun _ => false
  /-- The latest first. -/
  milestones : List Milestone := []
  /-- An object was used that is not there. -/
  faulted : Bool := false

namespace KernelObjects

variable (objects : KernelObjects)

def validPlatform : PlatformPointer → Bool
  | .device device => objects.platformDevices device
  | .null => false
  | .err => false

def validInput : Option InputDevice → Bool
  | some device => decide (objects.inputDevices device = .registered)
  | none => false

/-- A use that takes something to be there. -/
def require (holds : Bool) : KernelObjects :=
  { objects with faulted := objects.faulted || !holds }

def setInput (device : InputDevice) (status : InputStatus) :
    KernelObjects :=
  { objects with
    inputDevices := Function.update objects.inputDevices device status }

@[simp]
theorem require_true : objects.require true = objects := by
  simp [require]

@[simp]
theorem faulted_require (holds : Bool) :
    (objects.require holds).faulted = (objects.faulted || !holds) :=
  rfl

@[simp]
theorem validPlatform_device (device : Nat) :
    objects.validPlatform (.device device) =
      objects.platformDevices device :=
  rfl

@[simp]
theorem validPlatform_null : objects.validPlatform .null = false :=
  rfl

@[simp]
theorem validPlatform_err : objects.validPlatform .err = false :=
  rfl

end KernelObjects

/-! ## Requests -/

/-- How the kernel answers during a call. -/
structure Outcomes where
  platformCreateBundle : Bool := true
  inputAllocateDevice : Bool := true
  sparseKeymapSetup : Int := 0
  inputRegisterDevice : Int := 0
  fnLockAvailable : Bool := true
  deviceCreateFile : Int := 0
  setEventsEnabled : Int := 0
  strayDriverName : String := ""
  sparseKeymapReportKnownEvent : Bool := true
  clevoLedsGetBacklightType : ClevoKbBacklightType := .none
  uniwillLedsNotifyBrightnessChange : Bool := false
  deriving DecidableEq, Repr

/-- The number of an allocation is not used again. -/
def kernelObjects (outcomes : Outcomes) :
    Environment kernelSignature KernelObjects
  | .platformCreateBundle driver, objects =>
      if outcomes.platformCreateBundle = true then
        (.device objects.nextPlatformDevice,
          { objects with
            platformDevices :=
              Function.update objects.platformDevices
                objects.nextPlatformDevice true
            nextPlatformDevice := objects.nextPlatformDevice + 1
            platformDrivers :=
              Function.update objects.platformDrivers driver true })
      else (.err, objects)
  | .platformDeviceUnregister device, objects =>
      ((), { objects.require (objects.platformDevices device) with
        platformDevices :=
          Function.update objects.platformDevices device false })
  | .platformDriverUnregister driver, objects =>
      ((), { objects.require (objects.platformDrivers driver) with
        platformDrivers :=
          Function.update objects.platformDrivers driver false })
  | .deviceCreateFile device, objects =>
      (outcomes.deviceCreateFile,
        objects.require (objects.validPlatform device))
  | .deviceRemoveFile device, objects =>
      ((), objects.require (objects.validPlatform device))
  | .inputAllocateDevice, objects =>
      if outcomes.inputAllocateDevice = true then
        (some objects.nextInputDevice,
          { objects.setInput objects.nextInputDevice .allocated with
            nextInputDevice := objects.nextInputDevice + 1 })
      else (none, objects)
  | .sparseKeymapSetup device _, objects =>
      (outcomes.sparseKeymapSetup,
        objects.require
          (decide (objects.inputDevices device = .allocated)))
  | .inputRegisterDevice device, objects =>
      let required :=
        objects.require (decide (objects.inputDevices device = .allocated))
      (outcomes.inputRegisterDevice,
        if outcomes.inputRegisterDevice = 0 then
          required.setInput device .registered
        else required)
  | .inputFreeDevice device, objects =>
      ((), (objects.require
        (decide (objects.inputDevices device = .allocated))).setInput
          device .freed)
  | .inputUnregisterDevice device, objects =>
      ((), { (objects.require
        (decide (objects.inputDevices device = .registered))).setInput
          device .freed with
        milestones := .unregistered :: objects.milestones })
  | .driverInputDevice driver, objects =>
      (objects.driverInputDevice driver, objects)
  | .setDriverInputDevice driver device, objects =>
      ((), { objects with
        driverInputDevice :=
          Function.update objects.driverInputDevice driver device
        milestones :=
          (if device = none then .cleared driver else .taken driver) ::
            objects.milestones })
  | .fnLockAvailable _, objects => (outcomes.fnLockAvailable, objects)
  | .strayDriverName, objects =>
      (outcomes.strayDriverName, objects.require false)
  | .installNotifyHandler source, objects =>
      ((), { objects with
        notifyHandlers :=
          Function.update objects.notifyHandlers source true })
  | .removeNotifyHandler source, objects =>
      ((), { objects with
        notifyHandlers :=
          Function.update objects.notifyHandlers source false })
  | .setEventCallb source, objects =>
      ((), { objects with
        eventCallbs := Function.update objects.eventCallbs source true })
  | .setEventsEnabled _, objects => (outcomes.setEventsEnabled, objects)
  | .inputReportKey device _ _, objects =>
      ((), objects.require (objects.validInput device))
  | .inputSync device, objects =>
      ((), objects.require (objects.validInput device))
  | .sparseKeymapReportKnownEvent device _, objects =>
      (outcomes.sparseKeymapReportKnownEvent,
        objects.require (objects.validInput (some device)))
  | .clevoLedsGetBacklightType, objects =>
      (outcomes.clevoLedsGetBacklightType, objects)
  | .uniwillLedsNotifyBrightnessChange, objects =>
      (outcomes.uniwillLedsNotifyBrightnessChange, objects)
  | .eventAction _, objects => ((), objects)

/-- The globals and the kernel's objects. -/
abbrev KeyboardMachine : Type :=
  KeyboardStatics × KernelObjects

def runCore {α : Type} (outcomes : Outcomes) (program : Core α)
    (machine : KeyboardMachine) : KeyboardMachine :=
  (program.run (keyboardEnvironment (kernelObjects outcomes)) machine).2

theorem faulted_kernelObjects (outcomes : Outcomes)
    (request : KernelRequest) {objects : KernelObjects}
    (faulted : objects.faulted = true) :
    (kernelObjects outcomes request objects).2.faulted = true := by
  cases request <;> simp only [kernelObjects] <;>
    first
    | exact faulted
    | split <;> simp [KernelObjects.setInput, faulted]
    | simp [KernelObjects.setInput, faulted]

/-- A fault is not undone. -/
theorem faulted_run {α : Type} (outcomes : Outcomes) (program : Core α)
    {machine : KeyboardMachine} (faulted : machine.2.faulted = true) :
    (program.run (keyboardEnvironment (kernelObjects outcomes))
      machine).2.2.faulted = true := by
  refine
    program.asks_any.run_preserves
      (keyboardEnvironment (kernelObjects outcomes))
      (fun reached => reached.2.faulted = true) ?_ faulted
  rintro (request | update) reached - stillFaulted
  · exact faulted_kernelObjects outcomes request stillFaulted
  · exact stillFaulted

end TuxedoDrivers.Keyboard
