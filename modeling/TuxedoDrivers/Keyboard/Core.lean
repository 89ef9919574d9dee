import TuxedoDrivers.Clevo.Methods
import TuxedoDrivers.Interaction.Program
import TuxedoDrivers.Kernel

/-!
# The keyboard core

The globals of `tuxedo_keyboard.c` and the functions that set them up and tear
them down, as programs over requests to the kernel.  The Clevo and the Uniwill
driver hand their `struct tuxedo_keyboard_driver` to the core, which keeps one
of them as the current driver.
-/

namespace TuxedoDrivers.Keyboard

open Interaction
open Clevo (ClevoInterface)

/-! ## Devices and drivers -/

/-- `struct platform_device *`, by the number of its allocation. -/
inductive PlatformPointer where
  | null
  | err
  | device (device : Nat)
  deriving DecidableEq, Repr

def PlatformPointer.isErrOrNull : PlatformPointer → Bool
  | .null => true
  | .err => true
  | .device _ => false

@[simp]
theorem PlatformPointer.isErrOrNull_null : null.isErrOrNull = true :=
  rfl

@[simp]
theorem PlatformPointer.isErrOrNull_err : err.isErrOrNull = true :=
  rfl

@[simp]
theorem PlatformPointer.isErrOrNull_device (number : Nat) :
    (device number).isErrOrNull = false :=
  rfl

/-- `struct input_dev`, by the number of its allocation. -/
abbrev InputDevice := Nat

inductive KeyMap where
  | clevoKeymap
  | uniwillWmiKeymap
  deriving DecidableEq, Repr

/-- `clevo_keyboard_driver` and `uniwill_keyboard_driver`. -/
inductive KeyboardDriver where
  | clevo
  | uniwill
  deriving DecidableEq, Repr

/-- `DRIVER_NAME`. -/
def tuxedoKeyboardDriverName : String :=
  "tuxedo_keyboard"

namespace KeyboardDriver

/-- `platform_driver->driver.name`. -/
def platformDriverName : KeyboardDriver → String
  | .clevo => tuxedoKeyboardDriverName
  | .uniwill => tuxedoKeyboardDriverName

def keyMap : KeyboardDriver → Option KeyMap
  | .clevo => some .clevoKeymap
  | .uniwill => some .uniwillWmiKeymap

end KeyboardDriver

/-- What can report a firmware event: the driver of an interface. -/
inductive EventSource where
  | clevo (interface : ClevoInterface)
  | uniwill
  deriving DecidableEq, Repr

/-- The keys of the combination that opens the control center. -/
inductive ComboKey where
  | leftMeta
  | leftAlt
  | f6
  deriving DecidableEq, Repr

inductive ClevoKbBacklightType where
  | none
  | fixedColor
  | threeZoneRgb
  | oneZoneRgb
  deriving DecidableEq, Repr

/-- What an event callback does that reports no key. -/
inductive EventAction where
  | setNextColorWholeKb
  | clevoLedsNotifyBrightnessChange
  | toggleFnLock
  | restoreAfterAdapterChange
  deriving DecidableEq, Repr

/-! ## Requests -/

inductive KernelRequest where
  | platformCreateBundle (driver : KeyboardDriver)
  | platformDeviceUnregister (device : Nat)
  | platformDriverUnregister (driver : KeyboardDriver)
  | deviceCreateFile (device : PlatformPointer)
  | deviceRemoveFile (device : PlatformPointer)
  | inputAllocateDevice
  | sparseKeymapSetup (device : InputDevice) (keyMap : KeyMap)
  | inputRegisterDevice (device : InputDevice)
  | inputFreeDevice (device : InputDevice)
  | inputUnregisterDevice (device : InputDevice)
  | driverInputDevice (driver : KeyboardDriver)
  | setDriverInputDevice (driver : KeyboardDriver)
      (device : Option InputDevice)
  | fnLockAvailable (driver : KeyboardDriver)
  | strayDriverName
  | installNotifyHandler (source : EventSource)
  | removeNotifyHandler (source : EventSource)
  | setEventCallb (source : EventSource)
  | setEventsEnabled (interface : ClevoInterface)
  | inputReportKey (device : Option InputDevice) (key : ComboKey)
      (pressed : Bool)
  | inputSync (device : Option InputDevice)
  | sparseKeymapReportKnownEvent (device : InputDevice) (code : U32)
  | clevoLedsGetBacklightType
  | uniwillLedsNotifyBrightnessChange
  | eventAction (action : EventAction)

/-- `strayDriverName` is what lies behind `current_driver` when it is
`NULL`. -/
abbrev KernelRequest.Answer : KernelRequest → Type
  | .platformCreateBundle _ => PlatformPointer
  | .platformDeviceUnregister _ => Unit
  | .platformDriverUnregister _ => Unit
  | .deviceCreateFile _ => Int
  | .deviceRemoveFile _ => Unit
  | .inputAllocateDevice => Option InputDevice
  | .sparseKeymapSetup _ _ => Int
  | .inputRegisterDevice _ => Int
  | .inputFreeDevice _ => Unit
  | .inputUnregisterDevice _ => Unit
  | .driverInputDevice _ => Option InputDevice
  | .setDriverInputDevice _ _ => Unit
  | .fnLockAvailable _ => Bool
  | .strayDriverName => String
  | .installNotifyHandler _ => Unit
  | .removeNotifyHandler _ => Unit
  | .setEventCallb _ => Unit
  | .setEventsEnabled _ => Int
  | .inputReportKey _ _ _ => Unit
  | .inputSync _ => Unit
  | .sparseKeymapReportKnownEvent _ _ => Bool
  | .clevoLedsGetBacklightType => ClevoKbBacklightType
  | .uniwillLedsNotifyBrightnessChange => Bool
  | .eventAction _ => Unit

abbrev kernelSignature : Signature :=
  ⟨KernelRequest, KernelRequest.Answer⟩

/-- The globals of the core, of the Clevo and of the Uniwill driver. -/
structure KeyboardStatics where
  tuxedoPlatformDevice : PlatformPointer := .null
  tuxedoInputDevice : Option InputDevice := none
  currentDriver : Option KeyboardDriver := none
  clevoInterfacesWmi : Option ClevoInterface := none
  clevoInterfacesAcpi : Option ClevoInterface := none
  activeClevoInterface : Option ClevoInterface := none
  uniwillInterfacesWmi : Bool := false
  deriving DecidableEq, Repr

/-- A request to the kernel, or an access to the globals. -/
inductive KeyboardRequest where
  | kernel (request : KernelRequest)
  | statics (update : KeyboardStatics → KeyboardStatics)

abbrev KeyboardRequest.Answer : KeyboardRequest → Type
  | .kernel request => request.Answer
  | .statics _ => KeyboardStatics

abbrev keyboardSignature : Signature :=
  ⟨KeyboardRequest, KeyboardRequest.Answer⟩

abbrev Core (α : Type) : Type :=
  Program keyboardSignature α

def kernel (request : KernelRequest) : Core request.Answer :=
  Program.request (S := keyboardSignature) (.kernel request)

def getStatics : Core KeyboardStatics :=
  Program.request (S := keyboardSignature) (.statics id)

def setStatics (update : KeyboardStatics → KeyboardStatics) : Core Unit := do
  let _ ← Program.request (S := keyboardSignature) (.statics update)
  return ()

/-- The globals beside a kernel. -/
def keyboardEnvironment {σ : Type}
    (environment : Environment kernelSignature σ) :
    Environment keyboardSignature (KeyboardStatics × σ)
  | .kernel request, (statics, world) =>
      ((environment request world).1, statics,
        (environment request world).2)
  | .statics update, (statics, world) => (statics, update statics, world)

section Rules

variable {σ : Type} (environment : Environment kernelSignature σ)
  (state : KeyboardStatics × σ)

@[simp]
theorem keyboardEnvironment_kernel (request : KernelRequest) :
    keyboardEnvironment environment (.kernel request) state =
      ((environment request state.2).1, state.1,
        (environment request state.2).2) :=
  (rfl)

/-- A request as the tree that it is: simp then runs it whatever it
answers. -/
@[simp]
theorem kernel_eq_ask (request : KernelRequest) :
    kernel request = .ask (.kernel request) .done :=
  (rfl)

@[simp]
theorem run_getStatics :
    getStatics.run (keyboardEnvironment environment) state =
      (state.1, state) :=
  (rfl)

@[simp]
theorem run_setStatics (update : KeyboardStatics → KeyboardStatics) :
    (setStatics update).run (keyboardEnvironment environment) state =
      ((), update state.1, state.2) :=
  (rfl)

end Rules

/-! ## Frames -/

section Frames

variable {τ : Type} (view : KeyboardStatics → τ)

/-- A request that leaves a view of the globals as it is. -/
def KeepsView : KeyboardRequest → Prop
  | .kernel _ => True
  | .statics update => ∀ statics, view (update statics) = view statics

variable {view}

theorem kernel_keepsView (request : KernelRequest) :
    (kernel request).Asks (KeepsView view) :=
  ⟨trivial, fun _ => trivial⟩

theorem getStatics_keepsView : getStatics.Asks (KeepsView view) :=
  ⟨fun _ => rfl, fun _ => trivial⟩

theorem setStatics_keepsView {update : KeyboardStatics → KeyboardStatics}
    (keeps : ∀ statics, view (update statics) = view statics) :
    (setStatics update).Asks (KeepsView view) :=
  ⟨keeps, fun _ => trivial⟩

theorem view_of_keepsView {σ α : Type}
    (environment : Environment kernelSignature σ) {program : Core α}
    (keeps : program.Asks (KeepsView view)) (state : KeyboardStatics × σ) :
    view (program.run (keyboardEnvironment environment) state).2.1 =
      view state.1 := by
  refine
    keeps.run_preserves (keyboardEnvironment environment)
      (fun reached => view reached.1 = view state.1) ?_ rfl
  rintro (request | update) reached allowed unchanged
  · exact unchanged
  · exact (allowed reached.1).trans unchanged

end Frames

/-! ## Set up and tear down -/

def setupKeymap (device : InputDevice) : Option KeyMap → Core Int
  | some keyMap => kernel (.sparseKeymapSetup device keyMap)
  | none => pure 0

def tuxedoInputInit (keyMap : Option KeyMap) : Core Int := do
  let allocated ← kernel .inputAllocateDevice
  setStatics fun statics => { statics with tuxedoInputDevice := allocated }
  match allocated with
  | none => return -enomem
  | some device => do
      let err ← setupKeymap device keyMap
      if err ≠ 0 then
        kernel (.inputFreeDevice device)
        return err
      else
        let err ← kernel (.inputRegisterDevice device)
        if err ≠ 0 then
          kernel (.inputFreeDevice device)
          return err
        else
          return 0

/-- The part of `tuxedo_keyboard_init_driver` about the input device. -/
def initInputDevice (tkDriver : KeyboardDriver) : Core Unit :=
  match tkDriver.keyMap with
  | none => return
  | some keyMap => do
      let err ← tuxedoInputInit (some keyMap)
      if err ≠ 0 then
        kernel (.setDriverInputDevice tkDriver none)
      else
        let statics ← getStatics
        kernel (.setDriverInputDevice tkDriver statics.tuxedoInputDevice)

def tuxedoKeyboardInitDriver (tkDriver : KeyboardDriver) :
    Core PlatformPointer := do
  let statics ← getStatics
  if statics.tuxedoPlatformDevice.isErrOrNull = false then
    return .null
  else
    let newPlatformDevice ← kernel (.platformCreateBundle tkDriver)
    setStatics fun statics =>
      { statics with tuxedoPlatformDevice := newPlatformDevice }
    if newPlatformDevice.isErrOrNull = true then
      return newPlatformDevice
    else
      initInputDevice tkDriver
      setStatics fun statics =>
        { statics with currentDriver := some tkDriver }
      let available ← kernel (.fnLockAvailable tkDriver)
      if available = true then
        let _ ← kernel (.deviceCreateFile newPlatformDevice)
        return newPlatformDevice
      else
        return newPlatformDevice

def tuxedoInputExit : Core Unit := do
  let statics ← getStatics
  match statics.tuxedoInputDevice with
  | none => return
  | some device => do
      kernel (.inputUnregisterDevice device)
      setStatics fun statics => { statics with tuxedoInputDevice := none }

/-- `current_driver->platform_driver->driver.name`. -/
def usedDriverName : Option KeyboardDriver → Core String
  | some driver => pure driver.platformDriverName
  | none => kernel .strayDriverName

/-- `strcmp` of the names of the two platform drivers. -/
def specifiedDriverDifferFromUsed :
    Option KeyboardDriver → Core Bool
  | none => return false
  | some tkDriver => do
      let statics ← getStatics
      let used ← usedDriverName statics.currentDriver
      return decide (tkDriver.platformDriverName ≠ used)

def platformDeviceExit : Core Unit := do
  let statics ← getStatics
  match statics.tuxedoPlatformDevice with
  | .device device => do
      kernel (.platformDeviceUnregister device)
      setStatics fun statics => { statics with tuxedoPlatformDevice := .null }
  | .null => return
  | .err => return

def platformDriverExit : Core Unit := do
  let statics ← getStatics
  match statics.currentDriver with
  | some driver => do
      kernel (.platformDriverUnregister driver)
      setStatics fun statics => { statics with currentDriver := none }
  | none => return

def tuxedoKeyboardRemoveDriver (tkDriver : Option KeyboardDriver) :
    Core Unit := do
  let differ ← specifiedDriverDifferFromUsed tkDriver
  if differ = true then
    return
  else
    let statics ← getStatics
    kernel (.deviceRemoveFile statics.tuxedoPlatformDevice)
    tuxedoInputExit
    platformDeviceExit
    platformDriverExit

def tuxedoKeyboardExit : Core Unit := do
  let statics ← getStatics
  if statics.tuxedoPlatformDevice ≠ .null then
    tuxedoKeyboardRemoveDriver none
  else
    return

/-! ## What setting up and tearing down leaves alone -/

/-- A view that does not show the globals of the core. -/
def IgnoresCore {τ : Type} (view : KeyboardStatics → τ) : Prop :=
  ∀ statics platform input driver,
    view { statics with
      tuxedoPlatformDevice := platform
      tuxedoInputDevice := input
      currentDriver := driver } = view statics

section CoreFrames

variable {τ : Type} {view : KeyboardStatics → τ}
  (ignores : IgnoresCore view)
include ignores

theorem tuxedoInputInit_keepsView (keyMap : Option KeyMap) :
    (tuxedoInputInit keyMap).Asks (KeepsView view) := by
  refine Program.Asks.bind (kernel_keepsView _) fun allocated => ?_
  refine Program.Asks.bind ?_ fun _ => ?_
  · exact setStatics_keepsView fun _ => ignores _ _ _ _
  cases allocated with
  | none =>
      trivial
  | some device =>
      refine Program.Asks.bind ?_ fun err => ?_
      · cases keyMap with
        | none =>
            trivial
        | some keyMap =>
            exact kernel_keepsView (.sparseKeymapSetup device keyMap)
      · refine Program.Asks.ite (fun _ => ?_) fun _ => ?_
        · exact Program.Asks.bind (kernel_keepsView _) fun _ => trivial
        · refine Program.Asks.bind (kernel_keepsView _) fun err => ?_
          refine Program.Asks.ite (fun _ => ?_) fun _ => trivial
          exact Program.Asks.bind (kernel_keepsView _) fun _ => trivial

theorem tuxedoKeyboardInitDriver_keepsView (tkDriver : KeyboardDriver) :
    (tuxedoKeyboardInitDriver tkDriver).Asks (KeepsView view) := by
  refine Program.Asks.bind getStatics_keepsView fun statics => ?_
  refine Program.Asks.ite (fun _ => trivial) fun _ => ?_
  refine Program.Asks.bind (kernel_keepsView _) fun created => ?_
  refine Program.Asks.bind ?_ fun _ => ?_
  · exact setStatics_keepsView fun _ => ignores _ _ _ _
  refine Program.Asks.ite (fun _ => trivial) fun _ => ?_
  refine Program.Asks.bind ?_ fun _ => ?_
  · rw [initInputDevice]
    cases tkDriver.keyMap with
    | none =>
        trivial
    | some keyMap =>
        refine Program.Asks.bind ?_ fun err => ?_
        · exact tuxedoInputInit_keepsView ignores _
        refine Program.Asks.ite (fun _ => kernel_keepsView _) fun _ => ?_
        exact
          Program.Asks.bind getStatics_keepsView fun _ => kernel_keepsView _
  · refine Program.Asks.bind ?_ fun _ => ?_
    · exact setStatics_keepsView fun _ => ignores _ _ _ _
    refine Program.Asks.bind (kernel_keepsView _) fun available => ?_
    refine Program.Asks.ite (fun _ => ?_) fun _ => trivial
    exact Program.Asks.bind (kernel_keepsView _) fun _ => trivial

theorem tuxedoKeyboardRemoveDriver_keepsView
    (tkDriver : Option KeyboardDriver) :
    (tuxedoKeyboardRemoveDriver tkDriver).Asks (KeepsView view) := by
  refine Program.Asks.bind ?_ fun differ => ?_
  · cases tkDriver with
    | none =>
        trivial
    | some driver =>
        refine Program.Asks.bind getStatics_keepsView fun statics => ?_
        refine Program.Asks.bind ?_ fun _ => trivial
        cases statics.currentDriver with
        | none =>
            exact kernel_keepsView .strayDriverName
        | some used =>
            trivial
  · refine Program.Asks.ite (fun _ => trivial) fun _ => ?_
    refine Program.Asks.bind getStatics_keepsView fun statics => ?_
    refine Program.Asks.bind (kernel_keepsView _) fun _ => ?_
    refine Program.Asks.bind ?_ fun _ => Program.Asks.bind ?_ fun _ => ?_
    · refine Program.Asks.bind getStatics_keepsView fun statics => ?_
      cases statics.tuxedoInputDevice with
      | none =>
          trivial
      | some device =>
          exact
            Program.Asks.bind (kernel_keepsView _) fun _ =>
              setStatics_keepsView fun _ => ignores _ _ _ _
    · refine Program.Asks.bind getStatics_keepsView fun statics => ?_
      cases statics.tuxedoPlatformDevice with
      | null =>
          trivial
      | err =>
          trivial
      | device device =>
          exact
            Program.Asks.bind (kernel_keepsView _) fun _ =>
              setStatics_keepsView fun _ => ignores _ _ _ _
    · refine Program.Asks.bind getStatics_keepsView fun statics => ?_
      cases statics.currentDriver with
      | none =>
          trivial
      | some driver =>
          exact
            Program.Asks.bind (kernel_keepsView _) fun _ =>
              setStatics_keepsView fun _ => ignores _ _ _ _

end CoreFrames

end TuxedoDrivers.Keyboard
