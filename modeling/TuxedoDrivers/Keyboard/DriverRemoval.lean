import TuxedoDrivers.Keyboard.Interfaces
import TuxedoDrivers.Keyboard.Lifecycle

/-!
# Taking back a driver that is not the current one

The core compares the names of the platform drivers to see whether it is asked
to remove another driver than the current one.  Both vendors use the same
name, so the call always tears down what there is.
-/

namespace TuxedoDrivers.Keyboard

open Interaction

/-! ## Steps -/

inductive InterfaceCall where
  | probe (source : EventSource)
  | remove (source : EventSource)
  deriving DecidableEq, Repr

def InterfaceCall.program : InterfaceCall → Core Int
  | .probe source => probeInterface source
  | .remove source => removeInterface source

/-- A call of the driver of an interface, and how the kernel answers during
it. -/
structure InterfaceStep where
  call : InterfaceCall
  outcomes : Outcomes := {}
  deriving DecidableEq, Repr

def InterfaceStep.run (step : InterfaceStep) (machine : KeyboardMachine) :
    KeyboardMachine :=
  runCore step.outcomes step.call.program machine

/-- The machine after the calls, from the loaded module on. -/
def afterInterfaces (steps : List InterfaceStep) : KeyboardMachine :=
  runSteps InterfaceStep.run steps ({}, {})

/-! ## Removal -/

/-- The call returns, and the current driver with its devices is as it
was. -/
structure LeavesCurrent (outcomes : Outcomes) (tkDriver : KeyboardDriver)
    (machine : KeyboardMachine) : Prop where
  returns :
    (runCore outcomes (tuxedoKeyboardRemoveDriver (some tkDriver))
      machine).2.faulted = false
  sameDriver :
    (runCore outcomes (tuxedoKeyboardRemoveDriver (some tkDriver))
      machine).1.currentDriver = machine.1.currentDriver
  samePlatformDevice :
    (runCore outcomes (tuxedoKeyboardRemoveDriver (some tkDriver))
      machine).1.tuxedoPlatformDevice = machine.1.tuxedoPlatformDevice
  sameInputDevice :
    (runCore outcomes (tuxedoKeyboardRemoveDriver (some tkDriver))
      machine).1.tuxedoInputDevice = machine.1.tuxedoInputDevice
  samePlatformDrivers :
    (runCore outcomes (tuxedoKeyboardRemoveDriver (some tkDriver))
      machine).2.platformDrivers = machine.2.platformDrivers

theorem tuxedoInputExit_keepsDriver :
    tuxedoInputExit.Asks (KeepsView KeyboardStatics.currentDriver) := by
  refine Program.Asks.bind getStatics_keepsView fun statics => ?_
  cases statics.tuxedoInputDevice with
  | none =>
      trivial
  | some device =>
      exact
        Program.Asks.bind (kernel_keepsView _) fun _ =>
          setStatics_keepsView fun _ => rfl

theorem platformDeviceExit_keepsDriver :
    platformDeviceExit.Asks (KeepsView KeyboardStatics.currentDriver) := by
  refine Program.Asks.bind getStatics_keepsView fun statics => ?_
  cases statics.tuxedoPlatformDevice with
  | null =>
      trivial
  | err =>
      trivial
  | device device =>
      exact
        Program.Asks.bind (kernel_keepsView _) fun _ =>
          setStatics_keepsView fun _ => rfl

theorem platformDriverExit_gone (outcomes : Outcomes)
    {machine : KeyboardMachine} {used : KeyboardDriver}
    (current : machine.1.currentDriver = some used) :
    (runCore outcomes platformDriverExit machine).1.currentDriver = none ∧
      (runCore outcomes platformDriverExit machine).2.platformDrivers used =
        false := by
  simp [runCore, platformDriverExit, current, Program.run, kernelObjects]

/-- Whichever driver is given, the current one is gone afterwards. -/
theorem remove_tearsDown (outcomes : Outcomes) {machine : KeyboardMachine}
    {used : KeyboardDriver} (current : machine.1.currentDriver = some used)
    (tkDriver : KeyboardDriver) :
    let after :=
      runCore outcomes (tuxedoKeyboardRemoveDriver (some tkDriver)) machine
    after.1.currentDriver = none ∧ after.2.platformDrivers used = false := by
  intro after
  simp only [after, runCore, tuxedoKeyboardRemoveDriver, Program.run_bind,
    differ_current current, Bool.false_eq_true, if_false, run_getStatics]
  apply platformDriverExit_gone
  have inputExits := fun reached =>
    view_of_keepsView (kernelObjects outcomes) tuxedoInputExit_keepsDriver
      reached
  have platformExits := fun reached =>
    view_of_keepsView (kernelObjects outcomes)
      platformDeviceExit_keepsDriver reached
  rw [platformExits, inputExits]
  exact current

/-- In no state that the interfaces can reach does the call spare a current
driver other than the given one. -/
theorem not_leavesCurrent (steps : List InterfaceStep)
    (outcomes : Outcomes) (tkDriver : KeyboardDriver) :
    (afterInterfaces steps).1.currentDriver ≠ some tkDriver →
      ¬ LeavesCurrent outcomes tkDriver (afterInterfaces steps) := by
  rintro - leaves
  cases current : (afterInterfaces steps).1.currentDriver with
  | none =>
      have faulted :=
        remove_noDriver outcomes tkDriver current
      simp [leaves.returns] at faulted
  | some used =>
      have gone := (remove_tearsDown outcomes current tkDriver).1
      rw [leaves.sameDriver, current] at gone
      cases gone

theorem not_leavesCurrent_clevo :
    (afterInterfaces
        [⟨.probe .uniwill, {}⟩,
          ⟨.probe (.clevo .wmi), {}⟩]).1.currentDriver ≠ some .clevo ∧
      ¬ LeavesCurrent {} .clevo
        (afterInterfaces
          [⟨.probe .uniwill, {}⟩, ⟨.probe (.clevo .wmi), {}⟩]) :=
  ⟨by decide, not_leavesCurrent _ {} .clevo (by decide)⟩

/-- Removing the Clevo interface takes the Uniwill driver away, which is
still wanted. -/
theorem uniwillGone_afterClevo :
    let before :=
      afterInterfaces [⟨.probe .uniwill, {}⟩, ⟨.probe (.clevo .wmi), {}⟩]
    let after :=
      runCore {} (tuxedoKeyboardRemoveDriver (some .clevo)) before
    before.1.currentDriver = some .uniwill ∧
      before.1.tuxedoPlatformDevice = .device 0 ∧
      before.1.tuxedoInputDevice = some 0 ∧
      before.2.platformDrivers .uniwill = true ∧
      after.1.uniwillInterfacesWmi = true ∧
      after.1.currentDriver = none ∧
      after.1.tuxedoPlatformDevice = .null ∧
      after.1.tuxedoInputDevice = none ∧
      after.2.platformDrivers .uniwill = false ∧
      after.2.faulted = false := by
  exact ⟨rfl, rfl, rfl, rfl, rfl, rfl, rfl, rfl, rfl, rfl⟩

end TuxedoDrivers.Keyboard
