import TuxedoDrivers.Interaction.Runs
import TuxedoDrivers.Keyboard.KernelObjects

/-!
# Lifecycle of the keyboard core

Drivers are handed to the core and taken back, in any order and with any
failure in between, until the module exits.  The main result says in which
runs no missing object is used and the globals point to what is there.
-/

namespace TuxedoDrivers.Keyboard

open Interaction

/-! ## Steps -/

inductive CoreCall where
  | initDriver (tkDriver : KeyboardDriver)
  | removeDriver (tkDriver : KeyboardDriver)
  | exit
  deriving DecidableEq, Repr

/-- A call of the core, and how the kernel answers during it. -/
structure CoreStep where
  call : CoreCall
  outcomes : Outcomes
  deriving DecidableEq, Repr

def CoreStep.run (step : CoreStep) (machine : KeyboardMachine) :
    KeyboardMachine :=
  match step.call with
  | .initDriver tkDriver =>
      runCore step.outcomes (tuxedoKeyboardInitDriver tkDriver) machine
  | .removeDriver tkDriver =>
      runCore step.outcomes (tuxedoKeyboardRemoveDriver (some tkDriver))
        machine
  | .exit => runCore step.outcomes tuxedoKeyboardExit machine

/-! ## Safety -/

def ValidPlatformDevice (machine : KeyboardMachine) : Prop :=
  machine.2.validPlatform machine.1.tuxedoPlatformDevice = true

/-- Nothing was used that is not there, and the globals point to what is
there. -/
@[mk_iff]
structure PointerSafe (machine : KeyboardMachine) : Prop where
  neverFaulted : machine.2.faulted = false
  inputRegistered : ∀ device,
    machine.1.tuxedoInputDevice = some device →
      machine.2.inputDevices device = .registered
  driverIff : machine.1.currentDriver ≠ none ↔ ValidPlatformDevice machine

/-- What else the calls keep. -/
@[mk_iff]
structure Consistent (machine : KeyboardMachine) : Prop where
  platformThere : ∀ device,
    machine.1.tuxedoPlatformDevice = .device device →
      machine.2.platformDevices device = true
  driverThere : ∀ driver,
    machine.1.currentDriver = some driver →
      machine.2.platformDrivers driver = true

/-- The input device is allocated, and then not set up or not registered. -/
def Outcomes.LeaveFreedInput (outcomes : Outcomes) : Prop :=
  outcomes.platformCreateBundle = true ∧
    outcomes.inputAllocateDevice = true ∧
    ¬ (outcomes.sparseKeymapSetup = 0 ∧ outcomes.inputRegisterDevice = 0)

/-- What a call must not find. -/
def CoreStep.Spared (step : CoreStep) (machine : KeyboardMachine) : Prop :=
  match step.call with
  | .initDriver _ =>
      ¬ (machine.1.tuxedoPlatformDevice.isErrOrNull = true ∧
        step.outcomes.LeaveFreedInput)
  | .removeDriver _ => machine.1.currentDriver ≠ none
  | .exit => machine.1.tuxedoPlatformDevice ≠ .err

/-! ## Calls -/

section Calls

variable (outcomes : Outcomes) (machine : KeyboardMachine)

theorem init_present (tkDriver : KeyboardDriver)
    (present : machine.1.tuxedoPlatformDevice.isErrOrNull = false) :
    runCore outcomes (tuxedoKeyboardInitDriver tkDriver) machine =
      machine := by
  simp [runCore, tuxedoKeyboardInitDriver, present]

theorem init_failed (tkDriver : KeyboardDriver)
    (absent : machine.1.tuxedoPlatformDevice.isErrOrNull = true)
    (failed : outcomes.platformCreateBundle = false) :
    runCore outcomes (tuxedoKeyboardInitDriver tkDriver) machine =
      ({ machine.1 with tuxedoPlatformDevice := .err }, machine.2) := by
  simp [runCore, tuxedoKeyboardInitDriver, absent, failed, Program.run,
    kernelObjects]

private theorem keyMap_isSome (tkDriver : KeyboardDriver) :
    ∃ keyMap, tkDriver.keyMap = some keyMap := by
  cases tkDriver with
  | clevo =>
      exact ⟨_, rfl⟩
  | uniwill =>
      exact ⟨_, rfl⟩

variable {outcomes machine}

theorem PointerSafe.noDriver (safe : PointerSafe machine)
    (absent : machine.1.tuxedoPlatformDevice.isErrOrNull = true) :
    machine.1.currentDriver = none := by
  by_contra driver
  have valid : ValidPlatformDevice machine := safe.driverIff.mp driver
  rw [ValidPlatformDevice] at valid
  cases platform : machine.1.tuxedoPlatformDevice with
  | null =>
      simp [platform] at valid
  | err =>
      simp [platform] at valid
  | device device =>
      simp [platform] at absent

/-- A driver that comes to an empty core leaves it safe unless it leaves a
freed input device behind. -/
theorem init_safe_iff (tkDriver : KeyboardDriver)
    (absent : machine.1.tuxedoPlatformDevice.isErrOrNull = true)
    (safe : PointerSafe machine) :
    let after :=
      runCore outcomes (tuxedoKeyboardInitDriver tkDriver) machine
    (PointerSafe after ↔ ¬ outcomes.LeaveFreedInput) ∧
      Consistent after := by
  obtain ⟨keyMap, hasKeyMap⟩ := keyMap_isSome tkDriver
  cases created : outcomes.platformCreateBundle with
  | false =>
      rw [init_failed outcomes machine tkDriver absent created]
      refine ⟨iff_of_true ⟨safe.neverFaulted, safe.inputRegistered, ?_⟩ ?_,
        ?_⟩
      · simp [safe.noDriver absent, ValidPlatformDevice]
      · simp [Outcomes.LeaveFreedInput, created]
      · simp [consistent_iff, safe.noDriver absent]
  | true =>
      cases allocated : outcomes.inputAllocateDevice with
      | false =>
          simp [pointerSafe_iff, consistent_iff, Outcomes.LeaveFreedInput,
            created, allocated, runCore, tuxedoKeyboardInitDriver, absent,
            Program.run, kernelObjects, initInputDevice, hasKeyMap,
            tuxedoInputInit, ValidPlatformDevice, safe.neverFaulted, enomem]
      | true =>
          by_cases setup : outcomes.sparseKeymapSetup = 0
          · by_cases register : outcomes.inputRegisterDevice = 0
            · simp [pointerSafe_iff, consistent_iff,
                Outcomes.LeaveFreedInput, created, allocated, setup,
                register, runCore, tuxedoKeyboardInitDriver, absent,
                Program.run, kernelObjects, initInputDevice, hasKeyMap,
                tuxedoInputInit, setupKeymap, KernelObjects.setInput,
                ValidPlatformDevice, safe.neverFaulted]
            · simp [pointerSafe_iff, consistent_iff,
                Outcomes.LeaveFreedInput, created, allocated, setup,
                register, runCore, tuxedoKeyboardInitDriver, absent,
                Program.run, kernelObjects, initInputDevice, hasKeyMap,
                tuxedoInputInit, setupKeymap, KernelObjects.setInput]
          · simp [pointerSafe_iff, consistent_iff, Outcomes.LeaveFreedInput,
              created, allocated, setup, runCore, tuxedoKeyboardInitDriver,
              absent, Program.run, kernelObjects, initInputDevice,
              hasKeyMap, tuxedoInputInit, setupKeymap,
              KernelObjects.setInput]

theorem platformDriverName_eq (driver : KeyboardDriver) :
    driver.platformDriverName = tuxedoKeyboardDriverName := by
  cases driver with
  | clevo =>
      rfl
  | uniwill =>
      rfl

/-- No driver differs from the current one: they all have the same name. -/
theorem differ_current {used : KeyboardDriver}
    (current : machine.1.currentDriver = some used)
    (tkDriver : Option KeyboardDriver) :
    (specifiedDriverDifferFromUsed tkDriver).run
        (keyboardEnvironment (kernelObjects outcomes)) machine =
      (false, machine) := by
  cases tkDriver with
  | none =>
      rfl
  | some driver =>
      simp [specifiedDriverDifferFromUsed, current, usedDriverName,
        platformDriverName_eq]

/-- A tear down in a safe state with a driver. -/
theorem remove_current (tkDriver : Option KeyboardDriver)
    (safe : PointerSafe machine) (consistent : Consistent machine)
    (driver : machine.1.currentDriver ≠ none) :
    PointerSafe
        (runCore outcomes (tuxedoKeyboardRemoveDriver tkDriver) machine) ∧
      Consistent
        (runCore outcomes (tuxedoKeyboardRemoveDriver tkDriver)
          machine) := by
  obtain ⟨used, current⟩ := Option.ne_none_iff_exists'.mp driver
  have valid : ValidPlatformDevice machine := safe.driverIff.mp driver
  rw [ValidPlatformDevice] at valid
  have driverThere := consistent.driverThere used current
  cases platform : machine.1.tuxedoPlatformDevice with
  | null =>
      simp [platform] at valid
  | err =>
      simp [platform] at valid
  | device device =>
      have there := consistent.platformThere device platform
      cases input : machine.1.tuxedoInputDevice with
      | none =>
          simp [pointerSafe_iff, consistent_iff, runCore,
            tuxedoKeyboardRemoveDriver, differ_current current,
            Program.run, kernelObjects, platform, there, tuxedoInputExit,
            input, platformDeviceExit, platformDriverExit, current,
            driverThere, safe.neverFaulted, ValidPlatformDevice]
      | some inputDevice =>
          have registered := safe.inputRegistered inputDevice input
          simp [pointerSafe_iff, consistent_iff, runCore,
            tuxedoKeyboardRemoveDriver, differ_current current,
            Program.run, kernelObjects, platform, there, tuxedoInputExit,
            input, registered, platformDeviceExit, platformDriverExit,
            current, driverThere, safe.neverFaulted, ValidPlatformDevice,
            KernelObjects.setInput]

variable (outcomes)

/-- Without a current driver the comparison of the names already reads through
`NULL`. -/
theorem remove_noDriver (tkDriver : KeyboardDriver)
    (noDriver : machine.1.currentDriver = none) :
    (runCore outcomes (tuxedoKeyboardRemoveDriver (some tkDriver))
      machine).2.faulted = true := by
  rw [runCore, tuxedoKeyboardRemoveDriver, Program.run_bind]
  apply faulted_run
  simp [specifiedDriverDifferFromUsed, noDriver, usedDriverName,
    Program.run, kernelObjects]

theorem exit_null (absent : machine.1.tuxedoPlatformDevice = .null) :
    runCore outcomes tuxedoKeyboardExit machine = machine := by
  simp [runCore, tuxedoKeyboardExit, absent]

theorem exit_present (present : machine.1.tuxedoPlatformDevice ≠ .null) :
    runCore outcomes tuxedoKeyboardExit machine =
      runCore outcomes (tuxedoKeyboardRemoveDriver none) machine := by
  simp [runCore, tuxedoKeyboardExit, present]

/-- A device is taken back as by a removal. -/
theorem exit_device (safe : PointerSafe machine)
    (consistent : Consistent machine) {device : Nat}
    (platform : machine.1.tuxedoPlatformDevice = .device device) :
    PointerSafe (runCore outcomes tuxedoKeyboardExit machine) ∧
      Consistent (runCore outcomes tuxedoKeyboardExit machine) := by
  have valid : ValidPlatformDevice machine := by
    rw [ValidPlatformDevice, platform]
    exact consistent.platformThere device platform
  rw [exit_present outcomes (by simp [platform])]
  exact remove_current none safe consistent (safe.driverIff.mpr valid)

/-- The check at the exit lets an error pointer through. -/
theorem exit_err (failed : machine.1.tuxedoPlatformDevice = .err) :
    (runCore outcomes tuxedoKeyboardExit machine).2.faulted = true := by
  rw [exit_present outcomes (by simp [failed]), runCore,
    tuxedoKeyboardRemoveDriver, specifiedDriverDifferFromUsed, pure_bind,
    if_neg Bool.false_ne_true, Program.run_bind, run_getStatics,
    Program.run_bind]
  apply faulted_run
  simp [Program.run, kernelObjects, failed]

end Calls

/-! ## Runs -/

theorem CoreStep.safe_iff (step : CoreStep) {machine : KeyboardMachine}
    (safe : PointerSafe machine) (consistent : Consistent machine) :
    PointerSafe (step.run machine) ↔ step.Spared machine := by
  obtain ⟨call, outcomes⟩ := step
  cases call with
  | initDriver tkDriver =>
      simp only [CoreStep.run, CoreStep.Spared]
      cases absent : machine.1.tuxedoPlatformDevice.isErrOrNull with
      | false =>
          rw [init_present outcomes machine tkDriver absent]
          simp [safe]
      | true =>
          rw [(init_safe_iff tkDriver absent safe).1]
          simp
  | removeDriver tkDriver =>
      simp only [CoreStep.run, CoreStep.Spared]
      constructor
      · intro after noDriver
        have faulted :=
          remove_noDriver outcomes tkDriver noDriver
        simp [after.neverFaulted] at faulted
      · intro driver
        exact (remove_current (some tkDriver) safe consistent driver).1
  | exit =>
      simp only [CoreStep.run, CoreStep.Spared]
      constructor
      · intro after failed
        have faulted := exit_err outcomes failed
        simp [after.neverFaulted] at faulted
      · intro noError
        cases platform : machine.1.tuxedoPlatformDevice with
        | null =>
            rwa [exit_null outcomes platform]
        | err =>
            exact absurd platform noError
        | device device =>
            exact (exit_device outcomes safe consistent platform).1

theorem CoreStep.consistent (step : CoreStep) {machine : KeyboardMachine}
    (safe : PointerSafe machine) (consistent : Consistent machine)
    (spared : step.Spared machine) :
    Consistent (step.run machine) := by
  obtain ⟨call, outcomes⟩ := step
  cases call with
  | initDriver tkDriver =>
      simp only [CoreStep.run]
      cases absent : machine.1.tuxedoPlatformDevice.isErrOrNull with
      | false =>
          rwa [init_present outcomes machine tkDriver absent]
      | true =>
          exact (init_safe_iff tkDriver absent safe).2
  | removeDriver tkDriver =>
      exact (remove_current (some tkDriver) safe consistent spared).2
  | exit =>
      simp only [CoreStep.run]
      cases platform : machine.1.tuxedoPlatformDevice with
      | null =>
          rwa [exit_null outcomes platform]
      | err =>
          exact absurd platform spared
      | device device =>
          exact (exit_device outcomes safe consistent platform).2

/-- From the loaded module on, a run is safe throughout exactly if every call
is spared what it does not check for. -/
theorem pointerSafe_throughout_iff (steps : List CoreStep) :
    Throughout CoreStep.run PointerSafe steps ({}, {}) ↔
      EachStep CoreStep.run CoreStep.Spared steps ({}, {}) := by
  have exactly : ∀ (step : CoreStep) (machine : KeyboardMachine),
      PointerSafe machine → Consistent machine →
        (PointerSafe (step.run machine) ↔ step.Spared machine) :=
    fun step machine safe consistent => step.safe_iff safe consistent
  refine
    throughout_iff_eachStep_of_invariant exactly ?_ steps
      ⟨rfl, by simp, by simp [ValidPlatformDevice]⟩ ⟨by simp, by simp⟩
  intro step machine safe consistent after
  exact
    step.consistent safe consistent
      ((exactly step machine safe consistent).mp after)

/-- A probe that fails before the driver is taken back or the module exits,
and an input device that is not registered. -/
theorem pointerFaults :
    let noProbe : CoreStep :=
      ⟨.initDriver .uniwill, { platformCreateBundle := false }⟩
    let noInput : CoreStep :=
      ⟨.initDriver .uniwill, { inputRegisterDevice := -enomem }⟩
    let remove : CoreStep := ⟨.removeDriver .uniwill, {}⟩
    let exit : CoreStep := ⟨.exit, {}⟩
    let after := fun steps => runSteps CoreStep.run steps ({}, {})
    (after [noProbe, remove]).2.faulted = true ∧
      (after [noProbe, exit]).2.faulted = true ∧
      (after [noInput]).1.tuxedoInputDevice = some 0 ∧
      (after [noInput]).2.inputDevices 0 = .freed ∧
      (after [noInput, remove]).2.faulted = true ∧
      ¬ Throughout CoreStep.run PointerSafe [noProbe, remove] ({}, {}) := by
  refine ⟨rfl, rfl, rfl, rfl, rfl, fun throughout => ?_⟩
  have faulted := (throughout _ (List.prefix_refl _)).neverFaulted
  exact Bool.noConfusion faulted

end TuxedoDrivers.Keyboard
