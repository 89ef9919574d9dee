import TuxedoDrivers.Interaction.Points
import TuxedoDrivers.Keyboard.DriverRemoval
import TuxedoDrivers.Keyboard.InputTracking

/-!
# The pointers of the drivers along a run

Interfaces come and go, and an event can arrive between any two requests.  At
each such point the pointers of the drivers are what the history of the run
says.
-/

namespace TuxedoDrivers.Keyboard

open Interaction
open Clevo (ClevoInterface)

/-! ## Programs -/

section Programs

variable {outcomes : Outcomes} {machine : KeyboardMachine}

/-- The machine is tracked at every point of a program. -/
abbrev TrackedAlong {α : Type} (outcomes : Outcomes) (program : Core α)
    (ends : α → KeyboardMachine → Prop) (machine : KeyboardMachine) : Prop :=
  program.Along (keyboardEnvironment (kernelObjects outcomes))
    TrackedMachine ends machine

theorem kernel_along (request : KernelRequest)
    (tracked : TrackedMachine machine)
    (expected : machine.2.faulted = false → Expected machine.2 request) :
    TrackedAlong outcomes (kernel request)
      (fun answer after =>
        answer = (kernelObjects outcomes request machine.2).1 ∧
          after =
            (machine.1, (kernelObjects outcomes request machine.2).2))
      machine := by
  refine
    Program.along_request (S := keyboardSignature) (.kernel request) tracked
      (fun unfaulted => ?_) ⟨rfl, rfl⟩
  have before := unfaulted_of_kernelObjects outcomes request unfaulted
  exact
    tracked_kernelObjects outcomes request (tracked before)
      (expected before) unfaulted

theorem getStatics_along (tracked : TrackedMachine machine) :
    TrackedAlong outcomes getStatics
      (fun statics after => statics = machine.1 ∧ after = machine)
      machine :=
  Program.along_request (S := keyboardSignature) (.statics id) tracked tracked
    ⟨rfl, rfl⟩

theorem setStatics_along (update : KeyboardStatics → KeyboardStatics)
    (tracked : TrackedMachine machine) :
    TrackedAlong outcomes (setStatics update)
      (fun _ after => after = (update machine.1, machine.2)) machine :=
  ⟨tracked, tracked, rfl⟩

/-- The globals know the registered device. -/
def KnownMachine (machine : KeyboardMachine) : Prop :=
  machine.2.faulted = false → ∀ device,
    machine.2.inputDevices device = .registered →
      machine.1.tuxedoInputDevice = some device

theorem IdleMachine.kernelObjects_after (idle : IdleMachine machine)
    (outcomes : Outcomes) (request : KernelRequest)
    (registersNone : ∀ device, request ≠ .inputRegisterDevice device)
    (statics : KeyboardStatics) :
    IdleMachine
      (statics, (kernelObjects outcomes request machine.2).2) := by
  intro unfaulted
  exact
    idle_kernelObjects outcomes request
      (idle (unfaulted_of_kernelObjects outcomes request unfaulted))
      registersNone

theorem setupKeymap_along (device : InputDevice) (keyMap : Option KeyMap)
    (tracked : TrackedMachine machine) (idle : IdleMachine machine) :
    TrackedAlong outcomes (setupKeymap device keyMap)
      (fun _ after =>
        IdleMachine after ∧ after.1 = machine.1) machine := by
  cases keyMap with
  | none =>
      exact Program.along_pure tracked ⟨idle, rfl⟩
  | some keyMap =>
      refine
        Program.Along.mono
          (kernel_along (.sparseKeymapSetup device keyMap) tracked
            fun _ => trivial)
          (fun _ still => still) ?_
      rintro err after - ⟨-, rfl⟩
      exact ⟨idle.kernelObjects_after _ _ (by simp) machine.1, rfl⟩

theorem inputFree_along (device : InputDevice) (err : Int)
    (tracked : TrackedMachine machine) (idle : IdleMachine machine) :
    TrackedAlong outcomes
      (do kernel (.inputFreeDevice device); return err)
      (fun result after =>
        result = err ∧ IdleMachine after ∧ after.1 = machine.1)
      machine := by
  refine
    Program.Along.bind
      (kernel_along (.inputFreeDevice device) tracked fun _ => trivial) ?_
  rintro ⟨⟩ after trackedAfter ⟨-, rfl⟩
  exact
    ⟨trackedAfter, rfl, idle.kernelObjects_after _ _ (by simp) machine.1,
      rfl⟩

theorem inputRegister_along (device : InputDevice)
    (tracked : TrackedMachine machine) (idle : IdleMachine machine) :
    TrackedAlong outcomes (kernel (.inputRegisterDevice device))
      (fun err after =>
        after.1 = machine.1 ∧
          (err = 0 → after.2.inputDevices device = .registered) ∧
          (err ≠ 0 → IdleMachine after))
      machine := by
  refine
    Program.Along.mono
      (kernel_along (.inputRegisterDevice device) tracked idle)
      (fun _ still => still) ?_
  rintro err after - ⟨rfl, rfl⟩
  refine ⟨rfl, fun succeeds => ?_, fun fails unfaulted => ?_⟩
  · have zero : outcomes.inputRegisterDevice = 0 := succeeds
    simp [kernelObjects, zero, KernelObjects.setInput]
  · have nonzero : outcomes.inputRegisterDevice ≠ 0 := fails
    have before := unfaulted_of_kernelObjects outcomes _ unfaulted
    simp only [kernelObjects, if_neg nonzero]
    exact idle before

/-- An input device that is set up is registered and known. -/
theorem tuxedoInputInit_along (keyMap : Option KeyMap)
    (tracked : TrackedMachine machine) (idle : IdleMachine machine) :
    TrackedAlong outcomes (tuxedoInputInit keyMap)
      (fun err after =>
        after.1.tuxedoPlatformDevice = machine.1.tuxedoPlatformDevice ∧
          (err = 0 → ∃ device,
            after.1.tuxedoInputDevice = some device ∧
              after.2.inputDevices device = .registered) ∧
          (err ≠ 0 → IdleMachine after))
      machine := by
  refine
    Program.Along.bind
      (kernel_along .inputAllocateDevice tracked fun _ => trivial) ?_
  rintro allocated after trackedAfter ⟨-, rfl⟩
  refine Program.Along.bind (setStatics_along _ trackedAfter) ?_
  rintro ⟨⟩ stored trackedStored rfl
  have idleStored :=
    idle.kernelObjects_after outcomes .inputAllocateDevice (by simp)
      { machine.1 with tuxedoInputDevice := allocated }
  cases allocated with
  | none =>
      exact ⟨trackedStored, rfl, by simp [enomem], fun _ => idleStored⟩
  | some device =>
      refine
        Program.Along.bind
          (setupKeymap_along device keyMap trackedStored idleStored) ?_
      rintro err setup trackedSetup ⟨idleSetup, sameSetup⟩
      split
      · rename_i failed
        refine
          Program.Along.mono
            (inputFree_along device err trackedSetup idleSetup)
            (fun _ still => still) ?_
        rintro result freed - ⟨rfl, idleFreed, same⟩
        refine ⟨?_, fun success => absurd success failed, fun _ => idleFreed⟩
        rw [same, sameSetup]
      · refine
          Program.Along.bind
            (inputRegister_along device trackedSetup idleSetup) ?_
        rintro err registered trackedRegistered ⟨same, succeeds, fails⟩
        split
        · rename_i failed
          refine
            Program.Along.mono
              (inputFree_along device err trackedRegistered (fails failed))
              (fun _ still => still) ?_
          rintro result freed - ⟨rfl, idleFreed, sameFreed⟩
          refine
            ⟨?_, fun success => absurd success failed, fun _ => idleFreed⟩
          rw [sameFreed, same, sameSetup]
        · rename_i succeeded
          refine ⟨trackedRegistered, ?_, fun _ => ⟨device, ?_, ?_⟩, by simp⟩
          · rw [same, sameSetup]
          · rw [same, sameSetup]
          · exact succeeds (not_not.mp succeeded)

theorem IdleMachine.known (idle : IdleMachine machine) :
    KnownMachine machine := by
  intro unfaulted device registered
  exact absurd registered (idle unfaulted device)

theorem initInputDevice_along (tkDriver : KeyboardDriver)
    (tracked : TrackedMachine machine) (idle : IdleMachine machine) :
    TrackedAlong outcomes (initInputDevice tkDriver)
      (fun _ after =>
        after.1.tuxedoPlatformDevice = machine.1.tuxedoPlatformDevice ∧
          KnownMachine after)
      machine := by
  rw [initInputDevice]
  cases tkDriver.keyMap with
  | none =>
      exact ⟨tracked, rfl, idle.known⟩
  | some keyMap =>
      refine
        Program.Along.bind
          (tuxedoInputInit_along (some keyMap) tracked idle) ?_
      rintro err after trackedAfter ⟨samePlatform, succeeds, fails⟩
      split
      · rename_i failed
        refine
          Program.Along.mono
            (kernel_along (.setDriverInputDevice tkDriver none) trackedAfter
              fun _ device absent => by cases absent)
            (fun _ still => still) ?_
        rintro ⟨⟩ cleared - ⟨-, rfl⟩
        exact ⟨samePlatform, (fails failed).known⟩
      · rename_i succeeded
        obtain ⟨device, known, registered⟩ :=
          succeeds (not_not.mp succeeded)
        refine Program.Along.bind (getStatics_along trackedAfter) ?_
        rintro statics reached - ⟨rfl, rfl⟩
        refine
          Program.Along.mono
            (kernel_along
              (.setDriverInputDevice tkDriver reached.1.tuxedoInputDevice)
              trackedAfter ?_)
            (fun _ still => still) ?_
        · intro _ held same
          rw [known, Option.some.injEq] at same
          rwa [← same]
        · rintro ⟨⟩ taken - ⟨-, rfl⟩
          refine ⟨samePlatform, fun unfaulted other otherRegistered => ?_⟩
          have same :=
            (trackedAfter unfaulted).oneRegistered other device
              otherRegistered registered
          rw [same]
          exact known

/-! ### Between the calls -/

/-- Without a platform device there is no input device, and the globals know
the one there is. -/
structure SettledMachine (machine : KeyboardMachine) : Prop where
  tracked : TrackedMachine machine
  idle : machine.1.tuxedoPlatformDevice.isErrOrNull = true →
    IdleMachine machine
  known : KnownMachine machine

theorem settled_initially : SettledMachine ({}, {}) :=
  ⟨fun _ => Tracked.initially, fun _ _ device => by simp,
    fun _ device registered => by simp at registered⟩

theorem tuxedoKeyboardInitDriver_along (tkDriver : KeyboardDriver)
    (settled : SettledMachine machine) :
    TrackedAlong outcomes (tuxedoKeyboardInitDriver tkDriver)
      (fun _ after => SettledMachine after) machine := by
  refine Program.Along.bind (getStatics_along settled.tracked) ?_
  rintro statics reached tracked ⟨rfl, rfl⟩
  split
  · exact Program.along_pure tracked settled
  · rename_i absent
    have idle := settled.idle (by simpa using absent)
    refine
      Program.Along.bind
        (kernel_along (.platformCreateBundle tkDriver) tracked
          fun _ => trivial) ?_
    rintro created bundle trackedBundle ⟨-, rfl⟩
    refine Program.Along.bind (setStatics_along _ trackedBundle) ?_
    rintro ⟨⟩ stored trackedStored rfl
    have idleStored :=
      idle.kernelObjects_after outcomes
        (.platformCreateBundle tkDriver) (by simp)
        { reached.1 with tuxedoPlatformDevice := created }
    split
    · exact
        ⟨trackedStored, trackedStored, fun _ => idleStored,
          idleStored.known⟩
    · rename_i present
      refine
        Program.Along.bind
          (initInputDevice_along tkDriver trackedStored idleStored) ?_
      rintro ⟨⟩ after trackedAfter ⟨samePlatform, known⟩
      refine Program.Along.bind (setStatics_along _ trackedAfter) ?_
      rintro ⟨⟩ current trackedCurrent rfl
      refine
        Program.Along.bind
          (kernel_along (.fnLockAvailable tkDriver) trackedCurrent
            fun _ => trivial) ?_
      rintro available tested trackedTested ⟨-, rfl⟩
      have there :
          after.1.tuxedoPlatformDevice.isErrOrNull = true → False := by
        rw [samePlatform]
        exact present
      split
      · refine
          Program.Along.bind
            (kernel_along (.deviceCreateFile created) trackedTested
              fun _ => trivial) ?_
        rintro err file trackedFile ⟨-, rfl⟩
        refine
          ⟨trackedFile, trackedFile, fun absent => (there absent).elim,
            fun unfaulted => ?_⟩
        exact known (unfaulted_of_kernelObjects outcomes _ unfaulted)
      · exact
          ⟨trackedTested, trackedTested, fun absent => (there absent).elim,
            known⟩

/-- A request that neither registers a device nor moves a pointer of a
driver. -/
def Calm : KeyboardRequest → Prop
  | .kernel (.inputRegisterDevice _) => False
  | .kernel (.setDriverInputDevice _ _) => False
  | _ => True

theorem calm_along {α : Type} {program : Core α} (calm : program.Asks Calm)
    (tracked : TrackedMachine machine) (idle : IdleMachine machine) :
    TrackedAlong outcomes program (fun _ after => SettledMachine after)
      machine := by
  refine
    Program.Along.mono
      (calm.along (keyboardEnvironment (kernelObjects outcomes))
        (fun reached => TrackedMachine reached ∧ IdleMachine reached) ?_
        ⟨tracked, idle⟩)
      (fun _ both => both.1)
      fun _ _ both _ => ⟨both.1, fun _ => both.2, both.2.known⟩
  rintro (request | update) reached allowed ⟨trackedNow, idleNow⟩
  · have registersNone : ∀ device,
        request ≠ .inputRegisterDevice device := by
      rintro device rfl
      exact allowed
    have expected : Expected reached.2 request := by
      cases request with
      | inputRegisterDevice device =>
          exact absurd rfl (registersNone device)
      | setDriverInputDevice driver pointer =>
          exact absurd allowed id
      | _ =>
          trivial
    refine ⟨fun unfaulted => ?_, ?_⟩
    · have before := unfaulted_of_kernelObjects outcomes request unfaulted
      exact
        tracked_kernelObjects outcomes request (trackedNow before) expected
          unfaulted
    · exact idleNow.kernelObjects_after outcomes request registersNone _
  · exact ⟨trackedNow, idleNow⟩

/-- A request that the input devices and their globals are not about. -/
def Outside : KeyboardRequest → Prop
  | .kernel request =>
      (∀ objects, Expected objects request) ∧
        ∀ outcomes objects,
          (kernelObjects outcomes request objects).2.inputDevices =
            objects.inputDevices
  | .statics update =>
      ∀ statics,
        (update statics).tuxedoPlatformDevice =
            statics.tuxedoPlatformDevice ∧
          (update statics).tuxedoInputDevice = statics.tuxedoInputDevice

theorem outside_along {α : Type} {program : Core α}
    (outside : program.Asks Outside) (settled : SettledMachine machine) :
    TrackedAlong outcomes program (fun _ after => SettledMachine after)
      machine := by
  refine
    Program.Along.mono
      (outside.along (keyboardEnvironment (kernelObjects outcomes))
        SettledMachine ?_ settled)
      (fun _ still => still.tracked) fun _ _ still _ => still
  rintro (request | update) reached allowed still
  · obtain ⟨expected, sameInputs⟩ := allowed
    refine ⟨fun unfaulted => ?_, fun absent unfaulted => ?_,
      fun unfaulted => ?_⟩
    · exact
        tracked_kernelObjects outcomes request
          (still.tracked
            (unfaulted_of_kernelObjects outcomes request unfaulted))
          (expected _) unfaulted
    · have idle :=
        still.idle absent
          (unfaulted_of_kernelObjects outcomes request unfaulted)
      simpa only [Idle, sameInputs, keyboardEnvironment] using idle
    · have known :=
        still.known (unfaulted_of_kernelObjects outcomes request unfaulted)
      simpa only [sameInputs, keyboardEnvironment] using known
  · obtain ⟨samePlatform, sameInput⟩ := allowed reached.1
    refine ⟨still.tracked, fun absent => still.idle ?_, ?_⟩
    · rwa [← samePlatform]
    · intro unfaulted device registered
      exact sameInput.trans (still.known unfaulted device registered)

theorem kernel_outside (request : KernelRequest)
    (expected : ∀ objects, Expected objects request)
    (sameInputs : ∀ outcomes objects,
      (kernelObjects outcomes request objects).2.inputDevices =
        objects.inputDevices) :
    (kernel request).Asks Outside :=
  ⟨⟨expected, sameInputs⟩, fun _ => trivial⟩

theorem getStatics_outside : getStatics.Asks Outside :=
  ⟨fun _ => ⟨rfl, rfl⟩, fun _ => trivial⟩

theorem setStatics_outside {update : KeyboardStatics → KeyboardStatics}
    (same : ∀ statics,
      (update statics).tuxedoPlatformDevice =
          statics.tuxedoPlatformDevice ∧
        (update statics).tuxedoInputDevice = statics.tuxedoInputDevice) :
    (setStatics update).Asks Outside :=
  ⟨same, fun _ => trivial⟩

/-! ### Tear down -/

theorem specifiedDriverDifferFromUsed_outside
    (tkDriver : Option KeyboardDriver) :
    (specifiedDriverDifferFromUsed tkDriver).Asks Outside := by
  cases tkDriver with
  | none =>
      trivial
  | some driver =>
      refine Program.Asks.bind getStatics_outside fun statics => ?_
      refine Program.Asks.bind ?_ fun _ => trivial
      cases statics.currentDriver with
      | none =>
          exact
            kernel_outside .strayDriverName (fun _ => trivial)
              fun _ _ => rfl
      | some used =>
          trivial

theorem deviceExits_calm :
    (do platformDeviceExit; platformDriverExit : Core Unit).Asks Calm := by
  refine Program.Asks.bind ?_ fun _ => ?_
  · refine Program.Asks.bind ⟨trivial, fun _ => trivial⟩ fun statics => ?_
    cases statics.tuxedoPlatformDevice with
    | null =>
        trivial
    | err =>
        trivial
    | device device =>
        exact
          Program.Asks.bind ⟨trivial, fun _ => trivial⟩ fun _ =>
            ⟨trivial, fun _ => trivial⟩
  · refine Program.Asks.bind ⟨trivial, fun _ => trivial⟩ fun statics => ?_
    cases statics.currentDriver with
    | none =>
        trivial
    | some driver =>
        exact
          Program.Asks.bind ⟨trivial, fun _ => trivial⟩ fun _ =>
            ⟨trivial, fun _ => trivial⟩

/-- The registered device is the one the globals know, so none is left. -/
theorem tuxedoInputExit_along (settled : SettledMachine machine) :
    TrackedAlong outcomes tuxedoInputExit
      (fun _ after => IdleMachine after) machine := by
  refine Program.Along.bind (getStatics_along settled.tracked) ?_
  rintro statics reached tracked ⟨rfl, rfl⟩
  cases input : reached.1.tuxedoInputDevice with
  | none =>
      refine ⟨tracked, fun unfaulted device registered => ?_⟩
      have known := settled.known unfaulted device registered
      rw [input] at known
      cases known
  | some device =>
      refine
        Program.Along.bind
          (kernel_along (.inputUnregisterDevice device) tracked
            fun _ => trivial) ?_
      rintro ⟨⟩ gone trackedGone ⟨-, rfl⟩
      refine
        Program.Along.mono (setStatics_along _ trackedGone)
          (fun _ still => still) ?_
      rintro ⟨⟩ after - rfl unfaulted other registered
      have before := unfaulted_of_kernelObjects outcomes _ unfaulted
      simp only [kernelObjects, KernelObjects.setInput,
        KernelObjects.require] at registered
      by_cases same : other = device
      · simp [same] at registered
      · rw [Function.update_of_ne same] at registered
        have known := settled.known before other registered
        rw [input, Option.some.injEq] at known
        exact same known.symm

theorem tuxedoKeyboardRemoveDriver_along
    (tkDriver : Option KeyboardDriver) (settled : SettledMachine machine) :
    TrackedAlong outcomes (tuxedoKeyboardRemoveDriver tkDriver)
      (fun _ after => SettledMachine after) machine := by
  refine
    Program.Along.bind
      (outside_along (specifiedDriverDifferFromUsed_outside tkDriver)
        settled) ?_
  intro differ compared trackedCompared settledCompared
  split
  · exact ⟨trackedCompared, settledCompared⟩
  · refine Program.Along.bind (getStatics_along trackedCompared) ?_
    rintro statics reached - ⟨rfl, rfl⟩
    refine
      Program.Along.bind
        (outside_along
          (kernel_outside
            (.deviceRemoveFile reached.1.tuxedoPlatformDevice)
            (fun _ => trivial) fun _ _ => rfl)
          settledCompared) ?_
    intro _ removed _ settledRemoved
    refine Program.Along.bind (tuxedoInputExit_along settledRemoved) ?_
    intro _ idle trackedIdle idleNow
    exact calm_along deviceExits_calm trackedIdle idleNow

end Programs

/-! ## Interfaces -/

/-- From a settled machine the program is tracked along its run and ends
settled. -/
def Settles {α : Type} (outcomes : Outcomes) (program : Core α) : Prop :=
  ∀ machine, SettledMachine machine →
    TrackedAlong outcomes program (fun _ after => SettledMachine after)
      machine

section Interfaces

variable {outcomes : Outcomes} {α β : Type}

theorem Settles.bind {program : Core α} {rest : α → Core β}
    (first : Settles outcomes program)
    (second : ∀ value, Settles outcomes (rest value)) :
    Settles outcomes (program >>= rest) := by
  intro machine settled
  refine Program.Along.bind (first machine settled) ?_
  exact fun value reached _ settledNow => second value reached settledNow

theorem Settles.ite {condition : Prop} [Decidable condition]
    {first second : Core α} (positive : Settles outcomes first)
    (negative : Settles outcomes second) :
    Settles outcomes (if condition then first else second) := by
  split
  · exact positive
  · exact negative

theorem settles_pure (value : α) :
    Settles outcomes (pure value : Core α) :=
  fun _ settled => ⟨settled.tracked, settled⟩

theorem settles_of_outside {program : Core α}
    (outside : program.Asks Outside) : Settles outcomes program :=
  fun _ settled => outside_along outside settled

private theorem settles_kernel (request : KernelRequest)
    (expected : ∀ objects, Expected objects request)
    (sameInputs : ∀ outcomes objects,
      (kernelObjects outcomes request objects).2.inputDevices =
        objects.inputDevices) :
    Settles outcomes (kernel request) :=
  settles_of_outside (kernel_outside request expected sameInputs)

private theorem settles_setStatics
    {update : KeyboardStatics → KeyboardStatics}
    (same : ∀ statics,
      (update statics).tuxedoPlatformDevice =
          statics.tuxedoPlatformDevice ∧
        (update statics).tuxedoInputDevice = statics.tuxedoInputDevice) :
    Settles outcomes (setStatics update) :=
  settles_of_outside (setStatics_outside same)

theorem initIfActive_settles :
    Settles outcomes clevoKeyboardAddInterface.initIfActive := by
  refine Settles.bind (settles_of_outside getStatics_outside) fun _ => ?_
  refine Settles.ite ?_ (settles_pure _)
  refine Settles.bind ?_ fun _ => settles_pure _
  exact fun _ settled => tuxedoKeyboardInitDriver_along .clevo settled

theorem clevoKeyboardAddInterface_settles (interface : ClevoInterface) :
    Settles outcomes (clevoKeyboardAddInterface interface) := by
  have callback :
      Settles outcomes (kernel (.setEventCallb (.clevo interface))) :=
    settles_kernel _ (fun _ => trivial) fun _ _ => rfl
  have enabled : Settles outcomes (kernel (.setEventsEnabled interface)) :=
    settles_kernel _ (fun _ => trivial) fun _ _ => rfl
  refine Settles.ite ?_ (Settles.ite ?_ (settles_pure _))
  · refine Settles.bind (settles_setStatics fun _ => ⟨rfl, rfl⟩) fun _ => ?_
    refine Settles.bind callback fun _ => ?_
    refine Settles.bind ?_ fun _ => ?_
    · refine
        Settles.bind (settles_of_outside getStatics_outside) fun _ => ?_
      refine Settles.ite ?_ (settles_pure _)
      exact
        Settles.bind enabled fun _ =>
          settles_setStatics fun _ => ⟨rfl, rfl⟩
    · exact Settles.bind initIfActive_settles fun _ => settles_pure _
  · refine Settles.bind (settles_setStatics fun _ => ⟨rfl, rfl⟩) fun _ => ?_
    refine Settles.bind callback fun _ => ?_
    refine Settles.bind enabled fun _ => ?_
    refine Settles.bind (settles_setStatics fun _ => ⟨rfl, rfl⟩) fun _ => ?_
    exact Settles.bind initIfActive_settles fun _ => settles_pure _

theorem removeIfActive_settles (outcomes : Outcomes)
    (interface : ClevoInterface) :
    Settles outcomes
      (clevoKeyboardRemoveInterface.removeIfActive interface) := by
  refine Settles.bind (settles_of_outside getStatics_outside) fun _ => ?_
  refine Settles.ite ?_ (settles_pure _)
  refine Settles.bind ?_ fun _ => settles_setStatics fun _ => ⟨rfl, rfl⟩
  exact fun _ settled => tuxedoKeyboardRemoveDriver_along _ settled

theorem clevoKeyboardRemoveInterface_settles (interface : ClevoInterface) :
    Settles outcomes (clevoKeyboardRemoveInterface interface) := by
  have removes := removeIfActive_settles outcomes interface
  refine Settles.ite ?_ (Settles.ite ?_ (settles_pure _))
  · refine Settles.bind (settles_setStatics fun _ => ⟨rfl, rfl⟩) fun _ => ?_
    exact Settles.bind removes fun _ => settles_pure _
  · refine Settles.bind (settles_setStatics fun _ => ⟨rfl, rfl⟩) fun _ => ?_
    exact Settles.bind removes fun _ => settles_pure _

theorem uniwillAddInterface_settles :
    Settles outcomes uniwillAddInterface := by
  refine Settles.bind (settles_setStatics fun _ => ⟨rfl, rfl⟩) fun _ => ?_
  refine
    Settles.bind
      (settles_kernel (.setEventCallb .uniwill) (fun _ => trivial)
        fun _ _ => rfl) fun _ => ?_
  refine Settles.bind ?_ fun _ => settles_pure _
  exact fun _ settled => tuxedoKeyboardInitDriver_along .uniwill settled

theorem uniwillRemoveInterface_settles :
    Settles outcomes uniwillRemoveInterface := by
  refine Settles.bind ?_ fun _ => ?_
  · exact fun _ settled => tuxedoKeyboardRemoveDriver_along _ settled
  · exact
      Settles.bind (settles_setStatics fun _ => ⟨rfl, rfl⟩) fun _ =>
        settles_pure _

/-- Every call of the drivers of the interfaces. -/
theorem InterfaceCall.settles (call : InterfaceCall) :
    Settles outcomes call.program := by
  have installs : ∀ source,
      Settles outcomes (kernel (.installNotifyHandler source)) := fun _ =>
    settles_kernel _ (fun _ => trivial) fun _ _ => rfl
  have removes : ∀ source,
      Settles outcomes (kernel (.removeNotifyHandler source)) := fun _ =>
    settles_kernel _ (fun _ => trivial) fun _ _ => rfl
  cases call with
  | probe source =>
      cases source with
      | clevo interface =>
          exact
            Settles.bind (installs _) fun _ =>
              clevoKeyboardAddInterface_settles interface
      | uniwill =>
          exact
            Settles.bind (installs _) fun _ => uniwillAddInterface_settles
  | remove source =>
      cases source with
      | clevo interface =>
          cases interface with
          | wmi =>
              refine
                Settles.bind (clevoKeyboardRemoveInterface_settles .wmi)
                  fun _ => ?_
              exact Settles.bind (removes _) fun _ => settles_pure _
          | acpi =>
              exact
                Settles.bind (removes _) fun _ =>
                  clevoKeyboardRemoveInterface_settles .acpi
      | uniwill =>
          refine Settles.bind uniwillRemoveInterface_settles fun _ => ?_
          exact Settles.bind (removes _) fun _ => settles_pure _

end Interfaces

theorem afterInterfaces_settled (steps : List InterfaceStep) :
    SettledMachine (afterInterfaces steps) := by
  refine
    runSteps_preserves InterfaceStep.run SettledMachine ?_ steps
      settled_initially
  intro step machine settled
  exact (step.call.settles machine settled).run.2

end TuxedoDrivers.Keyboard
