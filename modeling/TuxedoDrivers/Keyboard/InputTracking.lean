import TuxedoDrivers.Keyboard.KernelObjects

/-!
# What the pointers of the drivers lead to

Each driver keeps a pointer to the input device of its last set up, which is
not cleared when the device goes away.  The history of set ups and tear downs
says what the pointer leads to.
-/

namespace TuxedoDrivers.Keyboard

open Interaction

/-! ## Phases -/

/-- Whether the input device of a driver has not come, is there, or has gone
and left the pointer behind. -/
inductive InputPhase where
  | absent
  | live
  | stale
  deriving DecidableEq, Repr

/-- The phase after a history, the latest milestone first. -/
def inputPhase (driver : KeyboardDriver) : List Milestone → InputPhase
  | [] => .absent
  | .taken taken :: earlier =>
      if taken = driver then .live else inputPhase driver earlier
  | .cleared cleared :: earlier =>
      if cleared = driver then .absent else inputPhase driver earlier
  | .unregistered :: earlier =>
      match inputPhase driver earlier with
      | .absent => .absent
      | .live => .stale
      | .stale => .stale

def PhaseFits (objects : KernelObjects) (driver : KeyboardDriver) : Prop :=
  match inputPhase driver objects.milestones with
  | .absent => objects.driverInputDevice driver = none
  | .live =>
      ∃ device, objects.driverInputDevice driver = some device ∧
        objects.inputDevices device = .registered
  | .stale =>
      ∃ device, objects.driverInputDevice driver = some device ∧
        objects.inputDevices device = .freed

/-- The pointers are what the history says. -/
structure Tracked (objects : KernelObjects) : Prop where
  phases : ∀ driver, PhaseFits objects driver
  oneRegistered : ∀ first second,
    objects.inputDevices first = .registered →
      objects.inputDevices second = .registered → first = second
  fresh : ∀ device, objects.nextInputDevice ≤ device →
    objects.inputDevices device = .unknown

def Idle (objects : KernelObjects) : Prop :=
  ∀ device, objects.inputDevices device ≠ .registered

namespace Tracked

variable {objects : KernelObjects}

theorem initially : Tracked {} :=
  ⟨fun _ => rfl, fun _ _ registered => by simp at registered,
    fun _ _ => rfl⟩

theorem congr {other : KernelObjects} (tracked : Tracked objects)
    (inputs : other.inputDevices = objects.inputDevices)
    (next : other.nextInputDevice = objects.nextInputDevice)
    (pointers : other.driverInputDevice = objects.driverInputDevice)
    (history : other.milestones = objects.milestones) :
    Tracked other := by
  refine ⟨fun driver => ?_, ?_, ?_⟩
  · have fits := tracked.phases driver
    rw [PhaseFits] at fits ⊢
    rwa [history, pointers, inputs]
  · rw [inputs]
    exact tracked.oneRegistered
  · rw [inputs, next]
    exact tracked.fresh

/-- A device that no pointer of a driver leads to can change its status. -/
private theorem phaseFits_setInput {driver : KeyboardDriver}
    {device : InputDevice} {status : InputStatus}
    (fits : PhaseFits objects driver)
    (notRegistered : objects.inputDevices device ≠ .registered)
    (notFreed : objects.inputDevices device ≠ .freed) :
    PhaseFits (objects.setInput device status) driver := by
  rw [PhaseFits] at fits ⊢
  simp only [KernelObjects.setInput] at fits ⊢
  cases phase : inputPhase driver objects.milestones with
  | absent =>
      simpa only [phase] using fits
  | live =>
      simp only [phase] at fits ⊢
      obtain ⟨held, pointer, registered⟩ := fits
      have other : held ≠ device := by
        rintro rfl
        exact notRegistered registered
      exact ⟨held, pointer, by rwa [Function.update_of_ne other]⟩
  | stale =>
      simp only [phase] at fits ⊢
      obtain ⟨held, pointer, freed⟩ := fits
      have other : held ≠ device := by
        rintro rfl
        exact notFreed freed
      exact ⟨held, pointer, by rwa [Function.update_of_ne other]⟩

theorem allocate (tracked : Tracked objects) :
    Tracked
      { objects.setInput objects.nextInputDevice .allocated with
        nextInputDevice := objects.nextInputDevice + 1 } := by
  have unknown := tracked.fresh objects.nextInputDevice le_rfl
  refine ⟨fun driver => ?_, fun first second => ?_, fun device above => ?_⟩
  · exact
      phaseFits_setInput (tracked.phases driver) (by simp [unknown])
        (by simp [unknown])
  · simp only [KernelObjects.setInput, Function.update_apply]
    split <;> split
    · simp
    · simp
    · simp
    · exact tracked.oneRegistered first second
  · have later : objects.nextInputDevice < device := above
    simp only [KernelObjects.setInput, Function.update_of_ne later.ne']
    exact tracked.fresh device later.le

/-- What becomes of an allocated device: it may be registered if no other
is. -/
theorem settle (tracked : Tracked objects) {device : InputDevice}
    (allocated : objects.inputDevices device = .allocated)
    {status : InputStatus}
    (alone : status = .registered → Idle objects) :
    Tracked (objects.setInput device status) := by
  refine ⟨fun driver => ?_, fun first second => ?_, fun other above => ?_⟩
  · exact
      phaseFits_setInput (tracked.phases driver) (by simp [allocated])
        (by simp [allocated])
  · simp only [KernelObjects.setInput, Function.update_apply]
    split <;> split
    · simp [*]
    · exact fun now registered => absurd registered (alone now second)
    · exact fun registered now => absurd registered (alone now first)
    · exact tracked.oneRegistered first second
  · have unknown := tracked.fresh other above
    have different : other ≠ device := by
      rintro rfl
      simp [unknown] at allocated
    simpa only [KernelObjects.setInput, Function.update_of_ne different]
      using unknown

/-- The one registered device goes, and with it all live pointers become
stale. -/
theorem unregister (tracked : Tracked objects) {device : InputDevice}
    (registered : objects.inputDevices device = .registered) :
    Tracked
      { objects.setInput device .freed with
        milestones := .unregistered :: objects.milestones } := by
  refine ⟨fun driver => ?_, fun first second => ?_, fun other above => ?_⟩
  · have fits := tracked.phases driver
    simp only [PhaseFits, inputPhase, KernelObjects.setInput] at fits ⊢
    cases phase : inputPhase driver objects.milestones with
    | absent =>
        simpa only [phase] using fits
    | live =>
        simp only [phase] at fits ⊢
        obtain ⟨held, pointer, heldRegistered⟩ := fits
        have same :=
          tracked.oneRegistered held device heldRegistered registered
        exact ⟨held, pointer, by simp [same]⟩
    | stale =>
        simp only [phase] at fits ⊢
        obtain ⟨held, pointer, freed⟩ := fits
        have other : held ≠ device := by
          rintro rfl
          simp [registered] at freed
        exact ⟨held, pointer, by rwa [Function.update_of_ne other]⟩
  · simp only [KernelObjects.setInput, Function.update_apply]
    split <;> split
    · simp
    · simp
    · simp
    · exact tracked.oneRegistered first second
  · have unknown := tracked.fresh other above
    have different : other ≠ device := by
      rintro rfl
      simp [unknown] at registered
    simpa only [KernelObjects.setInput, Function.update_of_ne different]
      using unknown

/-- A driver takes the registered device, or clears its pointer. -/
theorem setPointer (tracked : Tracked objects) (driver : KeyboardDriver)
    {pointer : Option InputDevice}
    (registered : ∀ device, pointer = some device →
      objects.inputDevices device = .registered) :
    Tracked
      { objects with
        driverInputDevice :=
          Function.update objects.driverInputDevice driver pointer
        milestones :=
          (if pointer = none then .cleared driver else .taken driver) ::
            objects.milestones } := by
  refine ⟨fun other => ?_, tracked.oneRegistered, tracked.fresh⟩
  have fits := tracked.phases other
  rw [PhaseFits] at fits ⊢
  by_cases same : driver = other
  · cases pointer with
    | none =>
        simp [inputPhase, same]
    | some device =>
        simp [inputPhase, same, registered device rfl]
  · have unchanged :
        Function.update objects.driverInputDevice driver pointer other =
          objects.driverInputDevice other := by
      rw [Function.update_of_ne (Ne.symm same)]
    cases pointer with
    | none =>
        simpa [inputPhase, same, unchanged] using fits
    | some device =>
        simpa [inputPhase, same, unchanged] using fits

end Tracked

/-! ## Requests -/

/-- Until a fault the pointers are tracked. -/
def TrackedMachine (machine : KeyboardMachine) : Prop :=
  machine.2.faulted = false → Tracked machine.2

def IdleMachine (machine : KeyboardMachine) : Prop :=
  machine.2.faulted = false → Idle machine.2

/-- What the core takes care of: to register a device only where there is
none, and to take only a registered one. -/
def Expected (objects : KernelObjects) : KernelRequest → Prop
  | .inputRegisterDevice _ => Idle objects
  | .setDriverInputDevice _ pointer =>
      ∀ device, pointer = some device →
        objects.inputDevices device = .registered
  | _ => True

theorem unfaulted_of_kernelObjects (outcomes : Outcomes)
    (request : KernelRequest) {objects : KernelObjects}
    (after : (kernelObjects outcomes request objects).2.faulted = false) :
    objects.faulted = false := by
  cases now : objects.faulted with
  | false =>
      rfl
  | true =>
      rw [faulted_kernelObjects outcomes request now] at after
      cases after

theorem tracked_kernelObjects (outcomes : Outcomes)
    (request : KernelRequest) {objects : KernelObjects}
    (tracked : Tracked objects) (expected : Expected objects request)
    (unfaulted :
      (kernelObjects outcomes request objects).2.faulted = false) :
    Tracked (kernelObjects outcomes request objects).2 := by
  have before := unfaulted_of_kernelObjects outcomes request unfaulted
  cases request with
  | inputAllocateDevice =>
      simp only [kernelObjects]
      split
      · exact tracked.allocate
      · exact tracked
  | inputRegisterDevice device =>
      by_cases succeeds : outcomes.inputRegisterDevice = 0
      · have allocated : objects.inputDevices device = .allocated := by
          simpa [kernelObjects, KernelObjects.setInput, succeeds, before]
            using unfaulted
        have settled : Tracked (objects.setInput device .registered) :=
          tracked.settle allocated fun _ => expected
        simpa [kernelObjects, succeeds, allocated] using settled
      · simp only [kernelObjects, if_neg succeeds]
        exact tracked.congr rfl rfl rfl rfl
  | inputFreeDevice device =>
      have allocated : objects.inputDevices device = .allocated := by
        simpa [kernelObjects, KernelObjects.setInput, before]
          using unfaulted
      have settled : Tracked (objects.setInput device .freed) :=
        tracked.settle allocated (by simp)
      simpa [kernelObjects, allocated] using settled
  | inputUnregisterDevice device =>
      have registered : objects.inputDevices device = .registered := by
        simpa [kernelObjects, KernelObjects.setInput, before]
          using unfaulted
      have gone := tracked.unregister registered
      simpa [kernelObjects, registered] using gone
  | setDriverInputDevice driver pointer =>
      exact tracked.setPointer driver expected
  | platformCreateBundle driver =>
      simp only [kernelObjects]
      split
      · exact tracked.congr rfl rfl rfl rfl
      · exact tracked
  | _ =>
      exact tracked.congr rfl rfl rfl rfl

/-- Only a registration ends the idleness. -/
theorem idle_kernelObjects (outcomes : Outcomes)
    (request : KernelRequest) {objects : KernelObjects}
    (idle : Idle objects)
    (registersNone : ∀ device, request ≠ .inputRegisterDevice device) :
    Idle (kernelObjects outcomes request objects).2 := by
  have updated : ∀ {device : InputDevice} {status : InputStatus},
      status ≠ .registered → ∀ other,
        Function.update objects.inputDevices device status other ≠
          .registered := by
    intro device status notRegistered other
    rw [Function.update_apply]
    split
    · exact notRegistered
    · exact idle other
  cases request with
  | inputAllocateDevice =>
      simp only [kernelObjects]
      split
      · exact updated (by simp)
      · exact idle
  | inputRegisterDevice device =>
      exact absurd rfl (registersNone device)
  | inputFreeDevice device =>
      exact updated (by simp)
  | inputUnregisterDevice device =>
      exact updated (by simp)
  | platformCreateBundle driver =>
      simp only [kernelObjects]
      split
      · exact idle
      · exact idle
  | _ =>
      exact idle

end TuxedoDrivers.Keyboard
