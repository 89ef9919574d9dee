import TuxedoDrivers.Interaction.Runs
import TuxedoDrivers.Keyboard.Interfaces

/-!
# The active Clevo interface

Which interface the Clevo methods are called on after interfaces have been
added and removed in any order.  The globals that select it are looked at on
their own: what the keyboard core does in between does not touch them.
-/

namespace TuxedoDrivers.Keyboard

open Interaction
open Clevo (ClevoInterface)

/-! ## The globals that select the interface -/

structure ClevoGlobals where
  wmi : Option ClevoInterface := none
  acpi : Option ClevoInterface := none
  active : Option ClevoInterface := none
  deriving DecidableEq, Repr

def KeyboardStatics.clevo (statics : KeyboardStatics) : ClevoGlobals :=
  ⟨statics.clevoInterfacesWmi, statics.clevoInterfacesAcpi,
    statics.activeClevoInterface⟩

theorem clevo_ignoresCore : IgnoresCore KeyboardStatics.clevo :=
  fun _ _ _ _ => rfl

/-! ## Runs -/

/-- The calls of the drivers of the two interfaces. -/
inductive ClevoStep where
  | add (interface : ClevoInterface)
  | remove (interface : ClevoInterface)
  deriving DecidableEq, Repr

def ClevoStep.program : ClevoStep → Core Int
  | .add interface => clevoKeyboardAddInterface interface
  | .remove interface => clevoKeyboardRemoveInterface interface

/-- What a call does to the globals that select the interface. -/
def ClevoStep.select : ClevoStep → ClevoGlobals → ClevoGlobals
  | .add .wmi, globals =>
      { globals with
        wmi := some .wmi
        active :=
          if globals.active = none then some .wmi else globals.active }
  | .add .acpi, globals =>
      { globals with acpi := some .acpi, active := some .acpi }
  | .remove .wmi, globals =>
      { globals with
        wmi := none
        active :=
          if globals.active = some .wmi then none else globals.active }
  | .remove .acpi, globals =>
      { globals with
        acpi := none
        active :=
          if globals.active = some .acpi then none else globals.active }

section Runs

variable {σ : Type} (environment : Environment kernelSignature σ)

private theorem wmi_stringId :
    ClevoInterface.wmi.stringId = clevoInterfaceWmiStrid :=
  rfl

private theorem acpi_stringId_ne :
    ClevoInterface.acpi.stringId ≠ clevoInterfaceWmiStrid := by
  decide

private theorem acpi_stringId :
    ClevoInterface.acpi.stringId = clevoInterfaceAcpiStrid :=
  rfl

private theorem initIfActive_keepsClevo :
    clevoKeyboardAddInterface.initIfActive.Asks
      (KeepsView KeyboardStatics.clevo) := by
  refine Program.Asks.bind getStatics_keepsView fun statics => ?_
  refine Program.Asks.ite (fun _ => ?_) fun _ => trivial
  refine Program.Asks.bind ?_ fun _ => trivial
  exact tuxedoKeyboardInitDriver_keepsView clevo_ignoresCore _

private theorem removeIfActive_clevo (interface : ClevoInterface)
    (state : KeyboardStatics × σ) :
    ((clevoKeyboardRemoveInterface.removeIfActive interface).run
        (keyboardEnvironment environment) state).2.1.clevo =
      { state.1.clevo with
        active :=
          if state.1.activeClevoInterface = some interface then none
          else state.1.activeClevoInterface } := by
  rw [clevoKeyboardRemoveInterface.removeIfActive, Program.run_bind,
    run_getStatics, Program.run_ite]
  split
  · rw [Program.run_bind, run_setStatics]
    have kept :=
      view_of_keepsView environment
        (tuxedoKeyboardRemoveDriver_keepsView clevo_ignoresCore (some .clevo))
        state
    simp only [KeyboardStatics.clevo, ClevoGlobals.mk.injEq] at kept ⊢
    exact ⟨kept.1, kept.2.1, trivial⟩
  · rfl

/-- Whatever the kernel does, a call selects as `select` says. -/
theorem clevo_program_eq_select (step : ClevoStep)
    (state : KeyboardStatics × σ) :
    (step.program.run (keyboardEnvironment environment) state).2.1.clevo =
      step.select state.1.clevo := by
  have inits := fun reached =>
    view_of_keepsView environment initIfActive_keepsClevo reached
  simp only [KeyboardStatics.clevo, ClevoGlobals.mk.injEq] at inits
  cases step with
  | add interface =>
      cases interface with
      | wmi =>
          by_cases unused : state.1.activeClevoInterface = none
          · simp [Program.run, ClevoStep.program, clevoKeyboardAddInterface,
              clevoKeyboardAddInterface.enableWmi, wmi_stringId, inits,
              unused, ClevoStep.select, KeyboardStatics.clevo]
          · simp [Program.run, ClevoStep.program, clevoKeyboardAddInterface,
              clevoKeyboardAddInterface.enableWmi, wmi_stringId, inits,
              unused, ClevoStep.select, KeyboardStatics.clevo]
      | acpi =>
          simp [Program.run, ClevoStep.program, clevoKeyboardAddInterface,
            acpi_stringId_ne, if_pos acpi_stringId, inits, ClevoStep.select,
            KeyboardStatics.clevo]
  | remove interface =>
      cases interface with
      | wmi =>
          rw [ClevoStep.program, clevoKeyboardRemoveInterface,
            if_pos wmi_stringId, Program.run_bind, run_setStatics,
            Program.run_bind, Program.run_pure, removeIfActive_clevo]
          rfl
      | acpi =>
          rw [ClevoStep.program, clevoKeyboardRemoveInterface,
            if_neg acpi_stringId_ne, if_pos acpi_stringId,
            Program.run_bind, run_setStatics, Program.run_bind,
            Program.run_pure, removeIfActive_clevo]
          rfl

/-- The state after the calls, from the loaded module on. -/
def runClevo (steps : List ClevoStep) (world : σ) : KeyboardStatics × σ :=
  runSteps
    (fun step state =>
      (step.program.run (keyboardEnvironment environment) state).2)
    steps ({}, world)

theorem clevo_runClevo (steps : List ClevoStep) (world : σ) :
    (runClevo environment steps world).1.clevo =
      runSteps ClevoStep.select steps {} := by
  induction steps using List.reverseRecOn with
  | nil =>
      rfl
  | append_singleton steps step inductionHypothesis =>
      simp only [runClevo, runSteps_append, runSteps_cons, runSteps_nil]
        at inductionHypothesis ⊢
      rw [clevo_program_eq_select, inductionHypothesis]

theorem activeClevoInterface_runClevo (steps : List ClevoStep) (world : σ) :
    (runClevo environment steps world).1.activeClevoInterface =
      (runSteps ClevoStep.select steps {}).active :=
  congrArg ClevoGlobals.active (clevo_runClevo environment steps world)

end Runs

/-! ## Selection -/

/-- The last call about the interface added it. -/
def registered (interface : ClevoInterface) (steps : List ClevoStep) :
    Bool :=
  runSteps
    (fun step now =>
      match step with
      | .add added => if added = interface then true else now
      | .remove removed => if removed = interface then false else now)
    steps false

/-- ACPI if it is registered, otherwise WMI if that is. -/
def selected (steps : List ClevoStep) : Option ClevoInterface :=
  if registered .acpi steps = true then some .acpi
  else if registered .wmi steps = true then some .wmi
  else none

@[simp]
theorem registered_add (interface added : ClevoInterface)
    (steps : List ClevoStep) :
    registered interface (steps ++ [.add added]) =
      if added = interface then true else registered interface steps := by
  simp [registered]

@[simp]
theorem registered_remove (interface removed : ClevoInterface)
    (steps : List ClevoStep) :
    registered interface (steps ++ [.remove removed]) =
      if removed = interface then false
      else registered interface steps := by
  simp [registered]

/-- A call selects right after calls that did, unless it removes ACPI while
WMI is there to fall back to. -/
theorem select_eq_selected_iff {steps : List ClevoStep}
    {globals : ClevoGlobals} (now : globals.active = selected steps)
    (step : ClevoStep) :
    (step.select globals).active = selected (steps ++ [step]) ↔
      ¬ (step = .remove .acpi ∧ registered .acpi steps = true ∧
        registered .wmi steps = true) := by
  cases acpi : registered .acpi steps with
  | false =>
      cases wmi : registered .wmi steps with
      | false =>
          rcases step with (_ | _) | (_ | _) <;>
            simp [ClevoStep.select, now, selected, acpi, wmi]
      | true =>
          rcases step with (_ | _) | (_ | _) <;>
            simp [ClevoStep.select, now, selected, acpi, wmi]
  | true =>
      cases wmi : registered .wmi steps with
      | false =>
          rcases step with (_ | _) | (_ | _) <;>
            simp [ClevoStep.select, now, selected, acpi, wmi]
      | true =>
          rcases step with (_ | _) | (_ | _) <;>
            simp [ClevoStep.select, now, selected, acpi, wmi]

/-- The right interface is active after every call of a run exactly if the
run never removes ACPI while both interfaces are registered. -/
theorem activeClevoInterface_selected_iff {σ : Type}
    (environment : Environment kernelSignature σ) (world : σ)
    (steps : List ClevoStep) :
    (∀ done, done <+: steps →
      (runClevo environment done world).1.activeClevoInterface =
        selected done) ↔
      ∀ done, done ++ [.remove .acpi] <+: steps →
        ¬ (registered .acpi done = true ∧ registered .wmi done = true) := by
  simp only [activeClevoInterface_runClevo]
  constructor
  · intro right done isPrefix both
    have before := right done ((List.prefix_append done _).trans isPrefix)
    have after := right (done ++ [.remove .acpi]) isPrefix
    rw [runSteps_append] at after
    exact
      (select_eq_selected_iff before (.remove .acpi)).mp after ⟨rfl, both⟩
  · intro spared done isPrefix
    induction done using List.reverseRecOn with
    | nil =>
        rfl
    | append_singleton done step inductionHypothesis =>
        have before :=
          inductionHypothesis ((List.prefix_append done _).trans isPrefix)
        rw [runSteps_append]
        refine (select_eq_selected_iff before step).mpr ?_
        rintro ⟨rfl, both⟩
        exact spared done isPrefix both

/-- After ACPI is removed nothing is active, though WMI is still there. -/
theorem activeClevoInterface_afterAcpi
    (environment : Environment kernelSignature Unit) :
    (runClevo environment [.add .wmi, .add .acpi, .remove .acpi]
        ()).1.activeClevoInterface = none := by
  rw [activeClevoInterface_runClevo]
  rfl

/-- With WMI still registered the methods answer -ENODEV. -/
theorem clevoMethods_afterAcpi :
    let steps : List ClevoStep := [.add .wmi, .add .acpi, .remove .acpi]
    registered .acpi steps = false ∧ registered .wmi steps = true ∧
      selected steps = some .wmi ∧
      ∀ environment : Environment kernelSignature Unit,
        let active := (runClevo environment steps ()).1.activeClevoInterface
        active = none ∧
          Clevo.clevoEvaluateMethod2 active 0x52 0 true =
            pure ⟨-enodev, none⟩ := by
  refine ⟨rfl, rfl, rfl, fun environment => ?_⟩
  have inactive := activeClevoInterface_afterAcpi environment
  exact ⟨inactive, by rw [inactive]; rfl⟩

end TuxedoDrivers.Keyboard
