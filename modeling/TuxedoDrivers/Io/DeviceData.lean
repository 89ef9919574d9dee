import TuxedoDrivers.Interaction.Runs
import TuxedoDrivers.Io.IoctlRuns
import TuxedoDrivers.Keyboard.Interfaces

/-!
# Device data of the ioctl interface

`uw_feats` and the TDP tables are set when the hardware is identified, on
load and by `R_HWCHECK_UW`, and only if a Uniwill interface is there at that
time.  Interfaces come and go while commands are handled.  The main result
says in which runs no command looks at data that is not set.
-/

namespace TuxedoDrivers.Io.Ioctl

open Interaction Uniwill
open Keyboard (EventSource KeyboardStatics keyboardEnvironment)

/-! ## Commands and missing features -/

/-- A look at the features while `uw_feats` is `NULL`. -/
def nullDereference : Event ioSignature → Bool
  | ⟨.features uwFeats, _⟩ => !uwFeats
  | _ => false

/-- The commands that look at the features whatever the device. -/
def needsFeatures : IoctlCommand → Bool
  | .rUwModelId | .rUwFanspeed | .rUwFanspeed2 | .rUwProfsAvailable
  | .wUwTdp0 | .wUwTdp1 | .wUwTdp2 => true
  | _ => false

/-- The tables are set only together with the features. -/
def TablesIdentified (statics : IoStatics) : Prop :=
  statics.tdpMinDefs.isSome = true ∨ statics.tdpMaxDefs.isSome = true →
    statics.uwFeats = true

section Commands

variable {σ : Type} (world : IoWorld σ) (dmi : Dmi) (arg : U64)

theorem any_nullDereference_of_kernelOnly {α : Type} {program : Handler α}
    (asks : program.Asks KernelOnly) (state : IoStatics × σ) :
    (program.trace (ioEnvironment world) state).any nullDereference =
      false := by
  refine List.any_eq_false.mpr fun event member => ?_
  have kernelOnly := asks.of_mem_trace member
  rcases event with ⟨request, answer⟩
  cases request with
  | kernel request =>
      exact Bool.false_ne_true
  | features uwFeats =>
      exact kernelOnly.elim
  | statics update =>
      exact kernelOnly.elim

theorem any_nullDereference_tdpValueOf {state : IoStatics × σ}
    (identified : state.1.uwFeats = true) (tdpIndex tdpData : U8) :
    ((tdpValueOf tdpIndex tdpData).trace (ioEnvironment world) state).any
      nullDereference = false := by
  rw [tdpValueOf, Program.trace_ite]
  split
  · rw [Program.trace_bind, Program.trace_ite, trace_derefUwFeats,
      identified, Program.trace_pure, Program.trace_pure, ite_self]
    rfl
  · rfl

/-- A table is only used after its pointer has been checked, so the features
are there when the third limit is doubled. -/
theorem any_nullDereference_uwGetTdp {state : IoStatics × σ}
    (tables : TablesIdentified state.1) (tdpIndex : U8) :
    ((uwGetTdp tdpIndex).trace (ioEnvironment world) state).any
      nullDereference = false := by
  by_cases unsupported : uwGetTdpMin state.1.tdpDefs tdpIndex < 0
  · simp [uwGetTdp, unsupported, nullDereference]
  · obtain ⟨bounds, -, known, -, -⟩ :=
      uwGetTdpBound_nonneg (Int.not_lt.mp unsupported)
    have minima : state.1.tdpMinDefs = some bounds := known
    have identified : state.1.uwFeats = true := by
      apply tables
      rw [minima]
      exact Or.inl rfl
    rw [uwGetTdp, Program.trace_bind, run_getStatics, Program.trace_ite,
      if_neg unsupported, Program.trace_bind, Program.trace_ite,
      List.any_append, List.any_append]
    split
    · rfl
    · rw [any_nullDereference_tdpValueOf]
      · rfl
      · exact identified

theorem any_nullDereference_uniwillIdentify (state : IoStatics × σ) :
    ((uniwillIdentify dmi).trace (ioEnvironment world) state).any
      nullDereference = false := by
  rw [uniwillIdentify, Program.trace_bind, Program.trace_ite, List.any_append]
  split <;> rfl

theorem any_nullDereference_moduleCommand (command : IoctlCommand)
    (state : IoStatics × σ) :
    ((moduleCommand dmi arg command).trace (ioEnvironment world) state).any
      nullDereference = false := by
  cases command
  case rHwcheckUw =>
    rw [moduleCommand, Program.trace_bind, List.any_append,
      any_nullDereference_uniwillIdentify]
    rfl
  all_goals rfl

theorem any_nullDereference {command : IoctlCommand}
    {state : IoStatics × σ} (tables : TablesIdentified state.1) :
    ((fopIoctl dmi command arg).trace (ioEnvironment world) state).any
        nullDereference =
      (needsFeatures command && !state.1.uwFeats) := by
  rw [trace_fopIoctl, List.any_append, List.any_append,
    any_nullDereference_moduleCommand,
    any_nullDereference_of_kernelOnly world
      (clevoIoctlInterface_kernelOnly dmi arg command)]
  cases command
  case rClWebcamSw | wClWebcamSw =>
    split <;> rfl
  case rUwTdp0 | rUwTdp1 | rUwTdp2 =>
    change
      ((uniwillIoctlInterface _ arg).trace (ioEnvironment world) state).any
        nullDereference = false
    rw [uniwillIoctlInterface, Program.trace_bind, List.any_append,
      uniwillReadCommand, readTdp, Program.trace_bind, List.any_append,
      any_nullDereference_uwGetTdp world tables]
    rfl
  all_goals
    obtain ⟨⟨clevo, uniwill, uwFeats, minDefs, maxDefs⟩, reached⟩ := state
    cases uwFeats <;> rfl

end Commands

/-! ## Interfaces -/

section Interfaces

variable {τ : Type}

/-- The kernel with the interfaces that the keyboard driver knows. -/
def interfaceWorld (rest : IoWorld τ) : IoWorld (KeyboardStatics × τ) where
  kernel
    | .clevoGetActiveInterfaceId, (keyboard, other) =>
        (keyboard.activeClevoInterface.map Clevo.ClevoInterface.stringId,
          keyboard, other)
    | .uniwillGetActiveInterfaceId, (keyboard, other) =>
        (if keyboard.uniwillInterfacesWmi = true then some "uniwill_wmi"
          else none,
          keyboard, other)
    | request, (keyboard, other) =>
        ((rest.kernel request other).1, keyboard,
          (rest.kernel request other).2)
  deviceFeatures state := rest.deviceFeatures state.2
  strayFeatures state := rest.strayFeatures state.2

/-- A command, or the driver of an interface comes or goes. -/
inductive IoStep where
  | ioctl (command : IoctlCommand) (arg : U64)
  | probe (source : EventSource)
  | remove (source : EventSource)
  deriving DecidableEq, Repr

/-- The variables of the module, those of the keyboard driver, and the rest
of the kernel. -/
abbrev IoMachine (τ : Type) : Type :=
  IoStatics × KeyboardStatics × τ

variable (rest : IoWorld τ)
  (objects : Environment Keyboard.kernelSignature τ) (dmi : Dmi)

def ioStep : IoStep → IoMachine τ → IoMachine τ
  | .ioctl command arg, machine =>
      ((fopIoctl dmi command arg).run (ioEnvironment (interfaceWorld rest))
        machine).2
  | .probe source, (statics, state) =>
      (statics,
        ((Keyboard.probeInterface source).run (keyboardEnvironment objects)
          state).2)
  | .remove source, (statics, state) =>
      (statics,
        ((Keyboard.removeInterface source).run (keyboardEnvironment objects)
          state).2)

/-- The machine after `tuxedo_io_init`, whatever was there before. -/
def loaded (state : KeyboardStatics × τ) : IoMachine τ :=
  ((tuxedoIoInit dmi).run (ioEnvironment (interfaceWorld rest))
    ({}, state)).2

/-- A command of the step looks only at data that an identification has set.
A table is looked at only where there is one, so it is enough that the tables
come with the features. -/
structure UsesIdentified (step : IoStep) (machine : IoMachine τ) : Prop where
  features : ∀ command arg, step = .ioctl command arg →
    ∀ event ∈ (fopIoctl dmi command arg).trace
      (ioEnvironment (interfaceWorld rest)) machine,
      nullDereference event = false
  tables : TablesIdentified machine.1

/-! ## Histories -/

/-- What the steps so far say about the device data: whether a Uniwill
interface is registered, and whether an identification found one. -/
structure History where
  registered : Bool
  identified : Bool
  deriving DecidableEq, Repr

def History.step : IoStep → History → History
  | .probe .uniwill, history => { history with registered := true }
  | .remove .uniwill, history => { history with registered := false }
  | .ioctl .rHwcheckUw _, history =>
      { history with identified := history.identified || history.registered }
  | _, history => history

/-- Loading the module identifies the hardware. -/
def History.load (registered : Bool) : History :=
  ⟨registered, registered⟩

/-- A command that needs the features finds a device that has been
identified. -/
def DataPresent : IoStep → History → Prop
  | .ioctl command _, history =>
      needsFeatures command = true → history.identified = true
  | _, _ => True

/-- The history says what the variables are. -/
structure Tracks (machine : IoMachine τ) (history : History) : Prop where
  registered : machine.2.1.uniwillInterfacesWmi = history.registered
  identified : machine.1.uwFeats = history.identified
  tables : TablesIdentified machine.1

variable {rest objects dmi}

theorem usesIdentified_iff {machine : IoMachine τ} {history : History}
    (tracks : Tracks machine history) (step : IoStep) :
    UsesIdentified rest dmi step machine ↔ DataPresent step history := by
  cases step with
  | probe source =>
      exact iff_of_true ⟨by simp, tracks.tables⟩ trivial
  | remove source =>
      exact iff_of_true ⟨by simp, tracks.tables⟩ trivial
  | ioctl command arg =>
      have silent :
          (∀ event ∈ (fopIoctl dmi command arg).trace
              (ioEnvironment (interfaceWorld rest)) machine,
            nullDereference event = false) ↔
            (needsFeatures command && !history.identified) = false := by
        rw [← tracks.identified,
          ← any_nullDereference (interfaceWorld rest) dmi arg tracks.tables]
        simp
      constructor
      · intro uses needs
        have present := silent.mp (uses.features command arg rfl)
        rw [needs, Bool.true_and, Bool.not_eq_false'] at present
        exact present
      · intro present
        refine ⟨?_, tracks.tables⟩
        rintro _ _ ⟨⟩
        refine silent.mpr ?_
        cases needs : needsFeatures command with
        | false =>
            rfl
        | true =>
            rw [present needs]
            rfl

/-- A command leaves the keyboard driver alone. -/
theorem keyboard_run {α : Type} (program : Handler α)
    (machine : IoMachine τ) :
    (program.run (ioEnvironment (interfaceWorld rest)) machine).2.2.1 =
      machine.2.1 := by
  refine
    program.asks_any.run_preserves (ioEnvironment (interfaceWorld rest))
      (fun reached => reached.2.1 = machine.2.1) ?_ rfl
  rintro (request | uwFeats | update) reached - unchanged
  · cases request <;> exact unchanged
  · exact unchanged
  · exact unchanged

/-- The variables that `uniwill_identify` sets. -/
def identification (statics : IoStatics) : Bool × TdpPointers :=
  (statics.uwFeats, statics.tdpDefs)

theorem moduleCommand_keepsIdentification (arg : U64)
    {command : IoctlCommand} (other : command ≠ .rHwcheckUw) :
    (moduleCommand dmi arg command).Asks (KeepsView identification) := by
  cases command
  case rHwcheckUw =>
    exact absurd rfl other
  case rHwcheckCl =>
    refine Program.Asks.bind ⟨trivial, fun _ => trivial⟩ fun result => ?_
    refine Program.Asks.bind (setStatics_keepsView fun _ => rfl) fun _ => ?_
    exact copyWord_keepsView arg _
  case rModVersion =>
    exact ⟨trivial, fun _ => trivial⟩
  all_goals trivial

/-- Only `R_HWCHECK_UW` identifies the hardware again. -/
theorem identification_ioctl (arg : U64) {command : IoctlCommand}
    (other : command ≠ .rHwcheckUw) (machine : IoMachine τ) :
    identification
        (ioStep rest objects dmi (.ioctl command arg) machine).1 =
      identification machine.1 :=
  view_of_keepsView (interfaceWorld rest)
    (fopIoctl_asks dmi arg (moduleCommand_keepsIdentification arg other)
      (keepsView_of_kernelOnly (clevoIoctlInterface_kernelOnly dmi arg _))
      (uniwillIoctlInterface_keepsView _ arg))
    machine

theorem tracks_rHwcheckUw {machine : IoMachine τ} {history : History}
    (tracks : Tracks machine history) (arg : U64) :
    Tracks (ioStep rest objects dmi (.ioctl .rHwcheckUw arg) machine)
      (history.step (.ioctl .rHwcheckUw arg)) := by
  obtain ⟨statics, ⟨platform, input, driver, wmi, acpi, active, present⟩,
    other⟩ := machine
  obtain ⟨before, identified⟩ := history
  obtain ⟨registered, sameFeats, tables⟩ := tracks
  cases registered
  cases present with
  | false =>
      exact ⟨rfl, sameFeats.trans (Bool.or_false _).symm, tables⟩
  | true =>
      exact ⟨rfl, (Bool.or_true identified).symm, fun _ => rfl⟩

theorem History.step_other (arg : U64) {command : IoctlCommand}
    (other : command ≠ .rHwcheckUw) (history : History) :
    history.step (.ioctl command arg) = history := by
  cases command
  case rHwcheckUw =>
    exact absurd rfl other
  all_goals rfl

theorem Tracks.step {machine : IoMachine τ} {history : History}
    (tracks : Tracks machine history) (step : IoStep) :
    Tracks (ioStep rest objects dmi step machine) (history.step step) := by
  cases step with
  | ioctl command arg =>
      by_cases check : command = .rHwcheckUw
      · subst check
        exact tracks_rHwcheckUw tracks arg
      · rw [History.step_other arg check]
        have same :
            identification
                (ioStep rest objects dmi (.ioctl command arg) machine).1 =
              identification machine.1 :=
          identification_ioctl arg check machine
        obtain ⟨sameFeats, sameDefs⟩ := Prod.mk.inj same
        obtain ⟨sameMin, sameMax⟩ := TdpPointers.mk.inj sameDefs
        refine ⟨?_, sameFeats.trans tracks.identified, ?_⟩
        · rw [ioStep, keyboard_run]
          exact tracks.registered
        · intro some
          rw [sameMin, sameMax] at some
          rw [sameFeats]
          exact tracks.tables some
  | probe source =>
      have registered :=
        Keyboard.uniwillInterfacesWmi_probeInterface objects machine.2 source
      rw [tracks.registered] at registered
      cases source <;>
        exact ⟨registered, tracks.identified, tracks.tables⟩
  | remove source =>
      have registered :=
        Keyboard.uniwillInterfacesWmi_removeInterface objects machine.2 source
      rw [tracks.registered] at registered
      cases source <;>
        exact ⟨registered, tracks.identified, tracks.tables⟩

theorem tracks_loaded (state : KeyboardStatics × τ) :
    Tracks (loaded rest dmi state)
      (History.load state.1.uniwillInterfacesWmi) := by
  obtain ⟨⟨platform, input, driver, wmi, acpi, active, registered⟩, other⟩ :=
    state
  cases registered
  · refine ⟨rfl, rfl, ?_⟩
    rintro (minima | maxima)
    · cases minima
    · cases maxima
  · exact ⟨rfl, rfl, fun _ => rfl⟩

variable (rest objects dmi)

/-- No command of a run looks at missing data exactly if every command that
needs the features comes after an identification with a Uniwill interface. -/
theorem usesIdentified_throughout_iff (state : KeyboardStatics × τ)
    (steps : List IoStep) :
    EachStep (ioStep rest objects dmi) (UsesIdentified rest dmi) steps
        (loaded rest dmi state) ↔
      EachStep History.step DataPresent steps
        (History.load state.1.uniwillInterfacesWmi) := by
  have exactly : ∀ step (machine : IoMachine τ) history,
      Tracks machine history →
        (UsesIdentified rest dmi step machine ↔ DataPresent step history) :=
    fun step _ _ tracks => usesIdentified_iff tracks step
  have simulates : ∀ step (machine : IoMachine τ) (history : History),
      Tracks machine history →
        Tracks (ioStep rest objects dmi step machine) (history.step step) :=
    fun step _ _ tracks => tracks.step step
  exact
    eachStep_iff_of_simulation exactly simulates steps (tracks_loaded state)

end Interfaces

/-- A kernel without firmware. -/
def quietWorld : IoWorld Unit where
  kernel
    | .copyToUser _ _, state => (0, state)
    | .copyFromUser _, state => (⟨0, 0⟩, state)
    | .clevoGetActiveInterfaceId, state => (none, state)
    | .clevoEvaluateMethod _ _, state => (⟨(-enodev, none), false⟩, state)
    | .uniwillGetActiveInterfaceId, state => (none, state)
    | .uniwillGetDeviceFeatures, state => ((), state)
    | .uniwillReadEcRam _, state => (.fail 0, state)
    | .uniwillWriteEcRam _ _, state => (⟨-eio, false⟩, state)
    | .uwSetFan _ _, state => (⟨0, false⟩, state)
    | .uwSetFanAuto, state => (0, state)
    | .uwSetTdp _ _ _, state => (⟨-enodev, false⟩, state)
    | .uwSetPerformanceProfileV1 _, state =>
        (⟨BitVec.ofInt 32 (-eio), false⟩, state)
    | .msleep _, state => ((), state)
  deviceFeatures _ := {}
  strayFeatures _ := {}

/-- The module is loaded on a machine with a Clevo interface, and
`R_UW_MODEL_ID` looks behind a null pointer. -/
theorem rUwModelId_onClevo :
    ¬ UsesIdentified quietWorld (fun _ => none) (.ioctl .rUwModelId 0)
      (loaded quietWorld (fun _ => none)
        ({ activeClevoInterface := some .acpi }, ())) := by
  intro uses
  have silent :=
    uses.features .rUwModelId 0 rfl _
      (List.mem_cons_of_mem _ List.mem_cons_self)
  exact Bool.noConfusion silent

end TuxedoDrivers.Io.Ioctl
