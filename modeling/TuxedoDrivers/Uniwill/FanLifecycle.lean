import TuxedoDrivers.Interaction.Runs
import TuxedoDrivers.Uniwill.FanRequests
import TuxedoDrivers.Uniwill.PlatformDriver

/-!
# The restart work over the life of the driver

`direct_fan_control_started` says that the restart work is scheduled or
running, and the first manual request schedules the work only if the flag is
not set.  Removal cancels the work without clearing the flag, so the two
stay together exactly while no removal happens with the flag set.
-/

namespace TuxedoDrivers.Uniwill

open Interaction

/-! ## Flag and work -/

/-- The flag together with whether the work is pending. -/
def restartFlags (statics : DriverState) : Bool × Bool :=
  (statics.fan.directFanControlStarted, statics.fan.restartWorkPending)

/-- The flag is set exactly while the work is pending. -/
def FanBookkeeping (statics : DriverState) : Prop :=
  statics.fan.directFanControlStarted = true ↔
    statics.fan.restartWorkPending = true

instance (statics : DriverState) : Decidable (FanBookkeeping statics) :=
  inferInstanceAs (Decidable (_ ↔ _))

theorem FanBookkeeping.of_restartFlags {first second : DriverState}
    (same : restartFlags first = restartFlags second)
    (kept : FanBookkeeping second) : FanBookkeeping first := by
  obtain ⟨started, pending⟩ := Prod.mk.inj same
  rw [FanBookkeeping, started, pending]
  exact kept

theorem restartFlags_of_fan {first second : DriverState}
    (same : first.fan = second.fan) :
    restartFlags first = restartFlags second := by
  rw [restartFlags, restartFlags, same]

section Operations

variable {σ : Type} (device : EcDevice σ) (machine : Machine σ)

private theorem uwInitFan_keepsFlags :
    restartFlags (device.run uwInitFan machine).2.1 =
      restartFlags machine.1 := by
  rw [run_uwInitFan]
  rfl

/-- A speed register is written without the restart work. -/
private theorem directFanControl_keepsFlags (fanIndex : U32)
    (fanSpeed : U8) :
    restartFlags
        (device.run (directFanControl fanIndex fanSpeed false)
          machine).2.1 =
      restartFlags machine.1 := by
  simp only [directFanControl, directFanControlApply, run_ite, run_bind,
    run_setStatics, run_getStatics, run_uniwillWriteEcRam, run_pure,
    Bool.false_eq_true, false_and, if_false]
  split
  · rfl
  · split <;> rfl

/-- With the prevention of the ramp-up, the first request for a fan that
exists sets the flag and schedules the work. -/
private theorem directFanControl_startsFlags (fanIndex : U32)
    (fanSpeed : U8) :
    restartFlags
        (device.run (directFanControl fanIndex fanSpeed true)
          machine).2.1 =
      if fanIndex.toNat ≤ 1 ∧
          machine.1.fan.directFanControlStarted = false then (true, true)
      else restartFlags machine.1 := by
  rcases fanIndex_cases fanIndex with rfl | rfl | large
  · cases started : machine.1.fan.directFanControlStarted <;>
      simp [directFanControl, directFanControlApply, started, restartFlags]
  · cases started : machine.1.fan.directFanControlStarted <;>
      simp [directFanControl, directFanControlApply, started, restartFlags]
  · have notFirst : fanIndex ≠ 0 := by
      rintro rfl
      exact absurd large (by decide)
    have notSecond : fanIndex ≠ 1 := by
      rintro rfl
      exact absurd large (by decide)
    have missing : ¬ fanIndex.toNat ≤ 1 := Nat.not_le.mpr large
    simp only [directFanControl, run_pure, if_neg notFirst,
      if_neg notSecond, missing, false_and, if_false]

/-- A fan request changes flag and work together, or neither. -/
theorem restartFlags_uwSetFan (fanIndex : U32) (fanSpeed : U8) :
    restartFlags (device.run (uwSetFan fanIndex fanSpeed) machine).2.1 =
      if machine.1.hasUniversalEcFanControl = false ∧
          fanIndex.toNat ≤ 1 ∧
          machine.1.fan.directFanControlStarted = false then (true, true)
      else restartFlags machine.1 := by
  cases universal : machine.1.hasUniversalEcFanControl with
  | false =>
      rw [(run_uwSetFan_direct device fanIndex fanSpeed universal).1,
        directFanControl_startsFlags]
      simp
  | true =>
      rw [if_neg (by simp)]
      by_cases fullFanMode : FullFanMode (device.fanMode machine.2)
      · rw [(run_uwSetFan_ignored device fanIndex fanSpeed universal
          fullFanMode).1]
      · by_cases accepted : AcceptedFanRequest fanIndex fanSpeed
        · rw [(run_uwSetFan_accepted device fanIndex fanSpeed universal
            fullFanMode accepted).1]
          simp only [uwSetFanTables, run_bind, directFanControl_keepsFlags,
            run_uniwillWriteEcRam, uwInitFan_keepsFlags]
        · rw [(run_uwSetFan_rejected device fanIndex fanSpeed universal
            fullFanMode accepted).1, uwInitFan_keepsFlags]

private theorem FanBookkeeping.uwSetFan
    (kept : FanBookkeeping machine.1) (fanIndex : U32) (fanSpeed : U8) :
    FanBookkeeping
      (device.run (uwSetFan fanIndex fanSpeed) machine).2.1 := by
  have flags := restartFlags_uwSetFan device machine fanIndex fanSpeed
  split at flags
  · obtain ⟨started, pending⟩ := Prod.mk.inj flags
    exact iff_of_true started pending
  · exact kept.of_restartFlags flags

/-- The work schedules itself again. -/
private theorem restartFlags_runRestartWork
    (pending : machine.1.fan.restartWorkPending = true) :
    restartFlags (device.run runRestartWork machine).2.1 =
      restartFlags machine.1 := by
  rw [(runRestartWork_rule device machine).1, restartFlags, restartFlags,
    pending]

/-- The return to automatic control clears both, or neither. -/
private theorem restartFlags_uwSetFanAuto :
    restartFlags (device.run uwSetFanAuto machine).2.1 =
      if machine.1.hasUniversalEcFanControl = true then
        restartFlags machine.1
      else (false, false) := by
  have disabled : ∀ (later : Machine σ) (table : U16) (offset : Nat),
      table ≠ 0 →
        (device.run (uwDisableCustomFanTable table offset) later).2.1 =
          later.1 := by
    intro later table offset elsewhere
    have asks :
        (uwDisableCustomFanTable table offset).Asks
          (Confined (fun register => register ≠ 0) id) :=
      confined_of_accessWithin
        (uwDisableCustomFanTable_avoids table offset elsewhere)
    exact view_of_confined asks device later
  simp only [uwSetFanAuto, uwSetFanAutoTables, uwSetFanAutoDirect, run_bind,
    run_getStatics, run_ite, run_setStatics, run_pure,
    run_uniwillReadEcRam, run_uniwillWriteEcRam]
  unfold DriverState.hasUniversalEcFanControl
  by_cases universal :
      machine.1.uniwillDeviceFeatures.uniwillHasUniversalEcFanControl = true
  · simp only [if_pos universal,
      disabled _ _ _ (show (0x07c5 : U16) ≠ 0 by decide),
      disabled _ _ _ (show (0x07c6 : U16) ≠ 0 by decide)]
    rfl
  · simp only [if_neg universal]
    rfl

private theorem FanBookkeeping.uwSetFanAuto
    (kept : FanBookkeeping machine.1) :
    FanBookkeeping (device.run uwSetFanAuto machine).2.1 := by
  have flags := restartFlags_uwSetFanAuto device machine
  split at flags
  · exact kept.of_restartFlags flags
  · obtain ⟨started, pending⟩ := Prod.mk.inj flags
    rw [FanBookkeeping, started, pending]

private theorem FanBookkeeping.of_keepsFan {α : Type}
    {program : Driver α} (asks : program.Asks KeepsFan)
    (kept : FanBookkeeping machine.1) :
    FanBookkeeping (device.run program machine).2.1 :=
  kept.of_restartFlags
    (restartFlags_of_fan (view_of_confined asks device machine))

private theorem FanBookkeeping.suspendFans
    (kept : FanBookkeeping machine.1) :
    FanBookkeeping (device.run suspendFans machine).2.1 := by
  simp only [Uniwill.suspendFans, run_bind, run_getStatics, run_ite,
    run_setStatics, run_pure]
  split
  · apply FanBookkeeping.uwSetFanAuto
    exact kept
  · exact kept

private theorem FanBookkeeping.resumeFans
    (kept : FanBookkeeping machine.1) :
    FanBookkeeping (device.run resumeFans machine).2.1 := by
  simp only [Uniwill.resumeFans, run_bind, run_getStatics, run_ite,
    run_setStatics, run_pure]
  split
  · apply FanBookkeeping.uwSetFan
    apply FanBookkeeping.uwSetFan
    exact kept
  · exact kept

private theorem keepsFan_of_beyondSettings {program : Driver Unit}
    (asks : program.Asks (Confined ChargingRegister beyondSettings)) :
    program.Asks KeepsFan := by
  refine confined_mono asks (fun _ _ => trivial) fun first second same => ?_
  change (beyondSettings first).fan = (beyondSettings second).fan
  rw [same]

private theorem FanBookkeeping.suspend (kept : FanBookkeeping machine.1) :
    FanBookkeeping (device.run uniwillKeyboardSuspend machine).2.1 := by
  simp only [uniwillKeyboardSuspend, run_bind, run_pure]
  apply FanBookkeeping.suspendFans
  refine FanBookkeeping.of_keepsFan device _ ?_ ?_
  · exact keepsFan_of_confined (uniwillWriteKbdBlEnable_confined 0)
  · refine FanBookkeeping.of_keepsFan device _ ?_ kept
    exact keepsFan_of_confined suspendCustomProfile_confined

private theorem FanBookkeeping.resume (kept : FanBookkeeping machine.1) :
    FanBookkeeping (device.run uniwillKeyboardResume machine).2.1 := by
  simp only [uniwillKeyboardResume, run_bind, run_pure]
  refine FanBookkeeping.of_keepsFan device _ ?_ ?_
  · exact keepsFan_of_beyondSettings uwChargingProfileWriteState_confined
  refine FanBookkeeping.of_keepsFan device _ ?_ ?_
  · exact keepsFan_of_beyondSettings uwChargingPriorityWriteState_confined
  refine FanBookkeeping.of_keepsFan device _ ?_ ?_
  · exact keepsFan_of_confined (uniwillWriteKbdBlEnable_confined 1)
  refine FanBookkeeping.of_keepsFan device _ ?_ ?_
  · exact keepsFan_of_confined uniwillLedsRestoreStateExtern_confined
  refine FanBookkeeping.of_keepsFan device _ ?_ ?_
  · exact keepsFan_of_confined resumeCustomProfile_confined
  · exact kept.resumeFans device machine

end Operations

/-! ## Runs -/

/-- The driver's state with the variables of probe and removal. -/
structure FanLifecycle (σ : Type) where
  machine : Machine σ
  probe : ProbeStatics

inductive LifecycleStep where
  | setFan (fanIndex : U32) (fanSpeed : U8)
  | restartWork
  | setFanAuto
  | suspend
  | resume
  | remove
  | probe (registrations : Registrations)

namespace LifecycleStep

variable {σ : Type} (dmi : Dmi) (device : EcDevice σ)

/-- The restart work only runs when it is pending. -/
def apply : LifecycleStep → FanLifecycle σ → FanLifecycle σ
  | .setFan fanIndex fanSpeed, state =>
      { state with
        machine :=
          (device.run (uwSetFan fanIndex fanSpeed) state.machine).2 }
  | .restartWork, state =>
      if state.machine.1.fan.restartWorkPending = true then
        { state with machine := (device.run runRestartWork state.machine).2 }
      else state
  | .setFanAuto, state =>
      { state with machine := (device.run uwSetFanAuto state.machine).2 }
  | .suspend, state =>
      { state with
        machine := (device.run uniwillKeyboardSuspend state.machine).2 }
  | .resume, state =>
      { state with
        machine := (device.run uniwillKeyboardResume state.machine).2 }
  | .remove, state =>
      { state with
        machine :=
          (device.run (uniwillKeyboardRemove state.probe)
            state.machine).2 }
  | .probe registrations, state =>
      let reached :=
        device.run (uniwillKeyboardProbe dmi registrations state.probe)
          state.machine
      ⟨reached.2, reached.1⟩

/-- The step is not a removal with the flag set. -/
def KeepsWork (step : LifecycleStep) (state : FanLifecycle σ) : Prop :=
  match step with
  | .remove => state.machine.1.fan.directFanControlStarted = false
  | .setFan _ _ | .restartWork | .setFanAuto | .suspend | .resume
  | .probe _ => True

/-- What one step does to flag and work. -/
theorem fanBookkeeping_apply_iff (step : LifecycleStep)
    (state : FanLifecycle σ) (kept : FanBookkeeping state.machine.1) :
    FanBookkeeping (step.apply dmi device state).machine.1 ↔
      step.KeepsWork state := by
  cases step with
  | setFan fanIndex fanSpeed =>
      exact
        iff_of_true (kept.uwSetFan device state.machine fanIndex fanSpeed)
          trivial
  | restartWork =>
      refine iff_of_true ?_ trivial
      rw [apply]
      split
      · exact
          kept.of_restartFlags
            (restartFlags_runRestartWork device state.machine ‹_›)
      · exact kept
  | setFanAuto =>
      exact iff_of_true (kept.uwSetFanAuto device state.machine) trivial
  | suspend =>
      exact iff_of_true (kept.suspend device state.machine) trivial
  | resume =>
      exact iff_of_true (kept.resume device state.machine) trivial
  | remove =>
      have fan :=
        fan_uniwillKeyboardRemove device state.probe state.machine
      simp only [apply, FanBookkeeping, fan, KeepsWork]
      simp
  | probe registrations =>
      refine iff_of_true ?_ trivial
      apply FanBookkeeping.of_keepsFan
      · exact uniwillKeyboardProbe_keepsFan dmi registrations state.probe
      · exact kept

end LifecycleStep

/-- From the loaded module, the flag is set exactly while the work is
pending, in every state of a run exactly if no step of the run removes the
driver with the flag set.  In the end of such a run, a manual request for a
fan that exists leaves the work pending on a device without universal fan
control. -/
theorem fanBookkeeping_throughout_iff
    {σ : Type} (dmi : Dmi) (device : EcDevice σ) (ec : σ)
    (steps : List LifecycleStep) :
    let start : FanLifecycle σ := ⟨({}, ec), {}⟩
    let step := LifecycleStep.apply dmi device
    let reached := (runSteps step steps start).machine
    (Throughout step (fun state => FanBookkeeping state.machine.1) steps
        start ↔
      EachStep step LifecycleStep.KeepsWork steps start) ∧
    (EachStep step LifecycleStep.KeepsWork steps start →
      reached.1.hasUniversalEcFanControl = false →
      ∀ fanIndex fanSpeed, fanIndex.toNat ≤ 1 →
        (device.run (uwSetFan fanIndex fanSpeed)
          reached).2.1.fan.restartWorkPending = true) := by
  intro start step reached
  have exactly :
      Throughout step (fun state => FanBookkeeping state.machine.1) steps
          start ↔
        EachStep step LifecycleStep.KeepsWork steps start :=
    throughout_iff_eachStep
      (fun item state kept =>
        item.fanBookkeeping_apply_iff dmi device state kept)
      steps Iff.rfl
  refine
    ⟨exactly, fun keepsWork direct fanIndex fanSpeed existing => ?_⟩
  have kept : FanBookkeeping reached.1 :=
    exactly.mpr keepsWork steps List.prefix_rfl
  have flags := restartFlags_uwSetFan device reached fanIndex fanSpeed
  cases started : reached.1.fan.directFanControlStarted with
  | false =>
      rw [if_pos ⟨direct, existing, started⟩] at flags
      exact (Prod.mk.inj flags).2
  | true =>
      rw [if_neg (by simp [started])] at flags
      exact (Prod.mk.inj flags).2.trans (kept.mp started)

/-- Registrations that all succeed. -/
def registered : Registrations where
  backlightLed _ := 0
  lightbarLed _ := 0
  chargingPrioGroup := true
  chargingProfileGroup := true
  acAutoBootGroup := true
  usbPowershareGroup := true

/-- A driver that is removed after a manual request and probed again has the
flag without the work, and the next request does not schedule it. -/
theorem fanBookkeeping_afterRemove :
    let step := LifecycleStep.apply (fun _ => none) reliableEc
    let reached :=
      (runSteps step
        [.probe registered, .setFan 0 100, .remove, .probe registered]
        ⟨({}, fun _ => 0), {}⟩).machine
    ¬ FanBookkeeping reached.1 ∧
      reached.1.hasUniversalEcFanControl = false ∧
      (reliableEc.run (uwSetFan 0 100)
        reached).2.1.fan.restartWorkPending = false := by
  decide

end TuxedoDrivers.Uniwill
