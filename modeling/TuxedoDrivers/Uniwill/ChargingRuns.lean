import TuxedoDrivers.Uniwill.ChargingSettings

/-!
# Charging settings over a whole run

Stores, changes by the firmware, restores and suspends in any order, with an
EC that may fail at any access.  Next to the static variables the run keeps
what a user knows of the settings: the last value stored with success, or
the value read at initialisation.  Both histories agree in every state, so a
restore whose accesses succeed writes what the user knows.
-/

namespace TuxedoDrivers.Uniwill

open Interaction

/-! ## Restores -/

/-- The branch of `uniwill_event_callb` for
`UNIWILL_OSD_DC_ADAPTER_CHANGE`. -/
def uniwillOsdDcAdapterChange (dmi : Dmi) : Driver Unit := do
  uniwillSetCustomProfileMode dmi false
  uniwillLedsRestoreStateExtern
  uwChargingPriorityWriteState
  uwChargingProfileWriteState

/-- What makes the driver restore the settings. -/
inductive ChargingRestore where
  | dcAdapterChange
  | resume
  deriving DecidableEq, Repr

namespace ChargingRestore

def program (dmi : Dmi) : ChargingRestore → Driver Unit
  | .dcAdapterChange => uniwillOsdDcAdapterChange dmi
  | .resume => do
      let _ ← uniwillKeyboardResume
      return ()

/-- What happens before the settings are written. -/
def prelude (dmi : Dmi) : ChargingRestore → Driver Unit
  | .dcAdapterChange => do
      uniwillSetCustomProfileMode dmi false
      uniwillLedsRestoreStateExtern
  | .resume => do
      resumeFans
      resumeCustomProfile
      uniwillLedsRestoreStateExtern
      uniwillWriteKbdBlEnable 1

theorem run_program {σ : Type} (dmi : Dmi) (restore : ChargingRestore)
    (device : EcDevice σ) (machine : Machine σ) :
    (device.run (restore.program dmi) machine).2 =
      (device.run ChargingSetting.profile.writeState
        (device.run ChargingSetting.priority.writeState
          (device.run (restore.prelude dmi) machine).2).2).2 := by
  cases restore with
  | dcAdapterChange =>
      simp only [program, prelude, uniwillOsdDcAdapterChange, run_bind]
      rfl
  | resume =>
      simp only [program, prelude, uniwillKeyboardResume, run_bind, run_pure]
      rfl

end ChargingRestore

/-! ## What neither a restore's prelude nor a suspend touches -/

/-- The registers of no charging setting. -/
def OtherRegister (address : U16) : Prop :=
  ∀ setting : ChargingSetting, address ≠ setting.register

section Preludes

private theorem otherRegister_of_customProfileRegister (address : U16)
    (within : CustomProfileRegister address) : OtherRegister address := by
  cases within
  intro setting
  cases setting <;> decide

private theorem otherRegister_of_backlightRegister (address : U16)
    (within : BacklightRegister address) : OtherRegister address := by
  rintro setting rfl
  revert within
  cases setting <;> decide

private theorem otherRegister_of_fanControlRegister (address : U16)
    (within : FanControlRegister address) : OtherRegister address := by
  rintro setting rfl
  revert within
  cases setting <;> decide

/-- The fan control knows nothing of the settings. -/
private theorem fans_spare {program : Driver Unit}
    (asks : program.Asks (Confined FanControlRegister beyondFans)) :
    program.Asks (Confined OtherRegister DriverState.settings) := by
  refine confined_mono asks otherRegister_of_fanControlRegister ?_
  intro first second same
  have settings := congrArg DriverState.settings same
  exact settings

private theorem backlight_spares {program : Driver Unit}
    (asks : program.Asks
      (Confined BacklightRegister DriverState.settings)) :
    program.Asks (Confined OtherRegister DriverState.settings) :=
  confined_mono asks otherRegister_of_backlightRegister fun _ _ same => same

private theorem customProfile_spares {program : Driver Unit}
    (asks : program.Asks
      (Confined CustomProfileRegister DriverState.settings)) :
    program.Asks (Confined OtherRegister DriverState.settings) :=
  confined_mono asks otherRegister_of_customProfileRegister
    fun _ _ same => same

theorem uniwillKeyboardSuspend_spares :
    uniwillKeyboardSuspend.Asks
      (Confined OtherRegister DriverState.settings) := by
  refine (customProfile_spares suspendCustomProfile_confined).bind ?_
  intro _
  refine (backlight_spares (uniwillWriteKbdBlEnable_confined 0)).bind ?_
  intro _
  exact (fans_spare suspendFans_confined).bind fun _ => trivial

theorem ChargingRestore.prelude_spares
    (dmi : Dmi) (restore : ChargingRestore) :
    (restore.prelude dmi).Asks
      (Confined OtherRegister DriverState.settings) := by
  have backlight := backlight_spares uniwillLedsRestoreStateExtern_confined
  cases restore with
  | dcAdapterChange =>
      refine Program.Asks.bind ?_ fun _ => backlight
      exact
        confined_mono (uniwillSetCustomProfileMode_confined dmi false)
          otherRegister_of_customProfileRegister
          fun _ _ same => congrArg (fun others => others.2.1) same
  | resume =>
      refine (fans_spare resumeFans_confined).bind fun _ => ?_
      refine (customProfile_spares resumeCustomProfile_confined).bind ?_
      intro _
      refine backlight.bind fun _ => ?_
      exact backlight_spares (uniwillWriteKbdBlEnable_confined 1)

end Preludes

/-! ## Steps -/

/-- The driver's state and what a user knows of the settings. -/
structure ChargingRun (σ : Type) where
  machine : Machine σ
  lastKnown : ChargingSetting → Option U8

inductive ChargingStep (σ : Type) where
  | init (setting : ChargingSetting) (created : Bool)
  | store (setting : ChargingSetting) (buffer : String) (size : Nat)
  | firmware (change : σ → σ)
  | restore (restore : ChargingRestore)
  | suspend

/-- A store needs the sysfs file, and it is known when it succeeds. -/
def chargingStep {σ : Type} (dmi : Dmi) (device : EcDevice σ) :
    ChargingStep σ → ChargingRun σ → ChargingRun σ
  | .init setting created, run =>
      let reached := (device.run (setting.init created) run.machine).2
      { machine := reached
        lastKnown :=
          Function.update run.lastKnown setting
            (setting.readAtInit reached.1
              (device.read setting.register run.machine.2).1) }
  | .store setting buffer size, run =>
      if setting.loaded run.machine.1 = true then
        let reached := device.run (setting.store buffer size) run.machine
        { machine := reached.2
          lastKnown :=
            if 0 ≤ reached.1 then
              Function.update run.lastKnown setting
                ((optionOf setting.options buffer).map CharToU8.value)
            else run.lastKnown }
      else run
  | .firmware change, run =>
      { run with machine := (run.machine.1, change run.machine.2) }
  | .restore restore, run =>
      { run with
        machine := (device.run (restore.program dmi) run.machine).2 }
  | .suspend, run =>
      { run with
        machine := (device.run uniwillKeyboardSuspend run.machine).2 }

/-- The driver remembers what the user knows, and would restore it. -/
def Agrees {σ : Type} (run : ChargingRun σ) : Prop :=
  ∀ setting value, run.lastKnown setting = some value →
    setting.known run.machine.1 = (true, value)

section Steps

variable {σ : Type} {dmi : Dmi} {device : EcDevice σ}
  {run : ChargingRun σ}

/-- A step that keeps what the driver and the user know. -/
private theorem Agrees.of_same {machine : Machine σ} (agrees : Agrees run)
    (same : ∀ setting : ChargingSetting,
      setting.known machine.1 = setting.known run.machine.1) :
    Agrees { run with machine } :=
  fun setting value lastKnown =>
    (same setting).trans (agrees setting value lastKnown)

theorem known_restore (restore : ChargingRestore) (machine : Machine σ)
    (setting : ChargingSetting) :
    setting.known (device.run (restore.program dmi) machine).2.1 =
      setting.known machine.1 := by
  have prelude :=
    view_of_confined (restore.prelude_spares dmi) device machine
  rw [restore.run_program, ChargingSetting.known_writeState,
    ChargingSetting.known_writeState]
  exact ChargingSetting.known_of_settings prelude setting

theorem known_suspend (machine : Machine σ) (setting : ChargingSetting) :
    setting.known (device.run uniwillKeyboardSuspend machine).2.1 =
      setting.known machine.1 :=
  ChargingSetting.known_of_settings
    (view_of_confined uniwillKeyboardSuspend_spares device machine) setting

theorem agrees_init (agrees : Agrees run) (setting : ChargingSetting)
    (created : Bool) :
    Agrees (chargingStep dmi device (.init setting created) run) := by
  intro other value lastKnown
  by_cases same : other = setting
  · subst same
    simp only [chargingStep, Function.update_self] at lastKnown
    exact ChargingSetting.known_init_self device run.machine other created
      lastKnown
  · simp only [chargingStep, Function.update_of_ne same] at lastKnown
    exact
      (ChargingSetting.known_init_of_ne device run.machine same
        created).trans (agrees other value lastKnown)

theorem agrees_store (agrees : Agrees run) (setting : ChargingSetting)
    (buffer : String) (size : Nat) :
    Agrees (chargingStep dmi device (.store setting buffer size) run) := by
  rw [chargingStep]
  by_cases isLoaded : setting.loaded run.machine.1 = true
  · rw [if_pos isLoaded]
    by_cases success :
        0 ≤ (device.run (setting.store buffer size) run.machine).1
    · simp only [if_pos success]
      intro other value lastKnown
      by_cases same : other = setting
      · subst same
        simp only [Function.update_self] at lastKnown
        obtain ⟨option, named, rfl⟩ := Option.map_eq_some_iff.mp lastKnown
        exact
          (ChargingSetting.known_store_self device run.machine other named
            success).trans (congrArg (·, option.value) isLoaded)
      · simp only [Function.update_of_ne same] at lastKnown
        exact
          (ChargingSetting.known_store_of_ne device run.machine same buffer
            size).trans (agrees other value lastKnown)
    · simp only [if_neg success]
      refine agrees.of_same fun other => ?_
      rw [ChargingSetting.statics_store, if_neg success]
  · rw [if_neg isLoaded]
    exact agrees

/-- Every step keeps the driver and the user agreed. -/
theorem agrees_chargingStep (agrees : Agrees run) (step : ChargingStep σ) :
    Agrees (chargingStep dmi device step run) := by
  cases step with
  | init setting created =>
      exact agrees_init agrees setting created
  | store setting buffer size =>
      exact agrees_store agrees setting buffer size
  | firmware change =>
      exact agrees.of_same fun _ => rfl
  | restore restore =>
      exact agrees.of_same (known_restore restore run.machine)
  | suspend =>
      exact agrees.of_same (known_suspend run.machine)

end Steps

/-! ## Restores -/

/-- What a restore leaves in the register of a setting. -/
theorem ram_restore (dmi : Dmi) (restore : ChargingRestore)
    (machine : Machine Ram) (setting : ChargingSetting) :
    (reliableEc.run (restore.program dmi) machine).2.2 setting.register =
      if setting.loaded machine.1 = true then
        setting.merge (machine.2 setting.register)
          (setting.remembered machine.1 &&& setting.low)
      else machine.2 setting.register := by
  let before := (reliableEc.run (restore.prelude dmi) machine).2
  have content :
      before.2 setting.register = machine.2 setting.register :=
    ram_of_confined (restore.prelude_spares dmi) machine
      fun other => other setting rfl
  have known : setting.known before.1 = setting.known machine.1 :=
    ChargingSetting.known_of_settings
      (view_of_confined (restore.prelude_spares dmi) reliableEc machine)
      setting
  obtain ⟨isLoaded, isRemembered⟩ := Prod.mk.inj known
  rw [restore.run_program, ← content, ← isLoaded, ← isRemembered]
  change
    (reliableEc.run ChargingSetting.profile.writeState
      (reliableEc.run ChargingSetting.priority.writeState
        before).2).2.2 setting.register = _
  cases setting with
  | priority =>
      rw [ChargingSetting.ram_writeState_of_ne _ .profile (by decide),
        ChargingSetting.ram_writeState_self]
  | profile =>
      obtain ⟨stillLoaded, stillRemembered⟩ :=
        Prod.mk.inj
          (ChargingSetting.known_writeState reliableEc before .priority
            .profile)
      rw [ChargingSetting.ram_writeState_self,
        ChargingSetting.ram_writeState_of_ne _ .priority (by decide),
        stillLoaded, stillRemembered]

/-- After any run, a restore whose accesses succeed writes the value that
was last stored with success or read at initialisation and no other bit of
the register; a failed store changes no variable. -/
theorem restore_writesLastKnown
    {σ : Type} (dmi : Dmi) (device : EcDevice σ) (machine : Machine σ)
    (steps : List (ChargingStep σ)) (ram : Ram)
    (restore : ChargingRestore) (setting : ChargingSetting) :
    let reached :=
      runSteps (chargingStep dmi device) steps ⟨machine, fun _ => none⟩
    let restored :=
      (reliableEc.run (restore.program dmi) (reached.machine.1, ram)).2.2
        setting.register
    (∀ value, reached.lastKnown setting = some value →
      setting.field restored = value) ∧
    restored &&& ~~~setting.mask =
      ram setting.register &&& ~~~setting.mask ∧
    ∀ buffer size,
      (device.run (setting.store buffer size) reached.machine).1 < 0 →
        (device.run (setting.store buffer size) reached.machine).2.1 =
          reached.machine.1 := by
  intro reached restored
  have agrees : Agrees reached :=
    runSteps_preserves (chargingStep dmi device) Agrees
      (fun step _ agrees => agrees_chargingStep agrees step) steps
      (fun _ _ lastKnown => by cases lastKnown)
  have written : restored = _ :=
    ram_restore dmi restore (reached.machine.1, ram) setting
  refine ⟨fun value lastKnown => ?_, ?_, fun buffer size failed => ?_⟩
  · obtain ⟨isLoaded, rfl⟩ :=
      Prod.mk.inj (agrees setting value lastKnown)
    rw [written, if_pos isLoaded, ChargingSetting.field_merge,
      ChargingSetting.remembered_low]
  · rw [written]
    split
    · exact ChargingSetting.merge_others setting _ _
    · rfl
  · rw [ChargingSetting.statics_store, if_neg (by omega)]

end TuxedoDrivers.Uniwill
