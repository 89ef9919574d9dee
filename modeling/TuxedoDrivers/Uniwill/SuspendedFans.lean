import TuxedoDrivers.Interaction.Runs
import TuxedoDrivers.Uniwill.FanRuns
import TuxedoDrivers.Uniwill.Frames

/-!
# Manual fan control over suspend and resume

A suspend saves the two fan speeds and gives the fans back to the EC; a
resume requests the saved speeds again, of which the first only starts the
restart work.  The main result follows the speeds through any number of
suspends and resumes, with runs of the restart work and changes made by the
EC in between.
-/

namespace TuxedoDrivers.Uniwill

open Interaction

/-! ## Steps -/

inductive PowerStep where
  | suspend
  | resume
  | restartWork
  /-- The EC changes its registers, except for the mode register. -/
  | ecChange (ram : Ram)

/-- The restart work only runs when it is pending. -/
def applyPower : PowerStep → Machine Ram → Machine Ram
  | .suspend, machine => (reliableEc.run uniwillKeyboardSuspend machine).2
  | .resume, machine => (reliableEc.run uniwillKeyboardResume machine).2
  | .restartWork, machine =>
      if machine.1.fan.restartWorkPending = true then
        (reliableEc.run runRestartWork machine).2
      else machine
  | .ecChange ram, machine =>
      (machine.1, Function.update ram 0x0751 (machine.2 0x0751))

/-- Where a run stands, from a device that was not suspended yet. -/
inductive PowerPhase where
  | awake
  | asleep
  | resumed
  deriving DecidableEq, Repr

def PowerStep.phase : PowerStep → PowerPhase → PowerPhase
  | .suspend, _ => .asleep
  | .resume, _ => .resumed
  | .restartWork, phase | .ecChange _, phase => phase

/-- A device that is not asleep is suspended, and one that is asleep
resumed. -/
def PowerStep.Possible : PowerStep → PowerPhase → Prop
  | .suspend, phase => phase ≠ .asleep
  | .resume, phase => phase = .asleep
  | .restartWork, _ | .ecChange _, _ => True

def phaseAfter (steps : List PowerStep) : PowerPhase :=
  runSteps PowerStep.phase steps .awake

/-! ## What suspend and resume do to the fans -/

/-- The fan control is the same: the flag, the variables and the
registers. -/
structure SameFans (before after : Machine Ram) : Prop where
  universal :
    after.1.hasUniversalEcFanControl = before.1.hasUniversalEcFanControl
  fan : after.1.fan = before.1.fan
  ram : ∀ address, FanControlRegister address →
    after.2 address = before.2 address

namespace SameFans

variable {first second third : Machine Ram}

protected theorem trans (earlier : SameFans first second)
    (later : SameFans second third) : SameFans first third where
  universal := later.universal.trans earlier.universal
  fan := later.fan.trans earlier.fan
  ram := fun address register =>
    (later.ram address register).trans (earlier.ram address register)

theorem of_confined {α : Type} {registers : U16 → Prop}
    {view : DriverState → DriverState} {program : Driver α}
    (asks : program.Asks (Confined registers view))
    (shown : ∀ statics, (view statics).fan = statics.fan ∧
      (view statics).uniwillDeviceFeatures = statics.uniwillDeviceFeatures)
    (apart : ∀ address, registers address → ¬ FanControlRegister address)
    (machine : Machine Ram) :
    SameFans machine (reliableEc.run program machine).2 := by
  have kept := view_of_confined asks reliableEc machine
  obtain ⟨fanBefore, featuresBefore⟩ := shown machine.1
  obtain ⟨fanAfter, featuresAfter⟩ :=
    shown (reliableEc.run program machine).2.1
  rw [kept] at fanAfter featuresAfter
  exact
    { universal := by
        have features := featuresAfter.symm.trans featuresBefore
        exact
          congrArg DeviceFeatures.uniwillHasUniversalEcFanControl features
      fan := fanAfter.symm.trans fanBefore
      ram := fun address register =>
        ram_of_confined asks machine fun written =>
          apart address written register }

end SameFans

section Switches

variable (machine : Machine Ram)

private theorem apart_customProfile (address : U16)
    (written : CustomProfileRegister address) :
    ¬ FanControlRegister address := by
  rw [written]
  decide

private theorem apart_backlight (address : U16)
    (written : BacklightRegister address) :
    ¬ FanControlRegister address := by
  simp only [BacklightRegister, List.mem_cons, List.not_mem_nil,
    or_false] at written
  rcases written with rfl | rfl | rfl | rfl | rfl | rfl <;> decide

private theorem apart_charging (address : U16)
    (written : ChargingRegister address) :
    ¬ FanControlRegister address := by
  rcases written with rfl | rfl <;> decide

/-- The part of a suspend before the fans. -/
theorem sameFans_beforeSuspendFans :
    ∃ switched, SameFans machine switched ∧
      (reliableEc.run uniwillKeyboardSuspend machine).2 =
        (reliableEc.run suspendFans switched).2 := by
  have profile :=
    SameFans.of_confined suspendCustomProfile_confined
      (fun _ => ⟨rfl, rfl⟩) apart_customProfile machine
  have backlight :=
    SameFans.of_confined (uniwillWriteKbdBlEnable_confined 0)
      (fun _ => ⟨rfl, rfl⟩) apart_backlight
      (reliableEc.run suspendCustomProfile machine).2
  refine ⟨_, profile.trans backlight, ?_⟩
  simp only [uniwillKeyboardSuspend, run_bind, run_pure]

/-- The part of a resume after the fans. -/
theorem sameFans_afterResumeFans :
    SameFans (reliableEc.run resumeFans machine).2
      (reliableEc.run uniwillKeyboardResume machine).2 := by
  simp only [uniwillKeyboardResume, run_bind, run_pure]
  have switch : ∀ before : Machine Ram,
      SameFans before (reliableEc.run resumeCustomProfile before).2 :=
    SameFans.of_confined resumeCustomProfile_confined
      (fun _ => ⟨rfl, rfl⟩) apart_customProfile
  have restore : ∀ before : Machine Ram,
      SameFans before
        (reliableEc.run uniwillLedsRestoreStateExtern before).2 :=
    SameFans.of_confined uniwillLedsRestoreStateExtern_confined
      (fun _ => ⟨rfl, rfl⟩) apart_backlight
  have enable : ∀ before : Machine Ram,
      SameFans before (reliableEc.run (uniwillWriteKbdBlEnable 1) before).2 :=
    SameFans.of_confined (uniwillWriteKbdBlEnable_confined 1)
      (fun _ => ⟨rfl, rfl⟩) apart_backlight
  have priority : ∀ before : Machine Ram,
      SameFans before
        (reliableEc.run uwChargingPriorityWriteState before).2 :=
    SameFans.of_confined uwChargingPriorityWriteState_confined
      (fun _ => ⟨rfl, rfl⟩) apart_charging
  have profile : ∀ before : Machine Ram,
      SameFans before
        (reliableEc.run uwChargingProfileWriteState before).2 :=
    SameFans.of_confined uwChargingProfileWriteState_confined
      (fun _ => ⟨rfl, rfl⟩) apart_charging
  refine (switch _).trans ((restore _).trans ?_)
  exact (enable _).trans ((priority _).trans (profile _))

end Switches

/-! ## The fans awake and asleep -/

def savedValue (second : Bool) (fan : FanStatics) : U8 :=
  if second then fan.directFanControlCurrentValueFan1SuspendSave
  else fan.directFanControlCurrentValueFan0SuspendSave

/-- Direct control with these speeds. -/
structure Awake (fanSpeed : Bool → U8) (machine : Machine Ram) : Prop where
  direct : machine.1.hasUniversalEcFanControl = false
  started : machine.1.fan.directFanControlStarted = true
  speeds : ∀ second, currentValue second machine.1.fan = fanSpeed second

/-- The EC has the fans, and the speeds are saved. -/
structure Asleep (fanSpeed : Bool → U8) (machine : Machine Ram) : Prop where
  direct : machine.1.hasUniversalEcFanControl = false
  notStarted : machine.1.fan.directFanControlStarted = false
  suspended : machine.1.fan.directFanControlSuspend = true
  saved : ∀ second, savedValue second machine.1.fan = fanSpeed second
  notPending : machine.1.fan.restartWorkPending = false
  mode : machine.2 0x0751 &&& 0x40 = 0

section Transitions

variable {fanSpeed : Bool → U8} {machine other : Machine Ram}

theorem Awake.of_sameFans (awake : Awake fanSpeed machine)
    (same : SameFans machine other) : Awake fanSpeed other where
  direct := same.universal.trans awake.direct
  started := by
    rw [same.fan]
    exact awake.started
  speeds := by
    rw [same.fan]
    exact awake.speeds

theorem Asleep.of_sameFans (asleep : Asleep fanSpeed machine)
    (same : SameFans machine other) : Asleep fanSpeed other where
  direct := same.universal.trans asleep.direct
  notStarted := by
    rw [same.fan]
    exact asleep.notStarted
  suspended := by
    rw [same.fan]
    exact asleep.suspended
  saved := by
    rw [same.fan]
    exact asleep.saved
  notPending := by
    rw [same.fan]
    exact asleep.notPending
  mode := by
    rw [same.ram 0x0751 (by decide)]
    exact asleep.mode

private theorem run_uwSetFanAuto_direct
    (direct : machine.1.hasUniversalEcFanControl = false) :
    (reliableEc.run uwSetFanAuto machine).2 =
      ({ machine.1 with
          fan.restartWorkPending := false
          fan.directFanControlStarted := false
          fan.directFanControlCurrentValueFan0 := 0
          fan.directFanControlCurrentValueFan1 := 0 },
        Function.update machine.2 0x0751 (machine.2 0x0751 &&& 0xbf)) := by
  unfold DriverState.hasUniversalEcFanControl at direct
  simp [uwSetFanAuto, uwSetFanAutoDirect, direct]

theorem Awake.suspendFans (awake : Awake fanSpeed machine) :
    Asleep fanSpeed (reliableEc.run suspendFans machine).2 := by
  have cleared : ∀ mode : U8, (mode &&& 0xbf) &&& 0x40 = 0 := by
    decide
  let saved : Machine Ram :=
    ({ machine.1 with
        fan.directFanControlSuspend := true
        fan.directFanControlCurrentValueFan0SuspendSave :=
          machine.1.fan.directFanControlCurrentValueFan0
        fan.directFanControlCurrentValueFan1SuspendSave :=
          machine.1.fan.directFanControlCurrentValueFan1 },
      machine.2)
  have direct : saved.1.hasUniversalEcFanControl = false := awake.direct
  have run :
      (reliableEc.run Uniwill.suspendFans machine).2 =
        (reliableEc.run uwSetFanAuto saved).2 := by
    simp [Uniwill.suspendFans, awake.started, saved]
  rw [run, run_uwSetFanAuto_direct direct]
  exact
    { direct := direct
      notStarted := rfl
      suspended := rfl
      saved := awake.speeds
      notPending := rfl
      mode := by
        have off := cleared (machine.2 0x0751)
        simpa [saved] using off }

/-- What a request without universal fan control does to the variables: it
starts the restart work if this did not happen yet. -/
structure ManualRequest (second : Bool) (speed : U8)
    (before after : Machine Ram) : Prop where
  direct : after.1.hasUniversalEcFanControl = false
  started : after.1.fan.directFanControlStarted = true
  selected : currentValue second after.1.fan = speed
  other :
    currentValue (!second) after.1.fan = currentValue (!second) before.1.fan
  saved : ∀ fan, savedValue fan after.1.fan = savedValue fan before.1.fan
  pending :
    after.1.fan.restartWorkPending =
      (before.1.fan.restartWorkPending ||
        !before.1.fan.directFanControlStarted)

theorem manualRequest_uwSetFan
    (direct : machine.1.hasUniversalEcFanControl = false)
    (second : Bool) (speed : U8) :
    ManualRequest second speed machine
      (reliableEc.run (uwSetFan (fanSelect second) speed) machine).2 := by
  have flag := direct
  unfold DriverState.hasUniversalEcFanControl at flag
  rw [(run_uwSetFan_direct reliableEc _ speed direct).1]
  cases second <;>
    cases started : machine.1.fan.directFanControlStarted <;>
      constructor <;>
        simp [directFanControl, directFanControlApply, fanSelect, started,
          currentValue, savedValue, DriverState.hasUniversalEcFanControl,
          flag]

/-- Both fans get a speed, in either order. -/
theorem awake_of_manualRequests {first later : Machine Ram} {second : Bool}
    (one : ManualRequest second (fanSpeed second) machine first)
    (both : ManualRequest (!second) (fanSpeed (!second)) first later) :
    Awake fanSpeed later where
  direct := both.direct
  started := both.started
  speeds := by
    have kept := both.other
    rw [Bool.not_not, one.selected] at kept
    intro fan
    by_cases same : fan = second
    · rw [same, kept]
    · rw [Bool.eq_not_of_ne same, both.selected]

theorem Asleep.resumeFans (asleep : Asleep fanSpeed machine) :
    Awake fanSpeed (reliableEc.run resumeFans machine).2 ∧
      (reliableEc.run resumeFans machine).2.1.fan.restartWorkPending =
        true := by
  let taken : Machine Ram :=
    ({ machine.1 with fan.directFanControlSuspend := false }, machine.2)
  have direct : taken.1.hasUniversalEcFanControl = false := asleep.direct
  have saved : ∀ fan, savedValue fan taken.1.fan = fanSpeed fan :=
    asleep.saved
  have one := manualRequest_uwSetFan direct false (fanSpeed false)
  let first : Machine Ram :=
    (reliableEc.run (uwSetFan (fanSelect false) (fanSpeed false)) taken).2
  have both := manualRequest_uwSetFan one.direct true (fanSpeed true)
  have run :
      (reliableEc.run Uniwill.resumeFans machine).2 =
        (reliableEc.run (uwSetFan (fanSelect true) (fanSpeed true))
          first).2 := by
    have saved0 := saved false
    have saved1 : first.1.fan.directFanControlCurrentValueFan1SuspendSave =
        fanSpeed true := (one.saved true).trans (saved true)
    change taken.1.fan.directFanControlCurrentValueFan0SuspendSave = _
      at saved0
    rw [← saved1]
    simp only [first]
    rw [← saved0]
    simp [Uniwill.resumeFans, asleep.suspended, taken, fanSelect]
  rw [run]
  refine ⟨awake_of_manualRequests one both, ?_⟩
  rw [both.pending, one.pending]
  simp [taken, asleep.notStarted]

end Transitions

/-! ## Steps between the phases -/

section Steps

variable {fanSpeed : Bool → U8} {machine : Machine Ram}

theorem Awake.suspend (awake : Awake fanSpeed machine) :
    Asleep fanSpeed (applyPower .suspend machine) := by
  obtain ⟨switched, same, run⟩ := sameFans_beforeSuspendFans machine
  rw [applyPower, run]
  exact (awake.of_sameFans same).suspendFans

theorem Asleep.resume (asleep : Asleep fanSpeed machine) :
    Awake fanSpeed (applyPower .resume machine) ∧
      (applyPower .resume machine).1.fan.restartWorkPending = true := by
  obtain ⟨awake, pending⟩ := asleep.resumeFans
  have same := sameFans_afterResumeFans machine
  refine ⟨awake.of_sameFans same, ?_⟩
  rw [applyPower, same.fan]
  exact pending

/-- Manual control as it was requested, with "full fan mode" on and the next
restart scheduled. -/
structure ManualControl (fanSpeed : Bool → U8) (machine : Machine Ram) :
    Prop where
  speeds : ∀ second, currentValue second machine.1.fan = fanSpeed second
  registers : ∀ second,
    machine.2 (directSpeedRegister (fanSelect second)) = fanSpeed second
  mode : machine.2 0x0751 &&& 0x40 ≠ 0
  pending : machine.1.fan.restartWorkPending = true

/-- One run of the restart work is enough for manual control. -/
theorem Awake.runRestartWork (awake : Awake fanSpeed machine) :
    Awake fanSpeed (reliableEc.run runRestartWork machine).2 ∧
      ManualControl fanSpeed (reliableEc.run runRestartWork machine).2 := by
  have switchedOn : ∀ mode : U8,
      ((mode &&& ~~~0x40) ||| 0x40) &&& 0x40 ≠ 0 := by
    decide
  rw [run_runRestartWork]
  constructor
  · exact
      { direct := awake.direct
        started := awake.started
        speeds := awake.speeds }
  · exact
      { speeds := awake.speeds
        registers := by
          intro second
          cases second with
          | false =>
              rw [← awake.speeds false]
              rfl
          | true =>
              rw [← awake.speeds true]
              rfl
        mode := by
          have on := switchedOn (machine.2 0x0751)
          simpa using on
        pending := rfl }

/-- What holds in each phase of a run. -/
def Follows (fanSpeed : Bool → U8) : PowerPhase → Machine Ram → Prop
  | .awake, machine => Awake fanSpeed machine
  | .asleep, machine => Asleep fanSpeed machine
  | .resumed, machine =>
      Awake fanSpeed machine ∧ machine.1.fan.restartWorkPending = true

theorem follows_restartWork {phase : PowerPhase}
    (follows : Follows fanSpeed phase machine) :
    Follows fanSpeed phase (applyPower .restartWork machine) := by
  rw [applyPower]
  cases phase with
  | awake =>
      split
      · exact (Awake.runRestartWork follows).1
      · exact follows
  | asleep =>
      rw [if_neg (ne_true_of_eq_false follows.notPending)]
      exact follows
  | resumed =>
      obtain ⟨awake, pending⟩ := follows
      obtain ⟨awakeAfter, manual⟩ := awake.runRestartWork
      rw [if_pos pending]
      exact ⟨awakeAfter, manual.pending⟩

theorem follows_ecChange {phase : PowerPhase}
    (follows : Follows fanSpeed phase machine) (ram : Ram) :
    Follows fanSpeed phase (applyPower (.ecChange ram) machine) := by
  cases phase with
  | awake =>
      exact { follows with }
  | asleep =>
      have kept :
          (applyPower (.ecChange ram) machine).2 0x0751 =
            machine.2 0x0751 := by
        simp [applyPower]
      exact
        { direct := follows.direct
          notStarted := follows.notStarted
          suspended := follows.suspended
          saved := follows.saved
          notPending := follows.notPending
          mode := by
            rw [kept]
            exact follows.mode }
  | resumed =>
      obtain ⟨awake, pending⟩ := follows
      exact ⟨{ awake with }, pending⟩

theorem Follows.awake_of_notAsleep {phase : PowerPhase}
    (follows : Follows fanSpeed phase machine) (notAsleep : phase ≠ .asleep) :
    Awake fanSpeed machine := by
  cases phase with
  | awake =>
      exact follows
  | asleep =>
      exact absurd rfl notAsleep
  | resumed =>
      exact follows.1

/-- One step leads from what holds in a phase to what holds in the next. -/
theorem follows_applyPower {phase : PowerPhase} (step : PowerStep)
    (possible : step.Possible phase)
    (follows : Follows fanSpeed phase machine) :
    Follows fanSpeed (step.phase phase) (applyPower step machine) := by
  cases step with
  | suspend =>
      exact (follows.awake_of_notAsleep possible).suspend
  | resume =>
      have asleep : phase = .asleep := possible
      subst asleep
      exact Asleep.resume follows
  | restartWork =>
      exact follows_restartWork follows
  | ecChange ram =>
      exact follows_ecChange follows ram

theorem follows_run {phase : PowerPhase} (steps : List PowerStep)
    (possible : EachStep PowerStep.phase PowerStep.Possible steps phase)
    (follows : Follows fanSpeed phase machine) :
    Follows fanSpeed (runSteps PowerStep.phase steps phase)
      (runSteps applyPower steps machine) := by
  induction steps generalizing phase machine with
  | nil =>
      exact follows
  | cons step rest inductionHypothesis =>
      obtain ⟨now, later⟩ := possible
      exact
        inductionHypothesis later (follows_applyPower step now follows)

end Steps

/-! ## Requests kept over suspends -/

/-- Speeds are requested for both fans, first for one of them. -/
def setBothFans (second : Bool) (fanSpeed : Bool → U8) : Driver Unit := do
  let _ ← uwSetFan (fanSelect second) (fanSpeed second)
  let _ ← uwSetFan (fanSelect !second) (fanSpeed !second)
  return ()

/-- Speeds requested under direct control are kept over any number of
suspends and resumes: while the device is asleep, "full fan mode" is off and
the restart work not pending; after a resume the work is pending, and its next
run is manual control as it was requested. -/
theorem manualControl_afterResume
    {machine : Machine Ram}
    (direct : machine.1.hasUniversalEcFanControl = false)
    (second : Bool) (fanSpeed : Bool → U8) {steps : List PowerStep}
    (possible : EachStep PowerStep.phase PowerStep.Possible steps .awake) :
    let requested := (reliableEc.run (setBothFans second fanSpeed) machine).2
    let reached := runSteps applyPower steps requested
    (phaseAfter steps = .asleep →
      reached.2 0x0751 &&& 0x40 = 0 ∧
        reached.1.fan.restartWorkPending = false) ∧
    (phaseAfter steps = .resumed →
      reached.1.fan.restartWorkPending = true ∧
        ManualControl fanSpeed (applyPower .restartWork reached)) := by
  intro requested reached
  have one := manualRequest_uwSetFan direct second (fanSpeed second)
  have both :=
    manualRequest_uwSetFan one.direct (!second) (fanSpeed !second)
  have run : requested =
      (reliableEc.run (uwSetFan (fanSelect !second) (fanSpeed !second))
        (reliableEc.run (uwSetFan (fanSelect second) (fanSpeed second))
          machine).2).2 := by
    simp only [requested, setBothFans, run_bind, run_pure]
  have awake : Awake fanSpeed requested := by
    rw [run]
    exact awake_of_manualRequests one both
  have follows : Follows fanSpeed (phaseAfter steps) reached :=
    follows_run steps possible awake
  constructor
  · intro asleep
    rw [asleep] at follows
    exact ⟨follows.mode, follows.notPending⟩
  · intro resumed
    rw [resumed] at follows
    obtain ⟨awakeThere, pending⟩ := follows
    refine ⟨pending, ?_⟩
    rw [applyPower, if_pos pending]
    exact awakeThere.runRestartWork.2

/-- Three cycles: a run of the work in the first, none in the second, and
changes made by the EC in the third. -/
def powerCycles : List PowerStep :=
  [ .restartWork, .suspend, .resume, .restartWork, .suspend, .restartWork,
    .resume, .suspend, .ecChange fun _ => 0xff, .resume ]

theorem manualControl_afterPowerCycles :
    ManualControl (fun second => if second then 80 else 100)
      (applyPower .restartWork
        (runSteps applyPower powerCycles
          (reliableEc.run
            (setBothFans false fun second => if second then 80 else 100)
            directMachine).2)) := by
  have possible :
      EachStep PowerStep.phase PowerStep.Possible powerCycles .awake := by
    simp [powerCycles, EachStep, PowerStep.phase, PowerStep.Possible]
  have direct : directMachine.1.hasUniversalEcFanControl = false := rfl
  have restored :=
    manualControl_afterResume direct false
      (fun second => if second then 80 else 100) possible
  exact (restored.2 rfl).2

end TuxedoDrivers.Uniwill
