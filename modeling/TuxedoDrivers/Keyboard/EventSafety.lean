import TuxedoDrivers.Keyboard.InputRuns

/-!
# Firmware events at any time

An event can arrive as soon as an interface has its callback, before there is
an input device and after it has gone.  The main result says at which points
of a run which events are reported to a registered input device only.
-/

namespace TuxedoDrivers.Keyboard

open Interaction

/-! ## Events -/

/-- Events of the interface are delivered, and it has a callback for them. -/
def CanArrive (source : EventSource) (machine : KeyboardMachine) : Prop :=
  machine.2.notifyHandlers source = true ∧
    machine.2.eventCallbs source = true

/-- The callback reports to a registered input device only: any other is a
fault. -/
def ReportsSafely (answers : Outcomes) (source : EventSource) (code : U32)
    (machine : KeyboardMachine) : Prop :=
  (runCore answers (eventCallb source code) machine).2.faulted = false

/-- The Clevo events that open the control center. -/
def ClevoComboEvent (answers : Outcomes) (event : U32) : Prop :=
  event = clevoEventGaugeKey ∨
    event = clevoEventKbLedsCycleMode ∧
      answers.clevoLedsGetBacklightType = .fixedColor

/-- The Uniwill events that report no key. -/
def UniwillQuietEvent (answers : Outcomes) (code : U32) : Prop :=
  code = uniwillOsdDcAdapterChange ∨
    code ∈ uniwillBrightnessEvents ∧
      answers.uniwillLedsNotifyBrightnessChange = true

/-- What an event must find of the history.  The combination needs the input
device of its driver to be there, any other key only that it has not gone. -/
def EventSpared (answers : Outcomes) (source : EventSource) (code : U32)
    (machine : KeyboardMachine) : Prop :=
  match source with
  | .clevo _ =>
      (ClevoComboEvent answers code →
        inputPhase .clevo machine.2.milestones = .live) ∧
        ∀ driver, machine.1.currentDriver = some driver →
          inputPhase driver machine.2.milestones ≠ .stale
  | .uniwill =>
      (code = uniwillOsdModeChangeKeyEvent →
        inputPhase .uniwill machine.2.milestones = .live) ∧
        (code ≠ uniwillOsdModeChangeKeyEvent →
          ¬ UniwillQuietEvent answers code →
            inputPhase .uniwill machine.2.milestones ≠ .stale)

/-! ## Reports -/

section Reports

variable {machine : KeyboardMachine} {driver : KeyboardDriver}

theorem validInput_iff_live (tracked : Tracked machine.2) :
    machine.2.validInput (machine.2.driverInputDevice driver) = true ↔
      inputPhase driver machine.2.milestones = .live := by
  have fits := tracked.phases driver
  rw [PhaseFits] at fits
  cases phase : inputPhase driver machine.2.milestones with
  | absent =>
      simp only [phase] at fits
      simp [fits, KernelObjects.validInput]
  | live =>
      simp only [phase] at fits
      obtain ⟨device, pointer, registered⟩ := fits
      simp [pointer, registered, KernelObjects.validInput]
  | stale =>
      simp only [phase] at fits
      obtain ⟨device, pointer, freed⟩ := fits
      simp [pointer, freed, KernelObjects.validInput]

/-- The pointer is null or leads to a registered device. -/
theorem nullOrValid_iff_notStale (tracked : Tracked machine.2) :
    (∀ device, machine.2.driverInputDevice driver = some device →
        machine.2.validInput (some device) = true) ↔
      inputPhase driver machine.2.milestones ≠ .stale := by
  have fits := tracked.phases driver
  rw [PhaseFits] at fits
  cases phase : inputPhase driver machine.2.milestones with
  | absent =>
      simp only [phase] at fits
      simp [fits]
  | live =>
      simp only [phase] at fits
      obtain ⟨device, pointer, registered⟩ := fits
      simp [pointer, registered, KernelObjects.validInput]
  | stale =>
      simp only [phase] at fits
      obtain ⟨device, pointer, freed⟩ := fits
      simp [pointer, freed, KernelObjects.validInput]

variable (answers : Outcomes)

theorem run_reportCombo (driver : KeyboardDriver) :
    runCore answers (reportCombo driver) machine =
      (machine.1,
        machine.2.require
          (machine.2.validInput (machine.2.driverInputDevice driver))) := by
  cases pointer : machine.2.driverInputDevice driver with
  | none =>
      simp [runCore, reportCombo, reportCombo.reportKey, reportCombo.sync,
        Program.run, kernelObjects, pointer, KernelObjects.validInput,
        KernelObjects.require]
  | some device =>
      cases valid : machine.2.validInput (some device) with
      | true =>
          simp [runCore, reportCombo, reportCombo.reportKey,
            reportCombo.sync, Program.run, kernelObjects, pointer, valid]
      | false =>
          simp [KernelObjects.validInput] at valid
          simp [runCore, reportCombo, reportCombo.reportKey,
            reportCombo.sync, Program.run, kernelObjects, pointer, valid,
            KernelObjects.require, KernelObjects.validInput]

theorem run_reportKnownEvent (driver : KeyboardDriver) (code : U32) :
    runCore answers (reportKnownEvent driver code) machine =
      match machine.2.driverInputDevice driver with
      | none => machine
      | some device =>
          (machine.1,
            machine.2.require (machine.2.validInput (some device))) := by
  cases pointer : machine.2.driverInputDevice driver with
  | none =>
      simp [runCore, reportKnownEvent, Program.run, kernelObjects, pointer]
  | some device =>
      simp [runCore, reportKnownEvent, Program.run, kernelObjects, pointer]

theorem reportCombo_safe_iff (driver : KeyboardDriver)
    (tracked : Tracked machine.2) (unfaulted : machine.2.faulted = false) :
    (runCore answers (reportCombo driver) machine).2.faulted = false ↔
      inputPhase driver machine.2.milestones = .live := by
  rw [run_reportCombo, ← validInput_iff_live tracked]
  simp [unfaulted]

theorem reportKnownEvent_safe_iff (driver : KeyboardDriver) (code : U32)
    (tracked : Tracked machine.2) (unfaulted : machine.2.faulted = false) :
    (runCore answers (reportKnownEvent driver code) machine).2.faulted =
        false ↔
      inputPhase driver machine.2.milestones ≠ .stale := by
  rw [run_reportKnownEvent, ← nullOrValid_iff_notStale tracked]
  cases pointer : machine.2.driverInputDevice driver with
  | none =>
      simp [unfaulted]
  | some device =>
      simp [unfaulted]

end Reports

/-! ## Callbacks -/

section Callbacks

variable {machine : KeyboardMachine} (answers : Outcomes)

instance (event : U32) : Decidable (ClevoComboEvent answers event) :=
  inferInstanceAs (Decidable (_ ∨ _ ∧ _))

instance (code : U32) : Decidable (UniwillQuietEvent answers code) :=
  inferInstanceAs (Decidable (_ ∨ _ ∧ _))

theorem run_clevoHandleEvent (event : U32) :
    runCore answers (clevoHandleEvent event) machine =
      if ClevoComboEvent answers event then
        runCore answers clevoSendCcCombo machine
      else machine := by
  by_cases gauge : event = clevoEventGaugeKey
  · rw [clevoHandleEvent, if_pos gauge, if_pos (.inl gauge)]
  · by_cases cycle : event = clevoEventKbLedsCycleMode
    · rw [clevoHandleEvent, if_neg gauge, if_pos cycle]
      by_cases fixed : answers.clevoLedsGetBacklightType = .fixedColor
      · rw [if_pos (.inr ⟨cycle, fixed⟩)]
        simp [runCore, fixed, Program.run, kernelObjects]
      · have other : ¬ ClevoComboEvent answers event := by
          simp [ClevoComboEvent, gauge, fixed]
        rw [if_neg other]
        simp [runCore, fixed, Program.run, kernelObjects]
    · have other : ¬ ClevoComboEvent answers event := by
        simp [ClevoComboEvent, gauge, cycle]
      rw [clevoHandleEvent, if_neg gauge, if_neg cycle, if_neg other]
      by_cases brightness : event = clevoEventKbLedsCycleBrightness
      · rw [if_pos brightness]
        rfl
      · rw [if_neg brightness]
        by_cases toggle : event = clevoEventFnLockToggle
        · rw [if_pos toggle]
          rfl
        · rw [if_neg toggle]
          rfl

theorem reportToCurrentDriver_safe_iff (event : U32)
    (tracked : Tracked machine.2) (unfaulted : machine.2.faulted = false) :
    (runCore answers (reportToCurrentDriver event) machine).2.faulted =
        false ↔
      ∀ driver, machine.1.currentDriver = some driver →
        inputPhase driver machine.2.milestones ≠ .stale := by
  cases current : machine.1.currentDriver with
  | none =>
      simp [runCore, reportToCurrentDriver, current, unfaulted]
  | some driver =>
      have report :=
        reportKnownEvent_safe_iff answers driver event tracked unfaulted
      simpa [runCore, reportToCurrentDriver, current] using report

theorem clevoKeyboardEventCallb_safe_iff (event : U32)
    (tracked : Tracked machine.2) (unfaulted : machine.2.faulted = false) :
    (runCore answers (clevoKeyboardEventCallb event) machine).2.faulted =
        false ↔
      (ClevoComboEvent answers event →
        inputPhase .clevo machine.2.milestones = .live) ∧
        ∀ driver, machine.1.currentDriver = some driver →
          inputPhase driver machine.2.milestones ≠ .stale := by
  have handled :
      runCore answers (clevoHandleEvent event) machine = _ :=
    run_clevoHandleEvent answers event
  have combo := reportCombo_safe_iff answers .clevo tracked unfaulted
  have reports :=
    reportToCurrentDriver_safe_iff answers event tracked unfaulted
  rw [runCore, clevoKeyboardEventCallb, Program.run_bind]
  rw [runCore] at handled reports
  rw [handled]
  by_cases opens : ClevoComboEvent answers event
  · rw [if_pos opens, clevoSendCcCombo, run_reportCombo]
    cases valid : machine.2.validInput (machine.2.driverInputDevice .clevo)
      with
    | true =>
        rw [KernelObjects.require_true]
        rw [run_reportCombo, valid, KernelObjects.require_true] at combo
        have live := combo.mp unfaulted
        simpa [opens, live] using reports
    | false =>
        rw [run_reportCombo, valid] at combo
        have notLive :
            inputPhase .clevo machine.2.milestones ≠ .live := by
          intro live
          simpa using combo.mpr live
        refine iff_of_false ?_ fun both => notLive (both.1 opens)
        rw [faulted_run answers _ (by simp)]
        simp
  · rw [if_neg opens]
    simpa [opens] using reports

theorem uniwillEventCallb_safe_iff (code : U32)
    (tracked : Tracked machine.2) (unfaulted : machine.2.faulted = false) :
    (runCore answers (uniwillEventCallb code) machine).2.faulted = false ↔
      (code = uniwillOsdModeChangeKeyEvent →
        inputPhase .uniwill machine.2.milestones = .live) ∧
        (code ≠ uniwillOsdModeChangeKeyEvent →
          ¬ UniwillQuietEvent answers code →
            inputPhase .uniwill machine.2.milestones ≠ .stale) := by
  have combo := reportCombo_safe_iff answers .uniwill tracked unfaulted
  have reports :=
    reportKnownEvent_safe_iff answers .uniwill code tracked unfaulted
  by_cases modeChange : code = uniwillOsdModeChangeKeyEvent
  · rw [uniwillEventCallb, if_pos modeChange, combo]
    simp [modeChange]
  · rw [uniwillEventCallb, if_neg modeChange]
    by_cases adapter : code = uniwillOsdDcAdapterChange
    · rw [if_pos adapter]
      refine iff_of_true unfaulted ⟨fun same => absurd same modeChange, ?_⟩
      exact fun _ loud => absurd (.inl adapter) loud
    · rw [if_neg adapter]
      by_cases brightness : code ∈ uniwillBrightnessEvents
      · rw [if_pos brightness]
        cases notified : answers.uniwillLedsNotifyBrightnessChange with
        | true =>
            refine iff_of_true ?_ ⟨fun same => absurd same modeChange, ?_⟩
            · simpa [runCore, Program.run, kernelObjects, notified]
                using unfaulted
            · exact fun _ loud =>
                absurd (.inr ⟨brightness, notified⟩) loud
        | false =>
            have loud : ¬ UniwillQuietEvent answers code := by
              simp [UniwillQuietEvent, adapter, notified]
            simpa [runCore, Program.run, kernelObjects, notified,
              modeChange, loud] using reports
      · have loud : ¬ UniwillQuietEvent answers code := by
          simp [UniwillQuietEvent, adapter, brightness]
        rw [if_neg brightness, reports]
        simp [modeChange, loud]

end Callbacks

/-! ## Runs -/

/-- At every point of every run of the interfaces the events that are
reported safely are those that find what they need. -/
theorem eventCallbs_safe_iff (steps : List InterfaceStep)
    (step : InterfaceStep) :
    step.call.program.Along
      (keyboardEnvironment (kernelObjects step.outcomes))
      (fun machine => machine.2.faulted = false →
        ∀ source, CanArrive source machine → ∀ answers code,
          (ReportsSafely answers source code machine ↔
            EventSpared answers source code machine))
      (fun _ _ => True) (afterInterfaces steps) := by
  have settles : Settles step.outcomes step.call.program :=
    step.call.settles
  have along := settles _ (afterInterfaces_settled steps)
  refine along.mono ?_ fun _ _ _ _ => trivial
  intro machine tracked unfaulted source _ answers code
  cases source with
  | clevo interface =>
      exact
        clevoKeyboardEventCallb_safe_iff answers code (tracked unfaulted)
          unfaulted
  | uniwill =>
      exact
        uniwillEventCallb_safe_iff answers code (tracked unfaulted)
          unfaulted

/-- Keys reported with no input device registered, through a pointer left
behind, and with no driver at all. -/
theorem eventCallbs_unsafe :
    let noInput := afterInterfaces
      [⟨.probe .uniwill, { inputRegisterDevice := -enomem }⟩]
    let torn := afterInterfaces
      [⟨.probe .uniwill, {}⟩, ⟨.probe (.clevo .wmi), {}⟩,
        ⟨.remove (.clevo .wmi), {}⟩]
    let noProbe := afterInterfaces
      [⟨.probe (.clevo .wmi), { platformCreateBundle := false }⟩]
    (noInput.2.faulted = false ∧ CanArrive .uniwill noInput ∧
        ¬ ReportsSafely {} .uniwill uniwillOsdModeChangeKeyEvent noInput) ∧
      (torn.2.faulted = false ∧ CanArrive .uniwill torn ∧
        ¬ ReportsSafely {} .uniwill 0x0B1 torn) ∧
      (noProbe.2.faulted = false ∧ CanArrive (.clevo .wmi) noProbe ∧
        ¬ ReportsSafely {} (.clevo .wmi) clevoEventGaugeKey noProbe) := by
  refine ⟨⟨rfl, ⟨rfl, rfl⟩, ?_⟩, ⟨rfl, ⟨rfl, rfl⟩, ?_⟩,
    ⟨rfl, ⟨rfl, rfl⟩, ?_⟩⟩
  · exact Bool.noConfusion
  · exact Bool.noConfusion
  · exact Bool.noConfusion

end TuxedoDrivers.Keyboard
