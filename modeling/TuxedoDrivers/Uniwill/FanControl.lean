import TuxedoDrivers.Uniwill.EcAccess

/-!
# Fan control

Two ways of setting fan speeds.  A device with universal EC fan control gets
custom fan tables with one reachable zone, set up once by `uw_init_fan`, and
the speed is the speed of that zone.  Any other device is put in "full fan
mode" and its two speed registers are written directly; a delayed work
repeats this before the EC ramps the fans up.

Each function is followed here by its rules: the requests it can ask, its
effect on the static variables for any EC, and its effect on the RAM of an EC
whose accesses succeed.
-/

namespace TuxedoDrivers.Uniwill

open Interaction

def fanOnMinSpeedPercent : Nat := 25
def nb02FanSpeedMax : Nat := 0xc8

/-! ## Full fan mode -/

def setFullFanMode (enable : Bool) : Driver Int := do
  let mode ← uniwillReadEcRam 0x0751
  if enable = true ∧ mode.data &&& 0x40 = 0 then
    let written ← uniwillWriteEcRam 0x0751 (mode.data ||| 0x40)
    pure written.status
  else if mode.data &&& 0x40 ≠ 0 then
    let written ← uniwillWriteEcRam 0x0751 (mode.data &&& ~~~0x40)
    pure written.status
  else
    pure 0

theorem setFullFanMode_asks (enable : Bool) :
    (setFullFanMode enable).Asks
      (EcRequest fun address _ => address = 0x0751) := by
  refine Program.Asks.bind (asks_uniwillReadEcRam 0x0751) ?_
  intro mode
  refine Program.Asks.ite ?_ ?_
  · intro _
    exact (asks_uniwillWriteEcRam rfl).bind fun _ => trivial
  · intro _
    refine Program.Asks.ite ?_ (fun _ => trivial)
    intro _
    exact (asks_uniwillWriteEcRam rfl).bind fun _ => trivial

theorem run_setFullFanMode_false (machine : Machine Ram) :
    reliableEc.run (setFullFanMode false) machine =
      (0, machine.1,
        Function.update machine.2 0x0751
          (machine.2 0x0751 &&& ~~~0x40)) := by
  by_cases clear : machine.2 0x0751 &&& 0x40 = 0
  · have same : machine.2 0x0751 &&& ~~~0x40 = machine.2 0x0751 := by
      generalize machine.2 0x0751 = mode at clear
      revert mode
      decide
    rw [same, Function.update_eq_self]
    simp only [setFullFanMode, run_bind, run_uniwillReadEcRam,
      reliableEc_read, EcRead.data_ok, run_ite, run_pure, clear]
    simp
  · simp only [setFullFanMode, run_bind, run_uniwillReadEcRam,
      reliableEc_read, EcRead.data_ok, run_ite, ne_eq, clear]
    simp

theorem run_setFullFanMode_true
    {machine : Machine Ram} (clear : machine.2 0x0751 &&& 0x40 = 0) :
    reliableEc.run (setFullFanMode true) machine =
      (0, machine.1,
        Function.update machine.2 0x0751 (machine.2 0x0751 ||| 0x40)) := by
  simp only [setFullFanMode, run_bind, run_uniwillReadEcRam,
    reliableEc_read, EcRead.data_ok, run_ite, clear]
  simp

/-! ## Custom fan tables -/

/-- The dummy zones above the first, which no temperature reaches. -/
def uwInitFanZone (i : Nat) : Driver Unit := do
  let _ ← uniwillWriteEcRamWithRetry (0x0f00 + BitVec.ofNat 16 i)
    (BitVec.ofNat 8 (115 + i + 1)) 3
  let _ ← uniwillWriteEcRamWithRetry (0x0f10 + BitVec.ofNat 16 i)
    (BitVec.ofNat 8 (115 + i)) 3
  let _ ← uniwillWriteEcRamWithRetry (0x0f20 + BitVec.ofNat 16 i) 0xc8 3
  let _ ← uniwillWriteEcRamWithRetry (0x0f30 + BitVec.ofNat 16 i)
    (BitVec.ofNat 8 (115 + i + 1)) 3
  let _ ← uniwillWriteEcRamWithRetry (0x0f40 + BitVec.ofNat 16 i)
    (BitVec.ofNat 8 (115 + i)) 3
  let _ ← uniwillWriteEcRamWithRetry (0x0f50 + BitVec.ofNat 16 i) 0xc8 3
  return ()

/-- The tables themselves: one controllable zone from 0 to 115 degrees for
the CPU and 0 to 120 degrees for the GPU, then the dummy zones. -/
def uwInitFanTables : Driver Unit := do
  let _ ← uniwillWriteEcRamWithRetry 0x0f00 115 3
  let _ ← uniwillWriteEcRamWithRetry 0x0f10 0 3
  let _ ← uniwillWriteEcRamWithRetry 0x0f20 0x01 3
  let _ ← uniwillWriteEcRamWithRetry 0x0f30 120 3
  let _ ← uniwillWriteEcRamWithRetry 0x0f40 0 3
  let _ ← uniwillWriteEcRamWithRetry 0x0f50 0x01 3
  (List.range' 1 15).forM uwInitFanZone

/-- Set bit `offset` of a register if it is not set. -/
def uwEnableCustomFanTable (address : U16) (offset : Nat) :
    Driver Unit := do
  let value ← uniwillReadEcRam address
  if (value.data >>> offset) &&& 1 = 0 then
    let _ ← uniwillWriteEcRamWithRetry address
      (value.data + (1 <<< offset)) 3
    pure ()
  else
    pure ()

/-- The part of `uw_init_fan` that runs once. -/
def uwInitFanSetup : Driver Unit := do
  let _ ← setFullFanMode false
  uwEnableCustomFanTable 0x07c5 7
  uwInitFanTables
  uwEnableCustomFanTable 0x07c6 2

def uwInitFan : Driver Int := do
  let statics ← getStatics
  if statics.fan.fansInitialized = false ∧
      statics.uniwillDeviceFeatures.uniwillHasUniversalEcFanControl =
        true then
    uwInitFanSetup
  else
    pure ()
  setStatics fun statics => { statics with fan.fansInitialized := true }
  return 0

/-- Writes to the tables, where the controllable zone starts with the stop
speed. -/
def FanTableWrite (address : U16) (data : U8) : Prop :=
  0x0f00 ≤ address ∧ address ≤ 0x0f5f ∧
    (address = 0x0f20 ∨ address = 0x0f50 → data = 0x01)

instance (address : U16) (data : U8) :
    Decidable (FanTableWrite address data) :=
  inferInstanceAs (Decidable (_ ∧ _ ∧ _))

/-- Writes of the one-time set-up: "full fan mode" off, the two switches and
the tables. -/
def FanSetupWrite (address : U16) (data : U8) : Prop :=
  address = 0x0751 ∨ address = 0x07c5 ∨ address = 0x07c6 ∨
    FanTableWrite address data

private theorem uwInitFanZone_writes :
    ∀ i ∈ List.range' 1 15,
      FanTableWrite (0x0f00 + BitVec.ofNat 16 i)
          (BitVec.ofNat 8 (115 + i + 1)) ∧
        FanTableWrite (0x0f10 + BitVec.ofNat 16 i)
          (BitVec.ofNat 8 (115 + i)) ∧
        FanTableWrite (0x0f20 + BitVec.ofNat 16 i) 0xc8 ∧
        FanTableWrite (0x0f30 + BitVec.ofNat 16 i)
          (BitVec.ofNat 8 (115 + i + 1)) ∧
        FanTableWrite (0x0f40 + BitVec.ofNat 16 i)
          (BitVec.ofNat 8 (115 + i)) ∧
        FanTableWrite (0x0f50 + BitVec.ofNat 16 i) 0xc8 := by
  decide

theorem uwInitFanZone_asks {i : Nat} (member : i ∈ List.range' 1 15) :
    (uwInitFanZone i).Asks (EcRequest FanTableWrite) := by
  obtain ⟨cpuEnd, cpuStart, cpuSpeed, gpuEnd, gpuStart, gpuSpeed⟩ :=
    uwInitFanZone_writes i member
  refine (asks_uniwillWriteEcRamWithRetry cpuEnd 3).bind fun _ => ?_
  refine (asks_uniwillWriteEcRamWithRetry cpuStart 3).bind fun _ => ?_
  refine (asks_uniwillWriteEcRamWithRetry cpuSpeed 3).bind fun _ => ?_
  refine (asks_uniwillWriteEcRamWithRetry gpuEnd 3).bind fun _ => ?_
  refine (asks_uniwillWriteEcRamWithRetry gpuStart 3).bind fun _ => ?_
  exact (asks_uniwillWriteEcRamWithRetry gpuSpeed 3).bind fun _ => trivial

theorem uwInitFanTables_asks :
    uwInitFanTables.Asks (EcRequest FanTableWrite) := by
  have write : ∀ {address : U16} {data : U8},
      FanTableWrite address data →
        (uniwillWriteEcRamWithRetry address data 3).Asks
          (EcRequest FanTableWrite) :=
    fun permitted => asks_uniwillWriteEcRamWithRetry permitted 3
  refine (write (by decide)).bind fun _ => ?_
  refine (write (by decide)).bind fun _ => ?_
  refine (write (by decide)).bind fun _ => ?_
  refine (write (by decide)).bind fun _ => ?_
  refine (write (by decide)).bind fun _ => ?_
  refine (write (by decide)).bind fun _ => ?_
  exact Program.Asks.forM fun i member => uwInitFanZone_asks member

theorem uwEnableCustomFanTable_asks (address : U16) (offset : Nat) :
    (uwEnableCustomFanTable address offset).Asks
      (EcRequest fun written _ => written = address) := by
  refine Program.Asks.bind (asks_uniwillReadEcRam address) ?_
  intro value
  refine Program.Asks.ite ?_ (fun _ => trivial)
  intro _
  exact (asks_uniwillWriteEcRamWithRetry rfl 3).bind fun _ => trivial

theorem uwInitFanSetup_asks :
    uwInitFanSetup.Asks (EcRequest FanSetupWrite) := by
  refine
    ((setFullFanMode_asks false).mono
      (EcRequest.mono fun _ _ => Or.inl)).bind fun _ => ?_
  refine
    ((uwEnableCustomFanTable_asks 0x07c5 7).mono
      (EcRequest.mono fun _ _ => Or.inr ∘ Or.inl)).bind fun _ => ?_
  refine
    (uwInitFanTables_asks.mono
      (EcRequest.mono fun _ _ => Or.inr ∘ Or.inr ∘ Or.inr)).bind
      fun _ => ?_
  exact
    (uwEnableCustomFanTable_asks 0x07c6 2).mono
      (EcRequest.mono fun _ _ => Or.inr ∘ Or.inr ∘ Or.inl)

/-- The set-up writes the stop speed to the controllable zone of the CPU
fan, whatever happened before. -/
theorem uwInitFanSetup_writes {σ : Type} (device : EcDevice σ)
    (machine : Machine σ) :
    ∃ outcome,
      .write 0x0f20 0x01 outcome ∈ device.trace uwInitFanSetup machine := by
  have tables : ∀ before : Machine σ, ∃ outcome,
      .write 0x0f20 0x01 outcome ∈ device.trace uwInitFanTables before := by
    intro before
    simp only [uwInitFanTables, trace_bind, List.mem_append]
    exact
      (uniwillWriteEcRamWithRetry_writes device 0x0f20 0x01 2 _).imp
        fun _ member => Or.inr (Or.inr (Or.inl member))
  simp only [uwInitFanSetup, trace_bind, List.mem_append]
  exact
    (tables _).imp fun _ member => Or.inr (Or.inr (Or.inl member))

/-- `uw_init_fan` succeeds and marks the fans initialised, with or without
the set-up, and even when EC accesses of the set-up fail. -/
theorem run_uwInitFan {σ : Type} (device : EcDevice σ)
    (machine : Machine σ) :
    device.run uwInitFan machine =
      (0, { machine.1 with fan.fansInitialized := true },
        if machine.1.fan.fansInitialized = false ∧
            machine.1.uniwillDeviceFeatures.uniwillHasUniversalEcFanControl =
              true then
          (device.run uwInitFanSetup machine).2.2
        else machine.2) := by
  have unchanged :=
    statics_of_ecRequests device uwInitFanSetup_asks machine
  simp only [uwInitFan, run_bind, run_getStatics, run_ite, run_setStatics,
    run_pure]
  split
  · rw [unchanged]
  · rfl

theorem trace_uwInitFan {σ : Type} (device : EcDevice σ)
    (machine : Machine σ) :
    device.trace uwInitFan machine =
      if machine.1.fan.fansInitialized = false ∧
          machine.1.uniwillDeviceFeatures.uniwillHasUniversalEcFanControl =
            true then
        device.trace uwInitFanSetup machine
      else [] := by
  simp only [uwInitFan, trace_bind, run_getStatics, trace_getStatics,
    trace_ite, trace_setStatics, trace_pure, List.nil_append,
    List.append_nil]

private theorem uwEnableCustomFanTable_byte (value : U8) :
    (if (value >>> 7) &&& 1 = 0 then value + (1 <<< 7) else value) =
        value ||| 0x80 ∧
      (if (value >>> 2) &&& 1 = 0 then value + (1 <<< 2) else value) =
        value ||| 0x04 := by
  revert value
  decide

theorem run_uwEnableCustomFanTable (address : U16) (offset : Nat)
    (machine : Machine Ram) :
    reliableEc.run (uwEnableCustomFanTable address offset) machine =
      ((), machine.1,
        Function.update machine.2 address
          (if (machine.2 address >>> offset) &&& 1 = 0 then
            machine.2 address + (1 <<< offset)
          else machine.2 address)) := by
  simp only [uwEnableCustomFanTable, run_bind, run_uniwillReadEcRam,
    reliableEc_read, EcRead.data_ok, run_ite]
  split
  · simp
  · simp

/-- What the set-up does to the three registers that decide who controls the
fans. -/
theorem run_uwInitFanSetup (machine : Machine Ram) :
    (reliableEc.run uwInitFanSetup machine).2.2 0x0751 =
        machine.2 0x0751 &&& ~~~0x40 ∧
      (reliableEc.run uwInitFanSetup machine).2.2 0x07c5 =
        machine.2 0x07c5 ||| 0x80 ∧
      (reliableEc.run uwInitFanSetup machine).2.2 0x07c6 =
        machine.2 0x07c6 ||| 0x04 := by
  have tables : ∀ (before : Machine Ram) (address : U16),
      ¬ (0x0f00 ≤ address ∧ address ≤ 0x0f5f) →
        (reliableEc.run uwInitFanTables before).2.2 address =
          before.2 address := by
    intro before address outside
    exact
      ram_of_ecRequests uwInitFanTables_asks before fun _ permitted =>
        outside ⟨permitted.1, permitted.2.1⟩
  simp only [uwInitFanSetup, run_bind, run_setFullFanMode_false,
    run_uwEnableCustomFanTable, uwEnableCustomFanTable_byte]
  refine ⟨?_, ?_, ?_⟩
  · rw [Function.update_of_ne (by decide), tables _ _ (by decide)]
    simp
  · rw [Function.update_of_ne (by decide), tables _ _ (by decide)]
    simp
  · rw [Function.update_self, tables _ _ (by decide)]
    simp

/-! ## Direct fan control -/

/-- `schedule_delayed_work(&direct_fan_control_restart_delayed_work, ...)`. -/
def scheduleRestartWork : Driver Unit :=
  setStatics fun statics => { statics with fan.restartWorkPending := true }

@[simp]
theorem run_scheduleRestartWork {σ : Type} (device : EcDevice σ)
    (machine : Machine σ) :
    device.run scheduleRestartWork machine =
      ((), { machine.1 with fan.restartWorkPending := true }, machine.2) :=
  (rfl)

@[simp]
theorem trace_scheduleRestartWork {σ : Type} (device : EcDevice σ)
    (machine : Machine σ) :
    device.trace scheduleRestartWork machine = [] :=
  (rfl)

/-- One round of the loop that writes both fans before the ramp-up. -/
def preventRampupRound : Driver Unit := do
  let statics ← getStatics
  let _ ← uniwillWriteEcRam 0x1804
    statics.fan.directFanControlCurrentValueFan0
  let statics ← getStatics
  let _ ← uniwillWriteEcRam 0x1809
    statics.fan.directFanControlCurrentValueFan1
  return ()

def restartDirectFanControlWorkHandler : Driver Unit := do
  let _ ← setFullFanMode false
  let _ ← setFullFanMode true
  (List.range 10).forM fun _ => preventRampupRound
  scheduleRestartWork

/-- The work queue takes the work off the queue and runs its handler. -/
def runRestartWork : Driver Unit := do
  setStatics fun statics => { statics with fan.restartWorkPending := false }
  restartDirectFanControlWorkHandler

/-- The accesses of the restart work: the mode register, and writes of the
current values to the two speed registers. -/
def RestartWorkEvent (fan : FanStatics) (event : EcEvent) : Prop :=
  event.address = 0x0751 ∨
    (∃ outcome,
      event = .write 0x1804 fan.directFanControlCurrentValueFan0 outcome) ∨
    ∃ outcome,
      event = .write 0x1809 fan.directFanControlCurrentValueFan1 outcome

section RestartWork

variable {σ : Type} (device : EcDevice σ) (machine : Machine σ)

private theorem preventRampupRound_rule :
    (device.run preventRampupRound machine).2.1 = machine.1 ∧
      ∀ event ∈ device.trace preventRampupRound machine,
        RestartWorkEvent machine.1.fan event := by
  simp [preventRampupRound, RestartWorkEvent]

private theorem preventRampupRounds_rule (rounds : List Nat) :
    (device.run (rounds.forM fun _ => preventRampupRound) machine).2.1 =
        machine.1 ∧
      ∀ event ∈
          device.trace (rounds.forM fun _ => preventRampupRound) machine,
        RestartWorkEvent machine.1.fan event := by
  refine
    forM_rule (fun later : Machine σ => later.1 = machine.1) _ ?_
      rounds rfl
  intro _ later unchanged
  obtain ⟨kept, events⟩ := preventRampupRound_rule device later
  rw [unchanged] at kept events
  exact ⟨kept, events⟩

private theorem setFullFanMode_rule (enable : Bool) :
    (device.run (setFullFanMode enable) machine).2.1 = machine.1 ∧
      ∀ event ∈ device.trace (setFullFanMode enable) machine,
        RestartWorkEvent machine.1.fan event := by
  refine
    ⟨statics_of_ecRequests device (setFullFanMode_asks enable) machine, ?_⟩
  simp only [setFullFanMode, trace_bind, trace_uniwillReadEcRam, trace_ite,
    trace_uniwillWriteEcRam, trace_pure]
  split
  · simp [RestartWorkEvent, EcEvent.address]
  · split <;> simp [RestartWorkEvent, EcEvent.address]

/-- A run of the work is some accesses to the mode register followed by the
rounds that write the speeds. -/
private theorem runRestartWork_shape :
    ∃ (on : Machine σ) (earlier : List EcEvent),
      on.1 = { machine.1 with fan.restartWorkPending := false } ∧
      (∀ event ∈ earlier, RestartWorkEvent machine.1.fan event) ∧
      (device.run runRestartWork machine).2.1 =
        { (device.run
              ((List.range 10).forM fun _ => preventRampupRound) on).2.1 with
          fan.restartWorkPending := true } ∧
      device.trace runRestartWork machine =
        earlier ++
          device.trace
            ((List.range 10).forM fun _ => preventRampupRound) on := by
  let taken : Machine σ :=
    ({ machine.1 with fan.restartWorkPending := false }, machine.2)
  obtain ⟨keptOff, eventsOff⟩ := setFullFanMode_rule device taken false
  let off := (device.run (setFullFanMode false) taken).2
  obtain ⟨keptOn, eventsOn⟩ := setFullFanMode_rule device off true
  have offStatics : off.1 = taken.1 := keptOff
  rw [offStatics] at eventsOn
  refine
    ⟨(device.run (setFullFanMode true) off).2,
      device.trace (setFullFanMode false) taken ++
        device.trace (setFullFanMode true) off,
      keptOn.trans offStatics, ?_, ?_, ?_⟩
  · intro event member
    rcases List.mem_append.mp member with inOff | inOn
    · exact eventsOff event inOff
    · exact eventsOn event inOn
  · simp only [runRestartWork, restartDirectFanControlWorkHandler,
      scheduleRestartWork, run_bind, run_setStatics]
    rfl
  · simp only [runRestartWork, restartDirectFanControlWorkHandler,
      scheduleRestartWork, trace_bind, run_setStatics, trace_setStatics,
      List.nil_append, List.append_nil, List.append_assoc]
    rfl

/-- One run of the work keeps the speeds, leaves the work pending again, and
accesses nothing but the mode register and the speed registers. -/
theorem runRestartWork_rule :
    (device.run runRestartWork machine).2.1 =
        { machine.1 with fan.restartWorkPending := true } ∧
      ∀ event ∈ device.trace runRestartWork machine,
        RestartWorkEvent machine.1.fan event := by
  obtain ⟨on, earlier, onStatics, earlierEvents, runShape, traceShape⟩ :=
    runRestartWork_shape device machine
  obtain ⟨keptRounds, eventsRounds⟩ :=
    preventRampupRounds_rule device on (List.range 10)
  rw [runShape, traceShape, keptRounds]
  rw [onStatics] at eventsRounds ⊢
  refine ⟨rfl, fun event member => ?_⟩
  rcases List.mem_append.mp member with before | inRounds
  · exact earlierEvents event before
  · exact eventsRounds event inRounds

/-- One run of the work does write both speeds. -/
theorem runRestartWork_writes :
    (∃ outcome,
      .write 0x1804 machine.1.fan.directFanControlCurrentValueFan0 outcome ∈
        device.trace runRestartWork machine) ∧
    ∃ outcome,
      .write 0x1809 machine.1.fan.directFanControlCurrentValueFan1 outcome ∈
        device.trace runRestartWork machine := by
  obtain ⟨on, earlier, onStatics, -, -, traceShape⟩ :=
    runRestartWork_shape device machine
  have firstRound :
      device.trace preventRampupRound on ⊆
        device.trace runRestartWork machine := by
    rw [traceShape]
    change _ ⊆ _ ++ device.trace (preventRampupRound >>= fun _ => _) on
    rw [trace_bind]
    exact
      List.Subset.trans (List.subset_append_left _ _)
        (List.subset_append_right _ _)
  simp only [preventRampupRound, trace_bind, trace_getStatics,
    run_getStatics, trace_uniwillWriteEcRam, run_uniwillWriteEcRam,
    trace_pure, onStatics] at firstRound
  exact
    ⟨⟨_, firstRound List.mem_cons_self⟩,
      ⟨_, firstRound (List.mem_cons_of_mem _ List.mem_cons_self)⟩⟩

/-- On an EC whose accesses succeed, the rounds leave the speeds in the two
registers. -/
theorem run_preventRampupRounds {rounds : List Nat} (nonempty : rounds ≠ [])
    (machine : Machine Ram) :
    (reliableEc.run (rounds.forM fun _ => preventRampupRound) machine).2 =
      (machine.1,
        Function.update
          (Function.update machine.2 0x1804
            machine.1.fan.directFanControlCurrentValueFan0)
          0x1809 machine.1.fan.directFanControlCurrentValueFan1) := by
  have round : ∀ machine : Machine Ram,
      (reliableEc.run preventRampupRound machine).2 =
        (machine.1,
          Function.update
            (Function.update machine.2 0x1804
              machine.1.fan.directFanControlCurrentValueFan0)
            0x1809 machine.1.fan.directFanControlCurrentValueFan1) := by
    intro machine
    simp [preventRampupRound]
  induction rounds generalizing machine with
  | nil =>
      exact absurd rfl nonempty
  | cons first rest inductionHypothesis =>
      change
        (reliableEc.run
          (preventRampupRound >>= fun _ =>
            rest.forM fun _ => preventRampupRound) machine).2 = _
      rw [run_bind, round]
      by_cases last : rest = []
      · rw [last]
        rfl
      · rw [inductionHypothesis last]
        have apart : (0x1804 : U16) ≠ 0x1809 := by
          decide
        simp only [Function.update_comm apart, Function.update_idem]

/-- On an EC whose accesses succeed, a run of the work switches "full fan
mode" off and on and leaves the speeds in the two registers. -/
theorem run_runRestartWork (machine : Machine Ram) :
    (reliableEc.run runRestartWork machine).2 =
      ({ machine.1 with fan.restartWorkPending := true },
        Function.update
          (Function.update
            (Function.update machine.2 0x0751
              ((machine.2 0x0751 &&& ~~~0x40) ||| 0x40))
            0x1804 machine.1.fan.directFanControlCurrentValueFan0)
          0x1809 machine.1.fan.directFanControlCurrentValueFan1) := by
  have cleared : ∀ mode : U8, (mode &&& ~~~0x40) &&& 0x40 = 0 := by
    decide
  let off : Machine Ram :=
    ({ machine.1 with fan.restartWorkPending := false },
      Function.update machine.2 0x0751 (machine.2 0x0751 &&& ~~~0x40))
  have offClear : off.2 0x0751 &&& 0x40 = 0 := by
    simpa [off] using cleared (machine.2 0x0751)
  simp only [runRestartWork, restartDirectFanControlWorkHandler, run_bind,
    run_setStatics, run_setFullFanMode_false]
  change (reliableEc.run scheduleRestartWork
    (reliableEc.run _ (reliableEc.run (setFullFanMode true) off).2).2).2 = _
  rw [run_setFullFanMode_true offClear,
    run_preventRampupRounds (by decide), run_scheduleRestartWork]
  simp [off]

end RestartWork

/-- The end of `direct_fan_control`, for the speed register of the fan. -/
def directFanControlApply (address : U16) (fanSpeed : U8)
    (preventRampup : Bool) : Driver Int := do
  let statics ← getStatics
  if preventRampup = true ∧ statics.fan.directFanControlStarted = false then
    setStatics fun statics =>
      { statics with fan.directFanControlStarted := true }
    scheduleRestartWork
    return 0
  else
    let _ ← uniwillWriteEcRam address fanSpeed
    return 0

def directFanControl (fanIndex : U32) (fanSpeed : U8)
    (preventRampup : Bool) : Driver Int := do
  if fanIndex = 0 then
    setStatics fun statics =>
      { statics with fan.directFanControlCurrentValueFan0 := fanSpeed }
    directFanControlApply 0x1804 fanSpeed preventRampup
  else if fanIndex = 1 then
    setStatics fun statics =>
      { statics with fan.directFanControlCurrentValueFan1 := fanSpeed }
    directFanControlApply 0x1809 fanSpeed preventRampup
  else
    return -einval

/-! ## Fan requests -/

/-- No speeds between off and the minimum speed; off is written as 1, since
the EC spins the fan up for a while before it takes 0. -/
def normaliseFanSpeed (fanSpeed : U8) : U8 :=
  let raised :=
    if fanSpeed.toNat <
        fanOnMinSpeedPercent * nb02FanSpeedMax / 2 / 100 then 0
    else if fanSpeed.toNat <
        fanOnMinSpeedPercent * nb02FanSpeedMax / 100 then
      BitVec.ofNat 8 (fanOnMinSpeedPercent * nb02FanSpeedMax / 100)
    else fanSpeed
  if raised = 0 then 1 else raised

/-- `uw_set_fan` on a device with universal fan control, after the choice of
the speed register of the fan. -/
def uwSetFanTable (fanIndex : U32) (address : U16) (fanSpeed : U8) :
    Driver U32 := do
  if fanSpeed.toNat > nb02FanSpeedMax then
    return BitVec.ofInt 32 (-einval)
  else
    let _ ← uniwillWriteEcRam address (normaliseFanSpeed fanSpeed)
    let _ ← directFanControl fanIndex (normaliseFanSpeed fanSpeed) false
    return 0

def uwSetFan (fanIndex : U32) (fanSpeed : U8) : Driver U32 := do
  let statics ← getStatics
  if statics.uniwillDeviceFeatures.uniwillHasUniversalEcFanControl =
      true then
    let mode ← uniwillReadEcRam 0x0751
    if mode.data &&& 0x40 = 0 then
      let _ ← uwInitFan
      if fanIndex = 0 then
        uwSetFanTable fanIndex 0x0f20 fanSpeed
      else if fanIndex = 1 then
        uwSetFanTable fanIndex 0x0f50 fanSpeed
      else
        return BitVec.ofInt 32 (-einval)
    else
      return 0
  else
    let _ ← directFanControl fanIndex fanSpeed true
    return 0

/-- Clear bit `offset` of a register if it is set. -/
def uwDisableCustomFanTable (address : U16) (offset : Nat) :
    Driver Unit := do
  let value ← uniwillReadEcRam address
  if (value.data >>> offset) &&& 1 ≠ 0 then
    let _ ← uniwillWriteEcRamWithRetry address
      (value.data - (1 <<< offset)) 3
    pure ()
  else
    pure ()

theorem uwDisableCustomFanTable_avoids
    (table : U16) (offset : Nat) {address : U16}
    (elsewhere : table ≠ address) :
    (uwDisableCustomFanTable table offset).Asks
      (AccessWithin fun register => register ≠ address) := by
  refine Program.Asks.bind ⟨elsewhere, fun _ => trivial⟩ fun value => ?_
  refine Program.Asks.ite (fun _ => ?_) fun _ => trivial
  refine Program.Asks.bind ?_ fun _ => trivial
  apply uniwillWriteEcRamWithRetry_within
  exact elsewhere

/-- The first branch of `uw_set_fan_auto`. -/
def uwSetFanAutoTables : Driver Unit := do
  uwDisableCustomFanTable 0x07c6 2
  uwDisableCustomFanTable 0x07c5 7
  setStatics fun statics => { statics with fan.fansInitialized := false }

/-- The second branch: `cancel_delayed_work_sync` and full fan mode off. -/
def uwSetFanAutoDirect : Driver Unit := do
  setStatics fun statics =>
    { statics with
      fan.restartWorkPending := false
      fan.directFanControlStarted := false }
  let mode ← uniwillReadEcRam 0x0751
  let _ ← uniwillWriteEcRam 0x0751 (mode.data &&& 0xbf)
  return ()

def uwSetFanAuto : Driver U32 := do
  let statics ← getStatics
  if statics.uniwillDeviceFeatures.uniwillHasUniversalEcFanControl =
      true then
    uwSetFanAutoTables
  else
    uwSetFanAutoDirect
  setStatics fun statics =>
    { statics with
      fan.directFanControlCurrentValueFan0 := 0
      fan.directFanControlCurrentValueFan1 := 0 }
  return 0

end TuxedoDrivers.Uniwill
