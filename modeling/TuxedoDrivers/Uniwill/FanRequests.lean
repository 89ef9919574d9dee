import TuxedoDrivers.Uniwill.FanControl

/-!
# Rejected and out-of-range fan requests

`uw_set_fan` rejects a fan index or a speed only on a device with universal
fan control, and only after `uw_init_fan` has taken the fans over.  The first
main result says exactly when a rejected request leaves the control of the
fans as it was.

The ioctls for the fan speed narrow their 32-bit argument to a byte before
any check, and the path without universal fan control checks nothing.  The
second main result says exactly which arguments are range-checked.
-/

namespace TuxedoDrivers.Uniwill

open Interaction

/-! ## The paths through `uw_set_fan` -/

/-- The fans that exist and the speeds in range. -/
def AcceptedFanRequest (fanIndex : U32) (fanSpeed : U8) : Prop :=
  fanIndex.toNat ≤ 1 ∧ fanSpeed.toNat ≤ nb02FanSpeedMax

def DriverState.hasUniversalEcFanControl (statics : DriverState) : Bool :=
  statics.uniwillDeviceFeatures.uniwillHasUniversalEcFanControl

/-- Bit 6 of the mode register. -/
def FullFanMode (mode : U8) : Prop :=
  mode &&& 0x40 ≠ 0

/-- What `uw_set_fan` finds in its variable after reading the mode register,
whether or not that read succeeds. -/
def EcDevice.fanMode {σ : Type} (device : EcDevice σ) (ec : σ) : U8 :=
  (device.read 0x0751 ec).1.data

section Paths

variable {σ : Type} (device : EcDevice σ) {machine : Machine σ}
  (fanIndex : U32) (fanSpeed : U8)

theorem fanIndex_cases :
    fanIndex = 0 ∨ fanIndex = 1 ∨ 1 < fanIndex.toNat := by
  rcases Nat.lt_or_ge 1 fanIndex.toNat with large | small
  · exact Or.inr (Or.inr large)
  · rcases Nat.le_one_iff_eq_zero_or_eq_one.mp small with zero | one
    · exact Or.inl (BitVec.eq_of_toNat_eq zero)
    · exact Or.inr (Or.inl (BitVec.eq_of_toNat_eq one))

theorem run_uwSetFan_direct
    (direct : machine.1.hasUniversalEcFanControl = false) :
    device.run (uwSetFan fanIndex fanSpeed) machine =
        (0, (device.run (directFanControl fanIndex fanSpeed true)
          machine).2) ∧
      device.trace (uwSetFan fanIndex fanSpeed) machine =
        device.trace (directFanControl fanIndex fanSpeed true) machine := by
  have notUniversal :
      ¬ machine.1.uniwillDeviceFeatures.uniwillHasUniversalEcFanControl =
        true := by
    simpa [DriverState.hasUniversalEcFanControl] using direct
  simp [uwSetFan, notUniversal]

/-- "Full fan mode" has precedence over a request. -/
theorem run_uwSetFan_ignored
    (universal : machine.1.hasUniversalEcFanControl = true)
    (fullFanMode : FullFanMode (device.fanMode machine.2)) :
    device.run (uwSetFan fanIndex fanSpeed) machine =
        (0, machine.1, (device.read 0x0751 machine.2).2) ∧
      device.trace (uwSetFan fanIndex fanSpeed) machine =
        [.read 0x0751 (device.read 0x0751 machine.2).1] := by
  unfold DriverState.hasUniversalEcFanControl at universal
  unfold FullFanMode EcDevice.fanMode at fullFanMode
  simp only [uwSetFan, run_bind, trace_bind, run_getStatics,
    trace_getStatics, universal, if_true, run_uniwillReadEcRam,
    trace_uniwillReadEcRam, if_neg fullFanMode, run_pure, trace_pure,
    List.nil_append, List.append_nil, and_self]

theorem run_uwSetFan_rejected
    (universal : machine.1.hasUniversalEcFanControl = true)
    (available : ¬ FullFanMode (device.fanMode machine.2))
    (rejected : ¬ AcceptedFanRequest fanIndex fanSpeed) :
    device.run (uwSetFan fanIndex fanSpeed) machine =
        (BitVec.ofInt 32 (-einval),
          (device.run uwInitFan
            (machine.1, (device.read 0x0751 machine.2).2)).2) ∧
      device.trace (uwSetFan fanIndex fanSpeed) machine =
        .read 0x0751 (device.read 0x0751 machine.2).1 ::
          device.trace uwInitFan
            (machine.1, (device.read 0x0751 machine.2).2) := by
  unfold DriverState.hasUniversalEcFanControl at universal
  have notFull := not_not.mp available
  unfold EcDevice.fanMode at notFull
  simp only [uwSetFan, run_bind, trace_bind, run_getStatics,
    trace_getStatics, universal, if_true, run_uniwillReadEcRam,
    trace_uniwillReadEcRam, if_pos notFull, List.nil_append,
    List.singleton_append]
  rcases fanIndex_cases fanIndex with rfl | rfl | large
  · have tooFast : fanSpeed.toNat > nb02FanSpeedMax :=
      Nat.lt_of_not_le fun inRange => rejected ⟨by decide, inRange⟩
    simp [uwSetFanTable, tooFast]
  · have tooFast : fanSpeed.toNat > nb02FanSpeedMax :=
      Nat.lt_of_not_le fun inRange => rejected ⟨by decide, inRange⟩
    simp [uwSetFanTable, tooFast]
  · have notFirst : fanIndex ≠ 0 := by
      rintro rfl
      exact absurd large (by decide)
    have notSecond : fanIndex ≠ 1 := by
      rintro rfl
      exact absurd large (by decide)
    rw [if_neg notFirst, if_neg notSecond, run_pure, trace_pure,
      List.append_nil]
    exact ⟨rfl, rfl⟩

/-- The register of the selected fan in the custom tables. -/
def tableSpeedRegister (fanIndex : U32) : U16 :=
  if fanIndex = 0 then 0x0f20 else 0x0f50

/-- What an accepted request does once the device is found available. -/
def uwSetFanTables (fanIndex : U32) (fanSpeed : U8) : Driver Int := do
  let _ ← uwInitFan
  let _ ← uniwillWriteEcRam (tableSpeedRegister fanIndex)
    (normaliseFanSpeed fanSpeed)
  directFanControl fanIndex (normaliseFanSpeed fanSpeed) false

theorem run_uwSetFan_accepted
    (universal : machine.1.hasUniversalEcFanControl = true)
    (available : ¬ FullFanMode (device.fanMode machine.2))
    (accepted : AcceptedFanRequest fanIndex fanSpeed) :
    device.run (uwSetFan fanIndex fanSpeed) machine =
        (0,
          (device.run (uwSetFanTables fanIndex fanSpeed)
            (machine.1, (device.read 0x0751 machine.2).2)).2) ∧
      device.trace (uwSetFan fanIndex fanSpeed) machine =
        .read 0x0751 (device.read 0x0751 machine.2).1 ::
          device.trace (uwSetFanTables fanIndex fanSpeed)
            (machine.1, (device.read 0x0751 machine.2).2) := by
  unfold DriverState.hasUniversalEcFanControl at universal
  have notFull := not_not.mp available
  unfold EcDevice.fanMode at notFull
  have inRange : ¬ fanSpeed.toNat > nb02FanSpeedMax :=
    Nat.not_lt.mpr accepted.2
  simp only [uwSetFan, run_bind, trace_bind, run_getStatics,
    trace_getStatics, universal, if_true, run_uniwillReadEcRam,
    trace_uniwillReadEcRam, if_pos notFull, List.nil_append,
    List.singleton_append]
  rcases fanIndex_cases fanIndex with rfl | rfl | large
  · simp [uwSetFanTable, uwSetFanTables, inRange, tableSpeedRegister]
  · simp [uwSetFanTable, uwSetFanTables, inRange, tableSpeedRegister]
  · exact absurd accepted.1 (Nat.not_le.mpr large)

end Paths

/-! ## Rejected requests -/

/-- The EC registers that decide who controls the fans and how fast they
run. -/
def FanControlRegister (address : U16) : Prop :=
  address = 0x0751 ∨ address = 0x07c5 ∨ address = 0x07c6 ∨
    (0x0f00 ≤ address ∧ address ≤ 0x0f5f) ∨
    address = 0x1804 ∨ address = 0x1809

def SameFanControl (before after : Machine FaultyRam) : Prop :=
  (∀ address, FanControlRegister address →
    after.2.ram address = before.2.ram address) ∧
  after.1.fan.fansInitialized = before.1.fan.fansInitialized

/-- An error of `uw_set_fan` leaves the control of the fans as it was exactly
when the request is not the one that sets the fans up and is rejected
afterwards. -/
theorem uwSetFan_error_keepsControl_iff
    (fanIndex : U32) (fanSpeed : U8) (machine : Machine FaultyRam) :
    ((faultyEc.run (uwSetFan fanIndex fanSpeed) machine).1 ≠ 0 →
        SameFanControl machine
          (faultyEc.run (uwSetFan fanIndex fanSpeed) machine).2) ↔
      ¬ (machine.1.hasUniversalEcFanControl = true ∧
          machine.1.fan.fansInitialized = false ∧
          ¬ FullFanMode (faultyEc.fanMode machine.2) ∧
          ¬ AcceptedFanRequest fanIndex fanSpeed) := by
  cases universal : machine.1.hasUniversalEcFanControl with
  | false =>
      rw [(run_uwSetFan_direct faultyEc fanIndex fanSpeed universal).1]
      simp
  | true =>
      by_cases fullFanMode : FullFanMode (faultyEc.fanMode machine.2)
      · rw [(run_uwSetFan_ignored faultyEc fanIndex fanSpeed universal
          fullFanMode).1]
        simp [fullFanMode]
      · by_cases accepted : AcceptedFanRequest fanIndex fanSpeed
        · rw [(run_uwSetFan_accepted faultyEc fanIndex fanSpeed universal
            fullFanMode accepted).1]
          simp [accepted]
        · rw [(run_uwSetFan_rejected faultyEc fanIndex fanSpeed universal
            fullFanMode accepted).1, run_uwInitFan]
          cases initialized : machine.1.fan.fansInitialized with
          | false =>
              have errorCode : BitVec.ofInt 32 (-einval) ≠ 0 := by
                decide
              simpa [SameFanControl, initialized, fullFanMode, accepted]
                using errorCode
          | true =>
              simp [SameFanControl, initialized, faultyEc]

/-- A device with universal fan control whose fans the EC controls. -/
def automaticMachine : Machine FaultyRam :=
  ({ uniwillDeviceFeatures := { uniwillHasUniversalEcFanControl := true } },
    { ram := fun _ => 0, outcomes := [] })

/-- A request for a third fan is an error, and yet it takes both fans from
the EC. -/
theorem uwSetFan_thirdFan_takesControl :
    (faultyEc.run (uwSetFan 2 0) automaticMachine).1 ≠ 0 ∧
      (faultyEc.run (uwSetFan 2 0) automaticMachine).2.2.ram 0x07c5 = 0x80 ∧
      ¬ SameFanControl automaticMachine
        (faultyEc.run (uwSetFan 2 0) automaticMachine).2 := by
  have switched :
      (faultyEc.run (uwSetFan 2 0) automaticMachine).2.2.ram 0x07c5 =
        0x80 := by
    decide +kernel
  refine ⟨by decide +kernel, switched, ?_⟩
  intro same
  have unchanged := same.1 0x07c5 (Or.inr (Or.inl rfl))
  rw [switched] at unchanged
  exact absurd unchanged (by decide)

/-! ## Requests from user space -/

/-- The selection made from the ioctl number. -/
def fanSelect (second : Bool) : U32 :=
  if second then 1 else 0

/-- The cases `W_UW_FANSPEED` and `W_UW_FANSPEED2` (`second`) of
`uniwill_ioctl_interface`. -/
def uniwillIoctlFanSpeed (second : Bool) (argument : U32) :
    Driver Unit := do
  let _ ← uwSetFan (fanSelect second) (argument.setWidth 8)
  return ()

/-- The accesses of a request, and of the first runs of the restart work if
the request schedules it. -/
def EcDevice.fanSpeedTrace {σ : Type} (device : EcDevice σ)
    (second : Bool) (argument : U32) (rounds : Nat)
    (machine : Machine σ) : List EcEvent :=
  let after := (device.run (uniwillIoctlFanSpeed second argument) machine).2
  device.trace (uniwillIoctlFanSpeed second argument) machine ++
    if machine.1.fan.directFanControlStarted = false ∧
        after.1.fan.directFanControlStarted = true then
      device.trace ((List.range rounds).forM fun _ => runRestartWork) after
    else []

def directSpeedRegister (fanIndex : U32) : U16 :=
  if fanIndex = 0 then 0x1804 else 0x1809

/-- The speeds a fan may be given: stop, or from the minimum speed to the
maximum. -/
def FanSpeedInRange (fanSpeed : U8) : Prop :=
  fanSpeed = 0 ∨ fanSpeed = 1 ∨
    (fanOnMinSpeedPercent * nb02FanSpeedMax / 100 ≤ fanSpeed.toNat ∧
      fanSpeed.toNat ≤ nb02FanSpeedMax)

instance (fanSpeed : U8) : Decidable (FanSpeedInRange fanSpeed) :=
  inferInstanceAs (Decidable (_ ∨ _ ∨ _))

/-- The selected fan only gets speeds in range, and an argument above the
maximum sets no speed at all. -/
def RangeChecked (fanIndex argument : U32) (trace : List EcEvent) : Prop :=
  (∀ address data outcome, .write address data outcome ∈ trace →
    address = tableSpeedRegister fanIndex ∨
        address = directSpeedRegister fanIndex →
      FanSpeedInRange data) ∧
  (nb02FanSpeedMax < argument.toNat →
    ∀ address data outcome, .write address data outcome ∈ trace →
      address ∉ [0x0f20, 0x0f50, 0x1804, 0x1809])

theorem normaliseFanSpeed_inRange {fanSpeed : U8}
    (accepted : fanSpeed.toNat ≤ nb02FanSpeedMax) :
    FanSpeedInRange (normaliseFanSpeed fanSpeed) := by
  revert fanSpeed
  decide

private theorem fanSpeedInRange_iff (fanSpeed : U8) :
    FanSpeedInRange fanSpeed ↔
      fanSpeed.toNat ≤ 1 ∨
        (50 ≤ fanSpeed.toNat ∧ fanSpeed.toNat ≤ nb02FanSpeedMax) := by
  revert fanSpeed
  decide

private theorem fanSetupWrite_selected
    {second : Bool} {address : U16} {data : U8}
    (setup : FanSetupWrite address data)
    (selected :
      address = tableSpeedRegister (fanSelect second) ∨
        address = directSpeedRegister (fanSelect second)) :
    data = 1 := by
  rcases setup with rfl | rfl | rfl | ⟨-, last, zone⟩
  · cases second <;> exact absurd selected (by decide)
  · cases second <;> exact absurd selected (by decide)
  · cases second <;> exact absurd selected (by decide)
  · rcases selected with rfl | rfl
    · cases second
      · exact zone (Or.inl rfl)
      · exact zone (Or.inr rfl)
    · cases second <;> exact absurd last (by decide)

section Requests

variable {σ : Type} (device : EcDevice σ) (machine : Machine σ)

def currentValue (second : Bool) (fan : FanStatics) : U8 :=
  if second then fan.directFanControlCurrentValueFan1
  else fan.directFanControlCurrentValueFan0

/-- Direct control of a fan that exists: it starts the restart work, or
writes the speed register. -/
theorem directFanControl_writes
    (second : Bool) (fanSpeed : U8) (preventRampup : Bool) :
    device.trace
        (directFanControl (fanSelect second) fanSpeed preventRampup)
        machine =
      (if preventRampup = true ∧
          machine.1.fan.directFanControlStarted = false then []
      else
        [.write (directSpeedRegister (fanSelect second)) fanSpeed
          (device.write (directSpeedRegister (fanSelect second)) fanSpeed
            machine.2).1]) ∧
    currentValue second
        (device.run
          (directFanControl (fanSelect second) fanSpeed preventRampup)
          machine).2.1.fan = fanSpeed ∧
    (device.run
          (directFanControl (fanSelect second) fanSpeed preventRampup)
          machine).2.1.fan.directFanControlStarted =
        (preventRampup || machine.1.fan.directFanControlStarted) := by
  cases second <;>
    cases preventRampup <;>
      cases started : machine.1.fan.directFanControlStarted <;>
        simp [directFanControl, directFanControlApply, fanSelect, started,
          currentValue, directSpeedRegister]

private theorem restartWorkEvent_selected
    {fan : FanStatics} {second : Bool} {address : U16} {data : U8}
    {outcome : EcWrite}
    (work : RestartWorkEvent fan (.write address data outcome))
    (selected :
      address = tableSpeedRegister (fanSelect second) ∨
        address = directSpeedRegister (fanSelect second)) :
    data = currentValue second fan := by
  rcases work with mode | ⟨_, first⟩ | ⟨_, other⟩
  · change address = 0x0751 at mode
    subst mode
    cases second <;> exact absurd selected (by decide)
  · cases first
    cases second
    · rfl
    · exact absurd selected (by decide)
  · cases other
    cases second
    · exact absurd selected (by decide)
    · rfl

private theorem mem_restartRounds
    (rounds : List Nat) {event : EcEvent}
    (member :
      event ∈ device.trace (rounds.forM fun _ => runRestartWork) machine) :
    RestartWorkEvent machine.1.fan event := by
  refine
    (forM_rule
      (fun later : Machine σ =>
        RestartWorkEvent later.1.fan = RestartWorkEvent machine.1.fan)
      (RestartWorkEvent machine.1.fan) ?_ rounds rfl).2 event member
  intro _ later sameSpeeds
  obtain ⟨kept, events⟩ := runRestartWork_rule device later
  rw [kept]
  exact ⟨sameSpeeds, fun event member => sameSpeeds ▸ events event member⟩

section Direct

variable {machine}
  (direct : machine.1.hasUniversalEcFanControl = false)
  (second : Bool) (argument : U32)

include direct

private theorem directTrace (rounds : Nat) :
    ∃ after : Machine σ,
      currentValue second after.1.fan = argument.setWidth 8 ∧
      device.fanSpeedTrace second argument rounds machine =
        if machine.1.fan.directFanControlStarted = false then
          device.trace
            ((List.range rounds).forM fun _ => runRestartWork) after
        else
          [.write (directSpeedRegister (fanSelect second))
            (argument.setWidth 8)
            (device.write (directSpeedRegister (fanSelect second))
              (argument.setWidth 8) machine.2).1] := by
  obtain ⟨events, current, started⟩ :=
    directFanControl_writes device machine second (argument.setWidth 8) true
  obtain ⟨runShape, traceShape⟩ :=
    run_uwSetFan_direct device (fanSelect second) (argument.setWidth 8)
      direct
  refine
    ⟨(device.run (uniwillIoctlFanSpeed second argument) machine).2, ?_, ?_⟩
  · simpa [uniwillIoctlFanSpeed, runShape] using current
  · cases before : machine.1.fan.directFanControlStarted <;>
      simp [EcDevice.fanSpeedTrace, uniwillIoctlFanSpeed, runShape,
        traceShape, events, started, before]

private theorem directTrace_selected
    {rounds : Nat} {address : U16} {data : U8} {outcome : EcWrite}
    (member :
      .write address data outcome ∈
        device.fanSpeedTrace second argument rounds machine)
    (selected :
      address = tableSpeedRegister (fanSelect second) ∨
        address = directSpeedRegister (fanSelect second)) :
    data = argument.setWidth 8 := by
  obtain ⟨after, current, shape⟩ :=
    directTrace device direct second argument rounds
  rw [shape] at member
  cases started : machine.1.fan.directFanControlStarted with
  | false =>
      rw [started, if_pos rfl] at member
      rw [← current]
      exact
        restartWorkEvent_selected
          (mem_restartRounds device after _ member) selected
  | true =>
      rw [started] at member
      simp at member
      exact member.2.1

private theorem directTrace_writes :
    ∃ outcome,
      .write (directSpeedRegister (fanSelect second)) (argument.setWidth 8)
          outcome ∈
        device.fanSpeedTrace second argument 1 machine := by
  obtain ⟨after, current, shape⟩ :=
    directTrace device direct second argument 1
  rw [shape]
  cases started : machine.1.fan.directFanControlStarted with
  | false =>
      have rounds :
          device.trace ((List.range 1).forM fun _ => runRestartWork) after =
            device.trace runRestartWork after := by
        change device.trace (runRestartWork >>= fun _ => pure ()) after = _
        simp
      rw [if_pos rfl, rounds, ← current]
      cases second
      · exact (runRestartWork_writes device after).1
      · exact (runRestartWork_writes device after).2
  | true =>
      simp

private theorem directRequest_rangeChecked_iff :
    (∀ rounds,
        RangeChecked (fanSelect second) argument
          (device.fanSpeedTrace second argument rounds machine)) ↔
      argument.toNat ≤ 1 ∨
        (50 ≤ argument.toNat ∧ argument.toNat ≤ nb02FanSpeedMax) := by
  have lowByte : (argument.setWidth 8).toNat = argument.toNat % 256 := by
    simp
  have inRange := fanSpeedInRange_iff (argument.setWidth 8)
  rw [lowByte] at inRange
  unfold nb02FanSpeedMax at inRange ⊢
  constructor
  · intro checked
    obtain ⟨selectedInRange, noneAbove⟩ := checked 1
    obtain ⟨outcome, written⟩ :=
      directTrace_writes device direct second argument
    have notAbove : ¬ nb02FanSpeedMax < argument.toNat := by
      intro above
      refine noneAbove above _ _ _ written ?_
      cases second <;> decide
    have writtenInRange :=
      inRange.mp (selectedInRange _ _ _ written (Or.inr rfl))
    unfold nb02FanSpeedMax at notAbove
    omega
  · intro accepted rounds
    refine ⟨?_, ?_⟩
    · intro address data outcome member selected
      rw [directTrace_selected device direct second argument member selected]
      exact inRange.mpr (by omega)
    · intro above
      unfold nb02FanSpeedMax at above
      omega

end Direct

private theorem mem_trace_uwInitFan
    {address : U16} {data : U8} {outcome : EcWrite}
    (member : .write address data outcome ∈ device.trace uwInitFan machine) :
    FanSetupWrite address data := by
  rw [trace_uwInitFan] at member
  split at member
  · exact allowed_of_write_mem_trace uwInitFanSetup_asks member
  · simp at member

private theorem mem_trace_uwSetFanTables
    {second : Bool} {fanSpeed : U8}
    {address : U16} {data : U8} {outcome : EcWrite}
    (member :
      .write address data outcome ∈
        device.trace (uwSetFanTables (fanSelect second) fanSpeed) machine) :
    FanSetupWrite address data ∨ data = normaliseFanSpeed fanSpeed := by
  simp only [uwSetFanTables, trace_bind, trace_uniwillWriteEcRam,
    (directFanControl_writes device _ second _ false).1,
    List.mem_append] at member
  rcases member with setup | table | speed
  · exact Or.inl (mem_trace_uwInitFan device machine setup)
  · cases List.mem_singleton.mp table
    exact Or.inr rfl
  · rw [if_neg (by simp)] at speed
    cases List.mem_singleton.mp speed
    exact Or.inr rfl

private theorem uwSetFanTables_writes (fanIndex : U32) (fanSpeed : U8) :
    ∃ outcome,
      .write (tableSpeedRegister fanIndex) (normaliseFanSpeed fanSpeed)
          outcome ∈
        device.trace (uwSetFanTables fanIndex fanSpeed) machine := by
  simp only [uwSetFanTables, trace_bind, trace_uniwillWriteEcRam,
    List.mem_append]
  exact ⟨_, Or.inr (Or.inl List.mem_cons_self)⟩

section Universal

variable {machine}
  (universal : machine.1.hasUniversalEcFanControl = true)
  (second : Bool) (argument : U32)

include universal

/-- The path of the custom tables never starts the restart work. -/
private theorem universalTrace (rounds : Nat) :
    device.fanSpeedTrace second argument rounds machine =
      device.trace (uwSetFan (fanSelect second) (argument.setWidth 8))
        machine := by
  have notStarted :
      (device.run (uwSetFan (fanSelect second) (argument.setWidth 8))
          machine).2.1.fan.directFanControlStarted =
        machine.1.fan.directFanControlStarted := by
    by_cases fullFanMode : FullFanMode (device.fanMode machine.2)
    · rw [(run_uwSetFan_ignored device _ _ universal fullFanMode).1]
    · by_cases accepted :
          AcceptedFanRequest (fanSelect second) (argument.setWidth 8)
      · rw [(run_uwSetFan_accepted device _ _ universal fullFanMode
          accepted).1]
        simp [uwSetFanTables, directFanControl_writes, run_uwInitFan]
      · rw [(run_uwSetFan_rejected device _ _ universal fullFanMode
          accepted).1, run_uwInitFan]
  simp [EcDevice.fanSpeedTrace, uniwillIoctlFanSpeed, notStarted]

private theorem acceptedTrace_rangeChecked_iff
    (available : ¬ FullFanMode (device.fanMode machine.2))
    (accepted :
      AcceptedFanRequest (fanSelect second) (argument.setWidth 8)) :
    RangeChecked (fanSelect second) argument
        (device.trace (uwSetFan (fanSelect second) (argument.setWidth 8))
          machine) ↔
      argument.toNat ≤ nb02FanSpeedMax := by
  rw [(run_uwSetFan_accepted device _ _ universal available accepted).2]
  constructor
  · intro checked
    obtain ⟨outcome, written⟩ :=
      uwSetFanTables_writes device _ (fanSelect second)
        (argument.setWidth 8)
    by_contra notInRange
    refine
      checked.2 (Nat.lt_of_not_le notInRange) _ _ _
        (List.mem_cons_of_mem _ written) ?_
    cases second <;> decide
  · intro small
    refine ⟨?_, fun above => absurd small (Nat.not_le.mpr above)⟩
    intro address data outcome member selected
    rcases mem_trace_uwSetFanTables device _
        (List.mem_of_ne_of_mem (by simp) member) with
      setup | speed
    · rw [fanSetupWrite_selected setup selected]
      decide
    · rw [speed]
      exact normaliseFanSpeed_inRange accepted.2

private theorem rejectedTrace_rangeChecked_iff
    (available : ¬ FullFanMode (device.fanMode machine.2))
    (rejected :
      ¬ AcceptedFanRequest (fanSelect second) (argument.setWidth 8))
    (above : nb02FanSpeedMax < argument.toNat) :
    RangeChecked (fanSelect second) argument
        (device.trace (uwSetFan (fanSelect second) (argument.setWidth 8))
          machine) ↔
      machine.1.fan.fansInitialized = true := by
  rw [(run_uwSetFan_rejected device _ _ universal available rejected).2,
    trace_uwInitFan]
  cases initialized : machine.1.fan.fansInitialized with
  | false =>
      rw [if_pos ⟨rfl, universal⟩]
      obtain ⟨outcome, written⟩ := uwInitFanSetup_writes device _
      refine iff_of_false ?_ (by decide)
      intro checked
      refine
        checked.2 above _ _ _ (List.mem_cons_of_mem _ written) ?_
      decide
  | true =>
      rw [if_neg (by simp)]
      exact iff_of_true (by simp [RangeChecked]) rfl

private theorem universalRequest_rangeChecked_iff :
    (∀ rounds,
        RangeChecked (fanSelect second) argument
          (device.fanSpeedTrace second argument rounds machine)) ↔
      FullFanMode (device.fanMode machine.2) ∨
        argument.toNat ≤ nb02FanSpeedMax ∨
        (nb02FanSpeedMax < (argument.setWidth 8).toNat ∧
          machine.1.fan.fansInitialized = true) := by
  have lowByte : (argument.setWidth 8).toNat ≤ argument.toNat := by
    rw [BitVec.toNat_setWidth]
    exact Nat.mod_le _ _
  have selectsFan : (fanSelect second).toNat ≤ 1 := by
    cases second <;> decide
  simp only [universalTrace device universal second argument,
    forall_const]
  by_cases fullFanMode : FullFanMode (device.fanMode machine.2)
  · rw [(run_uwSetFan_ignored device _ _ universal fullFanMode).2]
    simp [RangeChecked, fullFanMode]
  · by_cases inRange : (argument.setWidth 8).toNat ≤ nb02FanSpeedMax
    · rw [acceptedTrace_rangeChecked_iff device universal second argument
        fullFanMode ⟨selectsFan, inRange⟩]
      simp only [fullFanMode, Nat.not_lt.mpr inRange, false_or, false_and,
        or_false]
    · have above := Nat.lt_of_not_le inRange
      have argumentAbove := Nat.lt_of_lt_of_le above lowByte
      rw [rejectedTrace_rangeChecked_iff device universal second argument
        fullFanMode (fun accepted => inRange accepted.2) argumentAbove]
      simp only [fullFanMode, above, Nat.not_le.mpr argumentAbove,
        false_or, true_and]

end Universal

end Requests

/-- The requests whose argument is range-checked.  On the path of the custom
tables the check sees the low byte only, after the set-up of the fans; on the
direct path there is no check, and only what needs none is in range. -/
def RangeCheckedRequest (statics : DriverState) (mode : U8)
    (argument : U32) : Prop :=
  if statics.hasUniversalEcFanControl = true then
    FullFanMode mode ∨ argument.toNat ≤ nb02FanSpeedMax ∨
      (nb02FanSpeedMax < (argument.setWidth 8).toNat ∧
        statics.fan.fansInitialized = true)
  else
    argument.toNat ≤ 1 ∨
      (50 ≤ argument.toNat ∧ argument.toNat ≤ nb02FanSpeedMax)

theorem fanSpeedRequest_rangeChecked_iff
    {σ : Type} (device : EcDevice σ) (second : Bool) (argument : U32)
    (machine : Machine σ) :
    (∀ rounds,
        RangeChecked (fanSelect second) argument
          (device.fanSpeedTrace second argument rounds machine)) ↔
      RangeCheckedRequest machine.1 (device.fanMode machine.2) argument := by
  cases universal : machine.1.hasUniversalEcFanControl with
  | false =>
      rw [RangeCheckedRequest, if_neg (by simp [universal])]
      exact directRequest_rangeChecked_iff device universal second argument
  | true =>
      rw [RangeCheckedRequest, if_pos universal]
      exact
        universalRequest_rangeChecked_iff device universal second argument

/-- A device without universal fan control after it started. -/
def directMachine : Machine Ram := ({}, fun _ => 0)

/-- Without universal fan control 255 reaches the speed register, although
it is above the maximum and neither a stop value nor a speed in range. -/
theorem fanSpeedRequest_255_notChecked :
    .write 0x1804 0xff .ok ∈
        reliableEc.fanSpeedTrace false 255 1 directMachine ∧
      ¬ ∀ rounds,
        RangeChecked (fanSelect false) 255
          (reliableEc.fanSpeedTrace false 255 rounds directMachine) := by
  have written :
      .write 0x1804 0xff .ok ∈
        reliableEc.fanSpeedTrace false 255 1 directMachine := by
    decide
  refine ⟨written, fun checked => ?_⟩
  exact (checked 1).2 (by decide) _ _ _ written (by decide)

end TuxedoDrivers.Uniwill
