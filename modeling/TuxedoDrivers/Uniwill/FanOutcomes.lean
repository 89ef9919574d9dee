import TuxedoDrivers.Uniwill.CountedEc
import TuxedoDrivers.Uniwill.FanControl

/-!
# Setting a fan speed on an EC with failures

`uw_set_fan` sets up the tables of a device with universal fan control once,
looks at no status of the set-up or of its own write, and does nothing while
full fan mode is on.  The main result says when its success means that the
fan has the speed.
-/

namespace TuxedoDrivers.Uniwill

open Interaction

/-! ## Registers of each part -/

theorem setFullFanMode_within (enable : Bool) :
    (setFullFanMode enable).Asks
      (AccessWithin fun register => register = 0x0751) := by
  refine Program.Asks.bind ⟨rfl, fun _ => trivial⟩ fun mode => ?_
  have write : ∀ data, ((uniwillWriteEcRam 0x0751 data) >>= fun written =>
      pure written.status).Asks
        (AccessWithin fun register => register = 0x0751) :=
    fun data => Program.Asks.bind ⟨rfl, fun _ => trivial⟩ fun _ => trivial
  refine Program.Asks.ite (fun _ => write _) fun _ => ?_
  exact Program.Asks.ite (fun _ => write _) fun _ => trivial

theorem uwEnableCustomFanTable_within (address : U16) (offset : Nat) :
    (uwEnableCustomFanTable address offset).Asks
      (AccessWithin fun register => register = address) := by
  refine Program.Asks.bind ⟨rfl, fun _ => trivial⟩ fun value => ?_
  refine Program.Asks.ite (fun _ => ?_) fun _ => trivial
  refine Program.Asks.bind ?_ fun _ => trivial
  apply uniwillWriteEcRamWithRetry_within
  rfl

/-- The registers of the dummy zones. -/
def DummyZone (register : U16) : Prop :=
  0x0f00 < register ∧ register ≤ 0x0f5f ∧
    register ≠ 0x0f20 ∧ register ≠ 0x0f50

instance (register : U16) : Decidable (DummyZone register) :=
  inferInstanceAs (Decidable (_ ∧ _ ∧ _ ∧ _))

theorem dummyZones_within :
    ((List.range' 1 15).forM uwInitFanZone).Asks
      (AccessWithin DummyZone) := by
  refine Program.Asks.forM fun i member => ?_
  have registers :
      ∀ i ∈ List.range' 1 15,
        DummyZone (0x0f00 + BitVec.ofNat 16 i) ∧
          DummyZone (0x0f10 + BitVec.ofNat 16 i) ∧
          DummyZone (0x0f20 + BitVec.ofNat 16 i) ∧
          DummyZone (0x0f30 + BitVec.ofNat 16 i) ∧
          DummyZone (0x0f40 + BitVec.ofNat 16 i) ∧
          DummyZone (0x0f50 + BitVec.ofNat 16 i) := by
    decide
  obtain ⟨cpuEnd, cpuStart, cpuSpeed, gpuEnd, gpuStart, gpuSpeed⟩ :=
    registers i member
  have write : ∀ {address : U16} {data : U8}, DummyZone address →
      (uniwillWriteEcRamWithRetry address data 3).Asks
        (AccessWithin DummyZone) :=
    fun inside => uniwillWriteEcRamWithRetry_within inside _ 3
  refine (write cpuEnd).bind fun _ => ?_
  refine (write cpuStart).bind fun _ => ?_
  refine (write cpuSpeed).bind fun _ => ?_
  refine (write gpuEnd).bind fun _ => ?_
  refine (write gpuStart).bind fun _ => ?_
  exact (write gpuSpeed).bind fun _ => trivial

/-! ## Registers after the set-up -/

section Setup

variable {outcomes : Outcomes}

/-- A bit of a switch register. -/
def bitSet (offset : Nat) (value : U8) : Prop :=
  (value >>> offset) &&& 1 ≠ 0

/-- Full fan mode is off, or it is seen and switched off. -/
def EndsOff (outcomes : Nat → AccessOutcome) (cell : Cell) : Prop :=
  cell.content &&& 0x40 = 0 ∨
    ((outcomes cell.accesses).shown cell.content &&& 0x40 ≠ 0 ∧
      (outcomes (cell.accesses + 1)).takesEffect = true)

theorem fullFanMode_off_iff (machine : Machine CountedRam) :
    (((countedEc outcomes).run (setFullFanMode false) machine).2.2
        0x0751).content &&& 0x40 = 0 ↔
      EndsOff (outcomes 0x0751) (machine.2 0x0751) := by
  let cell := machine.2 0x0751
  have cleared : ∀ value : U8, value &&& ~~~0x40 &&& 0x40 = 0 := by decide
  simp only [setFullFanMode, run_bind, run_uniwillReadEcRam,
    countedEc_read_data, Bool.false_eq_true, false_and, if_false]
  by_cases seen :
      (outcomes 0x0751 cell.accesses).shown cell.content &&& 0x40 ≠ 0
  · rw [if_pos seen]
    simp only [run_bind, run_uniwillWriteEcRam, countedEc_write_after,
      countedEc_read_after, Function.update_self, run_pure,
      Cell.afterWrite, Cell.afterRead]
    by_cases takesEffect :
        (outcomes 0x0751 (cell.accesses + 1)).takesEffect = true
    · rw [if_pos takesEffect]
      exact iff_of_true (cleared _) (Or.inr ⟨seen, takesEffect⟩)
    · rw [if_neg takesEffect]
      exact
        ⟨Or.inl, fun off => off.resolve_right fun write =>
          takesEffect write.2⟩
  · rw [if_neg seen]
    simp only [run_pure, countedEc_read_after, Function.update_self,
      Cell.afterRead]
    exact
      ⟨Or.inl, fun off => off.resolve_right fun write => seen write.1⟩

/-- A switch is on, or it is seen off and switched on. -/
def EndsOn (offset : Nat) (outcomes : Nat → AccessOutcome)
    (cell : Cell) : Prop :=
  bitSet offset cell.content ∨
    (¬ bitSet offset ((outcomes cell.accesses).shown cell.content) ∧
      AttemptTakesEffect outcomes 3 (cell.accesses + 1))

theorem customFanTable_on_iff {offset : Nat}
    (flips : ∀ value : U8, ¬ bitSet offset value →
      bitSet offset (value + (1 <<< offset)))
    (address : U16) (machine : Machine CountedRam) :
    bitSet offset
        (((countedEc outcomes).run (uwEnableCustomFanTable address offset)
          machine).2.2 address).content ↔
      EndsOn offset (outcomes address) (machine.2 address) := by
  let cell := machine.2 address
  simp only [uwEnableCustomFanTable, run_bind, run_uniwillReadEcRam,
    countedEc_read_data]
  by_cases seen :
      bitSet offset ((outcomes address cell.accesses).shown cell.content)
  · rw [if_neg seen]
    simp only [run_pure, countedEc_read_after, Function.update_self,
      Cell.afterRead]
    exact
      ⟨Or.inl, fun on => on.resolve_right fun write => write.1 seen⟩
  · rw [if_pos (not_not.mp seen)]
    simp only [run_bind, run_pure, cell_uniwillWriteEcRamWithRetry,
      countedEc_read_after, Function.update_self, attempted_content,
      Cell.afterRead]
    by_cases takesEffect :
        AttemptTakesEffect (outcomes address) 3 (cell.accesses + 1)
    · rw [if_pos takesEffect]
      exact iff_of_true (flips _ seen) (Or.inr ⟨seen, takesEffect⟩)
    · rw [if_neg takesEffect]
      exact
        ⟨Or.inl, fun on => on.resolve_right fun write =>
          takesEffect write.2⟩

theorem bitSet_flips :
    (∀ value : U8, ¬ bitSet 7 value → bitSet 7 (value + (1 <<< 7))) ∧
      ∀ value : U8, ¬ bitSet 2 value → bitSet 2 (value + (1 <<< 2)) := by
  unfold bitSet
  decide

/-- The register of the controllable zone for a fan. -/
def speedRegister (fanIndex : U32) : U16 :=
  if fanIndex = 0 then 0x0f20 else 0x0f50

theorem cell_other {address register : U16} (different : register ≠ address)
    (data : U8) (reached : Machine CountedRam) :
    ((countedEc outcomes).run (uniwillWriteEcRamWithRetry address data 3)
      reached).2.2 register = reached.2 register := by
  have avoids :
      (uniwillWriteEcRamWithRetry address data 3).Asks
        (AccessWithin fun written => written ≠ register) := by
    apply uniwillWriteEcRamWithRetry_within
    exact different.symm
  exact cell_of_within avoids reached (not_not_intro rfl)

theorem cell_uwInitFanTables {fanIndex : U32}
    (fan : fanIndex = 0 ∨ fanIndex = 1) (machine : Machine CountedRam) :
    ((countedEc outcomes).run uwInitFanTables machine).2.2
        (speedRegister fanIndex) =
      attempted (outcomes (speedRegister fanIndex)) 1 3
        (machine.2 (speedRegister fanIndex)) := by
  have zones : ∀ {register : U16}, ¬ DummyZone register →
      ∀ reached : Machine CountedRam,
        ((countedEc outcomes).run ((List.range' 1 15).forM uwInitFanZone)
          reached).2.2 register = reached.2 register :=
    fun outside reached => cell_of_within dummyZones_within reached outside
  rcases fan with rfl | rfl
  · change
      ((countedEc outcomes).run uwInitFanTables machine).2.2 0x0f20 = _
    simp only [uwInitFanTables, run_bind]
    rw [zones (by decide), cell_other (by decide), cell_other (by decide),
      cell_other (by decide), cell_uniwillWriteEcRamWithRetry,
      cell_other (by decide), cell_other (by decide)]
    rfl
  · change
      ((countedEc outcomes).run uwInitFanTables machine).2.2 0x0f50 = _
    simp only [uwInitFanTables, run_bind]
    rw [zones (by decide), cell_uniwillWriteEcRamWithRetry,
      cell_other (by decide), cell_other (by decide),
      cell_other (by decide), cell_other (by decide),
      cell_other (by decide)]
    rfl

/-- The tables are elsewhere than the switches. -/
theorem uwInitFanTables_within :
    uwInitFanTables.Asks
      (AccessWithin fun register =>
        0x0f00 ≤ register ∧ register ≤ 0x0f5f) := by
  have write : ∀ {address : U16} {data : U8},
      0x0f00 ≤ address ∧ address ≤ 0x0f5f →
        (uniwillWriteEcRamWithRetry address data 3).Asks
          (AccessWithin fun register =>
            0x0f00 ≤ register ∧ register ≤ 0x0f5f) :=
    fun inside => uniwillWriteEcRamWithRetry_within inside _ 3
  refine (write (by decide)).bind fun _ => ?_
  refine (write (by decide)).bind fun _ => ?_
  refine (write (by decide)).bind fun _ => ?_
  refine (write (by decide)).bind fun _ => ?_
  refine (write (by decide)).bind fun _ => ?_
  refine (write (by decide)).bind fun _ => ?_
  refine dummyZones_within.mono ?_
  intro request permitted
  cases request with
  | readEcRam register =>
      exact ⟨BitVec.le_of_lt permitted.1, permitted.2.1⟩
  | writeEcRam register data =>
      exact ⟨BitVec.le_of_lt permitted.1, permitted.2.1⟩
  | statics update => exact permitted

/-! ## The set-up -/

section SetupCells

variable (machine : Machine CountedRam)

/-- Full fan mode is switched first, and no later part is about it. -/
theorem fullFanMode_off_after_setup_iff :
    (((countedEc outcomes).run uwInitFanSetup machine).2.2
        0x0751).content &&& 0x40 = 0 ↔
      EndsOff (outcomes 0x0751) (machine.2 0x0751) := by
  simp only [uwInitFanSetup, run_bind]
  rw [cell_of_within (uwEnableCustomFanTable_within 0x07c6 2) _ (by decide),
    cell_of_within uwInitFanTables_within _ (by decide),
    cell_of_within (uwEnableCustomFanTable_within 0x07c5 7) _ (by decide)]
  exact fullFanMode_off_iff machine

theorem cpuSwitch_on_after_setup_iff :
    bitSet 7
        (((countedEc outcomes).run uwInitFanSetup machine).2.2
          0x07c5).content ↔
      EndsOn 7 (outcomes 0x07c5) (machine.2 0x07c5) := by
  simp only [uwInitFanSetup, run_bind]
  rw [cell_of_within (uwEnableCustomFanTable_within 0x07c6 2) _ (by decide),
    cell_of_within uwInitFanTables_within _ (by decide),
    customFanTable_on_iff bitSet_flips.1,
    cell_of_within (setFullFanMode_within false) _ (by decide)]

theorem gpuSwitch_on_after_setup_iff :
    bitSet 2
        (((countedEc outcomes).run uwInitFanSetup machine).2.2
          0x07c6).content ↔
      EndsOn 2 (outcomes 0x07c6) (machine.2 0x07c6) := by
  simp only [uwInitFanSetup, run_bind]
  rw [customFanTable_on_iff bitSet_flips.2,
    cell_of_within uwInitFanTables_within _ (by decide),
    cell_of_within (uwEnableCustomFanTable_within 0x07c5 7) _ (by decide),
    cell_of_within (setFullFanMode_within false) _ (by decide)]

theorem speed_after_setup {fanIndex : U32}
    (fan : fanIndex = 0 ∨ fanIndex = 1) :
    ((countedEc outcomes).run uwInitFanSetup machine).2.2
        (speedRegister fanIndex) =
      attempted (outcomes (speedRegister fanIndex)) 1 3
        (machine.2 (speedRegister fanIndex)) := by
  have elsewhere : speedRegister fanIndex ≠ 0x0751 ∧
      speedRegister fanIndex ≠ 0x07c5 ∧
      speedRegister fanIndex ≠ 0x07c6 := by
    rcases fan with rfl | rfl <;> decide
  simp only [uwInitFanSetup, run_bind]
  rw [cell_of_within (uwEnableCustomFanTable_within 0x07c6 2) _
      elsewhere.2.2,
    cell_uwInitFanTables fan,
    cell_of_within (uwEnableCustomFanTable_within 0x07c5 7) _
      elsewhere.2.1,
    cell_of_within (setFullFanMode_within false) _ elsewhere.1]

end SetupCells

/-! ## One request -/

/-- The speed the fan is meant to get. -/
def appliedSpeed (fanSpeed : U8) : U8 :=
  if fanSpeed < 25 then 1 else if fanSpeed < 50 then 50 else fanSpeed

theorem normaliseFanSpeed_eq_appliedSpeed (fanSpeed : U8) :
    normaliseFanSpeed fanSpeed = appliedSpeed fanSpeed := by
  revert fanSpeed
  decide

/-- The fan has the speed: the custom tables are on, full fan mode is off,
and the controllable zone has the speed. -/
def SpeedApplied (fanIndex : U32) (fanSpeed : U8) (ram : Ram) : Prop :=
  bitSet 7 (ram 0x07c5) ∧ bitSet 2 (ram 0x07c6) ∧
    ram 0x0751 &&& 0x40 = 0 ∧
    ram (speedRegister fanIndex) = appliedSpeed fanSpeed

/-- The contents without the numbers of accesses. -/
def contents (ram : CountedRam) : Ram :=
  fun address => (ram address).content

/-- The speed reaches the register with the last write. -/
def EndsWith (data : U8) (outcomes : Nat → AccessOutcome)
    (cell : Cell) : Prop :=
  cell.content = data ∨ (outcomes cell.accesses).takesEffect = true

theorem content_afterWrite_eq_iff {data : U8}
    {outcomes : Nat → AccessOutcome} (cell : Cell) :
    (cell.afterWrite (outcomes cell.accesses) data).content = data ↔
      EndsWith data outcomes cell := by
  simp only [Cell.afterWrite, EndsWith]
  by_cases takesEffect : (outcomes cell.accesses).takesEffect = true
  · rw [if_pos takesEffect]
    exact iff_of_true rfl (Or.inr takesEffect)
  · rw [if_neg takesEffect]
    exact (or_iff_left takesEffect).symm

section Request

variable {fanIndex : U32} {fanSpeed : U8}

/-- The speed is also written directly, to a register above the tables. -/
theorem run_directFanControl_once (outcomes : Outcomes) (fanSpeed : U8)
    (fan : fanIndex = 0 ∨ fanIndex = 1) (machine : Machine CountedRam) :
    ∃ direct : U16, 0x1800 ≤ direct ∧
      ((countedEc outcomes).run (directFanControl fanIndex fanSpeed false)
          machine).2.2 =
        Function.update machine.2 direct
          ((machine.2 direct).afterWrite
            (outcomes direct (machine.2 direct).accesses) fanSpeed) := by
  have second : ¬ (1 : U32) = 0 := by
    decide
  rcases fan with rfl | rfl
  · refine ⟨0x1804, by decide, ?_⟩
    simp only [directFanControl, directFanControlApply, if_true, run_bind,
      run_setStatics, run_getStatics, Bool.false_eq_true, false_and,
      if_false, run_uniwillWriteEcRam, run_pure, countedEc_write_after]
  · refine ⟨0x1809, by decide, ?_⟩
    simp only [directFanControl, directFanControlApply, if_neg second,
      if_true, run_bind, run_setStatics, run_getStatics,
      Bool.false_eq_true, false_and, if_false, run_uniwillWriteEcRam,
      run_pure, countedEc_write_after]

/-- The speed register gets the speed with one write, and the switches stay
as the set-up left them. -/
theorem run_uwSetFanTable (outcomes : Outcomes)
    (fan : fanIndex = 0 ∨ fanIndex = 1)
    (small : fanSpeed.toNat ≤ nb02FanSpeedMax)
    (machine : Machine CountedRam) :
    let cell := machine.2 (speedRegister fanIndex)
    let after := (countedEc outcomes).run
      (uwSetFanTable fanIndex (speedRegister fanIndex) fanSpeed) machine
    after.1 = 0 ∧
      after.2.2 (speedRegister fanIndex) =
        cell.afterWrite
          (outcomes (speedRegister fanIndex) cell.accesses)
          (appliedSpeed fanSpeed) ∧
      ∀ register, register ≠ speedRegister fanIndex → register < 0x1800 →
        after.2.2 register = machine.2 register := by
  intro cell after
  have notLarge : ¬ fanSpeed.toNat > nb02FanSpeedMax := by
    omega
  have below : ∀ {register direct : U16}, register < 0x1800 →
      0x1800 ≤ direct → register ≠ direct := by
    rintro register direct low high rfl
    exact absurd low (BitVec.not_lt.mpr high)
  have lowSpeed : speedRegister fanIndex < 0x1800 := by
    rcases fan with rfl | rfl <;> decide
  obtain ⟨direct, high, directly⟩ :=
    run_directFanControl_once outcomes (appliedSpeed fanSpeed) fan
      ((countedEc outcomes).run
        (uniwillWriteEcRam (speedRegister fanIndex)
          (appliedSpeed fanSpeed)) machine).2
  simp only [after, uwSetFanTable, if_neg notLarge, run_bind, run_pure,
    normaliseFanSpeed_eq_appliedSpeed, directly, true_and]
  simp only [run_uniwillWriteEcRam, countedEc_write_after]
  constructor
  · rw [Function.update_of_ne (below lowSpeed high)]
    exact Function.update_self _ _ _
  · intro register different low
    rw [Function.update_of_ne (below low high)]
    exact Function.update_of_ne different _ _

/-- The set-up has still to be made. -/
def NeedsSetup (statics : DriverState) : Prop :=
  statics.fan.fansInitialized = false

instance (statics : DriverState) : Decidable (NeedsSetup statics) :=
  inferInstanceAs (Decidable (_ = _))

/-- RAM after `uw_init_fan`. -/
def afterInitFan (outcomes : Outcomes)
    (machine : Machine CountedRam) : CountedRam :=
  if NeedsSetup machine.1 then
    ((countedEc outcomes).run uwInitFanSetup machine).2.2
  else machine.2

/-- The RAM once the mode register has been read. -/
def modeRead (ram : CountedRam) : CountedRam :=
  Function.update ram 0x0751 (ram 0x0751).afterRead

theorem modeRead_fresh (ram : Ram) (register : U16) :
    modeRead (freshRam ram) register =
      ⟨ram register, if register = 0x0751 then 1 else 0⟩ := by
  simp only [modeRead, Function.update_apply]
  split
  case isTrue mode =>
    rw [mode]
    rfl
  case isFalse other =>
    rfl

def FullFanModeSeen (outcomes : Outcomes) (ram : Ram) : Prop :=
  (outcomes 0x0751 0).shown (ram 0x0751) &&& 0x40 ≠ 0

section FreshDevice

variable {statics : DriverState} {ram : Ram}

theorem uwSetFan_of_seen
    (universal : statics.uniwillDeviceFeatures.uniwillHasUniversalEcFanControl
      = true)
    (seen : FullFanModeSeen outcomes ram) :
    (countedEc outcomes).run (uwSetFan fanIndex fanSpeed)
        (statics, freshRam ram) =
      (0, statics, modeRead (freshRam ram)) := by
  have seenNow :
      (outcomes 0x0751 (freshRam ram 0x0751).accesses).shown
        (freshRam ram 0x0751).content &&& 0x40 ≠ 0 :=
    seen
  simp only [uwSetFan, run_bind, run_getStatics, universal, if_true,
    run_uniwillReadEcRam, countedEc_read_data, if_neg seenNow, run_pure,
    countedEc_read_after, modeRead]

theorem uwSetFan_of_not_seen (fan : fanIndex = 0 ∨ fanIndex = 1)
    (universal : statics.uniwillDeviceFeatures.uniwillHasUniversalEcFanControl
      = true)
    (unseen : ¬ FullFanModeSeen outcomes ram) :
    (countedEc outcomes).run (uwSetFan fanIndex fanSpeed)
        (statics, freshRam ram) =
      (countedEc outcomes).run
        (uwSetFanTable fanIndex (speedRegister fanIndex) fanSpeed)
        ({ statics with fan.fansInitialized := true },
          afterInitFan outcomes (statics, modeRead (freshRam ram))) := by
  have unseenNow :
      (outcomes 0x0751 (freshRam ram 0x0751).accesses).shown
        (freshRam ram 0x0751).content &&& 0x40 = 0 :=
    not_not.mp unseen
  have second : ¬ (1 : U32) = 0 := by
    decide
  simp only [uwSetFan, run_bind, run_getStatics, universal, if_true,
    run_uniwillReadEcRam, countedEc_read_data, if_pos unseenNow,
    countedEc_read_after, run_uwInitFan, and_true]
  rcases fan with rfl | rfl
  · simp only [if_true]
    rfl
  · simp only [if_neg second, if_true]
    rfl

/-- The writes the request relies on take effect, where they are needed. -/
def RequestReaches (outcomes : Outcomes) (fanIndex : U32) (fanSpeed : U8)
    (statics : DriverState) (ram : Ram) : Prop :=
  let register := speedRegister fanIndex
  let cell : Cell := ⟨ram register, 0⟩
  if NeedsSetup statics then
    EndsOn 7 (outcomes 0x07c5) ⟨ram 0x07c5, 0⟩ ∧
      EndsOn 2 (outcomes 0x07c6) ⟨ram 0x07c6, 0⟩ ∧
      EndsOff (outcomes 0x0751) ⟨ram 0x0751, 1⟩ ∧
      EndsWith (appliedSpeed fanSpeed) (outcomes register)
        (attempted (outcomes register) 1 3 cell)
  else
    bitSet 7 (ram 0x07c5) ∧ bitSet 2 (ram 0x07c6) ∧
      ram 0x0751 &&& 0x40 = 0 ∧
      EndsWith (appliedSpeed fanSpeed) (outcomes register) cell

theorem cell_afterInitFan (fan : fanIndex = 0 ∨ fanIndex = 1)
    {after : CountedRam}
    (initialised :
      afterInitFan outcomes (statics, modeRead (freshRam ram)) = after) :
    (bitSet 7 (after 0x07c5).content ∧ bitSet 2 (after 0x07c6).content ∧
      (after 0x0751).content &&& 0x40 = 0 ∧
      EndsWith (appliedSpeed fanSpeed)
        (outcomes (speedRegister fanIndex))
        (after (speedRegister fanIndex))) ↔
    RequestReaches outcomes fanIndex fanSpeed statics ram := by
  subst initialised
  have elsewhere : speedRegister fanIndex ≠ 0x0751 := by
    rcases fan with rfl | rfl <;> decide
  have others : (0x07c5 : U16) ≠ 0x0751 ∧ (0x07c6 : U16) ≠ 0x0751 := by
    decide
  simp only [afterInitFan, RequestReaches]
  by_cases needed : NeedsSetup statics
  · rw [if_pos needed, if_pos needed, speed_after_setup _ fan,
      cpuSwitch_on_after_setup_iff, gpuSwitch_on_after_setup_iff,
      fullFanMode_off_after_setup_iff]
    simp only [modeRead_fresh, if_true, if_neg elsewhere, if_neg others.1,
      if_neg others.2]
  · rw [if_neg needed, if_neg needed]
    simp only [modeRead_fresh, if_neg elsewhere]

/-! ## Success means applied -/

def SuccessMeansApplied (outcomes : Outcomes) (fanIndex : U32)
    (fanSpeed : U8) (statics : DriverState) (ram : Ram) : Prop :=
  let after := (countedEc outcomes).run (uwSetFan fanIndex fanSpeed)
    (statics, freshRam ram)
  after.1 = 0 → SpeedApplied fanIndex fanSpeed (contents after.2.2)

theorem successMeansApplied_of_seen
    (universal : statics.uniwillDeviceFeatures.uniwillHasUniversalEcFanControl
      = true)
    (seen : FullFanModeSeen outcomes ram) :
    SuccessMeansApplied outcomes fanIndex fanSpeed statics ram ↔
      SpeedApplied fanIndex fanSpeed ram := by
  have unchanged : contents (modeRead (freshRam ram)) = ram := by
    funext register
    rw [contents, modeRead_fresh]
  simp only [SuccessMeansApplied, uwSetFan_of_seen universal seen,
    true_implies, unchanged]

theorem successMeansApplied_of_not_seen
    (fan : fanIndex = 0 ∨ fanIndex = 1)
    (universal : statics.uniwillDeviceFeatures.uniwillHasUniversalEcFanControl
      = true)
    (unseen : ¬ FullFanModeSeen outcomes ram) :
    SuccessMeansApplied outcomes fanIndex fanSpeed statics ram ↔
      (fanSpeed.toNat ≤ nb02FanSpeedMax →
        RequestReaches outcomes fanIndex fanSpeed statics ram) := by
  simp only [SuccessMeansApplied,
    uwSetFan_of_not_seen fan universal unseen]
  generalize initialised :
    afterInitFan outcomes (statics, modeRead (freshRam ram)) = after
  by_cases small : fanSpeed.toNat ≤ nb02FanSpeedMax
  · obtain ⟨succeeds, speed, kept⟩ :=
      run_uwSetFanTable outcomes fan small
        ({ statics with fan.fansInitialized := true }, after)
    have elsewhere : 0x07c5 ≠ speedRegister fanIndex ∧
        0x07c6 ≠ speedRegister fanIndex ∧
        0x0751 ≠ speedRegister fanIndex := by
      rcases fan with rfl | rfl <;> decide
    rw [← cell_afterInitFan fan initialised]
    simp only [succeeds, true_implies, small, SpeedApplied, contents, speed,
      content_afterWrite_eq_iff]
    rw [kept _ elsewhere.1 (by decide), kept _ elsewhere.2.1 (by decide),
      kept _ elsewhere.2.2 (by decide)]
  · have fails : BitVec.ofInt 32 (-einval) ≠ 0 := by
      decide
    simp only [uwSetFanTable, if_pos (Nat.lt_of_not_le small), run_pure,
      fails, false_implies, small]

/-- The success of a request means that its speed is applied exactly if the
fan has the speed already where full fan mode is seen, and if the writes the
request relies on take effect where it is not. -/
theorem successMeansApplied_iff
    (fan : fanIndex = 0 ∨ fanIndex = 1)
    (universal : statics.uniwillDeviceFeatures.uniwillHasUniversalEcFanControl
      = true) :
    SuccessMeansApplied outcomes fanIndex fanSpeed statics ram ↔
      (FullFanModeSeen outcomes ram → SpeedApplied fanIndex fanSpeed ram) ∧
      (¬ FullFanModeSeen outcomes ram →
        fanSpeed.toNat ≤ nb02FanSpeedMax →
        RequestReaches outcomes fanIndex fanSpeed statics ram) := by
  by_cases seen : FullFanModeSeen outcomes ram
  · rw [successMeansApplied_of_seen universal seen]
    simp only [seen, true_implies, not_true_eq_false, false_implies,
      and_true]
  · rw [successMeansApplied_of_not_seen fan universal seen]
    simp only [seen, false_implies, not_false_eq_true, true_implies,
      true_and]

end FreshDevice

end Request

end Setup

/-- On a device whose accesses succeed the condition is met. -/
theorem successMeansApplied_reliable :
    SuccessMeansApplied (fun _ _ => ⟨true, true, 0⟩) 0 100
      { uniwillDeviceFeatures :=
          { uniwillHasUniversalEcFanControl := true } }
      (fun _ => 0) := by
  refine (successMeansApplied_iff (Or.inl rfl) rfl).mpr ⟨?_, ?_⟩
  · intro seen
    exact absurd rfl seen
  · intro _ _
    unfold RequestReaches EndsOn EndsOff EndsWith bitSet
    decide

/-- Where every access fails, the request succeeds nevertheless. -/
theorem uwSetFan_succeeds_in_vain :
    ¬ SuccessMeansApplied (fun _ _ => ⟨false, false, 0⟩) 0 100
      { uniwillDeviceFeatures :=
          { uniwillHasUniversalEcFanControl := true } }
      (fun _ => 0) := by
  have unseen :
      ¬ FullFanModeSeen (fun _ _ => ⟨false, false, 0⟩) (fun _ => 0) :=
    not_not_intro rfl
  rw [successMeansApplied_of_not_seen (Or.inl rfl) rfl unseen]
  unfold RequestReaches EndsOn EndsOff EndsWith bitSet
  decide

end TuxedoDrivers.Uniwill
